import SellerDirectory.Catalog.Listing
import SellerDirectory.Failure
import SellerDirectory.Store.Quantity
import SellerDirectory.Store.Table

-- Rows of the two tables, with columns as they are stored: instants and statuses as text. Another
-- writer may have stored what stands for no instant, status or number, so reading a row back can
-- fail; the failure names the column by its place among the columns that are read.

namespace SellerDirectory.Store

structure SellerRow where
  key : Key
  status : String
  kind : String
  url : String
  country : String
  city : String
  validFrom : Option String
  validUntil : Option String
  -- Any number but zero reads as active; only the number one is found as active.
  active : Quantity
  entry : String
  lastSeen : String
  createdAt : String
  updatedAt : String
  deriving DecidableEq

structure StateRow where
  key : Key
  status : String
  lastPull : Option String
  lastSuccess : Option String
  lastError : Option String
  version : Quantity
  updatedAt : String
  deriving DecidableEq

instance : Keyed SellerRow := ⟨SellerRow.key⟩

instance : Keyed StateRow := ⟨StateRow.key⟩

def readTime (column : Nat) (text : String) : Except Failure Time.Instant :=
  match Time.Strict.read text.toList with
  | .ok instant => .ok instant
  | .error error => .error (.unreadable column (.time error))

def readTime? (column : Nat) : Option String → Except Failure (Option Time.Instant)
  | none => .ok none
  | some text => (readTime column text).map some

def readStatus (column : Nat) (text : String) : Except Failure Catalog.Status :=
  match Catalog.Status.ofText text with
  | .ok status => .ok status
  | .error name => .error (.unreadable column (.status name))

namespace SellerRow

def ofSeller (seller : Seller) : SellerRow where
  key := seller.key
  status := seller.status
  kind := seller.kind
  url := seller.url
  country := seller.country
  city := seller.city
  validFrom := seller.validFrom.map Time.Instant.columnText
  validUntil := seller.validUntil.map Time.Instant.columnText
  active := .whole (if seller.active then 1 else 0)
  entry := seller.entry
  lastSeen := seller.lastSeen.columnText
  createdAt := seller.createdAt.columnText
  updatedAt := seller.updatedAt.columnText

-- The seller that the row stands for; columns are read from left to right.
def toSeller (row : SellerRow) : Except Failure Seller := do
  let validFrom ← readTime? 8 row.validFrom
  let validUntil ← readTime? 9 row.validUntil
  let active ← row.active.read 10 "active"
  let lastSeen ← readTime 12 row.lastSeen
  let createdAt ← readTime 13 row.createdAt
  let updatedAt ← readTime 14 row.updatedAt
  return {
    sellerId := row.key.sellerId
    domain := row.key.scope.domain
    environment := row.key.scope.environment
    status := row.status
    kind := row.kind
    url := row.url
    country := row.country
    city := row.city
    validFrom
    validUntil
    active := active ≠ 0
    entry := row.entry
    lastSeen
    createdAt
    updatedAt
  }

-- The row of a seller that is inserted again: new but for the time at which it was first stored.
def refreshed (stored row : SellerRow) : SellerRow :=
  { row with createdAt := stored.createdAt }

def rewritten (seller : Seller) (stored : SellerRow) : SellerRow :=
  { stored with
    status := seller.status
    kind := seller.kind
    url := seller.url
    country := seller.country
    city := seller.city
    validFrom := seller.validFrom.map Time.Instant.columnText
    validUntil := seller.validUntil.map Time.Instant.columnText
    active := .whole (if seller.active then 1 else 0)
    entry := seller.entry
    lastSeen := seller.lastSeen.columnText
    updatedAt := seller.updatedAt.columnText }

def isActiveIn (scope : Scope) (row : SellerRow) : Bool :=
  row.key.scope = scope && row.active = .whole 1

end SellerRow

namespace StateRow

def ofState (state : Catalog.State) : StateRow where
  key := state.key
  status := state.status.name
  lastPull := state.lastPull.map Time.Instant.columnText
  lastSuccess := state.lastSuccess.map Time.Instant.columnText
  lastError := state.lastError
  version := .whole state.version
  updatedAt := state.updatedAt.columnText

def toState (row : StateRow) : Except Failure Catalog.State := do
  let status ← readStatus 3 row.status
  let lastPull ← readTime? 4 row.lastPull
  let lastSuccess ← readTime? 5 row.lastSuccess
  let version ← row.version.read 7 "sync_version"
  let updatedAt ← readTime 8 row.updatedAt
  return {
    sellerId := row.key.sellerId
    domain := row.key.scope.domain
    environment := row.key.scope.environment
    status
    lastPull
    lastSuccess
    lastError := row.lastError
    version
    updatedAt
  }

def toEntry (sellerId : String) : Option StateRow → Except Failure Catalog.Entry
  | none => .ok ⟨sellerId, .notSynced, none, none, none⟩
  | some row => do
    let status ← readStatus 1 row.status
    let lastPull ← readTime? 2 row.lastPull
    let lastSuccess ← readTime? 3 row.lastSuccess
    return ⟨sellerId, status, lastPull, lastSuccess, row.lastError⟩

end StateRow

end SellerDirectory.Store
