import SellerDirectory.Store.Row

-- The store of sellers and of the states of their catalogs, and what writes to it. Sellers are
-- inserted, refreshed and deactivated in batches and never removed; the state of a seller is
-- written once.

namespace SellerDirectory

structure Store where
  sellers : List Store.SellerRow
  states : List Store.StateRow
  deriving DecidableEq

namespace Store

def empty : Store := ⟨[], []⟩

structure Valid (store : Store) : Prop where
  distinct_sellers : Table.Distinct store.sellers
  distinct_states : Table.Distinct store.states
  seller_of_state : ∀ row ∈ store.states, Table.contains row.key store.sellers

def sellerRow? (store : Store) (key : Key) : Option SellerRow :=
  Table.find? key store.sellers

def stateRow? (store : Store) (key : Key) : Option StateRow :=
  Table.find? key store.states

def putSeller (rows : List SellerRow) (seller : Seller) : List SellerRow :=
  Table.put SellerRow.refreshed (.ofSeller seller) rows

-- Stores sellers one after the other. One that is stored already, active or not, is refreshed.
def insert (store : Store) (sellers : List Seller) : Store :=
  { store with sellers := sellers.foldl putSeller store.sellers }

def refreshSeller (rows : List SellerRow) (seller : Seller) :
    Except Failure (List SellerRow) :=
  match Table.alter? seller.key (SellerRow.rewritten seller) rows with
  | some rewritten => .ok rewritten
  | none => .error (.noSuchRow seller.key)

-- Refreshes sellers one after the other; all of them must be stored already.
def update (store : Store) (sellers : List Seller) : Except Failure Store := do
  return { store with sellers := ← sellers.foldlM refreshSeller store.sellers }

def chunkSize : Nat := 500

def chunks (ids : List String) : List (List String) :=
  match ids with
  | [] => []
  | first :: rest => (first :: rest).take chunkSize :: chunks ((first :: rest).drop chunkSize)
termination_by ids.length
decreasing_by simp only [chunkSize, List.length_drop, List.length_cons]; omega

def isAmong (scope : Scope) (ids : List String) (row : SellerRow) : Bool :=
  row.isActiveIn scope && ids.contains row.key.sellerId

def retire (now : Time.Instant) (row : SellerRow) : SellerRow :=
  { row with active := .whole 0, updatedAt := now.columnText }

-- One statement: the number of rows that it changes and the rows after it.
def retireAmong (scope : Scope) (now : Time.Instant) (changed : Nat × List SellerRow)
    (ids : List String) : Nat × List SellerRow :=
  (changed.1 + changed.2.countP (isAmong scope ids),
    changed.2.map fun row => if isAmong scope ids row then retire now row else row)

def deactivate (store : Store) (ids : List String) (scope : Scope) (now : Time.Instant) :
    Nat × Store :=
  let (count, sellers) := (chunks ids).foldl (retireAmong scope now) (0, store.sellers)
  (count, { store with sellers })

-- Stores the state of a seller that has none, and tells whether it had none. There is no state
-- without a seller.
def addState (store : Store) (state : Catalog.State) : Except Failure (Bool × Store) :=
  if Table.contains state.key store.states then .ok (false, store)
  else if Table.contains state.key store.sellers then
    .ok (true, { store with states := store.states ++ [.ofState state] })
  else .error .orphanState

end Store

end SellerDirectory
