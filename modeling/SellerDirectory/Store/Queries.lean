import SellerDirectory.Store.Basic

-- Questions to the store. A question fails where a row that it has to read does not read back.

namespace SellerDirectory.Store

def seller? (store : Store) (key : Key) : Except Failure (Option Seller) :=
  match store.sellerRow? key with
  | none => .ok none
  | some row => row.toSeller.map some

def state? (store : Store) (key : Key) : Except Failure (Option Catalog.State) :=
  match store.stateRow? key with
  | none => .ok none
  | some row => row.toState.map some

def activeSellers (store : Store) (scope : Scope) : Except Failure (List Seller) :=
  (store.sellers.filter (·.isActiveIn scope)).mapM SellerRow.toSeller

def allSellers (store : Store) : Except Failure (List Seller) :=
  (Table.inKeyOrder store.sellers).mapM SellerRow.toSeller

def allStates (store : Store) : Except Failure (List Catalog.State) :=
  (Table.inKeyOrder store.states).mapM StateRow.toState

def stateCount (store : Store) (scope : Scope) : Nat :=
  store.states.countP fun row => row.key.scope = scope

def sellerCounts (store : Store) : Nat × Nat :=
  (store.sellers.length, store.sellers.countP fun row => row.active = .whole 1)

def progress? (store : Store) (key : Key) : Except Failure (Option Catalog.Progress) := do
  match ← store.seller? key with
  | none => return none
  | some seller =>
    match ← store.state? key with
    | some state => return some (.ofState seller state)
    | none => return some (.unstarted seller)

def storedTimes (store : Store) (key : Key) : Except Failure (List (Option String)) :=
  match store.sellerRow? key with
  | none => .error .noRows
  | some row =>
    .ok [row.validFrom, row.validUntil, some row.lastSeen, some row.createdAt,
      some row.updatedAt]

end SellerDirectory.Store
