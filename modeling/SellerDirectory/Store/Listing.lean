import SellerDirectory.Store.Basic

-- The listing of sellers that wait for a catalog pull: the active sellers of a scope whose state is
-- one of those asked for, by ascending ids, whole or in pages.

namespace SellerDirectory.Store

def effectiveFilter (filter : List Catalog.Status) : List Catalog.Status :=
  if filter.isEmpty then Catalog.Status.pending else filter

-- Statuses are compared as they are stored. A seller without a state is found as never pulled.
def isWanted (filter : List Catalog.Status) (state : Option StateRow) : Bool :=
  filter.any fun status =>
    match state with
    | some row => row.status = status.name
    | none => status = .notSynced

def waiting (store : Store) (scope : Scope) (filter : List Catalog.Status) :
    List (String × Option StateRow) :=
  let ids := (store.sellers.filter (·.isActiveIn scope)).map (·.key.sellerId)
  let ascending := ids.mergeSort fun a b => decide (a ≤ b)
  (ascending.map fun id => (id, store.stateRow? ⟨id, scope⟩)).filter fun (_, state) =>
    isWanted filter state

-- A size of 64 bits as the signed number of the same bits.
def signedSize (size : Nat) : Int :=
  if size < Nat.pow 2 63 then size else size - Nat.pow 2 64

-- The rows from an offset on, up to a limit. A negative limit is none, and a negative offset is
-- zero.
def slice {α : Type} (limit offset : Int) (rows : List α) : List α :=
  let rest := rows.drop offset.toNat
  if limit < 0 then rest else rest.take limit.toNat

-- How deep the question for one status is nested. That for sellers never pulled has a second test,
-- for those without a state.
def testDepth : Catalog.Status → Nat
  | .notSynced => 4
  | _ => 3

-- The tests of a filter are chained from the left, so each of them lies one deeper than the next.
def chainDepth : List Catalog.Status → Nat
  | [] => 0
  | first :: rest =>
    rest.foldl (fun depth status => max depth (testDepth status) + 1) (testDepth first)

-- The chain stands beside the conditions for a scope, and these two beside those that join a seller
-- with its state; either conditions are five deep.
def questionDepth (filter : List Catalog.Status) : Nat :=
  max (max 5 (chainDepth filter) + 1) 5 + 1

def maxDepth : Nat := 1000

-- A part of the listing, with one more line than the limit, from which the caller can tell whether
-- it goes on.
def pendingEntries (store : Store) (scope : Scope) (filter : List Catalog.Status)
    (limit offset : Nat) : Except Failure (List Catalog.Entry) :=
  let wanted := effectiveFilter filter
  if maxDepth < questionDepth wanted then .error (.tooDeep maxDepth)
  else
    (slice (signedSize limit + 1) (signedSize offset) (store.waiting scope wanted)).mapM
      fun (id, state) => StateRow.toEntry id state

def pendingPage (store : Store) (scope : Scope) (filter : List Catalog.Status)
    (limit page : Nat) : Except Failure Catalog.Page := do
  let number := max page 1
  let entries ← store.pendingEntries scope filter limit ((number - 1) * limit)
  return {
    domain := scope.domain
    environment := scope.environment
    filter := effectiveFilter filter
    entries := entries.take limit
    info := ⟨limit, number, limit < entries.length⟩
  }

end SellerDirectory.Store
