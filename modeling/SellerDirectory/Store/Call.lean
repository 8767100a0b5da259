import SellerDirectory.Store.Queries

-- The operations of the store that a run may use, as values, and programs over them: what is done
-- next may depend on every answer so far. What answers the calls of a program is left open, so the
-- same program can run alone, among failing calls, or with the calls of others between its own.

namespace SellerDirectory.Store

inductive Call where
  | active (scope : Scope)
  | insert (sellers : List Seller)
  | update (sellers : List Seller)
  | addState (state : Catalog.State)
  | deactivate (ids : List String) (scope : Scope) (now : Time.Instant)
  deriving DecidableEq

abbrev Call.Reply : Call → Type
  | .active _ => List Seller
  | .insert _ => Nat
  | .update _ => Nat
  | .addState _ => Bool
  | .deactivate .. => Nat

-- The reply to a call and the store after it. A failing call leaves the store as it was.
def answer (store : Store) : (call : Call) → Except Failure call.Reply × Store
  | .active scope => (store.activeSellers scope, store)
  | .insert sellers => (.ok sellers.length, store.insert sellers)
  | .update sellers =>
    match store.update sellers with
    | .ok updated => (.ok sellers.length, updated)
    | .error failure => (.error failure, store)
  | .addState state =>
    match store.addState state with
    | .ok (added, updated) => (.ok added, updated)
    | .error failure => (.error failure, store)
  | .deactivate ids scope now =>
    let (count, updated) := store.deactivate ids scope now
    (.ok count, updated)

-- A sequence of calls with a result, where each step may use the replies before it.
inductive Program (α : Type) where
  | done (result : α)
  | call (call : Call) (next : Except Failure call.Reply → Program α)

namespace Program

def bind {α β : Type} : Program α → (α → Program β) → Program β
  | .done a, next => next a
  | .call c rest, next => .call c fun reply => (rest reply).bind next

instance : Monad Program where
  pure := .done
  bind := .bind

def perform (call : Call) : Program (Except Failure call.Reply) :=
  .call call .done

-- The result of a program whose calls are answered one after the other, each in the state that the
-- one before left.
def run {σ α : Type} (answer : σ → (call : Call) → Except Failure call.Reply × σ) :
    Program α → σ → α × σ
  | .done a, state => (a, state)
  | .call c next, state =>
    let (reply, after) := answer state c
    (next reply).run answer after

end Program

-- Which calls of a program fail: told by their place, counted from zero, and by what they ask.
abbrev Faults := Nat → Call → Option Failure

def noFaults : Faults := fun _ _ => none

def answerWith {σ : Type} (answer : σ → (call : Call) → Except Failure call.Reply × σ)
    (faults : Faults) (state : Nat × σ) (call : Call) : Except Failure call.Reply × (Nat × σ) :=
  match faults state.1 call with
  | some failure => (.error failure, (state.1 + 1, state.2))
  | none =>
    let (reply, after) := answer state.2 call
    (reply, (state.1 + 1, after))

end SellerDirectory.Store
