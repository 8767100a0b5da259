import Mathlib.Data.List.Induction
import SellerDirectory.Proofs.Store.Permanence

-- When a seller gets its state. What an upsert of a state comes to is told by the calls before it:
-- whether they have brought the seller, and whether one of them was an upsert for the same seller
-- that found it there already. The first such upsert counts, and no later call undoes it.

namespace SellerDirectory.Store

variable {store before after : Store} {key : Key} {state : Catalog.State} {row : StateRow}
  {faults : Faults} {calls : List Call} {call : Call}

section Step

theorem Change.stateRow?_kept (change : Change before after)
    (stored : before.stateRow? key = some row) : after.stateRow? key = some row := by
  cases change with
  | none => exact stored
  | insert sellers => exact stored
  | deactivate ids scope now =>
    rw [deactivate_eq]
    exact stored
  | state state there =>
    rw [stateRow?_withState, stored]
    rfl

def Call.Upserts (key : Key) : Call → Prop
  | .addState state => state.key = key
  | _ => False

theorem answer_orphan (valid : store.Valid)
    (unknown : Table.contains state.key store.sellers = false) :
    store.answer (.addState state) = (.error .orphanState, store) := by
  have stateless : Table.contains state.key store.states = false := by
    apply Bool.eq_false_iff.mpr
    intro stated
    obtain ⟨row, member, same⟩ := List.mem_map.mp (Table.contains_iff.mp stated)
    have known : Table.contains (Keyed.key row) store.sellers := valid.seller_of_state row member
    rw [same, unknown] at known
    cases known
  simp [answer, addState, stateless, unknown]

theorem answer_first (known : Table.contains state.key store.sellers)
    (stateless : Table.contains state.key store.states = false) :
    store.answer (.addState state) =
      (.ok true, { store with states := store.states ++ [.ofState state] }) := by
  simp [answer, addState, stateless, known]

theorem answer_again (stated : Table.contains state.key store.states) :
    store.answer (.addState state) = (.ok false, store) := by
  simp [answer, addState, stated]

theorem states_of_update {sellers : List Seller} :
    (store.answer (.update sellers)).2.states = store.states := by
  cases ran : store.update sellers with
  | error failure => simp only [answer, ran]
  | ok updated =>
    simp only [answer, ran, insert_of_update ran]
    rfl

theorem stated_elsewhere (other : state.key ≠ key) :
    Table.contains key (store.answer (.addState state)).2.states =
      Table.contains key store.states := by
  cases ran : store.addState state with
  | error failure => simp only [answer, ran]
  | ok added =>
    have found : (store.withState state).stateRow? key = store.stateRow? key := by
      rw [stateRow?_withState, if_neg other, Option.or_none]
    simp only [answer, ran, withState_of_addState ran]
    exact congrArg Option.isSome found

theorem stated_answer (valid : store.Valid) (call : Call) (key : Key) :
    Table.contains key (store.answer call).2.states ↔
      Table.contains key store.states ∨ call.Upserts key ∧ Table.contains key store.sellers := by
  cases call with
  | active scope => simp [Call.Upserts, answer]
  | insert sellers => simp [Call.Upserts, answer, insert]
  | update sellers => simp [Call.Upserts, states_of_update]
  | deactivate ids scope now => simp [Call.Upserts, answer, deactivate_eq]
  | addState state =>
    by_cases same : state.key = key
    · subst same
      cases known : Table.contains state.key store.sellers with
      | false => simp [answer_orphan valid known]
      | true =>
        cases stated : Table.contains state.key store.states with
        | true => simp [answer_again stated, stated]
        | false => simp [answer_first known stated, Call.Upserts, Table.contains_iff]
    · simp [stated_elsewhere same, Call.Upserts, same]

end Step

section History

-- One of the calls was an upsert for the seller of the key, reached the store and found the seller
-- there.
def Given (faults : Faults) (calls : List Call) (key : Key) : Prop :=
  ∃ earlier call later, calls = earlier ++ call :: later ∧ call.Upserts key ∧
    faults earlier.length call = none ∧
      Table.contains key (afterCalls faults earlier (0, empty)).2.sellers

theorem given_snoc :
    Given faults (calls ++ [call]) key ↔
      Given faults calls key ∨ call.Upserts key ∧ faults calls.length call = none ∧
        Table.contains key (afterCalls faults calls (0, empty)).2.sellers := by
  constructor
  · rintro ⟨earlier, upsert, later, parts, takes⟩
    rcases List.eq_nil_or_concat later with rfl | ⟨more, last, rfl⟩
    · obtain ⟨rfl, single⟩ := List.append_inj' parts rfl
      cases single
      exact .inr takes
    · rw [List.concat_eq_append, ← List.cons_append, ← List.append_assoc] at parts
      obtain ⟨rfl, _⟩ := List.append_inj' parts rfl
      exact .inl ⟨earlier, upsert, more, rfl, takes⟩
  · rintro (⟨earlier, upsert, later, rfl, takes⟩ | takes)
    · exact ⟨earlier, upsert, later ++ [call], by simp, takes⟩
    · exact ⟨calls, call, [], rfl, takes⟩

theorem place_afterCalls (calls : List Call) (state : Nat × Store) :
    (afterCalls faults calls state).1 = state.1 + calls.length := by
  induction calls generalizing state with
  | nil => rfl
  | cons call rest ih =>
    have next : (answerWith answer faults state call).2.1 = state.1 + 1 := by
      cases fault : faults state.1 call with
      | some failure => rw [answerWith_of_fault fault]
      | none => rw [answerWith_of_reach fault]
    unfold afterCalls at ih ⊢
    rw [List.foldl_cons, ih, next, List.length_cons]
    omega

theorem afterCalls_snoc :
    (afterCalls faults (calls ++ [call]) (0, store)).2 =
      if faults calls.length call = none then
        ((afterCalls faults calls (0, store)).2.answer call).2
      else (afterCalls faults calls (0, store)).2 := by
  have place : (afterCalls faults calls (0, store)).1 = calls.length := by
    rw [place_afterCalls, Nat.zero_add]
  rw [afterCalls_append]
  generalize afterCalls faults calls (0, store) = state at place
  rw [← place]
  unfold afterCalls
  rw [List.foldl_cons, List.foldl_nil]
  cases fault : faults state.1 call with
  | some failure => simp [answerWith_of_fault fault]
  | none => simp [answerWith_of_reach fault]

theorem stated_iff_given :
    Table.contains key (afterCalls faults calls (0, empty)).2.states ↔ Given faults calls key := by
  induction calls using List.reverseRecOn with
  | nil =>
    constructor
    · intro stated
      cases stated
    · rintro ⟨earlier, upsert, later, parts, _⟩
      simp at parts
  | append_singleton calls call ih =>
    have valid : (afterCalls faults calls (0, empty)).2.Valid := afterCalls_valid empty_valid
    rw [given_snoc, ← ih, afterCalls_snoc]
    split
    · rename_i reach
      rw [stated_answer valid]
      simp [reach]
    · rename_i fault
      simp [fault]

theorem stateRow?_afterCalls {place : Nat} (stored : store.stateRow? key = some row) :
    (afterCalls faults calls (place, store)).2.stateRow? key = some row :=
  afterCalls_preserves (fun store => store.stateRow? key = some row)
    (fun store call stored => (change_of_answer store call).stateRow?_kept stored) stored

-- The sellers that the calls have brought, whether or not they were stored before.
theorem known_iff_arrived :
    Table.contains key (afterCalls faults calls (0, empty)).2.sellers ↔
      key ∈ (arrivals faults 0 calls).map Seller.key := by
  have times : (afterCalls faults calls (0, empty)).2.firstStored? key =
      firstOf? (arrivals faults 0 calls) key := by
    rw [firstStored?_afterCalls]
    exact Option.none_or
  have same := congrArg Option.isSome times
  unfold firstStored? firstOf? at same
  rw [Option.isSome_map, Option.isSome_map] at same
  unfold Table.contains
  unfold sellerRow? at same
  rw [same]
  simp

theorem stateRow?_append {later : List Call}
    (stored : (afterCalls faults calls (0, empty)).2.stateRow? key = some row) :
    (afterCalls faults (calls ++ later) (0, empty)).2.stateRow? key = some row := by
  rw [afterCalls_append]
  exact stateRow?_afterCalls stored

theorem answer_given (given : Given faults calls state.key) :
    (afterCalls faults calls (0, empty)).2.answer (.addState state) =
      (.ok false, (afterCalls faults calls (0, empty)).2) :=
  answer_again (stated_iff_given.mpr given)

section First

variable (known : Table.contains state.key (afterCalls faults calls (0, empty)).2.sellers)
  (fresh : ¬ Given faults calls state.key)

include known fresh

theorem answer_fresh :
    (afterCalls faults calls (0, empty)).2.answer (.addState state) =
      (.ok true, { (afterCalls faults calls (0, empty)).2 with
        states := (afterCalls faults calls (0, empty)).2.states ++ [.ofState state] }) := by
  refine answer_first known (Bool.eq_false_iff.mpr ?_)
  intro stated
  exact fresh (stated_iff_given.mp stated)

theorem stateRow?_fresh (reach : faults calls.length (.addState state) = none) :
    (afterCalls faults (calls ++ [.addState state]) (0, empty)).2.stateRow? state.key =
      some (.ofState state) := by
  have absent : Table.find? state.key (afterCalls faults calls (0, empty)).2.states = none := by
    apply Option.not_isSome_iff_eq_none.mp
    intro stated
    exact fresh (stated_iff_given.mp stated)
  rw [afterCalls_snoc, if_pos reach, answer_fresh known fresh]
  unfold stateRow?
  rw [Table.find?_append, absent, Option.none_or, Table.find?_cons, key_ofState, if_pos rfl]

end First

-- However the calls are chosen and whichever of them fail on the way: states belong to stored
-- sellers, and these are the ones that an insert has brought. An upsert fails as long as its seller
-- is not stored; the first one after that stores its state for good; every later one does nothing.
theorem states_written_once (faults : Faults) (earlier later : List Call) (state : Catalog.State) :
    let before := (afterCalls faults earlier (0, empty)).2
    let after := (afterCalls faults (earlier ++ .addState state :: later) (0, empty)).2
    (∀ row ∈ before.states, Table.contains row.key before.sellers) ∧
      (Table.contains state.key before.sellers ↔
        state.key ∈ (arrivals faults 0 earlier).map Seller.key) ∧
      (Table.contains state.key before.sellers = false →
        ∃ failure : Failure, failure.kind = .persistence ∧
          before.answer (.addState state) = (.error failure, before)) ∧
      (Table.contains state.key before.sellers → ¬ Given faults earlier state.key →
        before.answer (.addState state) =
            (.ok true, { before with states := before.states ++ [.ofState state] }) ∧
          (faults earlier.length (.addState state) = none →
            after.stateRow? state.key = some (.ofState state))) ∧
      (Given faults earlier state.key →
        before.answer (.addState state) = (.ok false, before) ∧
          ∃ row, before.stateRow? state.key = some row ∧ after.stateRow? state.key = some row) := by
  intro before after
  have valid : before.Valid := afterCalls_valid empty_valid
  refine ⟨valid.seller_of_state, known_iff_arrived, ?_, ?_, ?_⟩
  · intro unknown
    exact ⟨.orphanState, rfl, answer_orphan valid unknown⟩
  · intro known fresh
    refine ⟨answer_fresh known fresh, fun reach => ?_⟩
    unfold after
    rw [List.append_cons]
    exact stateRow?_append (stateRow?_fresh known fresh reach)
  · intro given
    obtain ⟨row, stored⟩ := Option.isSome_iff_exists.mp (stated_iff_given.mpr given)
    exact ⟨answer_given given, row, stored, stateRow?_append stored⟩

def sampleState (hour : Fin 24) (status : Catalog.Status) : Catalog.State :=
  { Catalog.State.initial (sampleSeller hour) (sampleSeller hour).updatedAt with status }

-- The seller comes after a first upsert for it, and a second one never reaches the store.
def upsertCalls (hour : Fin 24) : List Call :=
  .addState (sampleState hour .syncing) :: firstCalls ++ [.addState (sampleState hour .synced)]

def fourthFails : Faults := fun place _ => if place = 3 then some .lockPoisoned else none

theorem upsertCalls_written :
    let before := (afterCalls fourthFails (upsertCalls 7) (0, empty)).2
    let state := sampleState 8 .failed
    let after := (afterCalls fourthFails (upsertCalls 7 ++ .addState state :: laterCalls) (0, empty)).2
    let given := (afterCalls fourthFails (upsertCalls 7 ++ [.addState state]) (0, empty)).2
    (Table.contains state.key before.sellers ∧ ¬ Given fourthFails (upsertCalls 7) state.key) ∧
      after.stateRow? (sampleSeller 1).key = some (.ofState state) ∧
      Given fourthFails (upsertCalls 7 ++ [.addState state]) state.key ∧
      given.answer (.addState (sampleState 9 .synced)) = (.ok false, given) := by
  intro before state after given
  have known : Table.contains state.key before.sellers := by decide +kernel
  have fresh : ¬ Given fourthFails (upsertCalls 7) state.key := by
    rw [← stated_iff_given]
    decide +kernel
  have once : Given fourthFails (upsertCalls 7 ++ [.addState state]) state.key := by
    rw [← stated_iff_given]
    decide +kernel
  obtain ⟨_, _, _, first, _⟩ := states_written_once fourthFails (upsertCalls 7) laterCalls state
  obtain ⟨_, _, _, _, again⟩ :=
    states_written_once fourthFails (upsertCalls 7 ++ [.addState state]) laterCalls
      (sampleState 9 .synced)
  exact ⟨⟨known, fresh⟩, (first known fresh).2 rfl, once, (again once).1⟩

end History

end SellerDirectory.Store
