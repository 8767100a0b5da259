import SellerDirectory.Proofs.Store.Faults
import SellerDirectory.Proofs.Store.Valid

-- What no sequence of calls can undo: a seller that is stored stays stored, under a key of its own,
-- with the time at which it was first stored.

namespace SellerDirectory.Store

variable {store : Store} {key : Key}

-- The sellers that a call stores where they are not stored yet.
def Call.newcomers : Call → List Seller
  | .insert sellers => sellers
  | _ => []

def firstStored? (store : Store) (key : Key) : Option String :=
  (store.sellerRow? key).map SellerRow.createdAt

def firstOf? (sellers : List Seller) (key : Key) : Option String :=
  (sellers.find? (·.key = key)).map (·.createdAt.columnText)

theorem firstOf?_append (first rest : List Seller) :
    firstOf? (first ++ rest) key = (firstOf? first key).or (firstOf? rest key) := by
  unfold firstOf?
  rw [List.find?_append]
  cases first.find? (·.key = key) <;> rfl

theorem firstStored?_insert (sellers : List Seller) :
    (store.insert sellers).firstStored? key =
      (store.firstStored? key).or (firstOf? sellers key) := by
  unfold firstStored? firstOf? sellerRow? insert
  generalize store.sellers = rows
  induction sellers generalizing rows with
  | nil => simp
  | cons seller rest ih =>
    simp only [List.foldl_cons, ih, find?_putSeller, List.find?_cons]
    by_cases same : seller.key = key
    · -- from its turn on the seller is stored
      cases Table.find? key rows <;> simp [same, SellerRow.over]
    · simp [same]

theorem firstStored?_deactivate (ids : List String) (scope : Scope) (now : Time.Instant) :
    (store.deactivate ids scope now).2.firstStored? key = store.firstStored? key := by
  unfold firstStored?
  rw [sellerRow?_deactivate]
  cases store.sellerRow? key with
  | none => rfl
  | some row =>
    simp only [Option.map_some, SellerRow.retiredAmong]
    split <;> rfl

theorem firstOf?_of_stored {sellers : List Seller}
    (stored : ∀ seller ∈ sellers, Table.contains seller.key store.sellers)
    (absent : store.firstStored? key = none) : firstOf? sellers key = none := by
  unfold firstOf?
  rw [Option.map_eq_none_iff, List.find?_eq_none]
  intro seller member same
  have present := stored seller member
  rw [of_decide_eq_true same, Table.contains, Option.isSome_iff_ne_none] at present
  exact present (Option.map_eq_none_iff.mp absent)

theorem firstStored?_answer (store : Store) (call : Call) :
    (store.answer call).2.firstStored? key =
      (store.firstStored? key).or (firstOf? call.newcomers key) := by
  have unchanged : store.firstStored? key = (store.firstStored? key).or (firstOf? [] key) := by
    simp [firstOf?]
  cases call with
  | active scope => exact unchanged
  | insert sellers => exact firstStored?_insert sellers
  | update sellers =>
    cases ran : store.update sellers with
    | error failure =>
      simp only [answer, ran]
      exact unchanged
    | ok updated =>
      simp only [answer, ran, insert_of_update ran, firstStored?_insert]
      cases stored : store.firstStored? key with
      | some time => rfl
      | none => exact congrArg _ (firstOf?_of_stored (stored_of_update ran) stored)
  | addState state =>
    cases ran : store.addState state with
    | error failure =>
      simp only [answer, ran]
      exact unchanged
    | ok added =>
      simp only [answer, ran, withState_of_addState ran]
      unfold firstStored? sellerRow? at unchanged ⊢
      rw [withState_sellers]
      exact unchanged
  | deactivate ids scope now =>
    rw [← show firstOf? [] key = firstOf? (Call.deactivate ids scope now).newcomers key from rfl,
      ← unchanged]
    exact firstStored?_deactivate ids scope now

section History

variable {faults : Faults} {place : Nat} {calls : List Call}

-- The store after some calls, and the place of the next one.
def afterCalls (faults : Faults) (calls : List Call) (state : Nat × Store) : Nat × Store :=
  calls.foldl (fun state call => (answerWith answer faults state call).2) state

def arrivals (faults : Faults) : Nat → List Call → List Seller
  | _, [] => []
  | place, call :: rest =>
    (if (faults place call).isNone then call.newcomers else [])
      ++ arrivals faults (place + 1) rest

theorem afterCalls_cons (call : Call) :
    (afterCalls faults (call :: calls) (place, store)).2 =
      (afterCalls faults calls (place + 1,
        if (faults place call).isNone then (store.answer call).2 else store)).2 := by
  unfold afterCalls
  rw [List.foldl_cons]
  cases fault : faults place call with
  | some failure => rw [answerWith_of_fault fault]; rfl
  | none => rw [answerWith_of_reach fault]; rfl

theorem afterCalls_append (earlier later : List Call) (state : Nat × Store) :
    afterCalls faults (earlier ++ later) state =
      afterCalls faults later (afterCalls faults earlier state) :=
  List.foldl_append

theorem afterCalls_preserves (Holds : Store → Prop)
    (step : ∀ store call, Holds store → Holds (store.answer call).2) (holds : Holds store) :
    Holds (afterCalls faults calls (place, store)).2 := by
  induction calls generalizing place store with
  | nil => exact holds
  | cons call rest ih => exact ih (answerWith_keeps Holds faults holds (step store call holds))

theorem afterCalls_valid (valid : store.Valid) :
    (afterCalls faults calls (place, store)).2.Valid :=
  afterCalls_preserves Valid
    (fun store call valid => change_valid valid (change_of_answer store call)) valid

theorem afterCalls_extends (store : Store) :
    Extends store (afterCalls faults calls (place, store)).2 :=
  afterCalls_preserves (Extends store)
    (fun store call path => path.trans (change_extends (change_of_answer store call))) (.refl store)

theorem firstStored?_afterCalls (store : Store) :
    (afterCalls faults calls (place, store)).2.firstStored? key =
      (store.firstStored? key).or (firstOf? (arrivals faults place calls) key) := by
  induction calls generalizing place store with
  | nil => exact (Option.or_none).symm
  | cons call rest ih =>
    rw [afterCalls_cons, ih, arrivals, firstOf?_append, ← Option.or_assoc]
    congr 1
    split
    · exact firstStored?_answer store call
    · exact (Option.or_none).symm

-- However the calls are chosen and whichever of them fail: keys stay distinct, no row goes, and each
-- seller keeps the time that was written when it was first stored.
theorem sellers_permanent (faults : Faults) (earlier later : List Call) {store : Store}
    (valid : store.Valid) :
    let middle := (afterCalls faults earlier (0, store)).2
    let after := (afterCalls faults (earlier ++ later) (0, store)).2
    Table.Distinct after.sellers ∧ Extends middle after ∧
      (∀ key row, middle.sellerRow? key = some row →
        ∃ kept, after.sellerRow? key = some kept ∧ kept.createdAt = row.createdAt) ∧
      ∀ key, after.firstStored? key =
        (store.firstStored? key).or (firstOf? (arrivals faults 0 (earlier ++ later)) key) := by
  intro middle after
  have continued : after = (afterCalls faults later (afterCalls faults earlier (0, store))).2 :=
    congrArg Prod.snd (afterCalls_append earlier later (0, store))
  refine ⟨(afterCalls_valid valid).distinct_sellers, ?_, ?_, fun key => firstStored?_afterCalls store⟩
  · rw [continued]
    exact afterCalls_extends middle
  · intro key row stored
    have time : middle.firstStored? key = some row.createdAt := by
      unfold firstStored?
      rw [stored]
      rfl
    have kept : after.firstStored? key = some row.createdAt := by
      rw [continued, firstStored?_afterCalls, time]
      rfl
    exact Option.map_eq_some_iff.mp kept

def sampleSeller (hour : Fin 24) : Seller :=
  let time : Time.Instant := ⟨⟨2025, 1, 1, Eq.refl true⟩, ⟨hour, 0, 0, 0, by simp [Time.isClock]⟩⟩
  ⟨"A", "ONDC:RET10", "prod", "SUBSCRIBED", "BPP", "A", "IND", "std:080", none, none, true, "", time,
    time, time⟩

def firstCalls : List Call :=
  [.insert [sampleSeller 1], .insert [sampleSeller 2, sampleSeller 3]]

def laterCalls : List Call :=
  [.update [sampleSeller 4], .deactivate ["A"] (sampleSeller 5).scope (sampleSeller 5).updatedAt,
    .insert [sampleSeller 6]]

def firstFails : Faults := fun place _ => if place = 0 then some .lockPoisoned else none

theorem sampleCalls_permanent :
    empty.Valid ∧
      let middle := (afterCalls firstFails firstCalls (0, empty)).2
      let after := (afterCalls firstFails (firstCalls ++ laterCalls) (0, empty)).2
      Table.Distinct after.sellers ∧
        (middle.sellerRow? (sampleSeller 1).key).map SellerRow.updatedAt =
          some "2025-01-01T03:00:00+00:00" ∧
        (after.sellerRow? (sampleSeller 1).key).map SellerRow.updatedAt =
          some "2025-01-01T06:00:00+00:00" ∧
        after.firstStored? (sampleSeller 1).key = some "2025-01-01T02:00:00+00:00" := by
  obtain ⟨distinct, _, _, times⟩ := sellers_permanent firstFails firstCalls laterCalls empty_valid
  refine ⟨empty_valid, distinct, by decide +kernel, by decide +kernel, ?_⟩
  exact (times (sampleSeller 1).key).trans (by decide +kernel)

end History

end SellerDirectory.Store
