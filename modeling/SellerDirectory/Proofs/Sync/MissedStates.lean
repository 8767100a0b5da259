import SellerDirectory.Proofs.Sync.CatalogStates
import SellerDirectory.Proofs.Sync.Counts

-- States that are missed. A seller and its state are stored by two calls. If the second one fails,
-- the next run meets a seller that is active already, and only refreshes it; so the state that was
-- missed is not made up for, as long as the seller stays listed.

namespace SellerDirectory.Sync

open Registry Store

variable {store after : Store} {scope : Scope} {now : Time.Instant} {snapshot : List Subscriber}
  {active : List Seller} {portion : Portion} {key : Key} {calls : List (Call × Option Failure)}
  {turn : Turn} {turns : List Turn}

theorem countP_states (valid : store.Valid) (key : Key) :
    store.states.countP (fun row => row.key = key) = 1 ↔ (store.stateRow? key).isSome := by
  have found : store.states.filter (fun row => row.key = key) = (store.stateRow? key).toList :=
    filter_by_key valid.distinct_states
  rw [List.countP_eq_length_filter, found]
  cases store.stateRow? key <;> simp

def Stated (scope : Scope) (store : Store) : Prop :=
  ∀ id, store.hasActive ⟨id, scope⟩ → (store.stateRow? ⟨id, scope⟩).isSome

namespace Portion

theorem stateRow?_written :
    (portion.written scope now store).stateRow? key =
      (store.stateRow? key).or
        (if key ∈ portion.stated.map Seller.key then some (.unpulled key now) else none) := by
  unfold Portion.written Portion.arrived
  rw [deactivate_eq]
  exact stateRow?_withStates

variable (part : portion.Of (planOf scope now snapshot active))
  (parts : (failedStates calls ++ portion.stated.map Seller.key).Perm
    (portion.toInsert.map Seller.key))

include part parts

theorem Of.inserted_of_missed (missed : key ∈ failedStates calls) :
    key.scope = scope ∧ key.sellerId ∈ portion.toInsert.map Seller.sellerId := by
  have inserts := (sublist_of_part part.toInsert).subset
  have member : key ∈ portion.toInsert.map Seller.key :=
    parts.subset (List.mem_append_left _ missed)
  obtain ⟨seller, there, rfl⟩ := List.mem_map.mp member
  exact ⟨within_toInsert seller (inserts there), List.mem_map_of_mem there⟩

-- No seller is inserted twice, so a state that was missed was not added by another call.
theorem Of.unstated_of_missed (missed : key ∈ failedStates calls) :
    key ∉ portion.stated.map Seller.key := by
  have distinct := parts.nodup_iff.mpr (keys_distinct part.toInsert_single)
  exact (List.nodup_append'.mp distinct).2.2 missed

end Portion

-- After a run among failing calls, an active seller has its state unless that state was missed and
-- the seller had none before.
theorem Ending.stated_iff {fetched : Except Failure (List Subscriber)} {summary : Summary}
    (valid : store.Valid) (stated : Stated scope store) (inside : key.scope = scope)
    (ending : Ending scope now fetched store calls summary after) :
    (after.hasActive key → (after.stateRow? key).isSome) ↔
      (key ∈ failedStates calls → (store.stateRow? key).isSome) := by
  subst inside
  cases ending with
  | unfetched none_fetched => exact iff_of_true (stated key.sellerId) (by simp [failedStates])
  | unread got quiet silent => exact iff_of_true (stated key.sellerId) (by simp [silent])
  | @written _ snapshot active portion got read part chosen parts =>
    have marked : (portion.written key.scope now store).hasActive key = _ :=
      part.hasActive_written valid read
    rw [marked, Portion.stateRow?_written]
    constructor
    · intro has missed
      obtain ⟨_, inserted⟩ := part.inserted_of_missed parts missed
      have stays : key.sellerId ∉ portion.toDeactivate := fun member =>
        (part.active_of_deactivated valid read member).2 inserted
      have state := has (by simp [inserted, stays])
      rwa [if_neg (part.unstated_of_missed parts missed), Option.or_none] at state
    · intro missed here
      rw [Option.isSome_or, Bool.or_eq_true]
      rw [Bool.and_eq_true, Bool.or_eq_true] at here
      rcases here.1 with before | inserted
      · exact .inl (stated key.sellerId before)
      · have within := (sublist_of_part part.toInsert).subset
        have member : key ∈ portion.toInsert.map Seller.key :=
          (mem_keys fun seller there => within_toInsert seller (within there)).mpr
            (of_decide_eq_true inserted)
        rcases List.mem_append.mp (parts.symm.subset member) with failed | added
        · exact .inl (missed failed)
        · exact .inr (by rw [if_pos added]; rfl)

theorem Ending.of_missed {fetched : Except Failure (List Subscriber)} {summary : Summary}
    (valid : store.Valid) (ending : Ending scope now fetched store calls summary after)
    (missed : key ∈ failedStates calls) :
    key.scope = scope ∧ after.hasActive key ∧ after.stateRow? key = store.stateRow? key ∧
      ∃ snapshot, fetched = .ok snapshot ∧ (entryOf? snapshot key.sellerId).isSome := by
  cases ending with
  | unfetched none_fetched => exact absurd missed List.not_mem_nil
  | unread got quiet silent => exact absurd missed (silent ▸ List.not_mem_nil)
  | @written _ snapshot active portion got read part chosen parts =>
    obtain ⟨rfl, inserted⟩ := part.inserted_of_missed parts missed
    have stays : key.sellerId ∉ portion.toDeactivate := fun member =>
      (part.active_of_deactivated valid read member).2 inserted
    have listed := (mem_toInsert_ids valid read).mp
      (((sublist_of_part part.toInsert).map _).subset inserted)
    refine ⟨rfl, ?_, ?_, snapshot, got, listed.1⟩
    · exact (part.hasActive_written valid read).trans (by simp [inserted, stays])
    · rw [Portion.stateRow?_written, if_neg (part.unstated_of_missed parts missed), Option.or_none]

-- Where the second run can read its sellers, it gives states to the new ones only.
theorem Synced.stated_iff (synced : Synced scope now snapshot store after) (inside : key.scope = scope)
    (listed : (entryOf? snapshot key.sellerId).isSome) :
    (after.stateRow? key).isSome ↔ (store.hasActive key → (store.stateRow? key).isSome) := by
  rw [synced.states]
  unfold syncedState?
  cases store.stateRow? key with
  | some row => simp
  | none => cases store.hasActive key <;> simp [inside, listed]

-- A seller without a state stays without one through all turns that list it.
theorem afterTurns_unstated (valid : store.Valid) (marked : store.hasActive key)
    (unstated : store.stateRow? key = none)
    (listed : ∀ turn ∈ turns, turn.scope = key.scope → ∀ snapshot,
      turn.fetched.result = .ok snapshot → (entryOf? snapshot key.sellerId).isSome) :
    (afterTurns turns store).hasActive key ∧ (afterTurns turns store).stateRow? key = none := by
  refine afterTurns_preserves (fun store => store.hasActive key ∧ store.stateRow? key = none) ?_
    valid ⟨marked, unstated⟩
  intro turn member store valid ⟨marked, unstated⟩
  have unmet : ¬ turn.Meets store key := fun ⟨_, idle, _⟩ => by
    rw [marked] at idle
    cases idle
  refine ⟨?_, turn.stateRow?_unmet valid unstated unmet⟩
  cases turn.course valid with
  | unfetched failure fetched same => rwa [same]
  | unread snapshot failure fetched read same => rwa [same]
  | synced snapshot active fetched read synced =>
    rw [synced.hasActive]
    split
    · exact listed turn member (by simp [*]) snapshot fetched
    · exact marked

-- After a second run that could read its sellers, a state is missing just where it was missed.
theorem Ending.stated_again_iff {first second : Store} {now' : Time.Instant} {summary : Summary}
    (valid : store.Valid) (stated : Stated scope store)
    (ending : Ending scope now (.ok snapshot) store calls summary first)
    (synced : Synced scope now' snapshot first second) :
    (∀ id, second.hasActive ⟨id, scope⟩ →
        second.states.countP (fun row => row.key = ⟨id, scope⟩) = 1) ↔
      ∀ key ∈ failedStates calls, (store.stateRow? key).isSome := by
  have each (id : String) (listed : (entryOf? snapshot id).isSome) :
      second.states.countP (fun row => row.key = ⟨id, scope⟩) = 1 ↔
        (⟨id, scope⟩ ∈ failedStates calls → (store.stateRow? ⟨id, scope⟩).isSome) := by
    have inside : (⟨id, scope⟩ : Key).scope = scope := rfl
    rw [countP_states synced.valid, synced.stated_iff inside listed,
      ending.stated_iff valid stated inside]
  simp only [synced.hasActive, if_true]
  constructor
  · intro all key missed
    obtain ⟨rfl, _, _, listing, fetched, listed⟩ := ending.of_missed valid missed
    cases fetched
    exact (each key.sellerId listed).mp (all key.sellerId listed) missed
  · exact fun missed id listed => (each id listed).mpr (missed _)

-- Whichever calls of a run for a domain fail, where every active seller had its state before: after
-- a second run for the same snapshot, of which no call fails, every active seller has one state
-- exactly if each state that was missed was there already. Otherwise its seller is without one for
-- as long as it stays listed.
theorem states_recovered {store : Store} (valid : store.Valid) (scope : Scope)
    (stated : Stated scope store) (now now' : Time.Instant) (snapshot : List Subscriber)
    (faults : Faults) :
    let program := syncDomain scope now (.ok snapshot)
    let calls := program.calls (answerWith Store.answer faults) (0, store)
    let first := (program.run (answerWith Store.answer faults) (0, store)).2.2
    let again := syncDomain scope now' (.ok snapshot)
    let second := (again.run Store.answer first).2
    (again.Unfailing Store.answer first →
      ((∀ id, second.hasActive ⟨id, scope⟩ →
          second.states.countP (fun row => row.key = ⟨id, scope⟩) = 1) ↔
        ∀ key ∈ failedStates calls, (store.stateRow? key).isSome)) ∧
      ∀ key ∈ failedStates calls, store.stateRow? key = none →
        ∀ turns : List Turn, (∀ turn ∈ turns, turn.scope = key.scope → ∀ snapshot,
          turn.fetched.result = .ok snapshot → (entryOf? snapshot key.sellerId).isSome) →
            (afterTurns turns first).hasActive key ∧
              (afterTurns turns first).stateRow? key = none := by
  intro program calls first again second
  have ends : program.Ends store calls _ first := ⟨faults, 0, rfl, rfl, rfl⟩
  have ending := syncDomain_ends valid ends
  refine ⟨fun unfailing => ?_, fun key missed unstated turns listed => ?_⟩
  · let turn : Turn := ⟨scope, now', .ok snapshot, []⟩
    have fetched : turn.fetched.result = .ok snapshot := rfl
    obtain ⟨active, read⟩ := turn.read_of_unfailing fetched unfailing
    exact ending.stated_again_iff valid stated (syncDomain_synced (ends.valid valid) read)
  · obtain ⟨_, marked, same, _⟩ := ending.of_missed valid missed
    exact afterTurns_unstated (ends.valid valid) marked (same.trans unstated) listed

def statedStore : Store :=
  { sampleStore with states :=
      [.unpulled ⟨"A", sampleScope⟩ sampleTime, .unpulled ⟨"B", sampleScope⟩ sampleTime] }

-- An insert that fails is made up for: its seller comes with a state in the second run.
theorem statedStore_recovered :
    statedStore.Valid ∧ Stated sampleScope statedStore ∧
      let first := ((syncDomain sampleScope sampleTime (.ok sampleSnapshot)).run
        (answerWith Store.answer insertFails) (0, statedStore)).2.2
      let again := syncDomain sampleScope laterTime (.ok sampleSnapshot)
      let second := (again.run Store.answer first).2
      again.Unfailing Store.answer first ∧ first.hasActive ⟨"C", sampleScope⟩ = false ∧
        ∀ id, second.hasActive ⟨id, sampleScope⟩ →
          second.states.countP (fun row => row.key = ⟨id, sampleScope⟩) = 1 := by
  have valid : statedStore.Valid := ⟨by decide, by decide, by decide⟩
  have stated : Stated sampleScope statedStore := by
    intro id marked
    obtain ⟨row, member, same, active⟩ := (hasActive_iff valid).mp marked
    have each : ∀ row ∈ statedStore.sellers, row.isActiveIn sampleScope →
        (statedStore.stateRow? row.key).isSome := by
      decide +kernel
    exact same ▸ each row member active
  refine ⟨valid, stated, ?_⟩
  intro first again second
  have unfailing : again.Unfailing Store.answer first := by
    unfold Program.Unfailing
    decide +kernel
  refine ⟨unfailing, by decide +kernel, ?_⟩
  obtain ⟨recovered, -⟩ :=
    states_recovered valid sampleScope stated sampleTime laterTime sampleSnapshot insertFails
  exact (recovered unfailing).mpr (by decide +kernel)

def statesFail : Faults := fun _ call => if isAddState call then some .lockPoisoned else none

theorem missed_unrecovered :
    ¬ ∀ (store : Store) (snapshot : List Subscriber) (faults : Faults), store.Valid →
      Stated sampleScope store →
        let first := ((syncDomain sampleScope sampleTime (.ok snapshot)).run
          (answerWith Store.answer faults) (0, store)).2.2
        let again := syncDomain sampleScope laterTime (.ok snapshot)
        let second := (again.run Store.answer first).2
        again.Unfailing Store.answer first →
          ∀ id, second.hasActive ⟨id, sampleScope⟩ →
            second.states.countP (fun row => row.key = ⟨id, sampleScope⟩) = 1 := by
  intro always
  have unfailing : (syncDomain sampleScope laterTime (.ok [sampleEntry "A" ""])).Unfailing
      Store.answer ((syncDomain sampleScope sampleTime (.ok [sampleEntry "A" ""])).run
        (answerWith Store.answer statesFail) (0, Store.empty)).2.2 := by
    unfold Program.Unfailing
    decide +kernel
  have one := always Store.empty [sampleEntry "A" ""] statesFail empty_valid
    (fun _ marked => absurd marked Bool.false_ne_true) unfailing "A" (by decide +kernel)
  exact absurd one (by decide +kernel)

end SellerDirectory.Sync
