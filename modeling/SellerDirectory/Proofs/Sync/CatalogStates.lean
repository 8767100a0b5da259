import SellerDirectory.Proofs.Sync.History

-- When sellers get their states. A run in which no call fails gives a first state to each seller
-- that it meets as new and that has none; every other state stays. From the empty store on, sellers
-- and states then go together.

namespace SellerDirectory.Sync

open Registry Store

variable {turn : Turn} {turns : List Turn} {store before after : Store} {key : Key}
  {now : Time.Instant}

def Unfailing (turns : List Turn) (store : Store) : Prop :=
  ∀ call ∈ callsOf turns store, call.2 = none

theorem unfailing_cons {rest : List Turn} (unfailing : Unfailing (turn :: rest) store) :
    turn.program.Unfailing Store.answer store ∧ Unfailing rest (turn.after store) :=
  List.forall_mem_append.mp unfailing

theorem Turn.read_of_unfailing {snapshot : List Subscriber}
    (fetched : turn.fetched.result = .ok snapshot)
    (unfailing : turn.program.Unfailing Store.answer store) :
    ∃ active, store.activeSellers turn.scope = .ok active := by
  refine failure?_eq_none.mp (unfailing (.active turn.scope, _) ?_)
  unfold Turn.program
  rw [fetched]
  exact List.mem_cons_self

def Turn.Meets (turn : Turn) (store : Store) (key : Key) : Prop :=
  turn.scope = key.scope ∧ store.hasActive key = false ∧
    ∃ snapshot, turn.fetched.result = .ok snapshot ∧ (entryOf? snapshot key.sellerId).isSome

def Met (turns : List Turn) (store : Store) (key : Key) : Prop :=
  ∃ earlier turn later, turns = earlier ++ turn :: later ∧
    turn.Meets (afterTurns earlier store) key

theorem met_cons {rest : List Turn} :
    Met (turn :: rest) store key ↔ turn.Meets store key ∨ Met rest (turn.after store) key := by
  constructor
  · rintro ⟨earlier, other, later, parts, meets⟩
    cases earlier with
    | nil =>
      cases parts
      exact .inl meets
    | cons first earlier =>
      cases parts
      exact .inr ⟨earlier, other, later, rfl, meets⟩
  · rintro (meets | ⟨earlier, other, later, rfl, meets⟩)
    · exact ⟨[], turn, rest, rfl, meets⟩
    · exact ⟨turn :: earlier, other, later, rfl, meets⟩

structure Bootstrapped (turns : List Turn) (now : Time.Instant) (before after : Store) : Prop where
  kept : ∀ key row, before.stateRow? key = some row → after.stateRow? key = some row
  added : ∀ key row, before.stateRow? key = none →
    (after.stateRow? key = some row ↔ Met turns before key ∧ row = .unpulled key now)

section Step

theorem Turn.stateRow?_kept (valid : store.Valid) {row : StateRow}
    (stored : store.stateRow? key = some row) : (turn.after store).stateRow? key = some row := by
  cases turn.course valid with
  | unfetched failure fetched same => rw [same, stored]
  | unread snapshot failure fetched read same => rw [same, stored]
  | synced snapshot active fetched read synced =>
    rw [synced.states, stored]
    rfl

theorem Turn.stateRow?_met (valid : store.Valid)
    (unfailing : turn.program.Unfailing Store.answer store) (stored : store.stateRow? key = none)
    (meets : turn.Meets store key) :
    (turn.after store).stateRow? key = some (.unpulled key turn.now) := by
  obtain ⟨inside, idle, snapshot, fetched, listed⟩ := meets
  obtain ⟨active, read⟩ := turn.read_of_unfailing fetched unfailing
  rw [(turn.after_synced valid fetched read).states, stored]
  exact if_pos ⟨inside.symm, listed, idle⟩

theorem Turn.stateRow?_unmet (valid : store.Valid) (stored : store.stateRow? key = none)
    (unmet : ¬ turn.Meets store key) : (turn.after store).stateRow? key = none := by
  cases turn.course valid with
  | unfetched failure fetched same => rw [same, stored]
  | unread snapshot failure fetched read same => rw [same, stored]
  | synced snapshot active fetched read synced =>
    rw [synced.states, stored]
    exact if_neg fun ⟨inside, listed, idle⟩ =>
      unmet ⟨inside.symm, idle, snapshot, fetched, listed⟩

end Step

theorem afterTurns_kept (valid : store.Valid) {row : StateRow}
    (stored : store.stateRow? key = some row) :
    (afterTurns turns store).stateRow? key = some row :=
  afterTurns_preserves (fun store => store.stateRow? key = some row)
    (fun turn _ _ valid stored => turn.stateRow?_kept valid stored) valid stored

theorem afterTurns_added (valid : store.Valid) (unfailing : Unfailing turns store)
    (times : ∀ turn ∈ turns, turn.now = now) (stored : store.stateRow? key = none)
    (row : StateRow) :
    (afterTurns turns store).stateRow? key = some row ↔
      Met turns store key ∧ row = .unpulled key now := by
  induction turns generalizing store with
  | nil =>
    constructor
    · intro found
      rw [show (afterTurns [] store).stateRow? key = none from stored] at found
      cases found
    · rintro ⟨⟨earlier, turn, later, parts, _⟩, _⟩
      simp at parts
  | cons turn rest ih =>
    obtain ⟨here, later⟩ := unfailing_cons unfailing
    obtain ⟨rfl, times⟩ := List.forall_mem_cons.mp times
    have validAfter := turn.after_valid valid
    rw [met_cons, afterTurns_cons]
    by_cases meets : turn.Meets store key
    · -- it has a state from here on
      rw [afterTurns_kept validAfter (turn.stateRow?_met valid here stored meets), Option.some.injEq]
      exact ⟨fun same => ⟨.inl meets, same.symm⟩, fun ⟨_, same⟩ => same.symm⟩
    · simp only [meets, false_or]
      exact ih validAfter later times (turn.stateRow?_unmet valid stored meets)

theorem bootstrapped (valid : store.Valid) (unfailing : Unfailing turns store)
    (times : ∀ turn ∈ turns, turn.now = now) :
    Bootstrapped turns now store (afterTurns turns store) :=
  ⟨fun _ _ => afterTurns_kept valid,
    fun _ row stored => afterTurns_added valid unfailing times stored row⟩

-- Sellers and states go together, each state from the time at which its seller was first stored.
structure Paired (store : Store) : Prop where
  keys : ∀ key, Table.contains key store.states = Table.contains key store.sellers
  times : ∀ key row state, store.sellerRow? key = some row → store.stateRow? key = some state →
    state.updatedAt = row.createdAt

theorem paired_iff :
    Paired store ↔ ∀ key, (store.stateRow? key).map StateRow.updatedAt =
      (store.sellerRow? key).map SellerRow.createdAt := by
  constructor
  · intro paired key
    have keys : (store.stateRow? key).isSome = (store.sellerRow? key).isSome := paired.keys key
    cases stored : store.sellerRow? key with
    | none =>
      rw [stored, Option.isSome_none, Option.isSome_eq_false_iff, Option.isNone_iff_eq_none] at keys
      rw [keys]
      rfl
    | some row =>
      rw [stored, Option.isSome_some] at keys
      obtain ⟨state, found⟩ := Option.isSome_iff_exists.mp keys
      rw [found]
      exact congrArg some (paired.times key row state stored found)
  · intro same
    refine ⟨fun key => ?_, fun key row state stored found => ?_⟩
    · have here := congrArg Option.isSome (same key)
      rw [Option.isSome_map, Option.isSome_map] at here
      exact here
    · have here := same key
      rw [stored, found] at here
      exact Option.some.inj here

-- A new seller and its state come at one time; later on neither time changes.
theorem Synced.paired {scope : Scope} {snapshot : List Subscriber}
    (synced : Synced scope now snapshot before after) (paired : Paired before) : Paired after := by
  rw [paired_iff] at paired ⊢
  intro key
  have here := paired key
  rw [synced.rows, synced.states]
  unfold Store.hasActive syncedRow? syncedState?
  cases stored : before.sellerRow? key with
  | none =>
    rw [stored, Option.map_none, Option.map_eq_none_iff] at here
    rw [here]
    by_cases inside : key.scope = scope
    · cases entryOf? snapshot key.sellerId <;> simp [inside, StateRow.unpulled]
    · simp [inside]
  | some row =>
    rw [stored] at here
    obtain ⟨state, found, times⟩ := Option.map_eq_some_iff.mp here
    rw [found]
    by_cases inside : key.scope = scope
    · cases entryOf? snapshot key.sellerId with
      | none => by_cases marked : row.active = .whole 1 <;> simp [inside, marked, times]
      | some entry => simp [inside, times]
    · simp [inside, times]

theorem empty_paired : Paired Store.empty := by
  refine ⟨fun _ => rfl, fun key row state stored _ => ?_⟩
  rw [show Store.empty.sellerRow? key = none from rfl] at stored
  cases stored

theorem Turn.after_paired (valid : store.Valid) (paired : Paired store) :
    Paired (turn.after store) := by
  cases turn.course valid with
  | unfetched failure fetched same => rwa [same]
  | unread snapshot failure fetched read same => rwa [same]
  | synced snapshot active fetched read synced => exact synced.paired paired

theorem afterTurns_paired (valid : store.Valid) (paired : Paired store) :
    Paired (afterTurns turns store) :=
  afterTurns_preserves Paired (fun turn _ _ => turn.after_paired) valid paired

theorem run_noted {ω : Type} (registry : String → StateM ω Fetched) (world : ω)
    (request : Request) (now : Time.Instant) (store : Store) :
    ((Sync.run registry (noting Store.answer) request now (store, [])).run world).1.store =
      (afterTurns ((turnsOf registry request now).run world).1 store,
        callsOf ((turnsOf registry request now).run world).1 store) := by
  rw [run_store, leftBy_noting, List.nil_append]

-- Whatever the registry answers: where no call of a run fails, the run adds a first state for just
-- the sellers that it meets as new and that have none. After any number of runs from the empty
-- store, sellers and states go together.
theorem states_bootstrapped {ω : Type} (registry : String → StateM ω Fetched) (world : ω) :
    (∀ (request : Request) (now : Time.Instant) (store : Store), store.Valid →
      let final := ((Sync.run registry (noting Store.answer) request now (store, [])).run
        world).1.store
      (∀ call ∈ final.2, call.2 = none) →
        Bootstrapped ((turnsOf registry request now).run world).1 now store final.1) ∧
      ∀ rounds : List (Request × Time.Instant),
        Paired ((history registry Store.answer rounds Store.empty).run world).1 := by
  constructor
  · intro request now store valid final unfailing
    unfold final at unfailing ⊢
    rw [run_noted] at unfailing ⊢
    exact bootstrapped valid unfailing fun turn member => now_of_turns member
  · intro rounds
    rw [history_eq]
    exact afterTurns_paired empty_valid empty_paired

def sampleTurn : Turn := ⟨sampleScope, laterTime, sampleFetch sampleScope.domain⟩

theorem sampleTurn_unfailing : Unfailing [sampleTurn] sampleStore := by
  obtain ⟨active, read⟩ := activeSellers_isOk.mpr sampleStore_reads
  have fetched : sampleTurn.fetched.result = .ok sampleSnapshot := rfl
  unfold Unfailing
  rw [callsOf, callsOf, List.append_nil]
  exact (sampleTurn.does_synced sampleStore_valid fetched read).unfailing

theorem sampleStore_bootstrapped :
    sampleStore.Valid ∧
      let final := ((Sync.run sampleRegistry (noting Store.answer) ⟨"prod", ["ONDC:RET10"]⟩
        laterTime (sampleStore, [])).run ()).1.store
      (∀ call ∈ final.2, call.2 = none) ∧
        final.1.stateRow? ⟨"C", sampleScope⟩ =
          some (.unpulled ⟨"C", sampleScope⟩ laterTime) := by
  have unfailing : ∀ call ∈ ((Sync.run sampleRegistry (noting Store.answer) ⟨"prod", ["ONDC:RET10"]⟩
      laterTime (sampleStore, [])).run ()).1.store.2, call.2 = none := by
    rw [run_noted]
    exact sampleTurn_unfailing
  have done := (states_bootstrapped sampleRegistry ()).1 _ _ _ sampleStore_valid unfailing
  refine ⟨sampleStore_valid, unfailing, (done.added _ _ rfl).mpr ⟨?_, rfl⟩⟩
  exact ⟨[], sampleTurn, [], rfl, rfl, by decide +kernel, sampleSnapshot, rfl, by decide +kernel⟩

end SellerDirectory.Sync
