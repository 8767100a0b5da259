import SellerDirectory.Proofs.Store.Progress
import SellerDirectory.Proofs.Sync.Domain

-- What waits for a pull once a snapshot was synced: the listed sellers, but for those whose pull is
-- under way or done. Their states are those from before, since a run only adds first states, and a
-- seller without one counts as never pulled all along.

namespace SellerDirectory

namespace Catalog

def Entry.ofState? (id : String) : Option State → Entry
  | none => ⟨id, .notSynced, none, none, none⟩
  | some state => ⟨id, state.status, state.lastPull, state.lastSuccess, state.lastError⟩

def IsDue (state? : Option State) : Prop :=
  ∀ state ∈ state?, state.status = .notSynced ∨ state.status = .failed

end Catalog

namespace Sync

open Registry Store Catalog

variable {store after : Store} {scope : Scope} {now : Time.Instant} {snapshot : List Subscriber}
  {id : String}

def Names (snapshot : List Subscriber) (id : String) : Prop :=
  Text.trim id ≠ "" ∧ id ∈ snapshot.map Subscriber.subscriberId

instance (snapshot : List Subscriber) (id : String) : Decidable (Names snapshot id) :=
  inferInstanceAs (Decidable (_ ∧ _))

theorem entryOf?_isSome : (entryOf? snapshot id).isSome ↔ Names snapshot id := by
  unfold entryOf? Names
  split
  · rename_i blank
    simp [blank]
  · rename_i named
    simp [named]

section State

variable {state? : Option State} {active : Bool}

theorem toEntry_unpulled (key : Key) :
    StateRow.toEntry id (some (.unpulled key now)) = .ok (Entry.ofState? id none) := by
  have named : readStatus 1 (StateRow.unpulled key now).status = .ok .notSynced := by
    unfold readStatus StateRow.unpulled
    rw [Status.ofText_name]
  simp only [StateRow.toEntry, named]
  rfl

theorem isWanted_unpulled (key : Key) :
    isWanted (effectiveFilter []) (some (.unpulled key now)) = true := by
  simp [isWanted, effectiveFilter, Status.pending, StateRow.unpulled]

-- A first state tells a reader nothing that its absence would not.
theorem toEntry_synced
    (asked : store.state? ⟨id, scope⟩ = .ok state?) :
    StateRow.toEntry id
        (syncedState? scope now snapshot ⟨id, scope⟩ active (store.stateRow? ⟨id, scope⟩)) =
      .ok (Entry.ofState? id state?) := by
  unfold Store.state? at asked
  cases stored : store.stateRow? ⟨id, scope⟩ with
  | none =>
    rw [stored] at asked
    cases asked
    unfold syncedState?
    dsimp only
    split
    · exact toEntry_unpulled _
    · rfl
  | some row =>
    rw [stored] at asked
    obtain ⟨state, read, rfl⟩ := map_ok.mp asked
    exact StateRow.toEntry_of_toState read id

theorem isWanted_synced (named : store.Named)
    (asked : store.state? ⟨id, scope⟩ = .ok state?) :
    isWanted (effectiveFilter [])
        (syncedState? scope now snapshot ⟨id, scope⟩ active (store.stateRow? ⟨id, scope⟩)) ↔
      IsDue state? := by
  have due (status : Status) : status ∈ effectiveFilter [] ↔ status = .notSynced ∨ status = .failed := by
    simp [effectiveFilter, Status.pending]
  unfold Store.state? at asked
  cases stored : store.stateRow? ⟨id, scope⟩ with
  | none =>
    rw [stored] at asked
    cases asked
    have due : IsDue none := fun state member => absurd member (Option.not_mem_none state)
    refine iff_of_true ?_ due
    unfold syncedState?
    dsimp only
    split
    · exact isWanted_unpulled _
    · exact isWanted_none.mpr (by decide)
  | some row =>
    rw [stored] at asked
    obtain ⟨state, read, rfl⟩ := map_ok.mp asked
    obtain ⟨status, name⟩ := named row (Table.mem_of_find? stored)
    change isWanted (effectiveFilter []) (some row) ↔ IsDue (some state)
    rw [StateRow.isWanted_iff name read, due]
    simp [IsDue]

theorem state?_isOk (states : store.StatesRead) (key : Key) :
    ∃ state?, store.state? key = .ok state? := by
  unfold Store.state?
  cases stored : store.stateRow? key with
  | none => exact ⟨none, rfl⟩
  | some row =>
    obtain ⟨state, read⟩ := states row (Table.mem_of_find? stored)
    exact ⟨some state, map_ok.mpr ⟨state, read, rfl⟩⟩

end State

structure Awaits (before : Store) (scope : Scope) (snapshot : List Subscriber)
    (listing : List Entry) : Prop where
  ascending : listing.Pairwise fun a b => a.sellerId < b.sellerId
  complete : ∀ id, id ∈ listing.map Entry.sellerId ↔ Names snapshot id ∧
    ∃ state?, before.state? ⟨id, scope⟩ = .ok state? ∧ IsDue state?
  told : ∀ entry ∈ listing, ∃ state?, before.state? ⟨entry.sellerId, scope⟩ = .ok state? ∧
    entry = Entry.ofState? entry.sellerId state?

theorem Synced.awaits (synced : Synced scope now snapshot store after) (states : store.StatesRead)
    (named : store.Named) :
    ∃ listing, Awaits store scope snapshot listing ∧ after.Serves scope [] listing ∧
      listing.length ≤ after.sellers.length := by
  have lines (id : String) : ∃ entry,
      StateRow.toEntry id (after.stateRow? ⟨id, scope⟩) = .ok entry := by
    obtain ⟨state?, asked⟩ := state?_isOk states ⟨id, scope⟩
    rw [synced.states]
    exact ⟨_, toEntry_synced asked⟩
  obtain ⟨listing, lists, serves⟩ := lines_served synced.valid scope [] lines
  refine ⟨listing, ⟨lists.ascending, ?_, ?_⟩, serves (by decide),
    lists.length_le synced.valid⟩
  · intro id
    obtain ⟨state?, asked⟩ := state?_isOk states ⟨id, scope⟩
    rw [lists.complete, synced.hasActive, if_pos rfl, entryOf?_isSome, synced.states,
      isWanted_synced named asked, asked]
    constructor
    · rintro ⟨listed, due⟩
      exact ⟨listed, state?, rfl, due⟩
    · rintro ⟨listed, same, found, due⟩
      cases found
      exact ⟨listed, due⟩
  · intro entry member
    obtain ⟨state?, asked⟩ := state?_isOk states ⟨entry.sellerId, scope⟩
    have told := lists.told entry member
    rw [synced.states, toEntry_synced asked] at told
    exact ⟨state?, asked, (Except.ok.inj told).symm⟩

-- After a snapshot was synced, which no call fails to do where the active rows of the scope read
-- back, the default listing has one line for each id that the snapshot names and whose state from
-- before says that a pull is due, by ascending ids and with what that state tells. Whatever part is
-- asked for is a slice of it, and whoever follows the pages to the end has seen it all. A table
-- numbers its rows by positive signed words, so it has no more of them.
theorem sync_awaited {store : Store} (valid : store.Valid) (scope : Scope) (now : Time.Instant)
    (snapshot : List Subscriber)
    (sellers : ∀ row ∈ store.sellers, row.isActiveIn scope → row.Reads)
    (states : store.StatesRead) (named : store.Named) :
    (syncDomain scope now (.ok snapshot)).Unfailing Store.answer store ∧
      let after := ((syncDomain scope now (.ok snapshot)).run Store.answer store).2
      ∃ listing, Awaits store scope snapshot listing ∧ after.Serves scope [] listing ∧
        (after.sellers.length ≤ 2 ^ 63 → ∀ limit, 1 ≤ limit → limit < 2 ^ 63 - 1 →
          ∃ pages, after.Walk scope [] limit 1 pages ∧
            (∀ others, after.Walk scope [] limit 1 others → others = pages) ∧
            pages.flatMap Page.entries = listing) := by
  obtain ⟨active, read⟩ := activeSellers_isOk.mpr sellers
  have synced : Synced scope now snapshot store _ := syncDomain_synced valid read
  obtain ⟨listing, awaits, serves, few⟩ := synced.awaits states named
  refine ⟨(syncDomain_does valid read).unfailing, listing, awaits, serves, ?_⟩
  intro sized limit least most
  have below : limit < Text.Numeral.maxUnsigned64 := Nat.lt_trans most (by decide)
  obtain ⟨pages, walk, only, lines, _⟩ := serves.walked (few.trans sized) least below
  exact ⟨pages, walk, only, lines⟩

def pulledStore : Store :=
  { sampleStore with states :=
      [{ StateRow.unpulled ⟨"A", sampleScope⟩ sampleTime with status := Status.synced.name },
        { StateRow.unpulled ⟨"C", sampleScope⟩ sampleTime with
          status := Status.failed.name
          lastError := some "timeout" }] }

theorem pulledStore_awaited :
    pulledStore.Valid ∧ (∀ row ∈ pulledStore.sellers, row.isActiveIn sampleScope → row.Reads) ∧
      pulledStore.StatesRead ∧ pulledStore.Named ∧
      let after := ((syncDomain sampleScope laterTime (.ok sampleSnapshot)).run Store.answer
        pulledStore).2
      ∃ pages, after.Walk sampleScope [] 1 1 pages ∧
        "A" ∉ (pages.flatMap Page.entries).map Entry.sellerId ∧
        "B" ∉ (pages.flatMap Page.entries).map Entry.sellerId ∧
        "C" ∈ (pages.flatMap Page.entries).map Entry.sellerId := by
  have valid : pulledStore.Valid := ⟨by decide, by decide, by decide⟩
  have states : pulledStore.StatesRead := by
    intro row member
    simp only [pulledStore, List.mem_cons, List.not_mem_nil, or_false] at member
    rcases member with rfl | rfl <;> exact ⟨_, by rfl⟩
  have named : pulledStore.Named := by
    intro row member
    simp only [pulledStore, List.mem_cons, List.not_mem_nil, or_false] at member
    rcases member with rfl | rfl
    · exact ⟨.synced, rfl⟩
    · exact ⟨.failed, rfl⟩
  refine ⟨valid, sampleStore_reads, states, named, ?_⟩
  obtain ⟨_, listing, awaits, _, walked⟩ :=
    sync_awaited valid sampleScope laterTime sampleSnapshot sampleStore_reads states named
  have synced : ∃ state, pulledStore.state? ⟨"A", sampleScope⟩ = .ok (some state) ∧
      state.status = .synced := ⟨_, by rfl, rfl⟩
  have failed : ∃ state, pulledStore.state? ⟨"C", sampleScope⟩ = .ok (some state) ∧
      state.status = .failed := ⟨_, by rfl, rfl⟩
  obtain ⟨pages, walk, _, rfl⟩ := walked (by decide +kernel) 1 (by decide) (by decide)
  refine ⟨pages, walk, ?_, ?_, ?_⟩
  · intro member
    obtain ⟨_, state?, asked, due⟩ := (awaits.complete "A").mp member
    obtain ⟨state, found, status⟩ := synced
    rw [found] at asked
    cases asked
    rcases due state rfl with other | other <;> rw [status] at other <;> cases other
  · intro member
    obtain ⟨⟨_, listed⟩, _⟩ := (awaits.complete "B").mp member
    revert listed
    decide
  · obtain ⟨state, found, status⟩ := failed
    refine (awaits.complete "C").mpr ⟨by decide +kernel, _, found, ?_⟩
    intro same equal
    cases equal
    exact .inr status

end Sync

end SellerDirectory
