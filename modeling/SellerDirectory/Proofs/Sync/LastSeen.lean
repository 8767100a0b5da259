import SellerDirectory.Proofs.Store.Progress
import SellerDirectory.Proofs.Sync.Readability

-- What can be told of a seller right after a run whose lookups all succeeded: whoever is active in
-- a scope that was asked for has an id, was last seen at the time of the run, and has a progress
-- that reads.

namespace SellerDirectory

def Catalog.Progress.key (progress : Progress) : Key :=
  ⟨progress.sellerId, progress.domain, progress.environment⟩

namespace Store

variable {store : Store} {key : Key} {row : SellerRow} {seller : Seller} {now : Time.Instant}

theorem progress?_of_row (stored : store.sellerRow? key = some row)
    (read : row.toSeller = .ok seller) (states : ∀ row ∈ store.stateRow? key, row.Reads) :
    ∃ progress, store.progress? key = .ok (some progress) ∧ progress.key = key ∧
      progress.lastSeen = seller.lastSeen := by
  cases found : store.stateRow? key with
  | none =>
    have own : seller.key = key :=
      (SellerRow.key_of_toSeller read).trans (Table.key_of_find? stored)
    exact ⟨.unstarted seller, progress?_unstarted stored read found, own, rfl⟩
  | some stateRow =>
    obtain ⟨state, read_state⟩ := states stateRow found
    have own : state.key = key :=
      (StateRow.parts_of_toState read_state).1.symm.trans (Table.key_of_find? found)
    exact ⟨.ofState seller state, progress?_ofState stored read found read_state, own, rfl⟩

theorem lastSeen_of_toSeller (storable : now.Storable) (seen : row.lastSeen = now.columnText)
    (read : row.toSeller = .ok seller) : seller.lastSeen = now := by
  unfold SellerRow.toSeller at read
  simp only [bind_ok] at read
  obtain ⟨_, _, _, _, _, _, lastSeen, told, _, _, _, _, done⟩ := read
  rw [readTime, seen, Time.read_columnText storable] at told
  cases told
  cases done
  rfl

theorem unpulled_reads (key : Key) (storable : now.Storable) :
    (StateRow.unpulled key now).Reads := by
  have status : readStatus 3 Catalog.Status.notSynced.name = .ok .notSynced := by
    rw [readStatus, Catalog.Status.ofText_name]
  have time : readTime 8 now.columnText = .ok now := by
    rw [readTime, Time.read_columnText storable]
  unfold StateRow.Reads StateRow.toState
  simp only [bind_ok]
  exact ⟨_, .notSynced, status, none, rfl, none, rfl, 0, rfl, now, time, rfl⟩

end Store

namespace Sync

open Registry Store

variable {store before after : Store} {scope : Scope} {now : Time.Instant} {key : Key}
  {snapshot : List Subscriber} {turn : Turn} {turns : List Turn}

def SeenAt (now : Time.Instant) (key : Key) (store : Store) : Prop :=
  ∀ row ∈ store.sellerRow? key, row.active = .whole 1 →
    key.sellerId ≠ "" ∧ row.lastSeen = now.columnText

def StateReads (key : Key) (store : Store) : Prop :=
  ∀ row ∈ store.stateRow? key, row.Reads

theorem entryOf?_empty : entryOf? snapshot "" = none := by
  unfold entryOf?
  exact if_pos rfl

theorem Synced.seenAt (synced : Synced scope now snapshot before after)
    (inside : key.scope = scope) :
    SeenAt now key after := by
  intro row stored marked
  rw [synced.rows, syncedRow?, if_pos inside] at stored
  cases listed : entryOf? snapshot key.sellerId with
  | some entry =>
    rw [listed] at stored
    cases stored
    refine ⟨?_, rfl⟩
    intro nameless
    rw [nameless, entryOf?_empty] at listed
    cases listed
  | none =>
    rw [listed] at stored
    obtain ⟨old, _, rfl⟩ := Option.map_eq_some_iff.mp stored
    split at marked
    · cases marked
    · contradiction

theorem Synced.stateReads (synced : Synced scope now snapshot before after)
    (storable : now.Storable) (reads : StateReads key before) : StateReads key after := by
  intro row stored
  rw [synced.states] at stored
  unfold syncedState? at stored
  cases found : before.stateRow? key with
  | some old =>
    rw [found] at stored
    cases stored
    exact reads row found
  | none =>
    rw [found] at stored
    dsimp only at stored
    split at stored
    · cases stored
      exact unpulled_reads key storable
    · cases stored

theorem Turn.after_stateReads (valid : store.Valid) (storable : turn.now.Storable)
    (reads : StateReads key store) : StateReads key (turn.after store) := by
  cases turn.course valid with
  | unfetched failure fetched same => rwa [same]
  | unread snapshot failure fetched read same => rwa [same]
  | synced snapshot active fetched read synced => exact synced.stateReads storable reads

theorem Turn.after_seenAt (valid : store.Valid) (reads : ReadsIn turn.scope store)
    (fetched : turn.fetched.result = .ok snapshot)
    (seen : key.scope ≠ turn.scope → SeenAt turn.now key store) :
    SeenAt turn.now key (turn.after store) := by
  obtain ⟨active, read⟩ := not_not.mp (reads.unstuck valid)
  have synced := turn.after_synced valid fetched read
  by_cases inside : key.scope = turn.scope
  · exact synced.seenAt inside
  · intro row stored
    rw [synced.elsewhere inside] at stored
    exact seen inside row stored

theorem seenAt_afterTurns (valid : store.Valid) (storable : now.Storable)
    (times : ∀ turn ∈ turns, turn.now = now) (reads : ∀ scope, ReadsIn scope store)
    (fetched : ∀ turn ∈ turns, ∃ snapshot, turn.fetched.result = .ok snapshot ∧
      StorableSnapshot snapshot)
    (seen : (∃ turn ∈ turns, key.scope = turn.scope) ∨ SeenAt now key store) :
    SeenAt now key (afterTurns turns store) := by
  induction turns generalizing store with
  | nil =>
    rcases seen with ⟨turn, member, _⟩ | seen
    · exact absurd member List.not_mem_nil
    · exact seen
  | cons turn rest ih =>
    obtain ⟨time, times⟩ := List.forall_mem_cons.mp times
    obtain ⟨⟨snapshot, here, fits⟩, there⟩ := List.forall_mem_cons.mp fetched
    subst time
    rw [afterTurns_cons]
    have fitting : turn.Fits := by
      intro other got
      cases here.symm.trans got
      exact fits
    refine ih (turn.after_valid valid) times
      (fun scope => turn.after_reads valid storable (fun _ => fitting) (reads scope)) there ?_
    rcases seen with ⟨other, member, inside⟩ | seen
    · rcases List.mem_cons.mp member with rfl | later
      · exact .inr (other.after_seenAt valid (reads _) here fun outside => absurd inside outside)
      · exact .inl ⟨other, later, inside⟩
    · exact .inr (turn.after_seenAt valid (reads _) here fun _ => seen)

theorem progress?_afterTurns (valid : store.Valid) (storable : now.Storable)
    (times : ∀ turn ∈ turns, turn.now = now) (sellers : ∀ row ∈ store.sellers, row.Reads)
    (states : store.StatesRead)
    (fetched : ∀ turn ∈ turns, ∃ snapshot, turn.fetched.result = .ok snapshot ∧
      StorableSnapshot snapshot)
    (asked : ∃ turn ∈ turns, key.scope = turn.scope)
    (active : (afterTurns turns store).hasActive key) :
    key.sellerId ≠ "" ∧ ∃ progress, (afterTurns turns store).progress? key = .ok (some progress) ∧
      progress.key = key ∧ progress.lastSeen = now := by
  have reads (scope : Scope) : ReadsIn scope store :=
    fun key row _ stored => sellers row (Table.mem_of_find? stored)
  have storableTimes : ∀ turn ∈ turns, turn.now.Storable :=
    fun turn member => (times turn member).symm ▸ storable
  have fits : FitIn key.scope turns := by
    intro turn member _ snapshot found
    obtain ⟨listing, got, fits⟩ := fetched turn member
    cases found.symm.trans got
    exact fits
  have stateReads : StateReads key (afterTurns turns store) :=
    afterTurns_preserves (StateReads key)
      (fun turn member _ valid reads => turn.after_stateReads valid (storableTimes turn member)
        reads)
      valid fun row stored => states row (Table.mem_of_find? stored)
  obtain ⟨row, stored, marked⟩ := (Option.any_eq_true _ _).mp active
  obtain ⟨named, lastSeen⟩ := seenAt_afterTurns valid storable times reads fetched (.inl asked) row
    stored (of_decide_eq_true marked)
  obtain ⟨seller, read⟩ :=
    afterTurns_reads valid storableTimes fits (reads key.scope) key row rfl stored
  obtain ⟨progress, found, own, seen⟩ := progress?_of_row stored read stateReads
  exact ⟨named, progress, found, own, seen.trans (lastSeen_of_toSeller storable lastSeen read)⟩

end Sync

end SellerDirectory
