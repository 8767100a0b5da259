import SellerDirectory.Proofs.Sync.History

-- What a run leaves can be read by the next one, unless the registry lists a seller with an instant
-- whose year does not have four digits once it is given in UTC. Such a seller is stored all the
-- same; its row is active and does not read back, so that no later turn of its scope comes past its
-- first call.

namespace SellerDirectory.Sync

open Registry Store

variable {turn : Turn} {turns : List Turn} {store : Store} {scope : Scope} {now : Time.Instant}
  {snapshot : List Subscriber}

-- Every entry of a snapshot that counts can be stored.
def StorableSnapshot (snapshot : List Subscriber) : Prop :=
  ∀ id entry, entryOf? snapshot id = some entry → StorableEntry entry

def Turn.Fits (turn : Turn) : Prop :=
  ∀ snapshot, turn.fetched.result = .ok snapshot → StorableSnapshot snapshot

def ReadsIn (scope : Scope) (store : Store) : Prop :=
  ∀ key row, key.scope = scope → store.sellerRow? key = some row → row.Reads

def Stuck (scope : Scope) (store : Store) : Prop :=
  ¬ ∃ active, store.activeSellers scope = .ok active

theorem empty_reads (scope : Scope) : ReadsIn scope Store.empty := by
  intro key row inside stored
  rw [show Store.empty.sellerRow? key = none from rfl] at stored
  cases stored

theorem ReadsIn.unstuck (valid : store.Valid) (reads : ReadsIn scope store) : ¬ Stuck scope store :=
  not_not.mpr ((activeSellers_isOk_by_key valid).mpr fun key row inside stored _ =>
    reads key row inside stored)

section Step

theorem reads_synced {key : Key} {stored? : Option SellerRow} (storable : now.Storable)
    (fits : StorableSnapshot snapshot) (reads : ∀ row ∈ stored?, row.Reads) :
    ∀ row ∈ syncedRow? scope now snapshot key stored?, row.Reads := by
  intro row member
  unfold syncedRow? at member
  split at member
  · cases listed : entryOf? snapshot key.sellerId with
    | some entry =>
      rw [listed] at member
      cases member
      refine (reads_listed storable).mpr ⟨fits _ entry listed, ?_⟩
      cases stored? with
      | none => exact (readsTime_columnText _).mpr storable
      | some stored => exact (SellerRow.reads_iff.mp (reads stored rfl)).createdAt
    | none =>
      rw [listed] at member
      obtain ⟨stored, found, rfl⟩ := Option.map_eq_some_iff.mp member
      split
      · exact (reads stored found).retire storable
      · exact reads stored found
  · exact reads row member

theorem Turn.after_reads (valid : store.Valid) (storable : turn.now.Storable)
    (fits : turn.scope = scope → turn.Fits) (reads : ReadsIn scope store) :
    ReadsIn scope (turn.after store) := by
  cases turn.course valid with
  | unfetched failure fetched same => rwa [same]
  | unread snapshot failure fetched read same => rwa [same]
  | synced snapshot active fetched read synced =>
    intro key row inside stored
    by_cases here : turn.scope = scope
    · rw [synced.rows] at stored
      exact reads_synced storable (fits here snapshot fetched)
        (fun row found => reads key row inside found) row stored
    · rw [synced.elsewhere fun same => here (same.symm.trans inside)] at stored
      exact reads key row inside stored

-- The row that does not read back is active.
theorem Turn.after_stuck (valid : store.Valid) (storable : turn.now.Storable)
    (reads : ReadsIn turn.scope store) (unfit : ¬ turn.Fits) :
    Stuck turn.scope (turn.after store) := by
  simp only [Turn.Fits, StorableSnapshot, not_forall] at unfit
  obtain ⟨snapshot, fetched, id, entry, listed, unstorable⟩ := unfit
  cases turn.course valid with
  | unfetched failure unfetched same => rw [fetched] at unfetched; cases unfetched
  | unread snapshot failure fetched read same =>
    refine absurd ?_ (reads.unstuck valid)
    rintro ⟨active, done⟩
    rw [read] at done
    cases done
  | synced snapshot' active fetched' read synced =>
    cases fetched.symm.trans fetched'
    intro readable
    have stored := synced.rows ⟨id, turn.scope⟩
    unfold syncedRow? at stored
    rw [if_pos rfl, listed] at stored
    have reads := (activeSellers_isOk_by_key synced.valid).mp readable _ _ rfl stored rfl
    exact unstorable ((reads_listed storable).mp reads).1

theorem Turn.stuck_stays (valid : store.Valid) (stuck : Stuck scope store) :
    Stuck scope (turn.after store) := by
  cases turn.course valid with
  | unfetched failure fetched same => rwa [same]
  | unread snapshot failure fetched read same => rwa [same]
  | synced snapshot active fetched read synced =>
    have elsewhere : turn.scope ≠ scope := by
      rintro rfl
      exact stuck ⟨active, read⟩
    have same (key : Key) (inside : key.scope = scope) :
        (turn.after store).sellerRow? key = store.sellerRow? key :=
      synced.elsewhere fun equal => elsewhere (equal.symm.trans inside)
    unfold Stuck
    rw [← activeSellers_isOk_congr valid synced.valid same]
    exact stuck

end Step

section Turns

def FitIn (scope : Scope) (turns : List Turn) : Prop :=
  ∀ turn ∈ turns, turn.scope = scope → turn.Fits

theorem stuck_afterTurns (valid : store.Valid) (stuck : Stuck scope store) :
    Stuck scope (afterTurns turns store) :=
  afterTurns_preserves (Stuck scope) (fun turn _ _ => turn.stuck_stays) valid stuck

theorem afterTurns_reads (valid : store.Valid) (times : ∀ turn ∈ turns, turn.now.Storable)
    (fit : FitIn scope turns) (reads : ReadsIn scope store) :
    ReadsIn scope (afterTurns turns store) :=
  afterTurns_preserves (ReadsIn scope)
    (fun turn member _ valid reads =>
      turn.after_reads valid (times turn member) (fit turn member) reads)
    valid reads

-- The first turn that does not fit meets a scope that still reads.
theorem afterTurns_stuck (valid : store.Valid) (times : ∀ turn ∈ turns, turn.now.Storable)
    (unfit : ¬ FitIn scope turns) (reads : ReadsIn scope store) :
    Stuck scope (afterTurns turns store) := by
  induction turns generalizing store with
  | nil => exact absurd (fun _ member => absurd member List.not_mem_nil) unfit
  | cons turn rest ih =>
    obtain ⟨time, times⟩ := List.forall_mem_cons.mp times
    have validAfter := turn.after_valid valid
    rw [afterTurns_cons]
    by_cases here : turn.scope = scope → turn.Fits
    · refine ih validAfter times (fun later => unfit ?_) (turn.after_reads valid time here reads)
      exact List.forall_mem_cons.mpr ⟨here, later⟩
    · obtain ⟨rfl, misfit⟩ := Classical.not_imp.mp here
      exact stuck_afterTurns validAfter (turn.after_stuck valid time reads misfit)

theorem reads_iff_fit (valid : store.Valid) (times : ∀ turn ∈ turns, turn.now.Storable)
    (reads : ReadsIn scope store) :
    (∃ active, (afterTurns turns store).activeSellers scope = .ok active) ↔ FitIn scope turns := by
  constructor
  · intro readable
    apply Classical.byContradiction
    intro unfit
    exact afterTurns_stuck valid times unfit reads readable
  · intro fit
    have after := afterTurns_reads valid times fit reads
    exact not_not.mp (after.unstuck (afterTurns_valid turns valid))

theorem readable_iff_fit (valid : store.Valid) (times : ∀ turn ∈ turns, turn.now.Storable)
    (reads : ∀ scope, ReadsIn scope store) :
    Readable (afterTurns turns store) ↔ ∀ turn ∈ turns, turn.Fits := by
  constructor
  · intro readable turn member
    exact (reads_iff_fit valid times (reads turn.scope)).mp (readable.active turn.scope) turn member
      rfl
  · intro fit
    rw [readable_iff]
    intro row member
    exact afterTurns_reads valid times (fun turn there _ => fit turn there) (reads row.key.scope)
      row.key row rfl (Table.find?_of_mem (afterTurns_valid turns valid).distinct_sellers member)

end Turns

-- Whatever the registry answers: after any runs from the empty store, at times that can be stored,
-- every seller reads back exactly if the registry has listed none with an instant that cannot be
-- stored; and the next run for a scope comes past its local read exactly if that holds of the scope.
theorem history_readable {ω : Type} (registry : String → StateM ω Fetched) (world : ω)
    (rounds : List (Request × Time.Instant)) (times : ∀ round ∈ rounds, round.2.Storable) :
    let store := ((history registry Store.answer rounds Store.empty).run world).1
    let turns := ((allTurns registry rounds).run world).1
    (Readable store ↔ ∀ turn ∈ turns, turn.Fits) ∧
      ∀ scope, (∃ active, store.activeSellers scope = .ok active) ↔
        ∀ turn ∈ turns, turn.scope = scope → turn.Fits := by
  intro store turns
  have storable : ∀ turn ∈ turns, turn.now.Storable := by
    intro turn member
    obtain ⟨round, there, same⟩ := now_of_allTurns member
    rw [same]
    exact times round there
  unfold store
  rw [history_eq]
  exact ⟨readable_iff_fit empty_valid storable empty_reads,
    fun scope => reads_iff_fit empty_valid storable (empty_reads scope)⟩

def sampleRounds : List (Request × Time.Instant) :=
  [(⟨"prod", ["ONDC:RET10"]⟩, sampleTime), (⟨"prod", ["ONDC:RET10"]⟩, laterTime)]

theorem sampleFetch_fits (now : Time.Instant) :
    Turn.Fits ⟨sampleScope, now, sampleFetch sampleScope.domain⟩ := by
  intro snapshot fetched id entry listed
  have same : Except.ok sampleSnapshot = Except.ok snapshot := fetched
  cases same
  have storable : ∀ entry ∈ sampleSnapshot, StorableEntry entry := by decide +kernel
  exact storable entry (mem_of_entryOf? listed)

theorem sampleRounds_readable :
    (∀ round ∈ sampleRounds, round.2.Storable) ∧
      Readable ((history sampleRegistry Store.answer sampleRounds Store.empty).run ()).1 := by
  have times : ∀ round ∈ sampleRounds, round.2.Storable := by decide
  refine ⟨times, (history_readable sampleRegistry () sampleRounds times).1.mpr ?_⟩
  have turns : ((allTurns sampleRegistry sampleRounds).run ()).1 =
      [⟨sampleScope, sampleTime, sampleFetch sampleScope.domain⟩,
        ⟨sampleScope, laterTime, sampleFetch sampleScope.domain⟩] := rfl
  rw [turns]
  simp [sampleFetch_fits]

-- The last second of the year 9999, one hour behind UTC.
def lateEntry : Subscriber := sampleEntry "A" "9999-12-31T23:59:59-01:00"

def lateRegistry (_ : String) : StateM Unit Fetched :=
  return ⟨.ok [lateEntry], []⟩

theorem late_unreadable :
    ¬ ∀ (registry : String → StateM Unit Fetched) (rounds : List (Request × Time.Instant)),
      (∀ round ∈ rounds, 1 ≤ round.2.date.year ∧ round.2.date.year ≤ 9998) →
        Readable ((history registry Store.answer rounds Store.empty).run ()).1 := by
  intro always
  have readable := always lateRegistry sampleRounds (by decide)
  have unfit : ¬ StorableEntry lateEntry := by decide +kernel
  have listed : entryOf? [lateEntry] "A" = some lateEntry := by decide +kernel
  have turns : ((allTurns lateRegistry sampleRounds).run ()).1 =
      [⟨sampleScope, sampleTime, ⟨.ok [lateEntry], []⟩⟩,
        ⟨sampleScope, laterTime, ⟨.ok [lateEntry], []⟩⟩] := rfl
  rw [history_eq] at readable
  change Readable (afterTurns ((allTurns lateRegistry sampleRounds).run ()).1 Store.empty) at readable
  rw [turns, readable_iff_fit empty_valid (by decide) empty_reads] at readable
  exact unfit (readable _ List.mem_cons_self _ rfl "A" lateEntry listed)

end SellerDirectory.Sync
