import SellerDirectory.Proofs.Sync.CatalogStates
import SellerDirectory.Proofs.Sync.Isolation
import SellerDirectory.Proofs.Sync.Readability
import SellerDirectory.Proofs.Sync.Walk

-- Runs that are repeated after calls have failed. What a run left undone or half done, the next one
-- without failures does; so the sellers come out of it as if nothing had failed.

namespace SellerDirectory.Sync

open Registry Store

variable {store before after : Store} {scope : Scope} {now : Time.Instant}
  {snapshot : List Subscriber} {key : Key} {turn : Turn} {turns : List Turn}

section Reading

def Turn.Opens (turn : Turn) (store : Store) : Prop :=
  ∀ snapshot, turn.fetched.result = .ok snapshot → ∃ active, store.activeSellers turn.scope = .ok active

theorem Turn.opens_after {other : Turn} (valid : store.Valid) (apart : other.scope ≠ turn.scope) :
    turn.Opens (other.after store) ↔ turn.Opens store := by
  have untouched (key : Key) (inside : key.scope = turn.scope) :
      (other.after store).sellerRow? key = store.sellerRow? key :=
    (Turn.moves_after valid).elsewhere fun equal => apart (equal.symm.trans inside)
  unfold Turn.Opens
  rw [activeSellers_isOk_congr valid (other.after_valid valid) untouched]

theorem opens_of_unfailing (valid : store.Valid) (unfailing : Unfailing turns store)
    (steady : ∀ other ∈ turns, other.scope = turn.scope → other = turn) (member : turn ∈ turns) :
    turn.Opens store := by
  induction turns generalizing store with
  | nil => exact absurd member List.not_mem_nil
  | cons first rest ih =>
    obtain ⟨here, there⟩ := List.forall_mem_cons.mp steady
    obtain ⟨one, later⟩ := unfailing_cons unfailing
    by_cases same : first.scope = turn.scope
    · cases here same
      exact fun snapshot fetched => turn.read_of_unfailing fetched one
    · have member : turn ∈ rest :=
        (List.mem_cons.mp member).resolve_left fun equal => same (congrArg Turn.scope equal.symm)
      exact (Turn.opens_after valid same).mp (ih (first.after_valid valid) later there member)

theorem Turn.target_of_opens (valid : store.Valid) (opens : turn.Opens store) (key : Key) :
    (turn.after store).sellerRow? key = turn.target key (store.sellerRow? key) := by
  unfold Turn.target
  cases turn.course valid with
  | unfetched failure fetched same => rw [fetched, same]
  | unread snapshot failure fetched read same =>
    obtain ⟨active, done⟩ := opens snapshot fetched
    rw [read] at done
    cases done
  | synced snapshot active fetched read synced =>
    rw [fetched]
    exact synced.rows key

theorem afterTurns_target (valid : store.Valid)
    (steady : ∀ other ∈ turns, other.scope = turn.scope → other = turn) (member : turn ∈ turns)
    (opens : turn.Opens store) (inside : key.scope = turn.scope) :
    (afterTurns turns store).sellerRow? key = turn.target key (store.sellerRow? key) := by
  induction turns generalizing store with
  | nil => exact absurd member List.not_mem_nil
  | cons first rest ih =>
    obtain ⟨here, there⟩ := List.forall_mem_cons.mp steady
    have validAfter := first.after_valid valid
    rw [afterTurns_cons]
    by_cases same : first.scope = turn.scope
    · cases here same
      have made := Turn.target_of_opens valid opens key
      rw [(walk_afterTurns validAfter).kept, made]
      intro other later
      rw [made]
      by_cases again : other.scope = turn.scope
      · rw [there other later again, Turn.target_twice]
      · exact Turn.target_elsewhere (fun equal => again (equal.symm.trans inside)) _
    · have member : turn ∈ rest :=
        (List.mem_cons.mp member).resolve_left fun equal => same (congrArg Turn.scope equal.symm)
      have outside : key.scope ≠ first.scope := fun equal => same (equal.symm.trans inside)
      rw [ih validAfter there member ((Turn.opens_after valid same).mpr opens),
        (Turn.moves_after valid).elsewhere outside]

end Reading

section Ready

theorem listed_of_active {row : SellerRow} {stored? : Option SellerRow}
    (made : syncedRow? scope now snapshot key stored? = some row) (inside : key.scope = scope)
    (marked : row.active = .whole 1) : (entryOf? snapshot key.sellerId).isSome := by
  have active : (syncedRow? scope now snapshot key stored?).any (fun row => row.active = .whole 1) =
      if key.scope = scope then (entryOf? snapshot key.sellerId).isSome
      else stored?.any fun row => row.active = .whole 1 := active_synced stored?
  rw [made, if_pos inside] at active
  rw [← active]
  simp [marked]

structure Turn.Ready (turn : Turn) (store : Store) : Prop where
  active : ∀ key row, key.scope = turn.scope → store.sellerRow? key = some row →
    row.active = .whole 1 → row.Reads
  listed : ∀ snapshot, turn.fetched.result = .ok snapshot → ∀ key row, key.scope = turn.scope →
    store.sellerRow? key = some row → (entryOf? snapshot key.sellerId).isSome →
      ReadsTime row.createdAt

theorem Turn.Ready.opens (ready : turn.Ready store) (valid : store.Valid) : turn.Opens store :=
  fun _ _ => (activeSellers_isOk_by_key valid).mpr ready.active

theorem Turn.Ready.moves (ready : turn.Ready before) (storable : turn.now.Storable)
    (fits : turn.Fits) (moves : turn.Moves before after) : turn.Ready after := by
  unfold Turn.Moves Turn.target at moves
  cases fetched : turn.fetched.result with
  | error failure =>
    simp only [fetched, or_self] at moves
    refine ⟨fun key row inside stored => ready.active key row inside (moves key ▸ stored), ?_⟩
    intro snapshot other
    rw [fetched] at other
    cases other
  | ok snapshot =>
    simp only [fetched] at moves
    have created (key : Key) (inside : key.scope = turn.scope)
        (named : (entryOf? snapshot key.sellerId).isSome) :
        ReadsTime (((before.sellerRow? key).map SellerRow.createdAt).getD turn.now.columnText) := by
      cases stored : before.sellerRow? key with
      | none => exact (readsTime_columnText _).mpr storable
      | some row => exact ready.listed snapshot fetched key row inside stored named
    constructor
    · intro key row inside stored marked
      rcases moves key with same | made
      · exact ready.active key row inside (same ▸ stored) marked
      · rw [made] at stored
        have named := listed_of_active stored inside marked
        obtain ⟨entry, listed⟩ := Option.isSome_iff_exists.mp named
        rw [syncedRow?_listed inside listed] at stored
        cases stored
        exact (reads_listed storable).mpr ⟨fits snapshot fetched _ entry listed, created key inside named⟩
    · intro snapshot' other key row inside stored named
      cases fetched.symm.trans other
      rcases moves key with same | made
      · exact ready.listed snapshot fetched key row inside (same ▸ stored) named
      · obtain ⟨entry, listed⟩ := Option.isSome_iff_exists.mp named
        rw [made, syncedRow?_listed inside listed] at stored
        cases stored
        exact created key inside named

theorem Turn.Ready.congr (ready : turn.Ready before)
    (same : ∀ key, key.scope = turn.scope → after.sellerRow? key = before.sellerRow? key) :
    turn.Ready after :=
  ⟨fun key row inside stored => ready.active key row inside (same key inside ▸ stored),
    fun snapshot fetched key row inside stored =>
      ready.listed snapshot fetched key row inside (same key inside ▸ stored)⟩

theorem Turn.Ready.walk (ready : turn.Ready before) (storable : turn.now.Storable)
    (fits : turn.Fits) (steady : ∀ other ∈ turns, other.scope = turn.scope → other = turn)
    (walk : Walk turns before after) : turn.Ready after := by
  induction walk with
  | done store => exact ready
  | @step other rest before middle after first later ih =>
    obtain ⟨here, there⟩ := List.forall_mem_cons.mp steady
    refine ih ?_ there
    by_cases same : other.scope = turn.scope
    · cases here same
      exact ready.moves storable fits first
    · exact ready.congr fun key inside => first.elsewhere fun equal => same (equal.symm.trans inside)

theorem unfailing_of_ready (valid : store.Valid) (steady : Steady turns)
    (times : ∀ turn ∈ turns, turn.now.Storable) (fits : ∀ turn ∈ turns, turn.Fits)
    (ready : ∀ turn ∈ turns, turn.Ready store) : Unfailing turns store := by
  induction turns generalizing store with
  | nil => exact fun _ member => absurd member List.not_mem_nil
  | cons first rest ih =>
    unfold Unfailing callsOf
    rw [List.forall_mem_append]
    constructor
    · cases fetched : first.fetched.result with
      | error failure =>
        unfold Turn.program syncDomain
        rw [fetched]
        exact fun _ member => absurd member List.not_mem_nil
      | ok snapshot =>
        obtain ⟨active, read⟩ := (ready first List.mem_cons_self).opens valid snapshot fetched
        exact (first.does_synced valid fetched read).unfailing
    · refine ih (first.after_valid valid)
        (fun turn here other there => steady turn (List.mem_cons_of_mem _ here) other
          (List.mem_cons_of_mem _ there))
        (fun turn member => times turn (List.mem_cons_of_mem _ member))
        (fun turn member => fits turn (List.mem_cons_of_mem _ member)) ?_
      intro turn member
      have member := List.mem_cons_of_mem first member
      have step : Walk [first] store (first.after store) := .step (Turn.moves_after valid) (.done _)
      refine (ready turn member).walk (times turn member) (fits turn member) ?_ step
      exact fun other there => steady turn member other (List.mem_singleton.mp there ▸ List.mem_cons_self)

end Ready

section Run

theorem store_of_asked {σ : Type} (answer : σ → (call : Call) → Except Failure call.Reply × σ)
    (fetch : String → Fetched) (request : Request) (now : Time.Instant) (state : σ) :
    (Sync.run (m := Id) fetch answer request now state).run.store =
      leftBy answer (request.domains.map (turnAt fetch request.environment now)) state := by
  rw [run_eq]
  have turns := turns_of_function fetch request now
  exact (congrArg (fun turns => (List.foldl (Run.take answer) (Run.start state) turns).store) turns).trans
    (store_of_take _ _)

theorem steady_turnAt (fetch : String → Fetched) (request : Request) (now : Time.Instant) :
    Steady (request.domains.map (turnAt fetch request.environment now)) := by
  have steady := steady_of_function fetch request now
  rw [turns_of_function] at steady
  exact steady

-- Turns without failures, after a walk of the same turns, end as they would have ended without it.
theorem Walk.recovered (walk : Walk turns before after) (steady : Steady turns)
    (valid : before.Valid) (validAfter : after.Valid) (opens : ∀ turn ∈ turns, turn.Opens before)
    (opensAfter : ∀ turn ∈ turns, turn.Opens after) (key : Key) :
    (afterTurns turns after).sellerRow? key = (afterTurns turns before).sellerRow? key := by
  by_cases asked : ∃ turn ∈ turns, key.scope = turn.scope
  · obtain ⟨turn, member, inside⟩ := asked
    have one := steady turn member
    calc (afterTurns turns after).sellerRow? key
        = turn.target key (after.sellerRow? key) :=
          afterTurns_target validAfter one member (opensAfter turn member) inside
      _ = turn.target key (before.sellerRow? key) := walk.target one inside
      _ = (afterTurns turns before).sellerRow? key :=
          (afterTurns_target valid one member (opens turn member) inside).symm
  · have unwanted (stored? : Option SellerRow) :
        ∀ turn ∈ turns, turn.target key stored? = stored? :=
      fun turn member => Turn.target_elsewhere (fun same => asked ⟨turn, member, same⟩) stored?
    rw [(walk_afterTurns validAfter).kept (unwanted _), walk.kept (unwanted _),
      (walk_afterTurns valid).kept (unwanted _)]

def Request.Lists (request : Request) (fetch : String → Fetched) (key : Key) : Prop :=
  request.asks key.scope ∧ ∃ snapshot, (fetch key.scope.domain).result = .ok snapshot ∧
    (entryOf? snapshot key.sellerId).isSome

section Asked

variable {fetch : String → Fetched} {request : Request}
  (member : turn ∈ request.domains.map (turnAt fetch request.environment now))
  (reads : ∀ row ∈ store.sellers, request.asks row.key.scope → row.active = .whole 1 → row.Reads)

include member

theorem asks_of_mem : request.asks turn.scope := by
  obtain ⟨domain, there, rfl⟩ := List.mem_map.mp member
  simp [Request.asks, turnAt, there]

theorem fetched_of_mem : turn.fetched = fetch turn.scope.domain ∧ turn.now = now := by
  obtain ⟨domain, _, rfl⟩ := List.mem_map.mp member
  exact ⟨rfl, rfl⟩

include reads

theorem opens_of_reads : turn.Opens store := by
  intro snapshot _
  refine activeSellers_isOk.mpr fun row stored active => ?_
  simp only [SellerRow.isActiveIn, Bool.and_eq_true, decide_eq_true_eq] at active
  exact reads row stored (by rw [active.1, asks_of_mem member]) active.2

theorem ready_of_reads
    (listed : ∀ row ∈ store.sellers, request.Lists fetch row.key → ReadsTime row.createdAt) :
    turn.Ready store := by
  have asked := asks_of_mem member
  constructor
  · intro key row inside stored
    have same : row.key = key := Table.key_of_find? stored
    exact reads row (Table.mem_of_find? stored) (by rw [same, inside, asked])
  · intro snapshot fetched key row inside stored named
    have same : row.key = key := Table.key_of_find? stored
    refine listed row (Table.mem_of_find? stored) ?_
    rw [same]
    rw [(fetched_of_mem member).1, ← inside] at fetched
    exact ⟨by rw [inside, asked], snapshot, fetched, named⟩

end Asked

-- However calls of a run have failed: a second run of which no call fails leaves the sellers as one
-- run without failures would have left them. If what the registry lists can be stored, calls of the
-- second run fail only where a listed seller was stored at a time that does not read back.
theorem run_recovered (fetch : String → Fetched) (request : Request) (now : Time.Instant)
    (faults : Faults) {store : Store} (valid : store.Valid)
    (reads : ∀ row ∈ store.sellers, request.asks row.key.scope → row.active = .whole 1 → row.Reads) :
    let broken := (Sync.run (m := Id) fetch (answerWith Store.answer faults) request now
      (0, store)).run.store.2
    let second := (Sync.run (m := Id) fetch (noting Store.answer) request now (broken, [])).run.store
    let single := (Sync.run (m := Id) fetch Store.answer request now store).run.store
    ((∀ call ∈ second.2, call.2 = none) →
      second.1.sellers.Perm single.sellers ∧
        ∀ key, second.1.sellerRow? key = single.sellerRow? key) ∧
      (now.Storable →
        (∀ domain ∈ request.domains, ∀ snapshot, (fetch domain).result = .ok snapshot →
          StorableSnapshot snapshot) →
        (∀ row ∈ store.sellers, request.Lists fetch row.key → ReadsTime row.createdAt) →
        ∀ call ∈ second.2, call.2 = none) := by
  intro broken second single
  let turns := request.domains.map (turnAt fetch request.environment now)
  have steady : Steady turns := steady_turnAt fetch request now
  obtain ⟨walk, validBroken⟩ : Walk turns store broken ∧ broken.Valid := by
    unfold broken
    rw [store_of_asked]
    exact @walk_leftBy turns faults (0, store) valid
  have left : single = afterTurns turns store := store_of_asked Store.answer fetch request now store
  have noted : second = (afterTurns turns broken, callsOf turns broken) := by
    unfold second
    rw [store_of_asked, leftBy_noting]
    rfl
  rw [left, noted]
  constructor
  · intro unfailing
    have same := walk.recovered steady valid validBroken
      (fun turn member => opens_of_reads member reads)
      fun turn member => opens_of_unfailing validBroken unfailing (steady turn member) member
    exact ⟨Table.perm_of_find? (afterTurns_valid turns valid).distinct_sellers
      (afterTurns_valid turns validBroken).distinct_sellers same, same⟩
  · intro storable fits listed
    have times : ∀ turn ∈ turns, turn.now.Storable := fun turn member =>
      (fetched_of_mem member).2.symm ▸ storable
    have fit : ∀ turn ∈ turns, turn.Fits := by
      intro turn member
      obtain ⟨domain, there, rfl⟩ := List.mem_map.mp member
      exact fits domain there
    refine unfailing_of_ready validBroken steady times fit fun turn member => ?_
    exact (ready_of_reads member reads listed).walk (times turn member) (fit turn member)
      (steady turn member) walk

def oneDomain : Request := ⟨"prod", ["ONDC:RET10"]⟩

theorem oneDomain_asks {scope : Scope} (asked : oneDomain.asks scope) : scope = sampleScope := by
  obtain ⟨domain, environment⟩ := scope
  obtain ⟨sameEnvironment, sameDomain⟩ := Bool.and_eq_true_iff.mp asked
  cases of_decide_eq_true sameEnvironment
  cases List.mem_singleton.mp (List.contains_iff_mem.mp sameDomain)
  rfl

theorem sampleStore_created :
    ∀ row ∈ sampleStore.sellers, row.key.scope = sampleScope → ReadsTime row.createdAt := by
  have time : ReadsTime sampleTime.columnText := (readsTime_columnText _).mpr (by decide)
  simp only [sampleStore, List.forall_mem_cons]
  refine ⟨fun _ => time, fun _ => time, fun _ => time, ?_, ?_⟩
  · exact fun here => absurd here (by decide)
  · exact fun row member => absurd member List.not_mem_nil

-- The seller that comes back is missed by the first run and met by the second one.
theorem sampleStore_recovered :
    let broken := (Sync.run (m := Id) sampleFetch (answerWith Store.answer insertFails) oneDomain
      laterTime (0, sampleStore)).run.store.2
    let second := (Sync.run (m := Id) sampleFetch (noting Store.answer) oneDomain laterTime
      (broken, [])).run.store
    let single := (Sync.run (m := Id) sampleFetch Store.answer oneDomain laterTime
      sampleStore).run.store
    sampleStore.Valid ∧
      (∀ row ∈ sampleStore.sellers, oneDomain.asks row.key.scope → row.active = .whole 1 →
        row.Reads) ∧
      (∀ call ∈ second.2, call.2 = none) ∧ second.1.sellers.Perm single.sellers ∧
      broken.hasActive ⟨"C", sampleScope⟩ = false ∧ second.1.hasActive ⟨"C", sampleScope⟩ := by
  intro broken second single
  have reads : ∀ row ∈ sampleStore.sellers, oneDomain.asks row.key.scope →
      row.active = .whole 1 → row.Reads := by
    intro row member asked marked
    refine sampleStore_reads row member ?_
    simp [SellerRow.isActiveIn, oneDomain_asks asked, marked]
  obtain ⟨same, unfailing⟩ :=
    run_recovered sampleFetch oneDomain laterTime insertFails sampleStore_valid reads
  have answered : ∀ call ∈ second.2, call.2 = none := by
    refine unfailing (by decide) ?_ ?_
    · intro domain member
      rw [show domain = sampleScope.domain from List.mem_singleton.mp member]
      exact sampleFetch_fits laterTime
    · exact fun row member lists => sampleStore_created row member (oneDomain_asks lists.1)
  obtain ⟨perm, rows⟩ := same answered
  have met : single.hasActive ⟨"C", sampleScope⟩ := by decide +kernel
  refine ⟨sampleStore_valid, reads, answered, perm, by decide +kernel, ?_⟩
  unfold Store.hasActive at met ⊢
  rwa [rows]

end Run

end SellerDirectory.Sync
