import SellerDirectory.Proofs.Sync.Turn

-- A run that is repeated with the same answers of the registry finds nothing to do. A turn is
-- settled by itself, and no turn of another scope unsettles it, because whether it is settled
-- depends on the rows of its scope alone.

namespace SellerDirectory.Sync

open Registry Store

section Settled

variable {scope : Scope} {now : Time.Instant} {snapshot : List Subscriber} {key : Key}
  {store : Store}

theorem syncedRow?_twice (stored? : Option SellerRow) :
    syncedRow? scope now snapshot key (syncedRow? scope now snapshot key stored?) =
      syncedRow? scope now snapshot key stored? := by
  unfold syncedRow?
  split
  · cases entryOf? snapshot key.sellerId with
    | some entry => rfl
    | none =>
      cases stored? with
      | none => rfl
      | some row => by_cases marked : row.active = .whole 1 <;> simp [marked]
  · rfl

theorem syncedState?_of_active {active : Bool} {state? : Option StateRow}
    (listed : key.scope = scope → (entryOf? snapshot key.sellerId).isSome → active) :
    syncedState? scope now snapshot key active state? = state? := by
  unfold syncedState?
  cases state? with
  | some row => rfl
  | none =>
    rw [if_neg]
    rintro ⟨inside, named, idle⟩
    rw [listed inside named] at idle
    cases idle

theorem Synced.settled {after : Store} (synced : Synced scope now snapshot store after)
    (rows : ∀ key, key.scope = scope →
      syncedRow? scope now snapshot key (store.sellerRow? key) = store.sellerRow? key) :
    after = store := by
  have sameRows (key : Key) : after.sellerRow? key = store.sellerRow? key := by
    rw [synced.rows]
    by_cases inside : key.scope = scope
    · exact rows key inside
    · rw [syncedRow?, if_neg inside]
  have sameStates (key : Key) : after.stateRow? key = store.stateRow? key := by
    rw [synced.states]
    refine syncedState?_of_active fun inside listed => ?_
    have active := synced.hasActive key
    rw [if_pos inside, listed, Store.hasActive, sameRows] at active
    exact active
  have sellers := Table.eq_of_find? synced.valid.distinct_sellers synced.kept.sellers sameRows
  have states := Table.eq_of_find? synced.valid.distinct_states synced.kept.states sameStates
  cases after
  cases store
  cases sellers
  cases states
  rfl

section Nobody

variable {active : List Seller} (valid : store.Valid)
  (read : store.activeSellers scope = .ok active)
  (listed : ∀ id, store.hasActive ⟨id, scope⟩ = (entryOf? snapshot id).isSome)

-- Where just the listed sellers are active, a plan has nobody to insert and nobody to deactivate.
include valid read listed

theorem nobody_new : (planOf scope now snapshot active).toInsert = [] := by
  rw [List.eq_nil_iff_forall_not_mem]
  intro seller member
  obtain ⟨inside, named, idle⟩ := (mem_toInsert valid read).mp (List.mem_map_of_mem member)
  have active : store.hasActive seller.key = (entryOf? snapshot seller.key.sellerId).isSome := by
    rw [← listed, ← inside]
  rw [active, named] at idle
  cases idle

theorem nobody_gone : (planOf scope now snapshot active).toDeactivate = [] := by
  rw [List.eq_nil_iff_forall_not_mem]
  intro id member
  obtain ⟨found, unlisted⟩ := (mem_toDeactivate valid read).mp member
  rw [listed, unlisted] at found
  cases found

end Nobody

end Settled

namespace Turn

variable {turn other : Turn} {store : Store}

theorem after_twice (valid : store.Valid) :
    turn.after (turn.after store) = turn.after store := by
  cases turn.course valid with
  | unfetched failure fetched same => rw [same, same]
  | unread snapshot failure fetched read same => rw [same, same]
  | synced snapshot active fetched read synced =>
    cases turn.course synced.valid with
    | unfetched failure fetched same => exact same
    | unread snapshot failure fetched read same => exact same
    | synced snapshot' active' fetched' read' again =>
      cases fetched.symm.trans fetched'
      refine again.settled fun key _ => ?_
      rw [synced.rows, syncedRow?_twice]

theorem settled_elsewhere (valid : store.Valid) (apart : other.scope ≠ turn.scope)
    (settled : turn.after store = store) :
    turn.after (other.after store) = other.after store := by
  cases other.course valid with
  | unfetched failure fetched same => rw [same, settled]
  | unread snapshot failure fetched read same => rw [same, settled]
  | synced snapshot active fetched read synced =>
    have same (key : Key) (inside : key.scope = turn.scope) :
        (other.after store).sellerRow? key = store.sellerRow? key :=
      synced.elsewhere fun equal => apart (equal.symm.trans inside)
    cases turn.course synced.valid with
    | unfetched failure fetched same => exact same
    | unread snapshot failure fetched read same => exact same
    | synced snapshot' active' fetched' read' again =>
      obtain ⟨active, read⟩ :=
        (activeSellers_isOk_congr valid synced.valid same).mpr ⟨active', read'⟩
      have before := turn.after_synced valid fetched' read
      refine again.settled fun key inside => ?_
      rw [same key inside, ← before.rows, settled]

theorem settled_summary (valid : store.Valid) (settled : turn.after store = store) :
    (turn.summary store).inserted = 0 ∧ (turn.summary store).deactivated = 0 := by
  unfold summary
  cases fetched : turn.fetched.result with
  | error failure => rw [run_unfetched turn fetched]; exact ⟨rfl, rfl⟩
  | ok snapshot =>
    cases read : store.activeSellers turn.scope with
    | error failure => rw [run_unread turn fetched read]; exact ⟨rfl, rfl⟩
    | ok active =>
      have listed (id : String) :
          store.hasActive ⟨id, turn.scope⟩ = (entryOf? snapshot id).isSome := by
        have active := (turn.after_synced valid fetched read).hasActive ⟨id, turn.scope⟩
        rwa [settled, if_pos rfl] at active
      rw [(does_synced turn valid fetched read).run]
      simp only [Plan.summary, nobody_new valid read listed, nobody_gone valid read listed,
        deactivate_eq, isAmong_nil]
      simp

end Turn

def Steady (turns : List Turn) : Prop :=
  ∀ turn ∈ turns, ∀ other ∈ turns, other.scope = turn.scope → other = turn

theorem settled_afterTurns {turn : Turn} {turns : List Turn} {store : Store} (valid : store.Valid)
    (steady : ∀ other ∈ turns, other.scope = turn.scope → other = turn)
    (settled : turn.after store = store) :
    turn.after (afterTurns turns store) = afterTurns turns store := by
  refine afterTurns_preserves (fun store => turn.after store = store) ?_ valid settled
  intro other member store valid settled
  by_cases same : other.scope = turn.scope
  · rw [steady other member same, Turn.after_twice valid]
  · exact Turn.settled_elsewhere valid same settled

-- The turn itself settles, and the later ones leave it so.
theorem turns_settle {turns : List Turn} {store : Store} (valid : store.Valid)
    (steady : Steady turns) :
    ∀ turn ∈ turns, turn.after (afterTurns turns store) = afterTurns turns store := by
  induction turns generalizing store with
  | nil => exact fun _ member => absurd member List.not_mem_nil
  | cons first rest ih =>
    have validAfter := first.after_valid valid
    rw [afterTurns_cons]
    intro turn member
    rcases List.mem_cons.mp member with rfl | later
    · exact settled_afterTurns validAfter (fun other later => steady turn member other
        (List.mem_cons_of_mem _ later)) (Turn.after_twice valid)
    · exact ih validAfter (fun turn here other there => steady turn (List.mem_cons_of_mem _ here) other
        (List.mem_cons_of_mem _ there)) turn later

theorem afterTurns_settled {turns : List Turn} {store : Store}
    (settled : ∀ turn ∈ turns, turn.after store = store) : afterTurns turns store = store := by
  induction turns with
  | nil => rfl
  | cons first rest ih =>
    obtain ⟨here, later⟩ := List.forall_mem_cons.mp settled
    rw [afterTurns_cons, here, ih later]

theorem summaries_settled {turns : List Turn} {store : Store} (valid : store.Valid)
    (settled : ∀ turn ∈ turns, turn.after store = store) :
    ∀ summary ∈ summaries turns store, summary.inserted = 0 ∧ summary.deactivated = 0 := by
  induction turns with
  | nil => exact fun _ member => absurd member List.not_mem_nil
  | cons first rest ih =>
    obtain ⟨here, later⟩ := List.forall_mem_cons.mp settled
    unfold summaries
    rw [here, List.forall_mem_cons]
    exact ⟨Turn.settled_summary valid here, ih later⟩

theorem turns_of_function (fetch : String → Fetched) (request : Request) (now : Time.Instant) :
    (turnsOf (m := Id) fetch request now).run =
      request.domains.map fun domain => ⟨⟨domain, request.environment⟩, now, fetch domain⟩ := by
  simp only [turnsOf, List.idRun_mapM]
  rfl

theorem steady_of_function (fetch : String → Fetched) (request : Request) (now : Time.Instant) :
    Steady (turnsOf (m := Id) fetch request now).run := by
  rw [turns_of_function]
  intro turn here other there same
  obtain ⟨domain, _, rfl⟩ := List.mem_map.mp here
  obtain ⟨domain', _, rfl⟩ := List.mem_map.mp there
  have domains : domain' = domain := congrArg Scope.domain same
  rw [domains]

theorem summaries_domains (turns : List Turn) {store : Store} :
    (summaries turns store).map Summary.domain = turns.map (·.scope.domain) := by
  induction turns generalizing store with
  | nil => rfl
  | cons turn rest ih => rw [summaries, List.map_cons, List.map_cons, turn.summary_domain, ih]

-- The same run once more changes nothing in either table, and reports no seller as new or gone.
theorem run_repeated (fetch : String → Fetched) (request : Request) (now : Time.Instant)
    {store : Store} (valid : store.Valid) :
    let first := (Sync.run (m := Id) fetch Store.answer request now store).run
    let second := (Sync.run (m := Id) fetch Store.answer request now first.store).run
    second.store = first.store ∧
      (second.report request.environment now).domains.map Summary.domain = request.domains ∧
      ∀ summary ∈ (second.report request.environment now).domains,
        summary.inserted = 0 ∧ summary.deactivated = 0 := by
  intro first second
  have stores (store : Store) :
      (Sync.run (m := Id) fetch Store.answer request now store).run.store =
        afterTurns (turnsOf (m := Id) fetch request now).run store := by
    rw [run_eq]
    exact store_of_take _ _
  have reports : (second.report request.environment now).domains =
      summaries (turnsOf (m := Id) fetch request now).run first.store := by
    unfold second
    rw [run_eq]
    exact summaries_of_turns _ _
  have validAfter : first.store.Valid := by
    unfold first
    rw [stores]
    exact afterTurns_valid _ valid
  have settled : ∀ turn ∈ (turnsOf (m := Id) fetch request now).run,
      turn.after first.store = first.store := by
    unfold first
    rw [stores]
    exact turns_settle valid (steady_of_function fetch request now)
  refine ⟨?_, ?_, ?_⟩
  · unfold second
    rw [stores, afterTurns_settled settled]
  · rw [reports, summaries_domains, turns_of_function]
    simp [Function.comp_def]
  · rw [reports]
    exact summaries_settled validAfter settled

theorem sampleStore_repeated :
    sampleStore.Valid ∧
      let first := (Sync.run (m := Id) sampleFetch Store.answer sampleRequest laterTime
        sampleStore).run
      let second := (Sync.run (m := Id) sampleFetch Store.answer sampleRequest laterTime
        first.store).run
      second.store = first.store ∧
        ∀ summary ∈ (second.report "prod" laterTime).domains,
          summary.inserted = 0 ∧ summary.deactivated = 0 := by
  obtain ⟨same, _, none_new⟩ :=
    run_repeated sampleFetch sampleRequest laterTime sampleStore_valid
  exact ⟨sampleStore_valid, same, none_new⟩

end SellerDirectory.Sync
