import SellerDirectory.Proofs.Sync.Isolation
import SellerDirectory.Proofs.Sync.LastSeen
import SellerDirectory.Service.Handler

-- The status of a seller, asked for after a run on demand. A run may be asked for in a domain
-- without a name, and stores sellers there; but nobody can ask for the status of these, because a
-- question that leaves the domain empty counts as one without a domain.

namespace SellerDirectory.Service

open Registry Store

section Shared

variable {α : Type} {store : Store}

theorem run_shared (program : Program α) (store : Store) :
    program.run Shared.answer (.ofStore store) =
      ((program.run Store.answer store).1, .ofStore (program.run Store.answer store).2) := by
  induction program generalizing store with
  | done a => rfl
  | call call next ih => exact ih (store.answer call).1 (store.answer call).2

theorem leftBy_shared (turns : List Sync.Turn) (store : Store) :
    Sync.leftBy Shared.answer turns (.ofStore store) = .ofStore (Sync.afterTurns turns store) := by
  unfold Sync.leftBy
  induction turns generalizing store with
  | nil => rfl
  | cons turn rest ih =>
    rw [List.foldl_cons, run_shared]
    exact ih (turn.after store)

end Shared

section Status

variable {environment : String} {segment : List UInt8} {request : Request} {key : Key}
  {shared : Shared}

structure AsksStatus (environment : String) (segment : List UInt8) (request : Request) (key : Key) :
    Prop where
  sellerId : Http.segmentText? segment = some key.sellerId
  query : ∃ query, StatusQuery.ofPairs? request.query = some query ∧
    query.domain = some key.scope.domain ∧
      query.environment.getD environment = key.scope.environment

def served (progress : Catalog.Progress) : Response :=
  .success "Sync status retrieved successfully" Catalog.Progress.codec progress

def unnamed : Response :=
  .refusal 400 "seller_id and domain are required"

theorem status_of_progress (asks : AsksStatus environment segment request key)
    (seller : key.sellerId ≠ "") (domain : key.scope.domain ≠ "") {progress : Catalog.Progress}
    (found : shared.ask (·.progress? key) = .ok (some progress)) :
    status environment shared segment request = (served progress, []) := by
  obtain ⟨query, read, named, inside⟩ := asks.query
  have sellerGiven : key.sellerId.isEmpty = false := by simpa using seller
  have domainGiven : key.scope.domain.isEmpty = false := by simpa using domain
  unfold status
  simp only [asks.sellerId, read, named, inside, Option.getD_some, sellerGiven, domainGiven,
    Bool.or_self, Bool.false_eq_true, if_false, found]
  rfl

theorem status_of_unnamed (asks : AsksStatus environment segment request key)
    (domain : key.scope.domain = "") :
    status environment shared segment request = (unnamed, []) := by
  obtain ⟨query, read, named, inside⟩ := asks.query
  have refused : (key.sellerId.isEmpty || key.scope.domain.isEmpty) = true := by simp [domain]
  unfold status
  simp only [asks.sellerId, read, named, Option.getD_some, refused, if_true]
  rfl

end Status

section Run

variable {ω : Type} {resources : Resources (StateM ω)} {world : ω} {store : Store}
  {request : Request}

theorem sync_accepted
    (accepted : ((sync resources (.ofStore store) request).run world).1.response.status = 200) :
    ∃ asked, runRequest? request = some asked ∧
      ((sync resources (.ofStore store) request).run world).1.store =
        ((Sync.run resources.fetch Shared.answer asked (resources.now.run world).1
          (.ofStore store)).run (resources.now.run world).2).1.store := by
  unfold sync at accepted ⊢
  cases asked : runRequest? request with
  | none =>
    rw [asked] at accepted
    cases accepted
  | some sought =>
    rw [asked] at accepted
    dsimp only at accepted ⊢
    split at accepted
    · rename_i complete
      rw [if_pos complete]
      exact ⟨sought, rfl, rfl⟩
    · cases accepted

theorem turn_of_asked {asked : Sync.Request} {now : Time.Instant} {scope : Scope}
    (inside : asked.asks scope) :
    ∃ turn ∈ ((Sync.turnsOf resources.fetch asked now).run world).1, scope = turn.scope := by
  obtain ⟨environment, domain⟩ := Bool.and_eq_true_iff.mp inside
  have member :
      scope ∈ ((Sync.turnsOf resources.fetch asked now).run world).1.map Sync.Turn.scope := by
    rw [Sync.scopes_of_turns]
    refine List.mem_map.mpr ⟨scope.domain, List.contains_iff_mem.mp domain, ?_⟩
    rw [← of_decide_eq_true environment]
  obtain ⟨turn, there, same⟩ := List.mem_map.mp member
  exact ⟨turn, there, same.symm⟩

-- A run that was accepted, on a store that reads and with lookups that succeed: of each seller that
-- it leaves active where it was asked to, the status is served, and says that the seller was last
-- seen at the time of the run; but in a domain without a name no question for it is taken.
theorem status_after_run (resources : Resources (StateM ω)) (world : ω) (valid : store.Valid)
    (sellers : ∀ row ∈ store.sellers, row.Reads) (states : store.StatesRead)
    (clock : (resources.now.run world).1.Storable)
    (registry : ∀ domain world, ∃ snapshot,
      ((resources.fetch domain).run world).1.result = .ok snapshot ∧ Sync.StorableSnapshot snapshot)
    (request : Request) :
    let answered := ((sync resources (.ofStore store) request).run world).1
    answered.response.status = 200 →
      ∃ asked, runRequest? request = some asked ∧
        ∀ key, asked.asks key.scope → answered.store.store.hasActive key →
          ∃ progress, answered.store.store.progress? key = .ok (some progress) ∧
            progress.key = key ∧ progress.lastSeen = (resources.now.run world).1 ∧
            ∀ segment question, AsksStatus resources.environment segment question key →
              status resources.environment answered.store segment question =
                (if key.scope.domain = "" then unnamed else served progress, []) := by
  intro answered accepted
  obtain ⟨asked, read, left⟩ := sync_accepted accepted
  refine ⟨asked, read, fun key inside active => ?_⟩
  let now := (resources.now.run world).1
  let turns := ((Sync.turnsOf resources.fetch asked now).run (resources.now.run world).2).1
  have after : answered.store = .ofStore (Sync.afterTurns turns store) := by
    unfold answered
    rw [left, Sync.run_store, leftBy_shared]
  have fetched : ∀ turn ∈ turns, ∃ snapshot, turn.fetched.result = .ok snapshot ∧
      Sync.StorableSnapshot snapshot := by
    intro turn member
    obtain ⟨reached, same⟩ := Sync.fetched_of_turns member
    rw [same]
    exact registry turn.scope.domain reached
  rw [after] at active ⊢
  obtain ⟨named, progress, found, own, seen⟩ :=
    Sync.progress?_afterTurns valid clock (fun turn member => Sync.now_of_turns member) sellers
      states fetched (turn_of_asked inside) active
  refine ⟨progress, found, own, seen, fun segment question asks => ?_⟩
  split
  · rename_i domain
    exact status_of_unnamed asks domain
  · rename_i domain
    exact status_of_progress asks named domain found

end Run

section Samples

def sampleResources : Resources (StateM Unit) where
  environment := "preprod"
  fetch := fun _ => return ⟨.ok [Sync.sampleEntry "C" ""], []⟩
  now := return Sync.laterTime

def runIn (domain : String) : Request where
  method := "POST"
  target := "/v1/internal/registry-sync"
  contentType := some "application/json"
  body := Text.Utf8.bytes ("\x7b\"registry_env\":\"prod\",\"domains\":[\"" ++ domain ++ "\"]\x7d")

def statusIn (domain : String) : Request where
  method := "GET"
  target := "/v1/catalog-sync/sellers/C?registry_env=prod&domain=" ++ domain
  contentType := none
  body := []

-- The seller was there before, and a pull has failed.
def lapsedStore : Store where
  sellers :=
    [retire Sync.sampleTime
      (.ofSeller ((Sync.sampleEntry "C" "").toSeller Sync.sampleScope Sync.sampleTime))]
  states :=
    [{ StateRow.unpulled ⟨"C", Sync.sampleScope⟩ Sync.sampleTime with
      status := Catalog.Status.failed.name
      lastError := some "timeout" }]

theorem lapsedStore_valid : lapsedStore.Valid :=
  ⟨by decide, by decide, by decide⟩

theorem lapsedStore_reads : ∀ row ∈ lapsedStore.sellers, row.Reads := by
  intro row member
  cases List.mem_singleton.mp member
  have time : Sync.sampleTime.Storable := by decide
  obtain ⟨validFrom, validUntil⟩ := Sync.sampleEntry_storable "C"
  have reads : (SellerRow.ofSeller ((Sync.sampleEntry "C" "").toSeller Sync.sampleScope
      Sync.sampleTime)).Reads := by
    rw [SellerRow.reads_ofSeller]
    exact ⟨validFrom, validUntil, time, time, time⟩
  exact reads.retire time

theorem lapsedStore_statesRead : lapsedStore.StatesRead := by
  intro row member
  cases List.mem_singleton.mp member
  exact ⟨_, by rfl⟩

theorem sampleResources_fetches (domain : String) (world : Unit) : ∃ snapshot,
    ((sampleResources.fetch domain).run world).1.result = .ok snapshot ∧
      Sync.StorableSnapshot snapshot := by
  refine ⟨[Sync.sampleEntry "C" ""], rfl, fun id entry listed => ?_⟩
  cases List.mem_singleton.mp (Sync.mem_of_entryOf? listed)
  exact Sync.sampleEntry_storable "C"

theorem lapsedStore_served :
    lapsedStore.Valid ∧ (∀ row ∈ lapsedStore.sellers, row.Reads) ∧ lapsedStore.StatesRead ∧
      (sampleResources.now.run ()).1.Storable ∧
      (∀ domain world, ∃ snapshot,
        ((sampleResources.fetch domain).run world).1.result = .ok snapshot ∧
          Sync.StorableSnapshot snapshot) ∧
      AsksStatus sampleResources.environment (Text.Utf8.bytes "C") (statusIn "ONDC:RET10")
        ⟨"C", Sync.sampleScope⟩ ∧
      let answered := ((sync sampleResources (.ofStore lapsedStore) (runIn "ONDC:RET10")).run ()).1
      answered.response.status = 200 ∧
        ∃ progress, progress.key = ⟨"C", Sync.sampleScope⟩ ∧ progress.lastSeen = Sync.laterTime ∧
          status sampleResources.environment answered.store (Text.Utf8.bytes "C")
            (statusIn "ONDC:RET10") = (served progress, []) := by
  have clock : (sampleResources.now.run ()).1.Storable := by decide
  have asks : AsksStatus sampleResources.environment (Text.Utf8.bytes "C") (statusIn "ONDC:RET10")
      ⟨"C", Sync.sampleScope⟩ :=
    ⟨by decide +kernel, ⟨some "ONDC:RET10", some "prod"⟩, by decide +kernel, rfl, rfl⟩
  have accepted : ((sync sampleResources (.ofStore lapsedStore) (runIn "ONDC:RET10")).run
      ()).1.response.status = 200 := by
    decide +kernel
  have active : ((sync sampleResources (.ofStore lapsedStore) (runIn "ONDC:RET10")).run
      ()).1.store.store.hasActive ⟨"C", Sync.sampleScope⟩ := by
    decide +kernel
  have known : runRequest? (runIn "ONDC:RET10") = some ⟨"prod", ["ONDC:RET10"]⟩ := by decide +kernel
  obtain ⟨asked, read, statuses⟩ := status_after_run sampleResources () lapsedStore_valid
    lapsedStore_reads lapsedStore_statesRead clock sampleResources_fetches (runIn "ONDC:RET10")
    accepted
  cases known.symm.trans read
  obtain ⟨progress, _, own, seen, answers⟩ := statuses ⟨"C", Sync.sampleScope⟩ (by decide) active
  have answer := answers _ _ asks
  rw [if_neg (by decide)] at answer
  exact ⟨lapsedStore_valid, lapsedStore_reads, lapsedStore_statesRead, clock,
    sampleResources_fetches, asks, accepted, progress, own, seen, answer⟩

theorem unnamed_unserved :
    ¬ ∀ (resources : Resources (StateM Unit)) (store : Store) (request : Request), store.Valid →
      (∀ row ∈ store.sellers, row.Reads) → store.StatesRead → (resources.now.run ()).1.Storable →
        (∀ domain world, ∃ snapshot,
          ((resources.fetch domain).run world).1.result = .ok snapshot ∧
            Sync.StorableSnapshot snapshot) →
          let answered := ((sync resources (.ofStore store) request).run ()).1
          answered.response.status = 200 →
            ∃ asked, runRequest? request = some asked ∧
              ∀ key, asked.asks key.scope → answered.store.store.hasActive key →
                ∃ progress, progress.key = key ∧ progress.lastSeen = (resources.now.run ()).1 ∧
                  ∀ segment question, AsksStatus resources.environment segment question key →
                    status resources.environment answered.store segment question =
                      (served progress, []) := by
  intro always
  obtain ⟨asked, read, statuses⟩ := always sampleResources lapsedStore (runIn "") lapsedStore_valid
    lapsedStore_reads lapsedStore_statesRead (by decide) sampleResources_fetches (by decide +kernel)
  have known : runRequest? (runIn "") = some ⟨"prod", [""]⟩ := by decide +kernel
  cases known.symm.trans read
  have asks : AsksStatus sampleResources.environment (Text.Utf8.bytes "C") (statusIn "")
      ⟨"C", "", "prod"⟩ :=
    ⟨by decide +kernel, ⟨some "", some "prod"⟩, by decide +kernel, rfl, rfl⟩
  obtain ⟨progress, _, _, answers⟩ := statuses ⟨"C", "", "prod"⟩ (by decide) (by decide +kernel)
  have answered := answers _ _ asks
  rw [status_of_unnamed asks rfl] at answered
  have same : (400 : Nat) = 200 := congrArg (fun answer => answer.1.status) answered
  cases same

end Samples

end SellerDirectory.Service
