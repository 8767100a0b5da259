import SellerDirectory.Proofs.Store.Reading
import SellerDirectory.Proofs.Store.Valid
import SellerDirectory.Proofs.Sync.Plan

-- What the run for one domain does to a store on which no call fails but on its own. Once the
-- active sellers are read, no call fails at all, and the row of every key afterwards is told by the
-- snapshot and by the row of the same key before.

namespace SellerDirectory.Sync

open Registry Store

section Attempt

variable {σ : Type} {answer : σ → (call : Call) → Except Failure call.Reply × σ}
  {domain : String} {step : Step} {state after : σ}

theorem attempt_does {call : Call} {reply : call.Reply}
    (replied : answer state call = (.ok reply, after)) :
    (attempt domain step call).Does answer state (some reply, []) after :=
  .bind (.perform replied) (.pure _ _)

theorem attemptUnless_idle (call : Call) :
    (attemptUnless true domain step call).Does answer state (none, []) state :=
  .pure _ _

end Attempt

section Writes

variable {store : Store} {scope : Scope} {now : Time.Instant} {domain : String} {step : Step}

def countUnless (idle : Bool) (count : Nat) : Option Nat :=
  if idle then none else some count

theorem insert_does (sellers : List Seller) :
    (attemptUnless sellers.isEmpty domain step (.insert sellers)).Does Store.answer store
      (countUnless sellers.isEmpty sellers.length, []) (store.insert sellers) := by
  cases sellers with
  | nil => exact attemptUnless_idle _
  | cons first rest => exact attempt_does rfl

theorem update_does {sellers : List Seller}
    (stored : ∀ seller ∈ sellers, Table.contains seller.key store.sellers) :
    (attemptUnless sellers.isEmpty domain step (.update sellers)).Does Store.answer store
      (countUnless sellers.isEmpty sellers.length, []) (store.insert sellers) := by
  cases sellers with
  | nil => exact attemptUnless_idle _
  | cons first rest => exact attempt_does (answer_update stored)

theorem initStates_does {sellers : List Seller}
    (stored : ∀ seller ∈ sellers, Table.contains seller.key store.sellers) :
    (initStates domain now sellers).Does Store.answer store [] (store.withStates now sellers) := by
  induction sellers generalizing store with
  | nil => exact .pure _ _
  | cons first rest ih =>
    obtain ⟨here, later⟩ := List.forall_mem_cons.mp stored
    have firstStored : Table.contains (Catalog.State.initial first now).key store.sellers := here
    obtain ⟨added, done⟩ := answer_addState firstStored
    have kept : (store.withState (.initial first now)).sellers = store.sellers := withState_sellers
    refine .bind (attempt_does done) (.bind (ih fun seller member => ?_) (.pure _ _))
    rw [kept]
    exact later seller member

theorem deactivate_does (ids : List String) :
    (attemptUnless ids.isEmpty domain step (.deactivate ids scope now)).Does Store.answer store
      (countUnless ids.isEmpty (store.deactivate ids scope now).1, [])
      (store.deactivate ids scope now).2 := by
  cases ids with
  | nil =>
    rw [deactivate_nil]
    exact attemptUnless_idle _
  | cons first rest => exact attempt_does rfl

-- The store when a plan is written but for the sellers that go.
def Plan.arrived (plan : Plan) (now : Time.Instant) (store : Store) : Store :=
  ((store.insert plan.toInsert).insert plan.toUpdate).withStates now plan.toInsert

def Plan.written (plan : Plan) (scope : Scope) (now : Time.Instant) (store : Store) : Store :=
  ((plan.arrived now store).deactivate plan.toDeactivate scope now).2

def Plan.summary (plan : Plan) (scope : Scope) (now : Time.Instant) (listed : Nat)
    (store : Store) : Summary where
  domain := scope.domain
  inserted := plan.toInsert.length
  updated := plan.toUpdate.length
  deactivated := ((plan.arrived now store).deactivate plan.toDeactivate scope now).1
  listed

theorem countUnless_isEmpty {α : Type} (l : List α) :
    (countUnless l.isEmpty l.length).getD 0 = l.length := by
  cases l <;> rfl

theorem countUnless_deactivate (ids : List String) :
    (countUnless ids.isEmpty (store.deactivate ids scope now).1).getD 0 =
      (store.deactivate ids scope now).1 := by
  cases ids with
  | nil => rw [deactivate_nil]; rfl
  | cons first rest => rfl

theorem writePlan_does {plan : Plan} {listed : Nat}
    (stored : ∀ seller ∈ plan.toUpdate, Table.contains seller.key store.sellers) :
    (writePlan scope now listed plan).Does Store.answer store
      ⟨plan.summary scope now listed store, []⟩ (plan.written scope now store) := by
  have inserted := insert_extends store plan.toInsert
  have refreshed := insert_extends (store.insert plan.toInsert) plan.toUpdate
  unfold writePlan
  refine .bind (insert_does _) ?_
  refine .bind (update_does fun seller member => inserted.contains_seller (stored seller member)) ?_
  by_cases idle : plan.toInsert = []
  · simp only [idle]
    refine .bind (.pure _ _) (.bind (deactivate_does _) ?_)
    simp only [Plan.summary, Plan.written, Plan.arrived, idle, countUnless_isEmpty,
      countUnless_deactivate, List.append_nil]
    exact .pure _ _
  · have some_inserted : (countUnless plan.toInsert.isEmpty plan.toInsert.length).isSome := by
      simp [countUnless, idle]
    simp only [some_inserted, if_true]
    refine .bind (initStates_does fun seller member =>
      refreshed.contains_seller (contains_insert store member)) (.bind (deactivate_does _) ?_)
    simp only [Plan.summary, Plan.written, Plan.arrived, countUnless_isEmpty,
      countUnless_deactivate, List.append_nil]
    exact .pure _ _

end Writes

-- What a snapshot makes of the row of a key. One that the registry lists gets the columns of its
-- entry and keeps the time at which it was first stored; an active one that is listed no more is
-- marked; any other row stays.
def syncedRow? (scope : Scope) (now : Time.Instant) (snapshot : List Subscriber) (key : Key)
    (stored? : Option SellerRow) : Option SellerRow :=
  if key.scope = scope then
    match entryOf? snapshot key.sellerId with
    | some entry =>
      some { SellerRow.ofSeller (entry.toSeller scope now) with
        createdAt := (stored?.map SellerRow.createdAt).getD now.columnText }
    | none =>
      stored?.map fun row =>
        if row.active = .whole 1 then
          { row with active := .whole 0, updatedAt := now.columnText }
        else row
  else stored?

-- What a snapshot makes of the state of a key, where the row of the key is given as well. Only a
-- listed seller that is not active and has no state gets one.
def syncedState? (scope : Scope) (now : Time.Instant) (snapshot : List Subscriber) (key : Key)
    (active : Bool) (state? : Option StateRow) : Option StateRow :=
  match state? with
  | some row => some row
  | none =>
    if key.scope = scope ∧ (entryOf? snapshot key.sellerId).isSome ∧ active = false then
      some (.unpulled key now)
    else none

section Synced

variable {store : Store} {scope : Scope} {now : Time.Instant} {snapshot : List Subscriber}
  {active : List Seller} {key : Key}

abbrev planOf (scope : Scope) (now : Time.Instant) (snapshot : List Subscriber)
    (active : List Seller) : Plan :=
  Plan.between (listedSellers scope now snapshot) active

theorem withId?_active (valid : store.Valid) (read : store.activeSellers scope = .ok active)
    (id : String) : (withId? id active).isSome = store.hasActive ⟨id, scope⟩ := by
  rw [Bool.eq_iff_iff, withId?_isSome, mem_ids_of_active valid read]

theorem updates_stored (read : store.activeSellers scope = .ok active) {known : List Seller}
    (among : known ⊆ active) {seller : Seller}
    (member : seller ∈ (planOf scope now snapshot known).toUpdate) :
    Table.contains seller.key store.sellers := by
  obtain ⟨origin, listed, stored, found, rfl⟩ := Plan.mem_toUpdate member
  have named : stored.sellerId = origin.sellerId := by simpa using List.find?_some found
  obtain ⟨inside, present⟩ := stored_of_active read (among (List.mem_of_find?_eq_some found))
  have same : stored.key = origin.key := by
    unfold Seller.key
    rw [named, inside, scope_of_listed listed]
  rw [same] at present
  exact present

theorem syncDomain_does (valid : store.Valid) (read : store.activeSellers scope = .ok active) :
    (syncDomain scope now (.ok snapshot)).Does Store.answer store
      ⟨(planOf scope now snapshot active).summary scope now snapshot.length store,
        skippedEntries scope.domain snapshot⟩
      ((planOf scope now snapshot active).written scope now store) := by
  have once : lastOfEachId active = active :=
    lastOfEachId_of_single (ids_of_active_distinct valid read)
  have reply : Store.answer store (.active scope) = (.ok active, store) := by
    simp only [Store.answer, read]
  refine .bind (.perform reply) ?_
  simp only [once]
  refine .bind (writePlan_does fun seller member => updates_stored read (List.Subset.refl _) member) ?_
  simp only [List.append_nil]
  exact .pure _ _

theorem within_toInsert : ∀ seller ∈ (planOf scope now snapshot active).toInsert,
    seller.scope = scope :=
  fun _ member => scope_of_listed (Plan.mem_toInsert member)

theorem within_toUpdate : ∀ seller ∈ (planOf scope now snapshot active).toUpdate,
    seller.scope = scope := by
  intro seller member
  obtain ⟨origin, listed, stored, _, rfl⟩ := Plan.mem_toUpdate member
  have same : origin.scope = scope := scope_of_listed listed
  exact same

-- Whether a seller is new or not, it ends with the same row.
theorem sellerRow?_arrived (valid : store.Valid)
    (read : store.activeSellers scope = .ok active) :
    ((planOf scope now snapshot active).arrived now store).sellerRow? key =
      if key.scope = scope then
        match entryOf? snapshot key.sellerId with
        | some entry => some (.over (store.sellerRow? key) (entry.toSeller scope now))
        | none => store.sellerRow? key
      else store.sellerRow? key := by
  have single := listedSellers_single scope now snapshot
  have kept : ((planOf scope now snapshot active).arrived now store).sellerRow? key =
      ((store.insert (planOf scope now snapshot active).toInsert).insert
        (planOf scope now snapshot active).toUpdate).sellerRow? key := by
    unfold Plan.arrived Store.sellerRow?
    rw [withStates_sellers]
  rw [kept, sellerRow?_insert (keys_distinct (Plan.toUpdate_single single)),
    sellerRow?_insert (keys_distinct (Plan.toInsert_single single)),
    find?_within within_toUpdate, find?_within within_toInsert]
  by_cases inside : key.scope = scope
  · subst inside
    have known := withId?_active valid read key.sellerId
    simp only [if_true, Plan.withId?_toInsert single, Plan.withId?_toUpdate single,
      withId?_listedSellers]
    cases entryOf? snapshot key.sellerId with
    | none => cases withId? key.sellerId active <;> rfl
    | some entry =>
      cases found : withId? key.sellerId active with
      | none => rfl
      | some stored =>
        rw [found] at known
        obtain ⟨row, there, _⟩ := (Option.any_eq_true _ _).mp known.symm
        have there : store.sellerRow? key = some row := there
        simp only [there, Option.isSome_some, if_true, Option.map_some, Option.bind_some, over_stored]
  · simp [inside]

theorem mem_toDeactivate (valid : store.Valid) (read : store.activeSellers scope = .ok active)
    {id : String} :
    id ∈ (planOf scope now snapshot active).toDeactivate ↔
      store.hasActive ⟨id, scope⟩ ∧ entryOf? snapshot id = none := by
  rw [Plan.mem_toDeactivate, withId?_active valid read, withId?_listedSellers,
    Option.map_eq_none_iff]

theorem isAmong_toDeactivate (valid : store.Valid)
    (read : store.activeSellers scope = .ok active) (row : SellerRow) :
    isAmong scope (planOf scope now snapshot active).toDeactivate row =
      (row.isActiveIn scope && store.hasActive ⟨row.key.sellerId, scope⟩
        && (entryOf? snapshot row.key.sellerId).isNone) := by
  have going : row.key.sellerId ∈ (planOf scope now snapshot active).toDeactivate ↔
      store.hasActive ⟨row.key.sellerId, scope⟩ ∧ entryOf? snapshot row.key.sellerId = none :=
    mem_toDeactivate valid read
  rw [Bool.eq_iff_iff]
  simp [isAmong, going, and_assoc]

-- The row of a listed seller is written before others are deactivated, and not touched again.
theorem sellerRow?_written (valid : store.Valid)
    (read : store.activeSellers scope = .ok active) :
    ((planOf scope now snapshot active).written scope now store).sellerRow? key =
      syncedRow? scope now snapshot key (store.sellerRow? key) := by
  unfold Plan.written syncedRow?
  rw [sellerRow?_deactivate, sellerRow?_arrived valid read]
  by_cases inside : key.scope = scope
  · subst inside
    simp only [if_true]
    cases listed : entryOf? snapshot key.sellerId with
    | some entry =>
      have named : (SellerRow.over (store.sellerRow? key) (entry.toSeller key.scope now)).key.sellerId
          = key.sellerId := id_of_entryOf? listed
      rw [Option.map_some, SellerRow.retiredAmong, isAmong_toDeactivate valid read, named, listed,
        Option.isNone_some, Bool.and_false]
      rfl
    | none =>
      cases stored : store.sellerRow? key with
      | none => rfl
      | some row =>
        have same : row.key = key := Table.key_of_find? stored
        rw [Option.map_some, SellerRow.retiredAmong, isAmong_toDeactivate valid read, same, listed]
        by_cases marked : row.active = .whole 1 <;>
          simp [SellerRow.isActiveIn, Store.hasActive, same, stored, marked, retire]
  · cases stored : store.sellerRow? key with
    | none => simp [inside]
    | some row =>
      have same : row.key = key := Table.key_of_find? stored
      simp [SellerRow.retiredAmong, isAmong, SellerRow.isActiveIn, same, inside]

theorem mem_toInsert (valid : store.Valid) (read : store.activeSellers scope = .ok active) :
    key ∈ (planOf scope now snapshot active).toInsert.map Seller.key ↔
      key.scope = scope ∧ (entryOf? snapshot key.sellerId).isSome ∧
        store.hasActive key = false := by
  have single := listedSellers_single scope now snapshot
  have found : key ∈ (planOf scope now snapshot active).toInsert.map Seller.key ↔
      ((planOf scope now snapshot active).toInsert.find? (·.key = key)).isSome := by
    simp
  rw [found, find?_within within_toInsert]
  by_cases inside : key.scope = scope
  · subst inside
    rw [if_pos rfl, Plan.withId?_toInsert single, withId?_active valid read, withId?_listedSellers]
    cases store.hasActive key <;> simp
  · simp [inside]

theorem stateRow?_written (valid : store.Valid)
    (read : store.activeSellers scope = .ok active) :
    ((planOf scope now snapshot active).written scope now store).stateRow? key =
      syncedState? scope now snapshot key (store.hasActive key) (store.stateRow? key) := by
  have last : ((planOf scope now snapshot active).written scope now store).stateRow? key =
      ((planOf scope now snapshot active).arrived now store).stateRow? key := by
    unfold Plan.written
    rw [deactivate_eq]
    rfl
  have before : ((store.insert (planOf scope now snapshot active).toInsert).insert
      (planOf scope now snapshot active).toUpdate).stateRow? key = store.stateRow? key := rfl
  unfold Plan.arrived at last
  unfold syncedState?
  rw [last, stateRow?_withStates, before]
  simp only [mem_toInsert valid read]
  cases store.stateRow? key <;> rfl

theorem active_synced (stored? : Option SellerRow) :
    (syncedRow? scope now snapshot key stored?).any (fun row => row.active = .whole 1) =
      if key.scope = scope then (entryOf? snapshot key.sellerId).isSome
      else stored?.any fun row => row.active = .whole 1 := by
  unfold syncedRow?
  split
  · cases entryOf? snapshot key.sellerId with
    | some entry => rfl
    | none =>
      cases stored? with
      | none => rfl
      | some row => by_cases marked : row.active = .whole 1 <;> simp [marked]
  · rfl

def StorableEntry (entry : Subscriber) : Prop :=
  (∀ instant ∈ instant? entry.validFrom, instant.Storable) ∧
    ∀ instant ∈ instant? entry.validUntil, instant.Storable

instance (entry : Subscriber) : Decidable (StorableEntry entry) :=
  inferInstanceAs (Decidable (_ ∧ _))

theorem reads_listed (storable : now.Storable) {entry : Subscriber} {created : String} :
    SellerRow.Reads { SellerRow.ofSeller (entry.toSeller scope now) with createdAt := created } ↔
      StorableEntry entry ∧ ReadsTime created := by
  rw [SellerRow.reads_refreshed]
  simp only [Subscriber.toSeller, StorableEntry, storable, and_true, true_and, and_assoc]

structure Synced (scope : Scope) (now : Time.Instant) (snapshot : List Subscriber)
    (before after : Store) : Prop where
  rows : ∀ key,
    after.sellerRow? key = syncedRow? scope now snapshot key (before.sellerRow? key)
  states : ∀ key, after.stateRow? key =
    syncedState? scope now snapshot key (before.hasActive key) (before.stateRow? key)
  kept : Extends before after
  valid : after.Valid

theorem Synced.hasActive {before after : Store} (synced : Synced scope now snapshot before after)
    (key : Key) :
    after.hasActive key =
      if key.scope = scope then (entryOf? snapshot key.sellerId).isSome
      else before.hasActive key := by
  unfold Store.hasActive
  rw [synced.rows, active_synced]

theorem Synced.elsewhere {before after : Store} (synced : Synced scope now snapshot before after)
    (outside : key.scope ≠ scope) : after.sellerRow? key = before.sellerRow? key := by
  rw [synced.rows, syncedRow?, if_neg outside]

theorem syncDomain_synced (valid : store.Valid) (read : store.activeSellers scope = .ok active) :
    Synced scope now snapshot store
      ((syncDomain scope now (.ok snapshot)).run Store.answer store).2 := by
  refine ⟨?_, ?_, run_extends _ store, run_valid _ valid⟩
  · rw [(syncDomain_does valid read).run]
    exact fun key => sellerRow?_written valid read
  · rw [(syncDomain_does valid read).run]
    exact fun key => stateRow?_written valid read

end Synced

-- A fetched snapshot takes the place of what was active in its scope, if that reads back. No call
-- fails then.
theorem syncDomain_refines {store : Store} (valid : store.Valid) (scope : Scope)
    (now : Time.Instant) (snapshot : List Subscriber)
    (reads : ∀ row ∈ store.sellers, row.isActiveIn scope → row.Reads) :
    (syncDomain scope now (.ok snapshot)).Unfailing Store.answer store ∧
      let after := ((syncDomain scope now (.ok snapshot)).run Store.answer store).2
      (∀ key, after.sellerRow? key = syncedRow? scope now snapshot key (store.sellerRow? key)) ∧
        Extends store after ∧ Table.Distinct after.sellers ∧
          ∀ id, after.hasActive ⟨id, scope⟩ = (entryOf? snapshot id).isSome := by
  obtain ⟨active, read⟩ := activeSellers_isOk.mpr reads
  have synced : Synced scope now snapshot store _ := syncDomain_synced valid read
  refine ⟨(syncDomain_does valid read).unfailing, synced.rows, synced.kept,
    synced.valid.distinct_sellers, ?_⟩
  intro id
  rw [synced.hasActive, if_pos rfl]

def sampleTime : Time.Instant :=
  ⟨⟨2025, 1, 1, rfl⟩, ⟨6, 0, 0, 0, rfl⟩⟩

def laterTime : Time.Instant :=
  ⟨⟨2025, 1, 2, rfl⟩, ⟨6, 0, 0, 0, rfl⟩⟩

def sampleEntry (id validUntil : String) : Subscriber :=
  ⟨id, "", "", "", "", "", "", "", "SUBSCRIBED", "", validUntil, "", ""⟩

def sampleScope : Scope := ⟨"ONDC:RET10", "prod"⟩

-- One seller goes, one comes back, and of the two entries of another the last one counts. A row of
-- another domain that does not read back is no hindrance.
def sampleStore : Store where
  sellers :=
    [.ofSeller ((sampleEntry "A" "").toSeller sampleScope sampleTime),
      .ofSeller ((sampleEntry "B" "").toSeller sampleScope sampleTime),
      { SellerRow.ofSeller ((sampleEntry "C" "").toSeller sampleScope sampleTime) with
        active := .whole 0 },
      { SellerRow.ofSeller ((sampleEntry "A" "").toSeller ⟨"ONDC:RET11", "prod"⟩ sampleTime)
        with createdAt := "yesterday" }]
  states := []

def sampleSnapshot : List Subscriber :=
  [sampleEntry "A" "", sampleEntry " " "", sampleEntry "C" "", sampleEntry "A" "2030-01-01T00:00:00Z"]

theorem sampleStore_valid : sampleStore.Valid :=
  ⟨by decide, by decide, by simp [sampleStore]⟩

theorem sampleEntry_storable (id : String) : StorableEntry (sampleEntry id "") := by
  have unset : instant? "" = none := rfl
  simp [StorableEntry, sampleEntry, unset]

theorem sampleStore_reads : ∀ row ∈ sampleStore.sellers, row.isActiveIn sampleScope → row.Reads := by
  have listed (id : String) :
      (SellerRow.ofSeller ((sampleEntry id "").toSeller sampleScope sampleTime)).Reads := by
    obtain ⟨validFrom, validUntil⟩ := sampleEntry_storable id
    have time : sampleTime.Storable := by decide
    rw [SellerRow.reads_ofSeller]
    simp only [Subscriber.toSeller]
    exact ⟨validFrom, validUntil, time, time, time⟩
  simp only [sampleStore, List.forall_mem_cons]
  refine ⟨fun _ => listed "A", fun _ => listed "B", ?_, ?_, ?_⟩
  · exact fun marked => absurd marked (by decide +kernel)
  · exact fun marked => absurd marked (by decide +kernel)
  · exact fun row member => absurd member List.not_mem_nil

theorem sampleStore_refined :
    sampleStore.Valid ∧ (∀ row ∈ sampleStore.sellers, row.isActiveIn sampleScope → row.Reads) ∧
      let after := ((syncDomain sampleScope laterTime (.ok sampleSnapshot)).run Store.answer
        sampleStore).2
      after.hasActive ⟨"A", sampleScope⟩ ∧ after.hasActive ⟨"B", sampleScope⟩ = false ∧
        after.hasActive ⟨"C", sampleScope⟩ ∧
        (after.sellerRow? ⟨"A", sampleScope⟩).map SellerRow.validUntil =
          some (some "2030-01-01T00:00:00+00:00") := by
  obtain ⟨_, rows, _, _, active⟩ := syncDomain_refines sampleStore_valid sampleScope laterTime
    sampleSnapshot sampleStore_reads
  refine ⟨sampleStore_valid, sampleStore_reads, ?_, ?_, ?_, ?_⟩
  · exact (active "A").trans (by decide +kernel)
  · exact (active "B").trans (by decide +kernel)
  · exact (active "C").trans (by decide +kernel)
  · rw [rows]
    decide +kernel

end SellerDirectory.Sync
