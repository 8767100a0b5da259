import SellerDirectory.Proofs.Store.Active
import SellerDirectory.Proofs.Sync.Portion

-- What a run for a domain reports is what it did to the rows of its scope, whichever calls fail.

namespace SellerDirectory.Sync

open Registry Store

variable {store after : Store} {scope : Scope} {now : Time.Instant} {snapshot : List Subscriber}
  {active : List Seller} {portion : Portion} {id : String}

theorem active_toInsert : ∀ seller ∈ (planOf scope now snapshot active).toInsert, seller.active :=
  fun _ member => active_of_listed (Plan.mem_toInsert member)

theorem active_toUpdate : ∀ seller ∈ (planOf scope now snapshot active).toUpdate, seller.active := by
  intro seller member
  obtain ⟨origin, listed, stored, _, rfl⟩ := Plan.mem_toUpdate member
  have marked : origin.active := active_of_listed listed
  exact marked

theorem sublist_of_part {α : Type} {part whole : List α} (chosen : part = whole ∨ part = []) :
    part.Sublist whole := by
  rcases chosen with rfl | rfl
  · exact .refl _
  · exact List.nil_sublist _

section Plan

variable (valid : store.Valid) (read : store.activeSellers scope = .ok active)

include valid read

theorem mem_toInsert_ids :
    id ∈ (planOf scope now snapshot active).toInsert.map Seller.sellerId ↔
      (entryOf? snapshot id).isSome ∧ store.hasActive ⟨id, scope⟩ = false := by
  rw [← mem_keys within_toInsert, mem_toInsert valid read]
  simp

theorem mem_toUpdate_ids :
    id ∈ (planOf scope now snapshot active).toUpdate.map Seller.sellerId ↔
      store.hasActive ⟨id, scope⟩ ∧ (entryOf? snapshot id).isSome := by
  rw [← withId?_isSome, Plan.withId?_toUpdate (listedSellers_single scope now snapshot),
    withId?_listedSellers, ← withId?_active valid read]
  cases entryOf? snapshot id <;> simp

theorem updated_counted :
    (planOf scope now snapshot active).toUpdate.length =
      (store.activeRows scope).countP fun row => (entryOf? snapshot row.key.sellerId).isSome := by
  rw [← List.length_map Seller.sellerId]
  exact (countP_activeRows valid (fun key => (entryOf? snapshot key.sellerId).isSome)
    (Plan.toUpdate_single (listedSellers_single scope now snapshot)) fun id =>
      mem_toUpdate_ids valid read).symm

end Plan

namespace Portion.Of

variable (part : portion.Of (planOf scope now snapshot active))

include part

theorem toInsert_single : Single portion.toInsert :=
  (Plan.toInsert_single (listedSellers_single scope now snapshot)).sublist
    ((sublist_of_part part.toInsert).map _)

theorem toDeactivate_nodup (valid : store.Valid) (read : store.activeSellers scope = .ok active) :
    portion.toDeactivate.Nodup :=
  (Plan.toDeactivate_nodup (ids_of_active_distinct valid read)).sublist
    (sublist_of_part part.toDeactivate)

theorem hasActive_inserted :
    ((store.insert portion.toInsert).insert portion.toUpdate).hasActive ⟨id, scope⟩ =
      (store.hasActive ⟨id, scope⟩ || decide (id ∈ portion.toInsert.map Seller.sellerId)
        || decide (id ∈ portion.toUpdate.map Seller.sellerId)) := by
  have inserts := (sublist_of_part part.toInsert).subset
  have updates := (sublist_of_part part.toUpdate).subset
  rw [hasActive_insert fun seller member => active_toUpdate seller (updates member),
    hasActive_insert fun seller member => active_toInsert seller (inserts member)]
  simp only [mem_keys fun seller member => within_toInsert seller (inserts member),
    mem_keys fun seller member => within_toUpdate seller (updates member)]

variable (valid : store.Valid) (read : store.activeSellers scope = .ok active)

include valid read

theorem new_of_inserted (member : id ∈ portion.toInsert.map Seller.sellerId) :
    store.hasActive ⟨id, scope⟩ = false :=
  ((mem_toInsert_ids valid read).mp
    (((sublist_of_part part.toInsert).map _).subset member)).2

theorem active_of_updated (member : id ∈ portion.toUpdate.map Seller.sellerId) :
    store.hasActive ⟨id, scope⟩ :=
  ((mem_toUpdate_ids valid read).mp
    (((sublist_of_part part.toUpdate).map _).subset member)).1

theorem active_of_deactivated (member : id ∈ portion.toDeactivate) :
    store.hasActive ⟨id, scope⟩ ∧ id ∉ portion.toInsert.map Seller.sellerId := by
  obtain ⟨found, _⟩ := (mem_toDeactivate valid read).mp
    ((sublist_of_part part.toDeactivate).subset member)
  refine ⟨found, fun inserted => ?_⟩
  rw [part.new_of_inserted valid read inserted] at found
  cases found

theorem hasActive_written :
    (portion.written scope now store).hasActive ⟨id, scope⟩ =
      ((store.hasActive ⟨id, scope⟩ || decide (id ∈ portion.toInsert.map Seller.sellerId))
        && !decide (id ∈ portion.toDeactivate)) := by
  unfold Portion.written Portion.arrived
  rw [hasActive_deactivate, hasActive_congr withStates_sellers, part.hasActive_inserted]
  have refreshed : id ∈ portion.toUpdate.map Seller.sellerId → store.hasActive ⟨id, scope⟩ :=
    part.active_of_updated valid read
  by_cases updated : id ∈ portion.toUpdate.map Seller.sellerId
  · simp [refreshed updated]
  · simp [updated]

theorem deactivated_length :
    ((portion.arrived now store).deactivate portion.toDeactivate scope now).1 =
      portion.toDeactivate.length := by
  have validAfter := insert_valid (insert_valid valid portion.toInsert) portion.toUpdate
  unfold Portion.arrived
  rw [deactivate_eq, withStates_sellers]
  refine countP_isAmong validAfter (part.toDeactivate_nodup valid read) fun id member => ?_
  rw [part.hasActive_inserted, (part.active_of_deactivated valid read member).1]
  rfl

theorem inserted_counted (validAfter : (portion.written scope now store).Valid) :
    portion.toInsert.length = (portion.written scope now store).activeBeyond store scope := by
  rw [← List.length_map Seller.sellerId]
  refine (activeBeyond_eq validAfter part.toInsert_single fun id => ?_).symm
  rw [part.hasActive_written valid read]
  constructor
  · intro inserted
    have stays : id ∉ portion.toDeactivate := fun member =>
      (part.active_of_deactivated valid read member).2 inserted
    simp [inserted, stays, part.new_of_inserted valid read inserted]
  · rintro ⟨marked, new⟩
    rw [new, Bool.false_or, Bool.and_eq_true] at marked
    exact of_decide_eq_true marked.1

theorem deactivated_counted :
    portion.toDeactivate.length = store.activeBeyond (portion.written scope now store) scope := by
  refine (activeBeyond_eq valid (part.toDeactivate_nodup valid read) fun id => ?_).symm
  rw [part.hasActive_written valid read]
  constructor
  · intro member
    simp [member, (part.active_of_deactivated valid read member).1]
  · rintro ⟨found, gone⟩
    simpa [found] using gone

end Portion.Of

structure Tells (scope : Scope) (snapshot : List Subscriber) (updated : Bool)
    (before after : Store) (summary : Summary) : Prop where
  inserted : summary.inserted = after.activeBeyond before scope
  deactivated : summary.deactivated = before.activeBeyond after scope
  updated : summary.updated =
    if updated then
      (before.activeRows scope).countP fun row => (entryOf? snapshot row.key.sellerId).isSome
    else 0
  listed : summary.listed = snapshot.length

theorem Ending.tells {fetched : Except Failure (List Subscriber)}
    {calls : List (Call × Option Failure)} {summary : Summary} (valid : store.Valid)
    (validAfter : after.Valid) (ending : Ending scope now fetched store calls summary after) :
    Tells scope (fetched.toOption.getD []) (updateDone calls) store after summary := by
  cases ending with
  | unfetched none_fetched =>
    subst none_fetched
    exact ⟨(activeBeyond_self valid scope).symm, (activeBeyond_self valid scope).symm, rfl, rfl⟩
  | unread got quiet silent =>
    subst got
    rw [quiet]
    exact ⟨(activeBeyond_self valid scope).symm, (activeBeyond_self valid scope).symm, rfl, rfl⟩
  | written got read part chosen parts =>
    subst got
    refine ⟨part.inserted_counted valid read validAfter, ?_, ?_, rfl⟩
    · exact (part.deactivated_length valid read).trans (part.deactivated_counted valid read)
    · change List.length _ = _
      rw [chosen]
      split
      · exact updated_counted valid read
      · rfl

-- Whichever calls fail, the fetch among them: what is reported as new or gone is what the run did to
-- the active rows, and an update counts the listed sellers that were active.
theorem summary_measured {store : Store} (valid : store.Valid) (scope : Scope)
    (now : Time.Instant) (fetched : Except Failure (List Subscriber)) (faults : Faults) :
    let program := syncDomain scope now fetched
    let ran := program.run (answerWith Store.answer faults) (0, store)
    let calls := program.calls (answerWith Store.answer faults) (0, store)
    let summary := ran.1.summary
    let after := ran.2.2
    Tells scope (fetched.toOption.getD []) (updateDone calls) store after summary ∧
      (after.activeRows scope).length + summary.deactivated =
        (store.activeRows scope).length + summary.inserted := by
  intro program ran calls summary after
  have ends : program.Ends store calls ran.1 after := ⟨faults, 0, rfl, rfl, rfl⟩
  have validAfter : after.Valid := ends.valid valid
  have tells : Tells scope (fetched.toOption.getD []) (updateDone calls) store after summary :=
    (syncDomain_ends valid ends).tells valid validAfter
  refine ⟨tells, ?_⟩
  rw [tells.inserted, tells.deactivated]
  exact active_balance valid validAfter scope

def insertFails : Faults := fun _ call =>
  match call with
  | .insert _ => some .lockPoisoned
  | _ => none

theorem sampleStore_measured :
    sampleStore.Valid ∧
      let program := syncDomain sampleScope laterTime (.ok sampleSnapshot)
      let ran := program.run (answerWith Store.answer insertFails) (0, sampleStore)
      ran.1.summary = ⟨"ONDC:RET10", 0, 1, 1, 4⟩ ∧
        ran.2.2.activeBeyond sampleStore sampleScope = 0 ∧
        sampleStore.activeBeyond ran.2.2 sampleScope = 1 ∧
        (ran.2.2.activeRows sampleScope).length = 1 := by
  have summary : ((syncDomain sampleScope laterTime (.ok sampleSnapshot)).run
      (answerWith Store.answer insertFails) (0, sampleStore)).1.summary =
        ⟨"ONDC:RET10", 0, 1, 1, 4⟩ := by
    decide +kernel
  have before : (sampleStore.activeRows sampleScope).length = 2 := by decide +kernel
  obtain ⟨tells, balance⟩ :=
    summary_measured sampleStore_valid sampleScope laterTime (.ok sampleSnapshot) insertFails
  refine ⟨sampleStore_valid, summary, ?_, ?_, ?_⟩
  · exact tells.inserted.symm.trans (congrArg Summary.inserted summary)
  · exact tells.deactivated.symm.trans (congrArg Summary.deactivated summary)
  · rw [summary, before] at balance
    exact Nat.succ.inj balance

-- Another writer has stored a seller without an id, and the registry lists one.
def namelessStore : Store where
  sellers :=
    [.ofSeller ((sampleEntry "A" "").toSeller sampleScope sampleTime),
      .ofSeller ((sampleEntry " " "").toSeller sampleScope sampleTime)]
  states := []

-- An entry without an id refreshes nobody, not even a seller that has none either.
theorem nameless_not_refreshed :
    namelessStore.Valid ∧
      let snapshot := [sampleEntry "A" "", sampleEntry " " ""]
      let program := syncDomain sampleScope laterTime (.ok snapshot)
      updateDone (program.calls (answerWith Store.answer noFaults) (0, namelessStore)) ∧
        (namelessStore.activeRows sampleScope).countP
          (fun row => row.key.sellerId ∈ snapshot.map Subscriber.subscriberId) = 2 ∧
        (program.run (answerWith Store.answer noFaults) (0, namelessStore)).1.summary.updated = 1 :=
  ⟨⟨by decide, by decide, by simp [namelessStore]⟩, by decide +kernel⟩

end SellerDirectory.Sync
