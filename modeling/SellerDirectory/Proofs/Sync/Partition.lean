import Mathlib.Data.List.Sort
import Mathlib.Data.String.Basic
import SellerDirectory.Proofs.Sync.Domain

-- A plan as a partition of the listed and of the active sellers. Both are maps from ids to sellers:
-- lists that hold each id once, in any order. The plan is the same for every order.

namespace SellerDirectory.Sync

namespace Plan

variable {id : String} {seller : Seller} {sellers listed active listed' active' : List Seller}

section Order

theorem ids_ascendingById (sellers : List Seller) :
    (ascendingById sellers).map Seller.sellerId = ascending (sellers.map Seller.sellerId) :=
  List.map_mergeSort fun _ _ _ _ => rfl

theorem ascending_strict {ids : List String} (distinct : ids.Nodup) :
    (ascending ids).Pairwise (· < ·) := by
  have once : (ascending ids).Nodup := (List.mergeSort_perm ids _).nodup_iff.mpr distinct
  exact (List.sortedLE_mergeSort.sortedLT_of_nodup once).pairwise

theorem ascending_perm {ids ids' : List String} (perm : ids'.Perm ids) :
    ascending ids' = ascending ids := by
  have sorted (ids : List String) : (ascending ids).Pairwise (· ≤ ·) :=
    List.pairwise_mergeSort' (· ≤ ·) ids
  exact List.Perm.eq_of_pairwise' (sorted ids') (sorted ids)
    ((List.mergeSort_perm _ _).trans (perm.trans (List.mergeSort_perm _ _).symm))

theorem ascendingById_perm (single : Single sellers) (perm : listed.Perm sellers) :
    ascendingById listed = ascendingById sellers := by
  have sorted (sellers : List Seller) :
      (ascendingById sellers).Pairwise fun a b => a.sellerId ≤ b.sellerId := by
    rw [← List.pairwise_map, ids_ascendingById]
    exact List.pairwise_mergeSort' (· ≤ ·) _
  have same : (ascendingById listed).Perm (ascendingById sellers) :=
    (List.mergeSort_perm _ _).trans (perm.trans (List.mergeSort_perm _ _).symm)
  refine List.Perm.eq_of_pairwise ?_ (sorted listed) (sorted sellers) same
  intro a b here there least most
  exact List.inj_on_of_nodup_map (ascendingById_single single) (same.subset here) there
    (le_antisymm least most)

end Order

section Members

theorem withId?_isNone : (withId? id sellers).isNone ↔ id ∉ sellers.map Seller.sellerId := by
  rw [← withId?_isSome, Option.isNone_iff_eq_none, Option.not_isSome_iff_eq_none]

theorem mem_toInsert_iff :
    seller ∈ (between listed active).toInsert ↔
      seller ∈ listed ∧ seller.sellerId ∉ active.map Seller.sellerId := by
  unfold between ascendingById
  rw [List.mem_mergeSort, List.mem_filter, withId?_isNone]

theorem mem_toUpdate_iff (single : Single active) :
    seller ∈ (between listed active).toUpdate ↔
      ∃ origin ∈ listed, ∃ stored ∈ active, stored.sellerId = origin.sellerId ∧
        seller = { origin with createdAt := stored.createdAt } := by
  unfold between ascendingById
  rw [List.mem_mergeSort, List.mem_filterMap]
  constructor
  · rintro ⟨origin, member, found⟩
    obtain ⟨stored, known, rfl⟩ := Option.map_eq_some_iff.mp found
    obtain ⟨there, same⟩ := (Store.find?_by_key single).mp known
    exact ⟨origin, member, stored, there, same, rfl⟩
  · rintro ⟨origin, member, stored, there, same, rfl⟩
    have known : withId? origin.sellerId active = some stored :=
      (Store.find?_by_key single).mpr ⟨there, same⟩
    exact ⟨origin, member, by rw [known, Option.map_some]⟩

theorem mem_toDeactivate_iff :
    id ∈ (between listed active).toDeactivate ↔
      id ∈ active.map Seller.sellerId ∧ id ∉ listed.map Seller.sellerId := by
  rw [mem_toDeactivate, withId?_isSome, ← withId?_isNone, Option.isNone_iff_eq_none]

theorem mem_inserted_ids :
    id ∈ (between listed active).toInsert.map Seller.sellerId ↔
      id ∈ listed.map Seller.sellerId ∧ id ∉ active.map Seller.sellerId := by
  constructor
  · intro member
    obtain ⟨seller, planned, rfl⟩ := List.mem_map.mp member
    obtain ⟨there, unknown⟩ := mem_toInsert_iff.mp planned
    exact ⟨List.mem_map_of_mem there, unknown⟩
  · rintro ⟨member, unknown⟩
    obtain ⟨seller, there, rfl⟩ := List.mem_map.mp member
    exact List.mem_map_of_mem (mem_toInsert_iff.mpr ⟨there, unknown⟩)

theorem mem_updated_ids (single : Single listed) :
    id ∈ (between listed active).toUpdate.map Seller.sellerId ↔
      id ∈ listed.map Seller.sellerId ∧ id ∈ active.map Seller.sellerId := by
  rw [← withId?_isSome, withId?_toUpdate single, ← withId?_isSome, ← withId?_isSome]
  cases withId? id listed <;> simp

end Members

section Partition

theorem inserted_apart_updated (active : List Seller) (single : Single listed) :
    ((between listed active).toInsert.map Seller.sellerId).Disjoint
      ((between listed active).toUpdate.map Seller.sellerId) := by
  intro id inserted updated
  exact (mem_inserted_ids.mp inserted).2 ((mem_updated_ids single).mp updated).2

theorem inserted_apart_deactivated (listed active : List Seller) :
    ((between listed active).toInsert.map Seller.sellerId).Disjoint
      (between listed active).toDeactivate := by
  intro id inserted deactivated
  exact (mem_inserted_ids.mp inserted).2 (mem_toDeactivate_iff.mp deactivated).1

theorem updated_apart_deactivated (active : List Seller) (single : Single listed) :
    ((between listed active).toUpdate.map Seller.sellerId).Disjoint
      (between listed active).toDeactivate := by
  intro id updated deactivated
  exact (mem_toDeactivate_iff.mp deactivated).2 ((mem_updated_ids single).mp updated).1

theorem listed_ids_perm (active : List Seller) (single : Single listed) :
    ((between listed active).toInsert.map Seller.sellerId
      ++ (between listed active).toUpdate.map Seller.sellerId).Perm
        (listed.map Seller.sellerId) := by
  have once := List.nodup_append'.mpr
    ⟨toInsert_single single, toUpdate_single single, inserted_apart_updated active single⟩
  refine (List.perm_ext_iff_of_nodup once single).mpr fun id => ?_
  rw [List.mem_append, mem_inserted_ids, mem_updated_ids single]
  by_cases known : id ∈ active.map Seller.sellerId <;> simp [known]

theorem active_ids_perm (listed_single : Single listed) (active_single : Single active) :
    ((between listed active).toUpdate.map Seller.sellerId
      ++ (between listed active).toDeactivate).Perm (active.map Seller.sellerId) := by
  have once := List.nodup_append'.mpr ⟨toUpdate_single listed_single,
    toDeactivate_nodup active_single, updated_apart_deactivated active listed_single⟩
  refine (List.perm_ext_iff_of_nodup once active_single).mpr fun id => ?_
  rw [List.mem_append, mem_updated_ids listed_single, mem_toDeactivate_iff]
  by_cases named : id ∈ listed.map Seller.sellerId <;> simp [named]

theorem between_perm (listed_single : Single listed) (active_single : Single active)
    (listed_perm : listed'.Perm listed) (active_perm : active'.Perm active) :
    between listed' active' = between listed active := by
  have known (id : String) : withId? id active' = withId? id active :=
    Store.find?_of_perm active_single active_perm
  have named (id : String) : withId? id listed' = withId? id listed :=
    Store.find?_of_perm listed_single listed_perm
  unfold between
  simp only [known, named, Plan.mk.injEq]
  refine ⟨?_, ?_, ?_⟩
  · exact ascendingById_perm (inserted_single listed_single) (listed_perm.filter _)
  · exact ascendingById_perm (updated_single listed_single) (listed_perm.filterMap _)
  · exact ascending_perm ((active_perm.filter _).map _)

end Partition

structure Splits (plan : Plan) (listed active : List Seller) : Prop where
  inserts : ∀ seller, seller ∈ plan.toInsert ↔
    seller ∈ listed ∧ seller.sellerId ∉ active.map Seller.sellerId
  updates : ∀ seller, seller ∈ plan.toUpdate ↔
    ∃ origin ∈ listed, ∃ stored ∈ active, stored.sellerId = origin.sellerId ∧
      seller = { origin with createdAt := stored.createdAt }
  deactivates : ∀ id, id ∈ plan.toDeactivate ↔
    id ∈ active.map Seller.sellerId ∧ id ∉ listed.map Seller.sellerId
  inserts_ascend : (plan.toInsert.map Seller.sellerId).Pairwise (· < ·)
  updates_ascend : (plan.toUpdate.map Seller.sellerId).Pairwise (· < ·)
  deactivates_ascend : plan.toDeactivate.Pairwise (· < ·)
  apart : (plan.toInsert.map Seller.sellerId).Disjoint (plan.toUpdate.map Seller.sellerId) ∧
    (plan.toInsert.map Seller.sellerId).Disjoint plan.toDeactivate ∧
    (plan.toUpdate.map Seller.sellerId).Disjoint plan.toDeactivate
  listed_count : plan.toInsert.length + plan.toUpdate.length = listed.length
  active_count : plan.toUpdate.length + plan.toDeactivate.length = active.length

theorem between_splits (listed_single : Single listed) (active_single : Single active) :
    (between listed active).Splits listed active where
  inserts _ := mem_toInsert_iff
  updates _ := mem_toUpdate_iff active_single
  deactivates _ := mem_toDeactivate_iff
  inserts_ascend := by
    unfold between
    rw [ids_ascendingById]
    exact ascending_strict (inserted_single listed_single)
  updates_ascend := by
    unfold between
    rw [ids_ascendingById]
    exact ascending_strict (updated_single listed_single)
  deactivates_ascend := ascending_strict (active_single.sublist (List.filter_sublist.map _))
  apart := ⟨inserted_apart_updated active listed_single, inserted_apart_deactivated listed active,
    updated_apart_deactivated active listed_single⟩
  listed_count := by
    have all := (listed_ids_perm active listed_single).length_eq
    simpa only [List.length_append, List.length_map] using all
  active_count := by
    have all := (active_ids_perm listed_single active_single).length_eq
    simpa only [List.length_append, List.length_map] using all

end Plan

-- Whatever the order in which listed and active sellers are met, the plan splits them by their ids,
-- and it is the same plan for every order.
theorem plan_splits {listed active : List Seller} (listed_single : Single listed)
    (active_single : Single active) :
    (Plan.between listed active).Splits listed active ∧
      ∀ listed' active', listed'.Perm listed → active'.Perm active →
        Plan.between listed' active' = Plan.between listed active :=
  ⟨Plan.between_splits listed_single active_single, fun _ _ listed_perm active_perm =>
    Plan.between_perm listed_single active_single listed_perm active_perm⟩

def listedSample : List Seller :=
  ["C", "A", "B"].map fun id => (sampleEntry id "").toSeller sampleScope laterTime

def activeSample : List Seller :=
  ["D", "B"].map fun id => (sampleEntry id "").toSeller sampleScope sampleTime

theorem samplePlan_splits :
    Single listedSample ∧ Single activeSample ∧
      let plan := Plan.between listedSample activeSample
      (sampleEntry "A" "").toSeller sampleScope laterTime ∈ plan.toInsert ∧
        { (sampleEntry "B" "").toSeller sampleScope laterTime with createdAt := sampleTime } ∈
          plan.toUpdate ∧
        "D" ∈ plan.toDeactivate ∧ plan.toInsert.length + plan.toUpdate.length = 3 ∧
        Plan.between listedSample.reverse activeSample.reverse = plan := by
  have listed_single : Single listedSample := by
    unfold Single
    decide
  have active_single : Single activeSample := by
    unfold Single
    decide
  obtain ⟨splits, same⟩ := plan_splits listed_single active_single
  refine ⟨listed_single, active_single, (splits.inserts _).mpr ?_, (splits.updates _).mpr ?_,
    (splits.deactivates "D").mpr (by decide), splits.listed_count,
    same _ _ (List.reverse_perm _) (List.reverse_perm _)⟩
  · exact ⟨by decide +kernel, by decide⟩
  · exact ⟨(sampleEntry "B" "").toSeller sampleScope laterTime, by decide +kernel,
      (sampleEntry "B" "").toSeller sampleScope sampleTime, by decide +kernel, rfl, rfl⟩

end SellerDirectory.Sync
