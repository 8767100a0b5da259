import Mathlib.Data.Finset.Card
import Mathlib.Data.Finset.Dedup
import SellerDirectory.Proofs.Store.Active
import SellerDirectory.Proofs.Store.Batches

-- Deactivation as one change by a set of ids. The statements that it takes, and how often an id
-- stands among them, leave no trace in the store or in the number that it answers with.

namespace SellerDirectory.Store

variable {store : Store} {ids : List String} {scope : Scope} {now : Time.Instant} {key : Key}
  {row : SellerRow}

def activeAmong (store : Store) (ids : Finset String) (scope : Scope) : Finset String :=
  ids.filter fun id => store.hasActive ⟨id, scope⟩

theorem isAmong_iff (valid : store.Valid) (member : row ∈ store.sellers) :
    isAmong scope ids row ↔
      row.key.scope = scope ∧ row.key.sellerId ∈ store.activeAmong ids.toFinset scope := by
  unfold isAmong SellerRow.isActiveIn activeAmong
  rw [Bool.and_eq_true, Bool.and_eq_true, decide_eq_true_iff, decide_eq_true_iff,
    List.contains_iff_mem, Finset.mem_filter, List.mem_toFinset, and_assoc]
  refine and_congr_right fun within => ?_
  have stored : store.sellerRow? row.key = some row :=
    Table.find?_of_mem valid.distinct_sellers member
  rw [← within, hasActive_of_row stored, decide_eq_true_iff, and_comm]

theorem countP_activeAmong (valid : store.Valid) (ids : List String) (scope : Scope) :
    store.sellers.countP (isAmong scope ids) = (store.activeAmong ids.toFinset scope).card := by
  rw [countP_isAmong_eq, ← Finset.length_toList]
  refine countP_activeRows valid (fun key => ids.contains key.sellerId) (Finset.nodup_toList _)
    fun id => ?_
  rw [Finset.mem_toList, activeAmong, Finset.mem_filter, List.mem_toFinset, List.contains_iff_mem,
    and_comm]

theorem retire_ne (marked : row.active = .whole 1) : retire now row ≠ row := by
  intro same
  have kept := congrArg SellerRow.active same
  rw [marked] at kept
  cases kept

theorem retiredAmong_ne_iff (now : Time.Instant) :
    row.retiredAmong scope ids now ≠ row ↔ isAmong scope ids row := by
  unfold SellerRow.retiredAmong
  split
  · rename_i among
    have marked : row.active = .whole 1 := by
      simp only [isAmong, SellerRow.isActiveIn, Bool.and_eq_true, decide_eq_true_iff] at among
      exact among.1.2
    exact ⟨fun _ => among, fun _ => retire_ne marked⟩
  · rename_i others
    exact ⟨fun changed => absurd rfl changed, fun among => absurd among others⟩

theorem sellerRow?_deactivate_ne_iff (valid : store.Valid) :
    (store.deactivate ids scope now).2.sellerRow? key ≠ store.sellerRow? key ↔
      key.scope = scope ∧ key.sellerId ∈ store.activeAmong ids.toFinset scope := by
  rw [sellerRow?_deactivate]
  cases stored : store.sellerRow? key with
  | none =>
    refine ⟨fun changed => absurd rfl changed, ?_⟩
    rintro ⟨rfl, active⟩
    have present := (Finset.mem_filter.mp active).2
    simp [hasActive, stored] at present
  | some row =>
    have same : row.key = key := Table.key_of_find? stored
    rw [← same, ← isAmong_iff valid (Table.mem_of_find? stored), ← retiredAmong_ne_iff now]
    simp

-- However long a list of ids is and whatever it repeats: as many sellers are deactivated as ids in it
-- had an active one in the scope, each of these keeps all but its mark and the time of its last
-- change, and nothing else changes.
theorem deactivate_by_set {store : Store} (valid : store.Valid) (ids : List String) (scope : Scope)
    (now : Time.Instant) :
    let (reply, after) := store.answer (.deactivate ids scope now)
    reply = .ok (store.activeAmong ids.toFinset scope).card ∧
      after = { store with sellers := store.sellers.map fun row =>
        if row.key.scope = scope ∧ row.key.sellerId ∈ store.activeAmong ids.toFinset scope then
          { row with active := .whole 0, updatedAt := now.columnText }
        else row } ∧
      ∀ key, after.sellerRow? key ≠ store.sellerRow? key ↔
        key.scope = scope ∧ key.sellerId ∈ store.activeAmong ids.toFinset scope := by
  refine ⟨?_, ?_, fun key => sellerRow?_deactivate_ne_iff valid⟩
  · rw [← countP_activeAmong valid]
    exact congrArg Except.ok (congrArg Prod.fst (deactivate_eq store ids scope now))
  · refine (congrArg Prod.snd (deactivate_eq store ids scope now)).trans ?_
    refine congrArg (Store.mk · store.states) (List.map_congr_left fun row member => ?_)
    unfold SellerRow.retiredAmong
    exact if_congr (isAmong_iff valid member) rfl rfl

def spreadStore : Store where
  sellers := [.ofSeller (namedSeller "A" 1),
    { SellerRow.ofSeller (namedSeller "B" 2) with active := .whole 0 },
    .ofSeller { namedSeller "A" 3 with environment := "preprod" }]
  states := []

theorem spreadStore_valid : spreadStore.Valid :=
  ⟨by decide, by decide, by decide⟩

-- One id stands in two statements; of the others one has no active seller and one has none at all.
def repeatedIds : List String :=
  List.replicate chunkSize "A" ++ ["A", "B", "C"]

theorem spreadStore_deactivated :
    spreadStore.Valid ∧
      spreadStore.answer (.deactivate repeatedIds (namedSeller "A" 1).scope
          (namedSeller "A" 6).updatedAt) =
        (.ok 1, { spreadStore with sellers :=
          [{ SellerRow.ofSeller (namedSeller "A" 1) with
              active := .whole 0
              updatedAt := "2025-01-01T06:00:00+00:00" },
            { SellerRow.ofSeller (namedSeller "B" 2) with active := .whole 0 },
            .ofSeller { namedSeller "A" 3 with environment := "preprod" }] }) := by
  obtain ⟨count, after, _⟩ := deactivate_by_set spreadStore_valid repeatedIds
    (namedSeller "A" 1).scope (namedSeller "A" 6).updatedAt
  have listed : repeatedIds.toFinset = {"A", "B", "C"} := by
    rw [repeatedIds, List.toFinset_append, List.toFinset_replicate_of_ne_zero (by decide)]
    decide
  have gone : spreadStore.activeAmong repeatedIds.toFinset (namedSeller "A" 1).scope = {"A"} := by
    rw [listed]
    decide +kernel
  rw [gone] at count after
  refine ⟨spreadStore_valid, Prod.ext count (after.trans ?_)⟩
  decide +kernel

end SellerDirectory.Store
