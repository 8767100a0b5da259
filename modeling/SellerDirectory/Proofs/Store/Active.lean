import Mathlib.Data.List.Perm.Basic
import SellerDirectory.Proofs.Store.Reading
import SellerDirectory.Proofs.Store.Valid

-- Which sellers are active: what each write makes of it, and how many there are. Since keys are
-- distinct, the active rows of a scope are counted by their ids.

namespace SellerDirectory.Store

variable {store after : Store} {scope : Scope} {key : Key} {ids : List String}

-- How many sellers of a scope are active in a store, but not in another.
def activeBeyond (store other : Store) (scope : Scope) : Nat :=
  (store.activeRows scope).countP fun row => !other.hasActive row.key

theorem hasActive_congr (same : after.sellers = store.sellers) :
    after.hasActive key = store.hasActive key := by
  unfold hasActive sellerRow?
  rw [same]

theorem hasActive_insert {sellers : List Seller} (active : ∀ seller ∈ sellers, seller.active) :
    (store.insert sellers).hasActive key =
      (store.hasActive key || decide (key ∈ sellers.map Seller.key)) := by
  unfold hasActive sellerRow? insert
  generalize store.sellers = rows
  induction sellers generalizing rows with
  | nil => simp
  | cons seller rest ih =>
    obtain ⟨here, later⟩ := List.forall_mem_cons.mp active
    rw [List.foldl_cons, ih later, find?_putSeller, List.map_cons]
    by_cases same : seller.key = key
    · simp [same, SellerRow.over, SellerRow.ofSeller, here]
    · simp [same, Ne.symm same]

theorem hasActive_deactivate (now : Time.Instant) :
    (store.deactivate ids scope now).2.hasActive key =
      (store.hasActive key && !(decide (key.scope = scope) && ids.contains key.sellerId)) := by
  unfold hasActive
  rw [sellerRow?_deactivate]
  cases stored : store.sellerRow? key with
  | none => rfl
  | some row =>
    have same : row.key = key := Table.key_of_find? stored
    simp only [Option.map_some, Option.any_some, SellerRow.retiredAmong, isAmong,
      SellerRow.isActiveIn, same]
    by_cases marked : row.active = .whole 1
    · by_cases inside : key.scope = scope
      · by_cases named : key.sellerId ∈ ids <;> simp [marked, inside, named, retire]
      · simp [marked, inside]
    · simp [marked]

theorem countP_activeRows (valid : store.Valid) (test : Key → Bool) (distinct : ids.Nodup)
    (same : ∀ id, id ∈ ids ↔ store.hasActive ⟨id, scope⟩ ∧ test ⟨id, scope⟩) :
    (store.activeRows scope).countP (fun row => test row.key) = ids.length := by
  have picked : ((store.activeRows scope).filter fun row => test row.key).map (·.key.sellerId) =
      ((store.activeRows scope).map (·.key.sellerId)).filter fun id => test ⟨id, scope⟩ := by
    rw [List.filter_map]
    congr 1
    refine List.filter_congr fun row member => ?_
    rw [Function.comp_apply, ← scope_of_activeRow member]
  have perm : (((store.activeRows scope).map (·.key.sellerId)).filter
      fun id => test ⟨id, scope⟩).Perm ids := by
    refine (List.perm_ext_iff_of_nodup ((activeRows_distinct valid scope).filter _) distinct).mpr ?_
    intro id
    rw [List.mem_filter, mem_activeRows valid, same]
  rw [List.countP_eq_length_filter, ← List.length_map (·.key.sellerId), picked, perm.length_eq]

theorem countP_isAmong_eq (store : Store) (ids : List String) (scope : Scope) :
    store.sellers.countP (isAmong scope ids) =
      (store.activeRows scope).countP fun row => ids.contains row.key.sellerId := by
  rw [activeRows, List.countP_filter]
  refine List.countP_congr fun row _ => ?_
  rw [isAmong, Bool.and_comm]

theorem countP_isAmong (valid : store.Valid) (distinct : ids.Nodup)
    (active : ∀ id ∈ ids, store.hasActive ⟨id, scope⟩) :
    store.sellers.countP (isAmong scope ids) = ids.length := by
  rw [countP_isAmong_eq]
  refine countP_activeRows valid (fun key => ids.contains key.sellerId) distinct fun id => ?_
  rw [List.contains_iff_mem]
  exact ⟨fun member => ⟨active id member, member⟩, And.right⟩

theorem activeBeyond_eq (valid : store.Valid) (distinct : ids.Nodup)
    (same : ∀ id, id ∈ ids ↔
      store.hasActive ⟨id, scope⟩ ∧ after.hasActive ⟨id, scope⟩ = false) :
    store.activeBeyond after scope = ids.length :=
  countP_activeRows valid (fun key => !after.hasActive key) distinct fun id => by
    rw [same, Bool.not_eq_true']

theorem activeBeyond_self (valid : store.Valid) (scope : Scope) :
    store.activeBeyond store scope = 0 :=
  activeBeyond_eq valid List.nodup_nil fun id => by simp

theorem active_balance (valid : store.Valid) (validAfter : after.Valid) (scope : Scope) :
    (after.activeRows scope).length + store.activeBeyond after scope =
      (store.activeRows scope).length + after.activeBeyond store scope := by
  let both := ((after.activeRows scope).map (·.key.sellerId)).filter fun id =>
    store.hasActive ⟨id, scope⟩
  have distinct : both.Nodup := (activeRows_distinct validAfter scope).filter _
  have mem_both (id : String) :
      id ∈ both ↔ after.hasActive ⟨id, scope⟩ ∧ store.hasActive ⟨id, scope⟩ := by
    rw [List.mem_filter, mem_activeRows validAfter]
  have before := countP_activeRows valid after.hasActive distinct fun id =>
    (mem_both id).trans and_comm
  have afterwards := countP_activeRows validAfter store.hasActive distinct mem_both
  have parts := List.length_eq_countP_add_countP (fun row : SellerRow => after.hasActive row.key)
    (l := store.activeRows scope)
  have partsAfter := List.length_eq_countP_add_countP (fun row : SellerRow => store.hasActive row.key)
    (l := after.activeRows scope)
  simp only [decide_not, Bool.decide_eq_true] at parts partsAfter
  unfold activeBeyond
  omega

end SellerDirectory.Store
