import Mathlib.Data.List.Nodup
import SellerDirectory.Store.Table

-- What a table holds under each key, through every way of changing it. A table is fixed by the
-- order of its keys and by the row that it holds under each of them.

namespace SellerDirectory.Store

section Lookup

variable {α β : Type} [DecidableEq β] {key : α → β} {k : β} {a : α} {l : List α}

theorem find?_by_key (distinct : (l.map key).Nodup) :
    l.find? (fun x => key x = k) = some a ↔ a ∈ l ∧ key a = k := by
  induction l with
  | nil => simp
  | cons first rest ih =>
    obtain ⟨fresh, distinct⟩ := List.nodup_cons.mp distinct
    by_cases here : key first = k
    · -- the first one is found, and no later one has its key
      have later : a ∈ rest → key a ≠ k := fun member equal =>
        fresh (here ▸ equal ▸ List.mem_map_of_mem member)
      rw [List.find?_cons_of_pos (by simpa using here), Option.some.injEq, List.mem_cons]
      constructor
      · rintro rfl
        exact ⟨.inl rfl, here⟩
      · rintro ⟨rfl | member, equal⟩
        · rfl
        · exact absurd equal (later member)
    · rw [List.find?_cons_of_neg (by simpa using here), ih distinct, List.mem_cons]
      constructor
      · exact fun ⟨member, equal⟩ => ⟨.inr member, equal⟩
      · rintro ⟨rfl | member, equal⟩
        · exact absurd equal here
        · exact ⟨member, equal⟩

theorem find?_of_perm {l' : List α} (distinct : (l.map key).Nodup) (perm : l'.Perm l) :
    l'.find? (fun x => key x = k) = l.find? (fun x => key x = k) := by
  have distinct' : (l'.map key).Nodup := (perm.map key).nodup_iff.mpr distinct
  ext a
  rw [find?_by_key distinct', find?_by_key distinct, perm.mem_iff]

theorem filter_by_key (distinct : (l.map key).Nodup) :
    l.filter (fun x => key x = k) = (l.find? fun x => key x = k).toList := by
  induction l with
  | nil => rfl
  | cons first rest ih =>
    obtain ⟨fresh, distinct⟩ := List.nodup_cons.mp distinct
    by_cases here : key first = k
    · have none_later : rest.filter (fun x => key x = k) = [] := by
        rw [List.filter_eq_nil_iff]
        intro x member equal
        exact fresh (here ▸ of_decide_eq_true equal ▸ List.mem_map_of_mem member)
      simp [here, none_later]
    · simpa [here] using ih distinct

end Lookup

namespace Table

variable {Row : Type} [Keyed Row] {merge : Row → Row → Row} {key : Key} {row : Row}
  {rows : List Row}

instance (rows : List Row) : Decidable (Distinct rows) :=
  inferInstanceAs (Decidable (List.Nodup _))

theorem find?_nil : find? key ([] : List Row) = none := rfl

theorem find?_cons (first : Row) :
    find? key (first :: rows) = if Keyed.key first = key then some first else find? key rows := by
  unfold find?
  by_cases same : Keyed.key first = key <;> simp [same]

theorem key_of_find? (found : find? key rows = some row) : Keyed.key row = key := by
  simpa using List.find?_some found

theorem mem_of_find? (found : find? key rows = some row) : row ∈ rows :=
  List.mem_of_find?_eq_some found

theorem find?_of_mem (distinct : Distinct rows) (member : row ∈ rows) :
    find? (Keyed.key row) rows = some row :=
  (find?_by_key distinct).mpr ⟨member, rfl⟩

theorem contains_iff : contains key rows = true ↔ key ∈ rows.map Keyed.key := by
  simp [contains, find?]

theorem find?_eq_none : find? key rows = none ↔ key ∉ rows.map Keyed.key := by
  rw [← contains_iff, contains]
  cases find? key rows <;> simp

theorem find?_append (more : List Row) :
    find? key (rows ++ more) = (find? key rows).or (find? key more) :=
  List.find?_append

theorem find?_map {f : Row → Row} (keeps : ∀ row, Keyed.key (f row) = Keyed.key row) :
    find? key (rows.map f) = (find? key rows).map f := by
  induction rows with
  | nil => rfl
  | cons first rest ih =>
    rw [List.map_cons, find?_cons, find?_cons, keeps, ih]
    split <;> rfl

theorem keys_map {f : Row → Row} (keeps : ∀ row, Keyed.key (f row) = Keyed.key row) :
    (rows.map f).map Keyed.key = rows.map Keyed.key := by
  simp [List.map_map, Function.comp_def, keeps]

theorem find?_put (keeps : ∀ stored row, Keyed.key (merge stored row) = Keyed.key row) :
    find? key (put merge row rows) =
      if Keyed.key row = key then some ((find? key rows).elim row (merge · row))
      else find? key rows := by
  induction rows with
  | nil => simp [put, find?_cons, find?_nil]
  | cons first rest ih =>
    unfold put
    by_cases same : Keyed.key first = Keyed.key row
    · simp only [same, if_true, find?_cons, keeps]
      split <;> rfl
    · simp only [same, if_false, find?_cons, ih]
      by_cases here : Keyed.key first = key
      · have elsewhere : Keyed.key row ≠ key := fun equal => same (here.trans equal.symm)
        simp [here, elsewhere]
      · simp [here]

theorem keys_put (keeps : ∀ stored row, Keyed.key (merge stored row) = Keyed.key row) :
    (put merge row rows).map Keyed.key =
      if contains (Keyed.key row) rows then rows.map Keyed.key
      else rows.map Keyed.key ++ [Keyed.key row] := by
  induction rows with
  | nil => simp [put, contains, find?_nil]
  | cons first rest ih =>
    unfold put
    by_cases same : Keyed.key first = Keyed.key row
    · simp [same, keeps, contains, find?_cons]
    · have passed : contains (Keyed.key row) (first :: rest) = contains (Keyed.key row) rest := by
        simp [contains, find?_cons, same]
      simp only [same, if_false, List.map_cons, ih, passed]
      split <;> rfl

theorem put_keys (keeps : ∀ stored row, Keyed.key (merge stored row) = Keyed.key row) :
    rows.map Keyed.key <+: (put merge row rows).map Keyed.key := by
  rw [keys_put keeps]
  split
  · exact List.prefix_rfl
  · exact List.prefix_append _ _

theorem put_distinct (keeps : ∀ stored row, Keyed.key (merge stored row) = Keyed.key row)
    (distinct : Distinct rows) : Distinct (put merge row rows) := by
  unfold Distinct
  rw [keys_put keeps]
  split
  · exact distinct
  · rename_i absent
    have fresh : Keyed.key row ∉ rows.map Keyed.key := fun member =>
      absent (contains_iff.mpr member)
    exact List.nodup_append.mpr ⟨distinct, List.nodup_singleton _, fun a here b there equal =>
      fresh (List.mem_singleton.mp there ▸ equal ▸ here)⟩

-- Changing the row of a key is putting, where there is one and the change is that of the merge.
theorem alter?_eq {change : Row → Row}
    (merges : ∀ stored, Keyed.key stored = Keyed.key row → change stored = merge stored row) :
    alter? (Keyed.key row) change rows =
      if contains (Keyed.key row) rows then some (put merge row rows) else none := by
  induction rows with
  | nil => rfl
  | cons first rest ih =>
    unfold alter? put
    by_cases same : Keyed.key first = Keyed.key row
    · simp [same, contains, find?_cons, merges first same]
    · have passed : contains (Keyed.key row) (first :: rest) = contains (Keyed.key row) rest := by
        simp [contains, find?_cons, same]
      simp only [same, if_false, ih, passed]
      split <;> rfl

section Filter

variable (test : Key → Bool)

theorem find?_filter (inside : test key = true) :
    find? key (rows.filter fun row => test (Keyed.key row)) = find? key rows := by
  unfold find?
  rw [List.find?_filter]
  congr 1
  funext row
  by_cases same : Keyed.key row = key <;> simp [same, inside]

theorem contains_filter (inside : test key = true) :
    contains key (rows.filter fun row => test (Keyed.key row)) = contains key rows := by
  rw [contains, find?_filter test inside, contains]

theorem filter_put (keeps : ∀ stored row, Keyed.key (merge stored row) = Keyed.key row) :
    (put merge row rows).filter (fun row => test (Keyed.key row)) =
      if test (Keyed.key row) then put merge row (rows.filter fun row => test (Keyed.key row))
      else rows.filter fun row => test (Keyed.key row) := by
  induction rows with
  | nil =>
    by_cases inside : test (Keyed.key row) <;> simp [put, inside]
  | cons first rest ih =>
    by_cases same : Keyed.key first = Keyed.key row
    · by_cases inside : test (Keyed.key row) <;> simp [put, same, keeps, inside]
    · by_cases here : test (Keyed.key first) <;> by_cases inside : test (Keyed.key row) <;>
        simp [put, same, here, inside, ih]

end Filter

private theorem eq_of_keys {before after : List Row} (distinct : Distinct after)
    (keys : before.map Keyed.key = after.map Keyed.key)
    (same : ∀ key, find? key after = find? key before) : after = before := by
  induction after generalizing before with
  | nil => simpa using keys.symm
  | cons first rest ih =>
    cases before with
    | nil => simp at keys
    | cons first' rest' =>
      obtain ⟨head, tail⟩ := List.cons.inj keys
      obtain ⟨fresh, distinct'⟩ := List.nodup_cons.mp distinct
      have heads : first = first' := by
        have here := same (Keyed.key first)
        rw [find?_cons, find?_cons, if_pos rfl, if_pos head] at here
        exact Option.some.inj here
      subst heads
      rw [ih distinct' tail]
      intro key
      by_cases here : Keyed.key first = key
      · subst here
        rw [find?_eq_none.mpr fresh, find?_eq_none.mpr (tail ▸ fresh)]
      · simpa only [find?_cons, here, if_false] using same key

-- Rows that keep their places and hold the same under every key are the same.
theorem eq_of_find? {before after : List Row} (distinct : Distinct after)
    (kept : before.map Keyed.key <+: after.map Keyed.key)
    (same : ∀ key, find? key after = find? key before) : after = before := by
  obtain ⟨fresh, keys⟩ := kept
  have none_fresh : fresh = [] := by
    rw [List.eq_nil_iff_forall_not_mem]
    intro key member
    have present : key ∈ after.map Keyed.key := keys ▸ List.mem_append_right _ member
    have earlier : key ∈ before.map Keyed.key := by
      rw [← contains_iff, contains, ← same key]
      exact contains_iff.mpr present
    unfold Distinct at distinct
    rw [← keys, List.nodup_append] at distinct
    exact distinct.2.2 key earlier key member rfl
  rw [none_fresh, List.append_nil] at keys
  exact eq_of_keys distinct keys same

theorem mem_iff_find? (distinct : Distinct rows) :
    row ∈ rows ↔ find? (Keyed.key row) rows = some row :=
  ⟨find?_of_mem distinct, mem_of_find?⟩

theorem perm_of_find? {before after : List Row} (distinct : Distinct before)
    (distinct' : Distinct after) (same : ∀ key, find? key after = find? key before) :
    after.Perm before := by
  refine (List.perm_ext_iff_of_nodup (.of_map _ distinct') (.of_map _ distinct)).mpr fun row => ?_
  rw [mem_iff_find? distinct', mem_iff_find? distinct, same]

end Table

end SellerDirectory.Store
