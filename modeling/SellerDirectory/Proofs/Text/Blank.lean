import Mathlib.Data.List.TakeWhile
import SellerDirectory.Text.Blank

-- Removing white space at both ends.

namespace SellerDirectory.Text

theorem dropBlanks_eq_nil {text : List Char} : dropBlanks text = [] ↔ text.all isBlank := by
  unfold dropBlanks
  rw [List.dropWhile_eq_nil_iff, List.all_eq_true]

-- What is left starts with no white space, so it ends before all of it is gone.
theorem trimmed_eq_nil {text : List Char} : trimmed text = [] ↔ text.all isBlank := by
  unfold trimmed dropEndBlanks
  rw [List.reverse_eq_nil_iff, List.dropWhile_eq_nil_iff]
  constructor
  · intro blank
    rw [← dropBlanks_eq_nil]
    cases rest : dropBlanks text with
    | nil => rfl
    | cons first more =>
      have first_blank := blank first (by simp [rest])
      have head := List.head_dropWhile_not isBlank (l := text) (by
        unfold dropBlanks at rest
        simp [rest])
      unfold dropBlanks at rest
      simp [rest, first_blank] at head
  · intro blank c member
    rw [dropBlanks_eq_nil.mpr blank] at member
    simp at member

theorem dropBlanks_eq_self {text : List Char} (first : ∀ c ∈ text.head?, isBlank c = false) :
    dropBlanks text = text := by
  cases text with
  | nil => rfl
  | cons c rest => exact List.dropWhile_cons_of_neg (ne_true_of_eq_false (first c rfl))

theorem dropEndBlanks_eq_self {text : List Char} (last : ∀ c ∈ text.getLast?, isBlank c = false) :
    dropEndBlanks text = text := by
  have back : dropBlanks text.reverse = text.reverse :=
    dropBlanks_eq_self (List.head?_reverse ▸ last)
  rw [← List.reverse_inj, ← back]
  exact List.reverse_reverse _

theorem trimmed_eq_self {text : List Char} (first : ∀ c ∈ text.head?, isBlank c = false)
    (last : ∀ c ∈ text.getLast?, isBlank c = false) : trimmed text = text := by
  rw [trimmed, dropBlanks_eq_self first, dropEndBlanks_eq_self last]

theorem dropBlanks_append {front : List Char} (blank : front.all isBlank) (text : List Char) :
    dropBlanks (front ++ text) = dropBlanks text :=
  List.dropWhile_append_of_pos (List.all_eq_true.mp blank)

theorem dropEndBlanks_append {back : List Char} (blank : back.all isBlank) (text : List Char) :
    dropEndBlanks (text ++ back) = dropEndBlanks text := by
  have reversed : back.reverse.all isBlank := by rwa [List.all_reverse]
  have dropped := dropBlanks_append reversed text.reverse
  unfold dropEndBlanks
  rw [List.reverse_append]
  exact congrArg List.reverse dropped

theorem trimmed_append {front back : List Char} (lead : front.all isBlank)
    (trail : back.all isBlank) (text : List Char) :
    trimmed (front ++ (text ++ back)) = trimmed text := by
  unfold trimmed
  rw [dropBlanks_append lead]
  cases rest : dropBlanks text with
  | nil =>
    have blank : (text ++ back).all isBlank := by
      rw [List.all_append, dropBlanks_eq_nil.mp rest, trail]
      rfl
    rw [dropBlanks_eq_nil.mpr blank]
  | cons c more =>
    have kept : dropBlanks (text ++ back) = c :: more ++ back := by
      unfold dropBlanks at rest ⊢
      rw [List.dropWhile_append, rest]
      rfl
    rw [kept, dropEndBlanks_append trail]

theorem trimmed_padded {front core back : List Char} (lead : front.all isBlank)
    (trail : back.all isBlank) (first : ∃ c ∈ core.head?, isBlank c = false)
    (last : ∀ c ∈ core.getLast?, isBlank c = false) : trimmed (front ++ (core ++ back)) = core := by
  obtain ⟨c, here, dark⟩ := first
  rw [trimmed_append lead trail, trimmed_eq_self _ last]
  intro d there
  cases here.symm.trans there
  exact dark

theorem dropEndBlanks_closed (text : List Char) :
    ∃ back, text = dropEndBlanks text ++ back ∧ back.all isBlank := by
  refine ⟨(text.reverse.takeWhile isBlank).reverse, ?_, ?_⟩
  · unfold dropEndBlanks
    rw [← List.reverse_append, List.takeWhile_append_dropWhile, List.reverse_reverse]
  · rw [List.all_reverse]
    exact List.all_takeWhile

theorem trimmed_enclosed (text : List Char) :
    ∃ front back, text = front ++ (trimmed text ++ back) ∧ front.all isBlank ∧
      back.all isBlank := by
  obtain ⟨back, closed, trail⟩ := dropEndBlanks_closed (dropBlanks text)
  refine ⟨text.takeWhile isBlank, back, ?_, List.all_takeWhile, trail⟩
  unfold trimmed
  rw [← closed]
  exact List.takeWhile_append_dropWhile.symm

theorem trimmed_trimmed (text : List Char) : trimmed (trimmed text) = trimmed text := by
  obtain ⟨front, back, whole, lead, trail⟩ := trimmed_enclosed text
  have same := trimmed_append lead trail (trimmed text)
  rw [← whole] at same
  exact same.symm

theorem head_of_trimmed {text : List Char} (same : trimmed text = text) :
    ∀ c ∈ text.head?, isBlank c = false := by
  intro c first
  -- What is left starts where the text does, and it starts with no white space.
  obtain ⟨rest, whole⟩ : trimmed text <+: dropBlanks text :=
    List.reverse_suffix.mp (by
      rw [trimmed, dropEndBlanks, List.reverse_reverse]
      exact List.dropWhile_suffix _)
  have kept := List.head?_dropWhile_not isBlank text
  have opened : (text.dropWhile isBlank).head? = some c := by
    change (dropBlanks text).head? = some c
    rw [← whole, same, List.head?_append, first, Option.some_or]
  rwa [opened] at kept

theorem trim_eq_empty {text : String} : trim text = "" ↔ isBlankText text := by
  unfold trim isBlankText
  rw [← trimmed_eq_nil]
  constructor
  · intro empty
    simpa using congrArg String.toList empty
  · intro empty
    rw [empty]

theorem toList_trim (text : String) : (trim text).toList = trimmed text.toList :=
  String.toList_ofList

theorem trim_trim (text : String) : trim (trim text) = trim text := by
  rw [trim, toList_trim, trimmed_trimmed, trim]

theorem trim_append {front back : String} (lead : isBlankText front) (trail : isBlankText back)
    (text : String) : trim (front ++ (text ++ back)) = trim text := by
  unfold trim
  rw [String.toList_append, String.toList_append, trimmed_append lead trail]

theorem trim_enclosed (text : String) :
    ∃ front back, text = front ++ (trim text ++ back) ∧ isBlankText front ∧ isBlankText back := by
  obtain ⟨front, back, whole, lead, trail⟩ := trimmed_enclosed text.toList
  refine ⟨String.ofList front, String.ofList back, ?_, ?_, ?_⟩
  · rw [← String.toList_inj]
    simpa only [String.toList_append, String.toList_ofList, toList_trim] using whole
  · rwa [isBlankText, String.toList_ofList]
  · rwa [isBlankText, String.toList_ofList]

def IsTidy (text : String) : Prop :=
  text ≠ "" ∧ trim text = text

instance (text : String) : Decidable (IsTidy text) :=
  inferInstanceAs (Decidable (_ ∧ _))

theorem isTidy_trim {text : String} (dark : ¬ isBlankText text) : IsTidy (trim text) :=
  ⟨mt trim_eq_empty.mp dark, trim_trim text⟩

end SellerDirectory.Text
