import SellerDirectory.Config
import SellerDirectory.Proofs.Text.Blank
import SellerDirectory.Proofs.Text.Numeral

-- What one variable of an environment settles, as a text or as a count.

namespace SellerDirectory.Config

open Text Text.Numeral

section Variables

variable {α : Type} {lookup other : String → Option String} {name text : String}

def IsUnset (lookup : String → Option String) (name : String) : Prop :=
  ∀ text ∈ lookup name, isBlankText text

def Alike (lookup other : String → Option String) (name : String) : Prop :=
  lookup name = other name ∨ IsUnset lookup name ∧ IsUnset other name

instance (lookup : String → Option String) (name : String) : Decidable (IsUnset lookup name) :=
  inferInstanceAs (Decidable (∀ _ ∈ _, _))

instance (lookup other : String → Option String) (name : String) :
    Decidable (Alike lookup other name) :=
  inferInstanceAs (Decidable (_ ∨ _ ∧ _))

theorem unset_or_given (lookup : String → Option String) (name : String) :
    IsUnset lookup name ∨ ∃ text, lookup name = some text ∧ ¬ isBlankText text := by
  unfold IsUnset
  cases lookup name with
  | none => exact .inl fun _ none => absurd none (Option.not_mem_none _)
  | some text =>
    by_cases blank : isBlankText text
    · exact .inl fun _ same => Option.some.inj same ▸ blank
    · exact .inr ⟨text, rfl, blank⟩

theorem not_unset (found : lookup name = some text) (dark : ¬ isBlankText text) :
    ¬ IsUnset lookup name :=
  fun unset => dark (unset text found)

theorem setting?_unset (unset : IsUnset lookup name) : setting? lookup name = none := by
  unfold setting?
  cases found : lookup name with
  | none => rfl
  | some text =>
    have empty := trim_eq_empty.mpr (unset text found)
    rw [Option.map_some, empty]
    rfl

theorem setting?_given (found : lookup name = some text) (dark : ¬ isBlankText text) :
    setting? lookup name = some (trim text) := by
  unfold setting?
  rw [found, Option.map_some]
  exact Option.filter_some_pos (decide_eq_true (mt trim_eq_empty.mp dark))

theorem Alike.unset (alike : Alike lookup other name) (unset : IsUnset lookup name) :
    IsUnset other name := by
  rcases alike with same | ⟨_, otherUnset⟩
  · rwa [IsUnset, ← same]
  · exact otherUnset

theorem Alike.given (alike : Alike lookup other name) (found : lookup name = some text)
    (dark : ¬ isBlankText text) : other name = some text := by
  rcases alike with same | ⟨unset, _⟩
  · rwa [← same]
  · exact absurd unset (not_unset found dark)

theorem setting?_alike (alike : Alike lookup other name) :
    setting? lookup name = setting? other name := by
  rcases unset_or_given lookup name with unset | ⟨text, found, dark⟩
  · rw [setting?_unset unset, setting?_unset (alike.unset unset)]
  · rw [setting?_given found dark, setting?_given (alike.given found dark) dark]

-- How a variable settles a value: by what its trimmed text reads as, or by the default where it is
-- unset.
inductive Settles (lookup : String → Option String) (name : String) (default : α)
    (reads : String → α → Prop) : α → Prop where
  | unset (unset : IsUnset lookup name) : Settles lookup name default reads default
  | given {text : String} {value : α} (found : lookup name = some text)
      (dark : ¬ isBlankText text) (read : reads (trim text) value) :
      Settles lookup name default reads value

variable {default value : α} {reads : String → α → Prop}

theorem Settles.of_setting? (unset : setting? lookup name = none → value = default)
    (given : ∀ text, setting? lookup name = some text → reads text value) :
    Settles lookup name default reads value := by
  rcases unset_or_given lookup name with none | ⟨text, found, dark⟩
  · rw [unset (setting?_unset none)]
    exact .unset none
  · exact .given found dark (given _ (setting?_given found dark))

theorem Settles.alike (settles : Settles lookup name default reads value)
    (alike : Alike lookup other name) : Settles other name default reads value := by
  cases settles with
  | unset unset => exact .unset (alike.unset unset)
  | given found dark read => exact .given (alike.given found dark) dark read

theorem Settles.of_unset (settles : Settles lookup name default reads value)
    (unset : IsUnset lookup name) : value = default := by
  cases settles with
  | unset => rfl
  | given found dark _ => exact absurd unset (not_unset found dark)

theorem Settles.of_given (settles : Settles lookup name default reads value)
    (found : lookup name = some text) (dark : ¬ isBlankText text) : reads (trim text) value := by
  cases settles with
  | unset unset => exact absurd unset (not_unset found dark)
  | given there _ read =>
    cases found.symm.trans there
    exact read

theorem Settles.once {first second : α} (former : Settles lookup name default reads first)
    (latter : Settles lookup name default reads second)
    (once : ∀ text a b, reads text a → reads text b → a = b) : first = second := by
  rcases unset_or_given lookup name with unset | ⟨text, found, dark⟩
  · rw [former.of_unset unset, latter.of_unset unset]
  · exact once _ _ _ (former.of_given found dark) (latter.of_given found dark)

end Variables

section Counts

variable {lookup : String → Option String} {name : String} {limit default n : Nat}

def IsCount (limit : Nat) (text : String) (n : Nat) : Prop :=
  Counts text.toList n ∧ n ≤ limit

theorem isCount_iff {text : String} :
    IsCount limit text n ↔ unsigned? limit text.toList = some n :=
  unsigned?_eq_some.symm

instance (limit : Nat) (text : String) : Decidable (∃ n, IsCount limit text n) :=
  decidable_of_iff (unsigned? limit text.toList).isSome (by
    simp only [Option.isSome_iff_exists, isCount_iff])

theorem IsCount.once (limit : Nat) (text : String) (m n : Nat) (first : IsCount limit text m)
    (second : IsCount limit text n) : m = n := by
  rw [isCount_iff] at first second
  exact Option.some.inj (first.symm.trans second)

def IsReadable (lookup : String → Option String) (name : String) (limit : Nat) : Prop :=
  ∀ text ∈ lookup name, isBlankText text ∨ ∃ n, IsCount limit (trim text) n

instance (lookup : String → Option String) (name : String) (limit : Nat) :
    Decidable (IsReadable lookup name limit) :=
  inferInstanceAs (Decidable (∀ _ ∈ _, _ ∨ _))

def SetsZero (lookup : String → Option String) (name : String) : Prop :=
  ∃ text ∈ lookup name, Counts (trim text).toList 0

instance (text : List Char) : Decidable (Counts text 0) :=
  decidable_of_iff (unsigned? 0 text = some 0) (by
    rw [unsigned?_eq_some, and_iff_left (Nat.le_refl 0)])

instance (lookup : String → Option String) (name : String) : Decidable (SetsZero lookup name) :=
  inferInstanceAs (Decidable (∃ _ ∈ _, _))

theorem count_eq_ok (read : count lookup name limit default = .ok n) :
    Settles lookup name default (IsCount limit) n := by
  unfold count at read
  rcases unset_or_given lookup name with unset | ⟨text, found, dark⟩
  · rw [setting?_unset unset] at read
    cases read
    exact .unset unset
  · rw [setting?_given found dark] at read
    dsimp only at read
    split at read
    · next counts =>
      cases read
      exact .given found dark (isCount_iff.mpr counts)
    · cases read

theorem count_eq_error {failure : Failure}
    (refused : count lookup name limit default = .error failure) :
    ∃ text, lookup name = some text ∧ ¬ IsReadable lookup name limit ∧
      failure = .notACount name (trim text) := by
  unfold count at refused
  rcases unset_or_given lookup name with unset | ⟨text, found, dark⟩
  · rw [setting?_unset unset] at refused
    cases refused
  · rw [setting?_given found dark] at refused
    dsimp only at refused
    split at refused
    · cases refused
    · next none =>
      cases refused
      refine ⟨text, found, fun readable => ?_, rfl⟩
      rcases readable text found with blank | ⟨n, counts⟩
      · exact dark blank
      · cases (isCount_iff.mp counts).symm.trans none

theorem Settles.readable (settles : Settles lookup name default (IsCount limit) n) :
    IsReadable lookup name limit := by
  intro text found
  by_cases blank : isBlankText text
  · exact .inl blank
  · exact .inr ⟨n, settles.of_given found blank⟩

theorem Settles.eq_zero (settles : Settles lookup name default (IsCount limit) n)
    (nonzero : default ≠ 0) : n = 0 ↔ SetsZero lookup name := by
  rcases unset_or_given lookup name with unset | ⟨text, found, dark⟩
  · rw [settles.of_unset unset]
    refine iff_of_false nonzero ?_
    rintro ⟨text, found, counts⟩
    rw [trim_eq_empty.mpr (unset text found)] at counts
    exact absurd counts (by decide)
  · have read := settles.of_given found dark
    constructor
    · rintro rfl
      exact ⟨text, found, read.1⟩
    · rintro ⟨_, there, counts⟩
      cases found.symm.trans there
      exact IsCount.once limit _ _ _ read ⟨counts, Nat.zero_le _⟩

end Counts

end SellerDirectory.Config
