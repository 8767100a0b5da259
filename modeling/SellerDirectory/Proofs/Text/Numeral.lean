import SellerDirectory.Text.Numeral

-- A number as it is written, padded or not, is a run of digits that denotes the number; with its
-- sign it reads back. Padded, it takes no more than its width where it fits.

namespace SellerDirectory.Text.Numeral

variable {width n : Nat}

theorem value_eq (digits : List Char) : value digits = Nat.ofDigitChars 10 digits 0 := by
  unfold value Nat.ofDigitChars
  congr 1
  funext total c
  rw [Nat.mul_comm]
  rfl

theorem isDigit_of_mem_ofNat {c : Char} (member : c ∈ ofNat n) : isDigit c :=
  Nat.isDigit_of_mem_toDigits (by decide) (by decide) member

theorem value_padded : value (padded width n) = n := by
  rw [value_eq, padded, Nat.ofDigitChars_append, Nat.ofDigitChars_replicate_zero, Nat.mul_zero]
  exact Nat.ofDigitChars_ten_toDigits

theorem isDigit_of_mem_padded {c : Char} (member : c ∈ padded width n) : isDigit c := by
  rcases List.mem_append.mp member with zero | digit
  · rw [List.eq_of_mem_replicate zero]
    rfl
  · exact isDigit_of_mem_ofNat digit

theorem length_padded (wide : 0 < width) (fits : n < Nat.pow 10 width) :
    (padded width n).length = width := by
  have short : (ofNat n).length ≤ width := (Nat.length_toDigits_le_iff (by decide) wide).mpr fits
  rw [padded, List.length_append, List.length_replicate]
  omega

theorem natural?_ofNat : natural? (ofNat n) = some n := by
  have some_digits : (ofNat n).isEmpty = false :=
    List.isEmpty_eq_false_iff.mpr Nat.toDigits_ne_nil
  have digits : (ofNat n).all isDigit := List.all_eq_true.mpr fun _ => isDigit_of_mem_ofNat
  have same : value (ofNat n) = n := by
    rw [value_eq]
    exact Nat.ofDigitChars_ten_toDigits
  simp [natural?, some_digits, digits, same]

theorem signed?_digits {digits : List Char} (all : ∀ c ∈ digits, isDigit c) :
    signed? digits = ((natural? digits).map Int.ofNat).filter fun n =>
      minSigned64 ≤ n && n ≤ maxSigned64 := by
  unfold signed?
  split
  · exact absurd (all '+' List.mem_cons_self) (by decide)
  · exact absurd (all '-' List.mem_cons_self) (by decide)
  · rfl

theorem isDigit_of_mem_ofInt {c : Char} {number : Int} (member : c ∈ ofInt number) :
    isDigit c ∨ c = '-' := by
  cases number with
  | ofNat n => exact .inl (isDigit_of_mem_ofNat member)
  | negSucc n =>
    rcases List.mem_cons.mp member with sign | digit
    · exact .inr sign
    · exact .inl (isDigit_of_mem_ofNat digit)

theorem not_mem_ofInt {c : Char} {number : Int} (other : isDigit c = false) (unsigned : c ≠ '-') :
    c ∉ ofInt number := by
  intro member
  rcases isDigit_of_mem_ofInt member with digit | sign
  · exact absurd digit (by simp [other])
  · exact unsigned sign

theorem ofNat_inj {m : Nat} : ofNat m = ofNat n ↔ m = n := by
  constructor
  · intro same
    have read := congrArg natural? same
    rw [natural?_ofNat, natural?_ofNat] at read
    exact Option.some.inj read
  · rintro rfl
    rfl

-- No two numbers are written alike: only the negative ones start with a sign.
theorem ofInt_inj {left right : Int} : ofInt left = ofInt right ↔ left = right := by
  have unsigned (m : Nat) (digits : List Char) : ofNat m ≠ '-' :: digits := by
    intro same
    have sign : '-' ∈ ofNat m := by
      rw [same]
      exact List.mem_cons_self
    exact absurd (isDigit_of_mem_ofNat sign) (by decide)
  constructor
  · intro same
    cases left with
    | ofNat m =>
      cases right with
      | ofNat n => exact congrArg Int.ofNat (ofNat_inj.mp same)
      | negSucc n => exact absurd same (unsigned m _)
    | negSucc m =>
      cases right with
      | ofNat n => exact absurd same.symm (unsigned n _)
      | negSucc n =>
        have next := ofNat_inj.mp (List.cons.inj same).2
        exact congrArg Int.negSucc (Nat.succ.inj next)
  · rintro rfl
    rfl

def IsSigned64 (number : Int) : Prop :=
  minSigned64 ≤ number ∧ number ≤ maxSigned64

instance (number : Int) : Decidable (IsSigned64 number) :=
  inferInstanceAs (Decidable (_ ∧ _))

theorem isSigned64_of_signed? {text : List Char} {number : Int}
    (read : signed? text = some number) : IsSigned64 number := by
  have bounds := (Option.filter_eq_some_iff.mp read).2
  simpa [IsSigned64] using bounds

inductive Denotes : List Char → Int → Prop where
  | bare {digits : List Char} (some : digits ≠ []) (all : ∀ c ∈ digits, isDigit c) :
      Denotes digits (value digits)
  | plus {digits : List Char} (some : digits ≠ []) (all : ∀ c ∈ digits, isDigit c) :
      Denotes ('+' :: digits) (value digits)
  | minus {digits : List Char} (some : digits ≠ []) (all : ∀ c ∈ digits, isDigit c) :
      Denotes ('-' :: digits) (-value digits)

theorem natural?_eq_some {text : List Char} :
    natural? text = some n ↔ text ≠ [] ∧ (∀ c ∈ text, isDigit c) ∧ value text = n := by
  simp [natural?, and_assoc]

theorem signed?_eq_some {text : List Char} {number : Int} :
    signed? text = some number ↔ Denotes text number ∧ IsSigned64 number := by
  have bounds : (minSigned64 ≤ number && number ≤ maxSigned64) = true ↔ IsSigned64 number := by
    simp [IsSigned64]
  unfold signed?
  rw [Option.filter_eq_some_iff, bounds]
  refine and_congr_left fun _ => ?_
  constructor
  · intro read
    split at read
    · obtain ⟨n, found, rfl⟩ := Option.map_eq_some_iff.mp read
      obtain ⟨some, all, rfl⟩ := natural?_eq_some.mp found
      exact .plus some all
    · obtain ⟨n, found, rfl⟩ := Option.map_eq_some_iff.mp read
      obtain ⟨some, all, rfl⟩ := natural?_eq_some.mp found
      exact .minus some all
    · obtain ⟨n, found, rfl⟩ := Option.map_eq_some_iff.mp read
      obtain ⟨some, all, rfl⟩ := natural?_eq_some.mp found
      exact .bare some all
  · intro denotes
    cases denotes with
    | plus some all =>
      simp only [natural?_eq_some.mpr ⟨some, all, rfl⟩]
      rfl
    | minus some all =>
      simp only [natural?_eq_some.mpr ⟨some, all, rfl⟩]
      rfl
    | bare some all =>
      have found := natural?_eq_some.mpr ⟨some, all, rfl⟩
      split
      · exact absurd (all '+' List.mem_cons_self) (by decide)
      · exact absurd (all '-' List.mem_cons_self) (by decide)
      · rw [found]
        rfl

inductive Counts : List Char → Nat → Prop where
  | bare {digits : List Char} (some : digits ≠ []) (all : ∀ c ∈ digits, isDigit c) :
      Counts digits (value digits)
  | plus {digits : List Char} (some : digits ≠ []) (all : ∀ c ∈ digits, isDigit c) :
      Counts ('+' :: digits) (value digits)

theorem unsigned?_eq_some {limit : Nat} {text : List Char} :
    unsigned? limit text = some n ↔ Counts text n ∧ n ≤ limit := by
  unfold unsigned?
  rw [Option.filter_eq_some_iff, decide_eq_true_iff]
  refine and_congr_left fun _ => ?_
  constructor
  · intro read
    split at read
    · obtain ⟨some, all, rfl⟩ := natural?_eq_some.mp read
      exact .plus some all
    · obtain ⟨some, all, rfl⟩ := natural?_eq_some.mp read
      exact .bare some all
  · intro counts
    cases counts with
    | plus some all => exact natural?_eq_some.mpr ⟨some, all, rfl⟩
    | bare some all =>
      split
      · exact absurd (all '+' List.mem_cons_self) (by decide)
      · exact natural?_eq_some.mpr ⟨some, all, rfl⟩

theorem signed?_ofInt {number : Int} (fits : IsSigned64 number) :
    signed? (ofInt number) = some number := by
  obtain ⟨least, greatest⟩ := fits
  cases number with
  | ofNat n =>
    rw [ofInt, signed?_digits fun _ => isDigit_of_mem_ofNat, natural?_ofNat]
    simpa using ⟨least, greatest⟩
  | negSucc n =>
    have same : -Int.ofNat (n + 1) = Int.negSucc n := rfl
    simp only [ofInt, signed?, natural?_ofNat, Option.map_some, same]
    simp [least, greatest]

end SellerDirectory.Text.Numeral
