import SellerDirectory.Proofs.Text.Blank
import SellerDirectory.Proofs.Time.ColumnText

-- Every instant reads back from the text that a message has for it. A year that does not stand alone
-- has a sign in front, behind which the lenient form takes any number of digits.

namespace SellerDirectory.Time

open Text Numeral

section Numbers

variable {width most n : Nat} {rest : List Char}

theorem length_padded_pos : 0 < (padded width n).length := by
  have digits : 0 < (ofNat n).length := List.length_pos_iff.mpr Nat.toDigits_ne_nil
  rw [padded, List.length_append]
  omega

theorem padded_own_width : padded (padded width n).length n = padded width n := by
  unfold padded
  rw [List.length_append, List.length_replicate]
  congr 2
  omega

theorem fits_own_width : n < Nat.pow 10 (padded width n).length := by
  refine (Nat.length_toDigits_le_iff (by decide) length_padded_pos).mp ?_
  rw [padded, List.length_append]
  exact Nat.le_add_left _ _

theorem shortNumber_own_width (enough : (padded width n).length ≤ most) (stops : Stops rest) :
    shortNumber most (padded width n ++ rest) = .ok (n, rest) := by
  have read := shortNumber_padded length_padded_pos enough fits_own_width stops
  rwa [padded_own_width] at read

theorem isBlank_digit {c : Char} (digit : isDigit c) : isBlank c = false := by
  have bounds : 48 ≤ c.toNat ∧ c.toNat ≤ 57 := by
    simp only [isDigit, Bool.and_eq_true, decide_eq_true_eq, Char.le_def, UInt32.le_iff_toNat_le] at digit
    exact digit
  simp only [isBlank, Bool.or_eq_false_iff, Bool.and_eq_false_iff, decide_eq_false_iff_not,
    beq_eq_false_iff_ne]
  omega

theorem head?_padded (rest : List Char) : ∀ c ∈ (padded width n ++ rest).head?, isDigit c := by
  intro c first
  have some_digit : 0 < (padded width n).length := length_padded_pos
  obtain ⟨digit, more, digits⟩ := List.exists_cons_of_length_pos some_digit
  rw [digits] at first
  cases first
  exact isDigit_of_mem_padded (digits ▸ List.mem_cons_self)

theorem dropBlanks_padded (rest : List Char) :
    dropBlanks (padded width n ++ rest) = padded width n ++ rest :=
  dropBlanks_eq_self fun c first => isBlank_digit (head?_padded rest c first)

end Numbers

namespace Lenient

variable {n : Nat} {rest : List Char} {date : Date} {clock : Clock}

theorem bounded_padded {least most : Nat} (above : least ≤ n) (below : n ≤ most) (few : n < 100)
    (stops : Stops rest) : bounded least most (padded 2 n ++ rest) = .ok (n, rest) := by
  unfold bounded
  rw [dropBlanks_padded]
  refine bind_ok.mpr ⟨_, shortNumber_padded (by decide) (Nat.le_refl 2) few stops, ?_⟩
  simp only [above, below, decide_true, Bool.and_self, if_true]
  rfl

theorem separator_same {c : Char} (solid : isBlank c = false) : separator c (c :: rest) = .ok rest := by
  unfold separator
  rw [dropBlanks_eq_self (by rintro _ ⟨⟩; exact solid)]
  exact if_pos rfl

-- Signed years are read to the last digit, others by four digits.
theorem signed_padded (stops : Stops rest) :
    shortNumber (padded 4 n ++ rest).length (padded 4 n ++ rest) = .ok (n, rest) :=
  shortNumber_own_width (by rw [List.length_append]; omega) stops

theorem year_before (least : n ≤ 2147483648) (stops : Stops rest) :
    year ('-' :: padded 4 n ++ rest) = .ok (-(n : Int), rest) := by
  unfold year
  rw [List.cons_append, dropBlanks_eq_self (by rintro _ ⟨⟩; rfl)]
  refine bind_ok.mpr ⟨_, signed_padded stops, ?_⟩
  simp only [least, if_true]
  rfl

theorem year_after (most : n ≤ 2147483647) (stops : Stops rest) :
    year ('+' :: padded 4 n ++ rest) = .ok ((n : Int), rest) := by
  unfold year
  rw [List.cons_append, dropBlanks_eq_self (by rintro _ ⟨⟩; rfl)]
  refine bind_ok.mpr ⟨_, signed_padded stops, ?_⟩
  simp only [most, if_true]
  rfl

theorem year_unsigned (few : n < Nat.pow 10 4) (stops : Stops rest) :
    year (padded 4 n ++ rest) = .ok ((n : Int), rest) := by
  have read := shortNumber_padded (by decide) (Nat.le_refl 4) few stops
  have first : ∀ c ∈ (padded 4 n ++ rest).head?, isDigit c := head?_padded rest
  unfold year
  rw [dropBlanks_padded]
  generalize padded 4 n ++ rest = text at read first
  split
  · exact absurd (first '-' rfl) (by decide)
  · exact absurd (first '+' rfl) (by decide)
  · exact bind_ok.mpr ⟨_, read, rfl⟩

theorem year_yearText (date : Date) (stops : Stops rest) :
    year (yearText date.year ++ rest) = .ok (date.year, rest) := by
  have bounds : -262143 ≤ date.year ∧ date.year ≤ 262142 := year_bounds date
  unfold yearText
  by_cases short : FourDigits date.year
  · have same : ((date.year.toNat : Nat) : Int) = date.year := Int.toNat_of_nonneg short.1
    have read := year_unsigned (year_fits short) stops
    rw [same] at read
    rw [if_pos (by simpa [FourDigits] using short)]
    exact read
  · rw [if_neg (by simpa [FourDigits] using short)]
    split
    · rename_i negative
      have read := year_before (by omega : date.year.natAbs ≤ 2147483648) stops
      rwa [show -((date.year.natAbs : Nat) : Int) = date.year by omega] at read
    · rename_i positive
      have read := year_after (by omega : date.year.natAbs ≤ 2147483647) stops
      rwa [show ((date.year.natAbs : Nat) : Int) = date.year by omega] at read

theorem stops_cons {c : Char} (other : isDigit c = false) : Stops (c :: rest) := by
  rintro _ ⟨⟩
  exact other

theorem stops_fractionText (nano : Nat) : Stops (fractionText nano ++ ['Z']) := by
  unfold fractionText
  split
  · exact stops_cons (by decide)
  split
  · exact stops_cons (by decide)
  split <;> exact stops_cons (by decide)

theorem zone_utc : zone (dropBlanks ['Z']) = .ok (0, []) := rfl

theorem read_text (instant : Instant) : read (instant.textWith ['Z']) = .ok instant := by
  obtain ⟨date, clock⟩ := instant
  obtain ⟨month_least, month_most, day_least, day_most⟩ := monthDay_bounds date
  obtain ⟨hour, minute, second, nano⟩ := clock_fits clock
  have ended : Ended ['Z'] := by
    rintro _ ⟨⟩
    decide
  unfold Instant.textWith dateText secondsText
  simp only [List.append_assoc, List.cons_append]
  unfold read
  refine bind_ok.mpr ⟨_, year_yearText date (stops_cons (by decide)), ?_⟩
  refine bind_ok.mpr ⟨_, separator_same (by decide), bind_ok.mpr ⟨_, bounded_padded month_least
    month_most (by omega) (stops_cons (by decide)), ?_⟩⟩
  refine bind_ok.mpr ⟨_, separator_same (by decide), bind_ok.mpr ⟨_, bounded_padded day_least
    day_most (by omega) (stops_cons (by decide)), ?_⟩⟩
  refine bind_ok.mpr ⟨_, rfl, bind_ok.mpr ⟨_, bounded_padded (Nat.zero_le _) (by omega) (by omega)
    (stops_cons (by decide)), ?_⟩⟩
  refine bind_ok.mpr ⟨_, separator_same (by decide), bind_ok.mpr ⟨_, bounded_padded (Nat.zero_le _)
    (by omega) (by omega) (stops_cons (by decide)), ?_⟩⟩
  refine bind_ok.mpr ⟨_, separator_same (by decide), bind_ok.mpr ⟨_, bounded_padded (Nat.zero_le _)
    second (by omega) (stops_fractionText clock.nano), ?_⟩⟩
  refine bind_ok.mpr ⟨_, fraction_fractionText nano ended, bind_ok.mpr ⟨_, zone_utc, ?_⟩⟩
  refine bind_ok.mpr ⟨_, congrArg (orElse .outOfRange) (of?_date date), ?_⟩
  refine bind_ok.mpr ⟨_, congrArg (orElse .outOfRange) (of?_clock clock), ?_⟩
  exact bind_ok.mpr ⟨0, rfl, congrArg (orElse .impossible) (ofLocal?_utc date clock)⟩

end Lenient

end SellerDirectory.Time
