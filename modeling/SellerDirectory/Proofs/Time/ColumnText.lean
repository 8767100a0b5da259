import SellerDirectory.Proofs.Except
import SellerDirectory.Proofs.Text.Numeral
import SellerDirectory.Time.Printer
import SellerDirectory.Time.Reader

-- Which instants read back from the text that is stored for them. Those with a year of four digits
-- do; the sign that any other year stands behind is no digit.

namespace SellerDirectory.Time

open Text Numeral

section Digits

variable {count n : Nat} {rest : List Char}

theorem digits_padded (wide : 0 < count) (fits : n < Nat.pow 10 count) :
    Strict.digits count (padded count n ++ rest) = .ok (n, rest) := by
  have length := length_padded wide fits
  have all : (padded count n).all isDigit := List.all_eq_true.mpr fun _ => isDigit_of_mem_padded
  unfold Strict.digits
  rw [List.take_left' length, List.drop_left' length]
  simp [length, all, value_padded]

theorem digits_signed {sign : Char} (signed : isDigit sign = false) :
    Strict.digits (count + 1) (sign :: rest) = .error .invalid := by
  unfold Strict.digits
  simp [signed]

end Digits

section Parts

variable {rest : List Char}

def FourDigits (year : Int) : Prop :=
  0 ≤ year ∧ year ≤ 9999

instance (year : Int) : Decidable (FourDigits year) :=
  inferInstanceAs (Decidable (_ ∧ _))

theorem year_bounds (date : Date) : firstYear ≤ date.year ∧ date.year ≤ lastYear := by
  have there := date.isDate_eq
  simp only [isDate, Bool.and_eq_true, decide_eq_true_eq] at there
  exact ⟨there.1.1.1.1.1, there.1.1.1.1.2⟩

theorem monthDay_bounds (date : Date) :
    1 ≤ date.month ∧ date.month ≤ 12 ∧ 1 ≤ date.day ∧ date.day ≤ 31 := by
  obtain ⟨year, month, day, there⟩ := date
  simp only [isDate, Bool.and_eq_true, decide_eq_true_eq] at there
  have most : daysInMonth year month ≤ 31 := by
    unfold daysInMonth
    split <;> split <;> simp
  obtain ⟨⟨⟨⟨_, least⟩, months⟩, first⟩, last⟩ := there
  exact ⟨least, months, first, Nat.le_trans last most⟩

theorem monthDay_fit (date : Date) : date.month < Nat.pow 10 2 ∧ date.day < Nat.pow 10 2 := by
  obtain ⟨_, months, _, days⟩ := monthDay_bounds date
  exact ⟨Nat.lt_of_le_of_lt months (by decide), Nat.lt_of_le_of_lt days (by decide)⟩

theorem dateText_eq {date : Date} (short : FourDigits date.year) :
    dateText date = padded 4 date.year.toNat
      ++ '-' :: padded 2 date.month ++ '-' :: padded 2 date.day := by
  unfold dateText yearText
  rw [if_pos (by simpa [FourDigits] using short)]

theorem of?_date (date : Date) : Date.of? date.year date.month date.day = some date := by
  rw [Date.of?, dif_pos date.isDate_eq]

theorem year_fits {date : Date} (short : FourDigits date.year) : date.year.toNat < Nat.pow 10 4 := by
  have most : date.year ≤ 9999 := short.2
  change date.year.toNat < 10000
  omega

theorem date_dateText {date : Date} (short : FourDigits date.year) :
    Strict.date (dateText date ++ rest) = .ok (date, rest) := by
  obtain ⟨month, day⟩ := monthDay_fit date
  have checked : Date.of? date.year.toNat date.month date.day = some date := by
    rw [Int.toNat_of_nonneg short.1, of?_date]
  rw [dateText_eq short, List.append_assoc, List.append_assoc]
  refine bind_ok.mpr ⟨_, digits_padded (by decide) (year_fits short), ?_⟩
  refine bind_ok.mpr ⟨_, rfl, bind_ok.mpr ⟨_, digits_padded (by decide) month, ?_⟩⟩
  refine bind_ok.mpr ⟨_, rfl, bind_ok.mpr ⟨_, digits_padded (by decide) day, ?_⟩⟩
  exact bind_ok.mpr ⟨_, congrArg (orElse .outOfRange) checked, rfl⟩

theorem length_dateText {date : Date} (short : FourDigits date.year) :
    (dateText date).length = 10 := by
  obtain ⟨month, day⟩ := monthDay_fit date
  simp [dateText_eq short, length_padded _ (year_fits short), length_padded _ month,
    length_padded _ day]

def Stops (rest : List Char) : Prop :=
  ∀ c ∈ rest.head?, isDigit c = false

def Ended (rest : List Char) : Prop :=
  ∀ c ∈ rest.head?, isDigit c = false ∧ c ≠ '.'

theorem Ended.stops (ended : Ended rest) : Stops rest :=
  fun c first => (ended c first).1

theorem takeWhile_stops (stops : Stops rest) (count : Nat) :
    (rest.take count).takeWhile isDigit = [] := by
  cases rest with
  | nil => rw [List.take_nil]; rfl
  | cons c rest =>
    cases count with
    | zero => rfl
    | succ count =>
      rw [List.take_succ_cons]
      exact List.takeWhile_cons_of_neg (by simp [stops c rfl])

theorem shortNumber_padded {width most n : Nat} (wide : 0 < width) (enough : width ≤ most)
    (fits : n < Nat.pow 10 width) (stops : Stops rest) :
    shortNumber most (padded width n ++ rest) = .ok (n, rest) := by
  have length := length_padded wide fits
  have run : ((padded width n ++ rest).take most).takeWhile isDigit = padded width n := by
    rw [List.take_append, List.take_of_length_le (by omega),
      List.takeWhile_append_of_pos (fun _ => isDigit_of_mem_padded), takeWhile_stops stops,
      List.append_nil]
  obtain ⟨first, later, digits⟩ := List.exists_cons_of_length_pos (length ▸ wide)
  have digit : isDigit first := isDigit_of_mem_padded (digits ▸ List.mem_cons_self)
  have shape : shortNumber most (padded width n ++ rest) =
      .ok (value (((padded width n ++ rest).take most).takeWhile isDigit),
        (padded width n ++ rest).drop
          (((padded width n ++ rest).take most).takeWhile isDigit).length) := by
    rw [digits]
    simp only [List.cons_append, shortNumber, digit, if_true]
  rw [shape, run, value_padded, List.drop_left' rfl]

theorem fraction_padded {width n nano : Nat} (wide : 0 < width) (enough : width ≤ 9)
    (fits : n < Nat.pow 10 width) (whole : n * Nat.pow 10 (9 - width) = nano)
    (ended : Ended rest) :
    fraction ('.' :: (padded width n ++ rest)) = .ok (nano, rest) := by
  have length := length_padded wide fits
  have read : (padded width n ++ rest).length - rest.length = width := by
    rw [List.length_append]
    omega
  have done : rest.dropWhile isDigit = rest := by
    cases rest with
    | nil => rfl
    | cons c rest => exact List.dropWhile_cons_of_neg (by simp [(ended c rfl).1])
  refine bind_ok.mpr ⟨_, shortNumber_padded wide enough fits ended.stops, ?_⟩
  simp only [read, done, whole]
  rfl

theorem fraction_fractionText {nano : Nat} (fits : nano < 1000000000) (ended : Ended rest) :
    fraction (fractionText nano ++ rest) = .ok (nano, rest) := by
  unfold fractionText
  split
  · rename_i whole
    subst whole
    cases rest with
    | nil => rfl
    | cons c rest =>
      have other := (ended c rfl).2
      unfold fraction
      split
      · rename_i text same
        cases same
        exact absurd rfl other
      · rfl
  · split
    · rename_i thousandths
      exact fraction_padded (by decide) (by decide) (show nano / 1000000 < 1000 by omega)
        (show nano / 1000000 * 1000000 = nano by omega) ended
    · split
      · rename_i millionths
        exact fraction_padded (by decide) (by decide) (show nano / 1000 < 1000000 by omega)
          (show nano / 1000 * 1000 = nano by omega) ended
      · exact fraction_padded (by decide) (by decide) (show nano < 1000000000 by omega)
          (Nat.mul_one nano) ended

theorem clock_fits (clock : Clock) :
    clock.hour < 24 ∧ clock.minute < 60 ∧ clock.second ≤ 60 ∧ clock.nano < 1000000000 := by
  simpa [isClock, and_assoc] using clock.isClock_eq

theorem clockDigits_fit (clock : Clock) : clock.hour < Nat.pow 10 2 ∧
    clock.minute < Nat.pow 10 2 ∧ clock.second < Nat.pow 10 2 := by
  obtain ⟨hour, minute, second, _⟩ := clock_fits clock
  change clock.hour < 100 ∧ clock.minute < 100 ∧ clock.second < 100
  omega

theorem of?_clock (clock : Clock) :
    Clock.of? clock.hour clock.minute clock.second clock.nano = some clock := by
  rw [Clock.of?, dif_pos clock.isClock_eq]

theorem clock_secondsText {clock : Clock} (ended : Ended rest) :
    Strict.clock (secondsText clock ++ fractionText clock.nano ++ rest) = .ok (clock, rest) := by
  obtain ⟨hour, minute, second⟩ := clockDigits_fit clock
  have nano := (clock_fits clock).2.2.2
  unfold secondsText
  simp only [List.append_assoc, List.cons_append]
  refine bind_ok.mpr ⟨_, digits_padded (by decide) hour, ?_⟩
  refine bind_ok.mpr ⟨_, rfl, bind_ok.mpr ⟨_, digits_padded (by decide) minute, ?_⟩⟩
  refine bind_ok.mpr ⟨_, rfl, bind_ok.mpr ⟨_, digits_padded (by decide) second, ?_⟩⟩
  refine bind_ok.mpr ⟨_, fraction_fractionText nano ended, ?_⟩
  exact bind_ok.mpr ⟨_, congrArg (orElse .outOfRange) (of?_clock clock), rfl⟩

theorem length_secondsText (clock : Clock) : (secondsText clock).length = 8 := by
  obtain ⟨hour, minute, second⟩ := clockDigits_fit clock
  unfold secondsText
  simp only [List.length_append, List.length_cons]
  rw [length_padded (by decide) hour, length_padded (by decide) minute,
    length_padded (by decide) second]

end Parts

theorem ofLocal?_utc (date : Date) (clock : Clock) :
    Instant.ofLocal? date clock 0 = some ⟨date, clock⟩ := by
  obtain ⟨hour, minute, _, _⟩ := clock_fits clock
  have early : ¬ (clock.hour * 60 + clock.minute - 0 : Int) < 0 := by omega
  have late : (clock.hour * 60 + clock.minute - 0 : Int) < 1440 := by omega
  have number : (clock.hour * 60 + clock.minute - 0 : Int).toNat =
      clock.hour * 60 + clock.minute := by omega
  have hours : (clock.hour * 60 + clock.minute) / 60 = clock.hour := by omega
  have minutes : (clock.hour * 60 + clock.minute) % 60 = clock.minute := by omega
  simp only [Instant.ofLocal?, early, late, if_false, if_true, number, Clock.moved?, hours, minutes,
    of?_clock]
  rfl

theorem length_le_encode (text : List Char) : text.length ≤ (Utf8.encode text).length := by
  induction text with
  | nil => exact Nat.le_refl 0
  | cons c rest ih =>
    have one : 0 < (String.utf8EncodeChar c).length := by
      rw [String.length_utf8EncodeChar]
      exact Char.utf8Size_pos c
    unfold Utf8.encode at ih ⊢
    rw [List.flatMap_cons, List.length_append, List.length_cons]
    omega

-- The instants that read back once they are stored.
def Instant.Storable (instant : Instant) : Prop :=
  FourDigits instant.date.year

instance (instant : Instant) : Decidable instant.Storable :=
  inferInstanceAs (Decidable (FourDigits _))

theorem columnText_eq (instant : Instant) :
    instant.columnText.toList = dateText instant.date
      ++ 'T' :: (secondsText instant.clock ++ fractionText instant.clock.nano
        ++ ['+', '0', '0', ':', '0', '0']) := by
  simp [Instant.columnText, Instant.textWith]

theorem read_columnText {instant : Instant} (storable : instant.Storable) :
    Strict.read instant.columnText.toList = .ok instant := by
  have long : ¬ (Utf8.encode instant.columnText.toList).length < 19 := by
    have least := length_le_encode instant.columnText.toList
    rw [columnText_eq] at least ⊢
    simp only [List.length_append, List.length_cons, length_dateText storable,
      length_secondsText] at least
    omega
  unfold Strict.read
  rw [if_neg long, columnText_eq]
  refine bind_ok.mpr ⟨_, date_dateText storable, ?_⟩
  refine bind_ok.mpr ⟨_, rfl, bind_ok.mpr ⟨_, clock_secondsText (by simp [Ended, isDigit]), ?_⟩⟩
  refine bind_ok.mpr ⟨(0, []), rfl, ?_⟩
  simp only [List.isEmpty_nil, if_true]
  exact bind_ok.mpr ⟨0, rfl, congrArg (orElse .outOfRange) (ofLocal?_utc _ _)⟩

-- A year of another length stands behind a sign, where a digit is wanted.
theorem read_signed {instant : Instant} (other : ¬ instant.Storable) :
    ∃ error, Strict.read instant.columnText.toList = .error error := by
  obtain ⟨sign, rest, text, signed⟩ : ∃ sign rest,
      instant.columnText.toList = sign :: rest ∧ isDigit sign = false := by
    have no_digits : ¬ (0 ≤ instant.date.year && instant.date.year ≤ 9999) := by
      simpa [Instant.Storable, FourDigits] using other
    rw [columnText_eq, dateText, yearText, if_neg no_digits]
    refine ⟨_, _, rfl, ?_⟩
    split <;> rfl
  rw [text]
  unfold Strict.read
  split
  · exact ⟨_, rfl⟩
  · unfold Strict.date
    rw [digits_signed signed]
    exact ⟨_, rfl⟩

theorem storable_iff_reads {instant : Instant} :
    instant.Storable ↔ ∃ read, Strict.read instant.columnText.toList = .ok read := by
  constructor
  · exact fun storable => ⟨instant, read_columnText storable⟩
  · rintro ⟨read, done⟩
    apply Decidable.byContradiction
    intro other
    obtain ⟨error, failed⟩ := read_signed other
    rw [failed] at done
    cases done

end SellerDirectory.Time
