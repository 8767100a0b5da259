import SellerDirectory.Proofs.Json.Text
import SellerDirectory.Proofs.Text.Numeral

-- Whole numbers. Their digits are read into a word of 64 bits as far as they fit, and a number that
-- fits is read to its last digit, since none follows it.

namespace SellerDirectory.Json

open Text Numeral

variable {n : Nat} {bytes rest : List UInt8} {expected : Expected}

def Ends (rest : List UInt8) : Prop :=
  ∀ b ∈ rest.head?, b = ','.toUInt8 ∨ b = ']'.toUInt8 ∨ b = '\x7d'.toUInt8

theorem ends_nil : Ends [] := by
  rintro _ ⟨⟩

section Digits

def digitByte (n : Nat) : UInt8 :=
  UInt8.ofNat (n + 48)

theorem digitByte_facts {n : Nat} (few : n < 10) :
    Utf8.encode [Nat.digitChar n] = [digitByte n] ∧ isDigitByte (digitByte n) ∧
      digitOf (digitByte n) = n ∧ (digitByte n = '0'.toUInt8 ↔ n = 0) := by
  have each : ∀ n : Fin 10, Utf8.encode [Nat.digitChar n] = [digitByte n] ∧
      isDigitByte (digitByte n) ∧ digitOf (digitByte n) = n.val ∧
        (digitByte n = '0'.toUInt8 ↔ n.val = 0) := by
    decide
  exact each ⟨n, few⟩

theorem encode_ofNat (n : Nat) :
    Utf8.encode (ofNat n) =
      if n < 10 then [digitByte n] else Utf8.encode (ofNat (n / 10)) ++ [digitByte (n % 10)] := by
  unfold ofNat
  rw [Nat.toDigits_eq_if (by decide)]
  split
  · rename_i few
    exact (digitByte_facts few).1
  · rw [Utf8.encode_append, (digitByte_facts (Nat.mod_lt n (by decide))).1]

theorem growing_ofNat (fits : n ≤ maxUnsigned64) (rest : List UInt8) :
    growing 0 (Utf8.encode (ofNat n) ++ rest) = growing n rest := by
  induction n using Nat.strongRecOn generalizing rest with
  | ind n ih =>
    rw [encode_ofNat]
    split
    · rename_i few
      obtain ⟨_, digit, value, _⟩ := digitByte_facts few
      rw [List.singleton_append, growing]
      simp [digit, value, fits]
    · rename_i many
      obtain ⟨_, digit, value, _⟩ := digitByte_facts (Nat.mod_lt n (by decide : 10 > 0))
      have whole : n / 10 * 10 + n % 10 = n := Nat.div_add_mod' n 10
      rw [List.append_assoc, ih (n / 10) (by omega) (by omega), List.singleton_append, growing]
      simp [digit, value, whole, fits]

theorem encode_zero : Utf8.encode (ofNat 0) = ['0'.toUInt8] := by
  decide

theorem encode_positive (positive : 0 < n) :
    ∃ b more, Utf8.encode (ofNat n) = b :: more ∧ isDigitByte b ∧ b ≠ '0'.toUInt8 := by
  induction n using Nat.strongRecOn with
  | ind n ih =>
    rw [encode_ofNat]
    split
    · rename_i few
      obtain ⟨_, digit, _, zero⟩ := digitByte_facts few
      exact ⟨_, [], rfl, digit, fun same => Nat.ne_of_gt positive (zero.mp same)⟩
    · rename_i many
      obtain ⟨b, more, start, digit, other⟩ := ih (n / 10) (by omega) (by omega)
      exact ⟨b, _, by rw [start]; rfl, digit, other⟩

end Digits

section Ending

theorem ends_cases (ends : Ends rest) :
    startsWithDigit rest = false ∧ startsWithExponent rest = false ∧
      rest.head? ≠ some '.'.toUInt8 := by
  cases rest with
  | nil => exact ⟨rfl, rfl, by simp⟩
  | cons b rest =>
    have closes : isDigitByte b = false ∧ (b == 'e'.toUInt8 || b == 'E'.toUInt8) = false ∧
        some b ≠ some '.'.toUInt8 := by
      rcases ends b rfl with rfl | rfl | rfl <;> decide
    exact closes

theorem growing_ended (ends : Ends rest) : growing n rest = (n, rest) := by
  cases rest with
  | nil => rfl
  | cons b rest =>
    have other : isDigitByte b = false := (ends_cases ends).1
    rw [growing]
    simp [other]

theorem numberEnd_whole (ends : Ends rest) :
    numberEnd false n rest = .ok (.whole n, rest) := by
  obtain ⟨digit, exponent, point⟩ := ends_cases ends
  unfold numberEnd
  rw [read_bind get_bytes]
  simp only [digit, exponent, point, if_false, Bool.false_eq_true]
  rfl

theorem numberEnd_negative (positive : 0 < n) (fits : n ≤ Nat.pow 2 63) (ends : Ends rest) :
    numberEnd true n rest = .ok (.whole (-n), rest) := by
  obtain ⟨digit, exponent, point⟩ := ends_cases ends
  unfold numberEnd
  rw [read_bind get_bytes]
  simp only [digit, exponent, point, if_false, Bool.false_eq_true]
  have inside : ¬ (n = 0 || Nat.pow 2 63 < n) := by
    rw [Bool.or_eq_true, decide_eq_true_eq, decide_eq_true_eq, not_or]
    exact ⟨Nat.ne_of_gt positive, Nat.not_lt.mpr fits⟩
  rw [if_neg inside]
  rfl

end Ending

theorem number_ofNat (negative : Bool) (fits : n ≤ maxUnsigned64) (ends : Ends rest) :
    number negative (Utf8.encode (ofNat n) ++ rest) = numberEnd negative n rest := by
  rcases Nat.eq_zero_or_pos n with rfl | positive
  · rw [encode_zero, List.singleton_append, number]
    simp [(ends_cases ends).1]
  · have grown := growing_ofNat fits rest
    rw [growing_ended ends] at grown
    obtain ⟨b, more, start, digit, other⟩ := encode_positive positive
    rw [start, List.cons_append] at grown ⊢
    rw [number]
    simp [other, digit, grown]

theorem start_ofNat (n : Nat) :
    ∃ b more, Utf8.encode (ofNat n) = b :: more ∧ isDigitByte b := by
  rcases Nat.eq_zero_or_pos n with rfl | positive
  · exact ⟨_, [], encode_zero, by decide⟩
  · obtain ⟨b, more, start, digit, _⟩ := encode_positive positive
    exact ⟨b, more, start, digit⟩

theorem isDigitByte_bounds {b : UInt8} (digit : isDigitByte b) : 48 ≤ b.toNat ∧ b.toNat ≤ 57 := by
  simp only [isDigitByte, Bool.and_eq_true, decide_eq_true_eq, UInt8.le_iff_toNat_le] at digit
  exact digit

theorem solid_digit {b : UInt8} (digit : isDigitByte b) : isSpace b = false := by
  have bounds := isDigitByte_bounds digit
  simp only [isSpace, Bool.or_eq_false_iff, beq_eq_false_iff_ne, ne_eq]
  refine ⟨⟨⟨?_, ?_⟩, ?_⟩, ?_⟩ <;> rintro rfl <;> simp at bounds

theorem readNumber_ofNat (fits : n ≤ maxUnsigned64) (ends : Ends rest) :
    Codec.readNumber expected (Utf8.encode (ofNat n) ++ rest) = .ok (.whole n, rest) := by
  have read := number_ofNat false fits ends
  obtain ⟨b, more, start, digit⟩ := start_ofNat n
  have unsigned : (b == '-'.toUInt8) = false := by
    have bounds := isDigitByte_bounds digit
    rw [beq_eq_false_iff_ne]
    rintro rfl
    exact absurd bounds.1 (by decide)
  rw [start, List.cons_append] at read ⊢
  rw [Codec.readNumber, read_bind (token_cons (solid_digit digit)), unsigned, if_neg (by decide),
    if_pos digit, read]
  exact numberEnd_whole ends

theorem readNumber_negative (positive : 0 < n) (fits : n ≤ Nat.pow 2 63) (ends : Ends rest) :
    Codec.readNumber expected (Utf8.encode ('-' :: ofNat n) ++ rest) = .ok (.whole (-n), rest) := by
  have small : n ≤ maxUnsigned64 := Nat.le_trans fits (by decide)
  have bytes : Utf8.encode ('-' :: ofNat n) = '-'.toUInt8 :: Utf8.encode (ofNat n) :=
    Utf8.encode_cons '-' (ofNat n)
  rw [bytes, List.cons_append, Codec.readNumber, read_bind (token_cons (by decide)),
    if_pos (by decide), read_bind advance_cons, number_ofNat true small ends]
  exact numberEnd_negative positive fits ends

theorem readNumber_ofInt {number : Int} (least : minSigned64 ≤ number)
    (most : number ≤ maxUnsigned64) (ends : Ends rest) :
    Codec.readNumber expected (Utf8.encode (ofInt number) ++ rest) = .ok (.whole number, rest) := by
  cases number with
  | ofNat n => exact readNumber_ofNat (Int.ofNat_le.mp most) ends
  | negSucc n =>
    have fits : n + 1 ≤ Nat.pow 2 63 := by
      change -9223372036854775808 ≤ Int.negSucc n at least
      change n + 1 ≤ 9223372036854775808
      omega
    exact readNumber_negative (Nat.succ_pos n) fits ends

theorem readWhole_ofInt {number least most : Int} (above : least ≤ number) (below : number ≤ most)
    (word : minSigned64 ≤ number ∧ number ≤ maxUnsigned64) (ends : Ends rest) :
    Codec.readWhole expected least most (Utf8.encode (ofInt number) ++ rest) =
      .ok (number, rest) := by
  rw [Codec.readWhole, read_bind (readNumber_ofInt word.1 word.2 ends)]
  simp only [above, below, decide_true, Bool.and_self, if_true]
  rfl

end SellerDirectory.Json
