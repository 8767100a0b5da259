import SellerDirectory.Proofs.Json.Grammar

-- White space, numbers and quoted texts as the grammar allows them. However they are written, each
-- of them is read, or passed over, to its end and no further.

namespace SellerDirectory.Json

open Text Numeral

variable {c : Char} {text digits : List Char} {b : UInt8} {bytes rest : List UInt8}

section Bytes

theorem encode_between {opening closing : Char} {first last : UInt8}
    (opens : Utf8.encode [opening] = [first]) (closes : Utf8.encode [closing] = [last])
    (text : List Char) (rest : List UInt8) :
    Utf8.encode (opening :: text ++ [closing]) ++ rest =
      first :: (Utf8.encode text ++ last :: rest) := by
  rw [Utf8.encode_enclosed opens closes, List.cons_append, List.append_assoc,
    List.singleton_append]

theorem encode_quoted (letters : List Char) (rest : List UInt8) :
    Utf8.encode (inQuotes letters) ++ rest =
      '"'.toUInt8 :: (Utf8.encode letters ++ '"'.toUInt8 :: rest) :=
  encode_between rfl rfl letters rest

theorem isSpace_of_mem (spacing : IsSpacing text) (member : b ∈ Utf8.encode text) : isSpace b := by
  obtain ⟨c, here, member⟩ := List.mem_flatMap.mp member
  have each : [' ', '\t', '\n', '\r'].all fun c => (String.utf8EncodeChar c).all isSpace := by
    decide
  exact List.all_eq_true.mp (List.all_eq_true.mp each c (spacing c here)) b member

theorem dropSpaces_append (spacing : IsSpacing text) (rest : List UInt8) :
    (Utf8.encode text ++ rest).dropWhile isSpace = rest.dropWhile isSpace :=
  List.dropWhile_append_of_pos fun _ member => isSpace_of_mem spacing member

theorem token_spaces (spacing : IsSpacing text) (rest : List UInt8) :
    token (Utf8.encode text ++ rest) = token rest := by
  unfold token
  rw [dropSpaces_append spacing]

theorem encode_digit (digit : isDigit c) :
    ∃ b, Utf8.encode [c] = [b] ∧ isDigitByte b ∧ (b = '0'.toUInt8 ↔ c = '0') := by
  have bounds : 48 ≤ c.toNat ∧ c.toNat ≤ 57 := by
    simpa [isDigit, Char.le_def, UInt32.le_iff_toNat_le] using digit
  have each : ∀ n : Fin 10, (Nat.digitChar n).toNat = 48 + n.val ∧
      (Nat.digitChar n = '0' ↔ n.val = 0) := by
    decide
  obtain ⟨n, few, rfl⟩ : ∃ n < 10, c = Nat.digitChar n := by
    refine ⟨c.toNat - 48, by omega, Char.toNat_inj.mp ?_⟩
    rw [(each ⟨c.toNat - 48, by omega⟩).1]
    exact (Nat.add_sub_cancel' bounds.1).symm
  obtain ⟨encoded, byte, _, zero⟩ := digitByte_facts few
  exact ⟨_, encoded, byte, zero.trans (each ⟨n, few⟩).2.symm⟩

theorem isDigitByte_of_mem (all : ∀ c ∈ digits, isDigit c) (member : b ∈ Utf8.encode digits) :
    isDigitByte b := by
  obtain ⟨c, here, member⟩ := List.mem_flatMap.mp member
  obtain ⟨d, encoded, digit, _⟩ := encode_digit (all c here)
  unfold Utf8.encode at encoded
  rw [List.flatMap_singleton] at encoded
  rw [encoded, List.mem_singleton] at member
  rwa [member]

theorem dropDigits_append (all : ∀ c ∈ digits, isDigit c) (ended : startsWithDigit rest = false) :
    (Utf8.encode digits ++ rest).dropWhile isDigitByte = rest := by
  rw [List.dropWhile_append_of_pos fun _ member => isDigitByte_of_mem all member]
  cases rest with
  | nil => rfl
  | cons b rest => exact List.dropWhile_cons_of_neg (Bool.eq_false_iff.mp ended)

theorem startsWithDigit_run (run : IsRun digits) (rest : List UInt8) :
    startsWithDigit (Utf8.encode digits ++ rest) := by
  obtain ⟨given, all⟩ := run
  obtain ⟨c, others, rfl⟩ := List.exists_cons_of_ne_nil given
  obtain ⟨b, encoded, digit, _⟩ := encode_digit (all c List.mem_cons_self)
  rw [Utf8.encode_cons, encoded]
  exact digit

end Bytes

section Numbers

def Stops (rest : List UInt8) : Prop :=
  ∀ b ∈ rest.head?, isDigitByte b = false ∧ b ≠ '.'.toUInt8 ∧ startsWithExponent [b] = false

variable {whole fraction exponent sign : List Char}

theorem startsWithDigit_of_stops (stops : Stops rest) : startsWithDigit rest = false := by
  cases rest with
  | nil => rfl
  | cons b rest => exact (stops b rfl).1

theorem skipExponent_run (signed : sign ∈ [[], ['+'], ['-']]) (run : IsRun digits)
    (ended : startsWithDigit rest = false) :
    skipExponent (Utf8.encode (sign ++ digits) ++ rest) = .ok rest := by
  have starts := startsWithDigit_run run rest
  have skipped := dropDigits_append run.2 ended
  rw [Utf8.encode_append, List.append_assoc]
  generalize Utf8.encode digits ++ rest = after at starts skipped ⊢
  have read : (if startsWithDigit after then .ok (after.dropWhile isDigitByte)
      else .error .malformed : Except DecodeError (List UInt8)) = .ok rest := by
    rw [if_pos starts, skipped]
  simp only [List.mem_cons, List.not_mem_nil, or_false] at signed
  rcases signed with rfl | rfl | rfl
  · cases after with
    | nil => cases starts
    | cons b after =>
      have unsigned : (b == '-'.toUInt8 || b == '+'.toUInt8) = false := by
        have digit : isDigitByte b := starts
        rw [Bool.or_eq_false_iff, beq_eq_false_iff_ne, beq_eq_false_iff_ne]
        constructor <;> rintro rfl <;> exact absurd digit (by decide)
      change skipExponent (b :: after) = _
      rw [skipExponent]
      simp only [unsigned, Bool.false_eq_true, if_false]
      exact read
  · exact read
  · exact read

theorem startsWithDigit_fraction (second : Fraction fraction) (third : Exponent exponent)
    (stops : Stops rest) :
    startsWithDigit (Utf8.encode (fraction ++ exponent) ++ rest) = false := by
  cases second with
  | point _ => rfl
  | none =>
    cases third with
    | none => exact startsWithDigit_of_stops stops
    | mark known _ _ =>
      simp only [List.mem_cons, List.not_mem_nil, or_false] at known
      rcases known with rfl | rfl <;> rfl

theorem exponent_cases (third : Exponent exponent) (stops : Stops rest) :
    Utf8.encode exponent ++ rest = rest ∨ ∃ e after, Utf8.encode exponent ++ rest = e :: after ∧
      startsWithExponent [e] ∧ e ≠ '.'.toUInt8 ∧ skipExponent after = .ok rest := by
  cases third with
  | none => exact .inl rfl
  | mark known signed run =>
    have read := skipExponent_run signed run (startsWithDigit_of_stops stops)
    simp only [List.mem_cons, List.not_mem_nil, or_false] at known
    rcases known with rfl | rfl <;> exact .inr ⟨_, _, rfl, by decide, by decide, read⟩

theorem skipNumberEnd_fraction (second : Fraction fraction) (third : Exponent exponent)
    (stops : Stops rest) :
    skipNumberEnd (Utf8.encode (fraction ++ exponent) ++ rest) = .ok rest := by
  have exponents := exponent_cases third stops
  cases second with
  | none =>
    change skipNumberEnd (Utf8.encode exponent ++ rest) = _
    rcases exponents with none | ⟨e, after, start, mark, point, read⟩
    · rw [none]
      cases rest with
      | nil => rfl
      | cons b rest =>
        obtain ⟨_, point, unmarked⟩ := stops b rfl
        simp [skipNumberEnd, point, unmarked]
    · rw [start]
      simp [skipNumberEnd, point, mark, read]
  | @point digits run =>
    have starts := startsWithDigit_run run (Utf8.encode exponent ++ rest)
    have skipped := dropDigits_append run.2 (startsWithDigit_fraction .none third stops)
    change skipNumberEnd ('.'.toUInt8 :: (Utf8.encode (digits ++ exponent) ++ rest)) = _
    rw [List.nil_append] at skipped
    rw [Utf8.encode_append, List.append_assoc]
    rcases exponents with none | ⟨e, after, start, mark, _, read⟩
    · rw [none] at starts skipped ⊢
      generalize Utf8.encode digits ++ rest = after at starts skipped ⊢
      cases rest with
      | nil => simp [skipNumberEnd, starts, skipped]
      | cons b rest =>
        obtain ⟨_, _, unmarked⟩ := stops b rfl
        simp [skipNumberEnd, starts, skipped, unmarked]
    · rw [start] at starts skipped ⊢
      simp [skipNumberEnd, starts, skipped, mark, read]

theorem skipNumber_whole (first : Whole whole) (ended : startsWithDigit rest = false) :
    skipNumber (Utf8.encode whole ++ rest) = skipNumberEnd rest := by
  cases first with
  | zero =>
    change skipNumber ('0'.toUInt8 :: rest) = _
    simp [skipNumber, ended]
  | positive run nonzero =>
    obtain ⟨given, all⟩ := run
    obtain ⟨c, others, rfl⟩ := List.exists_cons_of_ne_nil given
    obtain ⟨digit, later⟩ := List.forall_mem_cons.mp all
    obtain ⟨b, encoded, digit, zero⟩ := encode_digit digit
    have other : b ≠ '0'.toUInt8 := fun same => nonzero (congrArg some (zero.mp same))
    rw [Utf8.encode_cons, encoded, List.append_assoc, List.singleton_append]
    simp [skipNumber, other, digit, dropDigits_append later ended]

theorem skipNumber_parts (first : Whole whole) (second : Fraction fraction)
    (third : Exponent exponent) (stops : Stops rest) :
    skipNumber (Utf8.encode (whole ++ (fraction ++ exponent)) ++ rest) = .ok rest := by
  rw [Utf8.encode_append, List.append_assoc,
    skipNumber_whole first (startsWithDigit_fraction second third stops)]
  exact skipNumberEnd_fraction second third stops

end Numbers

section Texts

variable {letters upper lower : List Char} {n : Nat}

theorem hexDigit?_of_isHex {digit : Char} (hex : IsHex digit n) :
    ∃ b, Utf8.encode [digit] = [b] ∧ hexDigit? b = some n := by
  obtain ⟨few, spelled⟩ := hex
  have each : ∀ n : Fin 16,
      (∃ b ∈ (Utf8.encode [Nat.digitChar n]).head?,
        Utf8.encode [Nat.digitChar n] = [b] ∧ hexDigit? b = some n.val) ∧
      ∃ b ∈ (Utf8.encode [(Nat.digitChar n).toUpper]).head?,
        Utf8.encode [(Nat.digitChar n).toUpper] = [b] ∧ hexDigit? b = some n.val := by
    decide
  obtain ⟨⟨low, _, low_read⟩, high, _, high_read⟩ := each ⟨n, few⟩
  rcases spelled with rfl | rfl
  · exact ⟨low, low_read⟩
  · exact ⟨high, high_read⟩

theorem unit_bytes (unit : IsUnit digits n) :
    (Utf8.encode digits).length = 4 ∧ ∀ rest, codeUnit (Utf8.encode digits ++ rest) = .ok n := by
  cases unit with
  | digits first second third fourth =>
    obtain ⟨a, a_bytes, a_digit⟩ := hexDigit?_of_isHex first
    obtain ⟨b, b_bytes, b_digit⟩ := hexDigit?_of_isHex second
    obtain ⟨c, c_bytes, c_digit⟩ := hexDigit?_of_isHex third
    obtain ⟨d, d_bytes, d_digit⟩ := hexDigit?_of_isHex fourth
    rw [Utf8.encode_cons, Utf8.encode_cons _ [_, _], Utf8.encode_cons _ [_], a_bytes, b_bytes,
      c_bytes, d_bytes]
    refine ⟨rfl, fun rest => ?_⟩
    change codeUnit (a :: b :: c :: d :: rest) = _
    simp only [codeUnit, a_digit, b_digit, c_digit, d_digit]

theorem short_byte {letter : Char} (known : (letter, c) ∈ shortEscapes) :
    ∃ b, Utf8.encode [letter] = [b] ∧ shortEscape? b = some c := by
  have each : ∀ escape ∈ shortEscapes, ∃ b ∈ (Utf8.encode [escape.1]).head?,
      Utf8.encode [escape.1] = [b] ∧ shortEscape? b = some escape.2 := by
    decide
  obtain ⟨b, _, read⟩ := each _ known
  exact ⟨b, read⟩

theorem encode_code (digits : List Char) :
    Utf8.encode ('u' :: digits) = 'u'.toUInt8 :: Utf8.encode digits :=
  rfl

theorem encode_pair (upper lower : List Char) :
    Utf8.encode ('u' :: (upper ++ '\\' :: 'u' :: lower)) =
      'u'.toUInt8 :: (Utf8.encode upper ++ '\\'.toUInt8 :: 'u'.toUInt8 :: Utf8.encode lower) := by
  rw [encode_code, Utf8.encode_append]
  rfl

theorem escapedCode_unit (unit : IsUnit digits c.toNat) (rest : List UInt8) :
    escapedCode (Utf8.encode digits ++ rest) = .ok (c, 4) := by
  have bounds := Utf8.code_bounds c
  have lone : isTrailing c.toNat = false ∧ isLeading c.toNat = false := by
    constructor <;> simp [isTrailing, isLeading] <;> omega
  unfold escapedCode
  rw [(unit_bytes unit).2]
  simp only [lone, bind, Except.bind, pure, Except.pure]
  simp [Char.ofNat_toNat]

theorem escapedCode_pair (wide : 0x10000 ≤ c.toNat)
    (first : IsUnit upper (0xD800 + (c.toNat - 0x10000) / 0x400))
    (second : IsUnit lower (0xDC00 + (c.toNat - 0x10000) % 0x400)) (rest : List UInt8) :
    escapedCode (Utf8.encode upper ++
        '\\'.toUInt8 :: 'u'.toUInt8 :: (Utf8.encode lower ++ rest)) = .ok (c, 10) := by
  have bounds := Utf8.code_bounds c
  obtain ⟨length, upper_read⟩ := unit_bytes first
  obtain ⟨_, lower_read⟩ := unit_bytes second
  have later (rest : List UInt8) : (Utf8.encode upper ++ rest).drop 4 = rest := by
    rw [← length, List.drop_left]
  generalize upper_code : 0xD800 + (c.toNat - 0x10000) / 0x400 = high at upper_read
  generalize lower_code : 0xDC00 + (c.toNat - 0x10000) % 0x400 = low at lower_read
  have leading : isTrailing high = false ∧ isLeading high = true := by
    constructor <;> simp [isTrailing, isLeading] <;> omega
  have trailing : isTrailing low = true := by
    simp [isTrailing]
    omega
  have whole : 0x10000 + (high - 0xD800) * 0x400 + (low - 0xDC00) = c.toNat := by omega
  unfold escapedCode
  simp only [upper_read, later, leading, bind, Except.bind, pure, Except.pure]
  simp [lower_read, trailing, whole, Char.ofNat_toNat]

theorem escape_read {code : List Char} (behind : Escape code c) (rest : List UInt8) :
    escape (Utf8.encode code ++ rest) = .ok (Utf8.encode [c], (Utf8.encode code).length) := by
  have long : shortEscape? 'u'.toUInt8 = none := by decide
  cases behind with
  | short known =>
    obtain ⟨b, encoded, short⟩ := short_byte known
    rw [encoded]
    simp only [List.singleton_append, escape, short]
    rfl
  | @code _ digits unit =>
    rw [encode_code, List.cons_append, List.length_cons, (unit_bytes unit).1]
    simp only [escape, long, beq_self_eq_true, if_true, escapedCode_unit unit]
    rfl
  | @pair _ upper lower wide first second =>
    rw [encode_pair, List.cons_append, List.append_assoc, List.cons_append, List.cons_append,
      List.length_cons, List.length_append, List.length_cons, List.length_cons,
      (unit_bytes first).1, (unit_bytes second).1]
    simp only [escape, long, beq_self_eq_true, if_true, escapedCode_pair wide first second]
    rfl

theorem contents_letters (written : Letters letters text) (rest : List UInt8) :
    contents (Utf8.encode letters ++ '"'.toUInt8 :: rest) = .ok (Utf8.encode text, rest) := by
  induction written with
  | nil =>
    change contents ('"'.toUInt8 :: rest) = _
    rw [contents, if_pos (by decide)]
    rfl
  | @plain c letters text quote backslash printed _ ih =>
    rw [Utf8.encode_cons, List.append_assoc, Utf8.encode_cons c text]
    exact contents_plain (fun b member =>
      plain_encoded quote backslash (Nat.not_lt.mpr printed) member) ih
  | @escaped c code letters text behind _ ih =>
    change contents ('\\'.toUInt8 :: (Utf8.encode (code ++ letters) ++ _)) = _
    rw [Utf8.encode_append, List.append_assoc, Utf8.encode_cons c text]
    exact contents_escape (escape_read behind _) ih

theorem textBody_letters (written : Letters letters text) (rest : List UInt8) :
    textBody (Utf8.encode letters ++ '"'.toUInt8 :: rest) = .ok (String.ofList text, rest) := by
  unfold textBody
  rw [contents_letters written]
  simp only [bind, Except.bind, Utf8.decode?_encode]
  rfl

theorem skipText_plain (plain : ∀ b ∈ bytes, Plain b) :
    skipText (bytes ++ rest) = skipText rest := by
  induction bytes with
  | nil => rfl
  | cons b bytes ih =>
    obtain ⟨⟨quote, backslash, low⟩, plain⟩ := List.forall_mem_cons.mp plain
    rw [List.cons_append, skipText]
    simp [quote, backslash, low, ih plain]

theorem skipText_unit (unit : IsUnit digits n) (rest : List UInt8) :
    skipText ('\\'.toUInt8 :: 'u'.toUInt8 :: (Utf8.encode digits ++ rest)) = skipText rest := by
  obtain ⟨length, read⟩ := unit_bytes unit
  have passed : skipEscape ('u'.toUInt8 :: (Utf8.encode digits ++ rest)) = .ok 5 := by
    rw [skipEscape, if_neg (by decide), if_pos (by decide), read]
    rfl
  have later : ('u'.toUInt8 :: (Utf8.encode digits ++ rest)).drop 5 = rest := by
    rw [List.drop_succ_cons, ← length, List.drop_left]
  rw [skipText, if_neg (by decide), if_pos (by decide)]
  simp only [passed, later]

-- The two codes of a pair are passed over one by one.
theorem skipText_escaped {code : List Char} (behind : Escape code c) (rest : List UInt8) :
    skipText ('\\'.toUInt8 :: (Utf8.encode code ++ rest)) = skipText rest := by
  cases behind with
  | short known =>
    obtain ⟨b, encoded, short⟩ := short_byte known
    rw [encoded, skipText, if_neg (by decide), if_pos (by decide)]
    simp [skipEscape, short]
  | code unit => exact skipText_unit unit rest
  | pair _ first second =>
    rw [encode_pair, List.cons_append, List.append_assoc, skipText_unit first]
    exact skipText_unit second rest

theorem skipText_letters (written : Letters letters text) (rest : List UInt8) :
    skipText (Utf8.encode letters ++ '"'.toUInt8 :: rest) = .ok rest := by
  induction written with
  | nil =>
    change skipText ('"'.toUInt8 :: rest) = _
    rw [skipText, if_pos (by decide)]
  | plain quote backslash printed _ ih =>
    rw [Utf8.encode_cons, List.append_assoc, skipText_plain fun b member =>
      plain_encoded quote backslash (Nat.not_lt.mpr printed) member]
    exact ih
  | @escaped _ code letters _ behind _ ih =>
    change skipText ('\\'.toUInt8 :: (Utf8.encode (code ++ letters) ++ _)) = _
    rw [Utf8.encode_append, List.append_assoc, skipText_escaped behind]
    exact ih

end Texts

end SellerDirectory.Json
