import SellerDirectory.Json.Codec
import SellerDirectory.Proofs.Text.Utf8

-- Quoted texts. Whatever characters a text has, its quoted form is read back, and reading stops
-- right behind the closing quote.

namespace SellerDirectory.Json

open Text

section Steps

variable {α β : Type} {a : α} {b : UInt8} {bytes rest : List UInt8} {first : Reader α}
  {next : α → Reader β}

theorem read_bind (read : first bytes = .ok (a, rest)) : (first >>= next) bytes = next a rest := by
  change (first bytes >>= fun result => next result.1 result.2) = _
  rw [read]
  rfl

theorem token_cons (solid : isSpace b = false) : token (b :: rest) = .ok (b, b :: rest) := by
  rw [token, List.dropWhile_cons_of_neg (Bool.eq_false_iff.mp solid)]

theorem advance_cons : advance (b :: rest) = .ok ((), rest) := rfl

theorem get_bytes : (get : Reader (List UInt8)) bytes = .ok (bytes, bytes) := rfl

end Steps

section Contents

variable {c : Char} {text : List Char} {rest after decoded others code : List UInt8}

def Plain (b : UInt8) : Prop :=
  b ≠ '"'.toUInt8 ∧ b ≠ '\\'.toUInt8 ∧ ¬ b < 32

theorem contents_plain {bytes : List UInt8} (plain : ∀ b ∈ bytes, Plain b)
    (later : contents rest = .ok (others, after)) :
    contents (bytes ++ rest) = .ok (bytes ++ others, after) := by
  induction bytes with
  | nil => exact later
  | cons b bytes ih =>
    obtain ⟨⟨quote, backslash, low⟩, plain⟩ := List.forall_mem_cons.mp plain
    rw [List.cons_append, contents]
    simp [quote, backslash, low, ih plain]

theorem contents_escape (escaped : escape (code ++ rest) = .ok (decoded, code.length))
    (later : contents rest = .ok (others, after)) :
    contents ('\\'.toUInt8 :: (code ++ rest)) = .ok (decoded ++ others, after) := by
  rw [contents, if_neg (by decide), if_pos (by decide)]
  simp only [escaped, List.drop_left, later]

theorem hexDigit?_digitChar {n : Nat} (few : n < 16) :
    ∃ b, Utf8.encode [Nat.digitChar n] = [b] ∧ hexDigit? b = some n := by
  have each : ∀ n : Fin 16, ∃ b ∈ (Utf8.encode [Nat.digitChar n]).head?,
      Utf8.encode [Nat.digitChar n] = [b] ∧ hexDigit? b = some n.val := by
    decide
  obtain ⟨b, _, same⟩ := each ⟨n, few⟩
  exact ⟨b, same⟩

theorem escape_control (control : c.toNat < 0x20) :
    ∃ code, Utf8.encode ['\\', 'u', '0', '0', Nat.digitChar (c.toNat / 16),
        Nat.digitChar (c.toNat % 16)] = '\\'.toUInt8 :: code ∧
      ∀ rest, escape (code ++ rest) = .ok (Utf8.encode [c], code.length) := by
  obtain ⟨high, high_bytes, high_digit⟩ := hexDigit?_digitChar (n := c.toNat / 16) (by omega)
  obtain ⟨low, low_bytes, low_digit⟩ := hexDigit?_digitChar (n := c.toNat % 16) (by omega)
  refine ⟨['u'.toUInt8, '0'.toUInt8, '0'.toUInt8, high, low], ?_, fun rest => ?_⟩
  · have digits : Utf8.encode [Nat.digitChar (c.toNat / 16), Nat.digitChar (c.toNat % 16)] =
        [high] ++ [low] := by
      rw [← high_bytes, ← low_bytes, ← Utf8.encode_append]
      rfl
    have parts := Utf8.encode_append ['\\', 'u', '0', '0']
      [Nat.digitChar (c.toNat / 16), Nat.digitChar (c.toNat % 16)]
    rw [digits] at parts
    exact parts
  · have zero : hexDigit? '0'.toUInt8 = some 0 := by decide
    have unit : codeUnit ('0'.toUInt8 :: '0'.toUInt8 :: high :: low :: rest) = .ok c.toNat := by
      simp only [codeUnit, zero, high_digit, low_digit]
      congr 1
      omega
    have lone : isTrailing c.toNat = false ∧ isLeading c.toNat = false := by
      constructor <;> simp [isTrailing, isLeading] <;> omega
    have read : escapedCode ('0'.toUInt8 :: '0'.toUInt8 :: high :: low :: rest) = .ok (c, 4) := by
      unfold escapedCode
      rw [unit]
      simp only [lone, bind, Except.bind, pure, Except.pure]
      simp [Char.ofNat_toNat]
    have long : shortEscape? 'u'.toUInt8 = none := by decide
    simp only [List.cons_append, List.nil_append, escape, long, beq_self_eq_true, if_true, read]
    rfl

theorem plain_encoded {b : UInt8} (quote : c ≠ '"') (backslash : c ≠ '\\')
    (printed : ¬ c.toNat < 0x20) (member : b ∈ Utf8.encode [c]) : Plain b := by
  have same {d : Char} (code : b.toNat = d.toNat) (own : b.toNat = c.toNat) : c = d :=
    Char.toNat_inj.mp (own.symm.trans code)
  unfold Utf8.encode at member
  rw [List.flatMap_singleton] at member
  rcases Utf8.mem_encoded member with own | high
  · refine ⟨?_, ?_, ?_⟩
    · rintro rfl
      exact quote (same rfl own)
    · rintro rfl
      exact backslash (same rfl own)
    · rw [UInt8.lt_iff_toNat_lt, own]
      exact printed
  · refine ⟨?_, ?_, ?_⟩
    · rintro rfl
      exact absurd high (by decide)
    · rintro rfl
      exact absurd high (by decide)
    · rw [UInt8.lt_iff_toNat_lt]
      exact Nat.not_lt.mpr (Nat.le_trans (by decide) high)

theorem contents_short {letter : Char} {b : UInt8}
    (written : Utf8.encode ['\\', letter] = ['\\'.toUInt8, b]) (short : shortEscape? b = some c)
    (later : contents rest = .ok (others, after)) :
    contents (Utf8.encode ['\\', letter] ++ rest) = .ok (Utf8.encode [c] ++ others, after) := by
  rw [written]
  have escaped : escape ([b] ++ rest) = .ok (Utf8.encode [c], [b].length) := by
    simp only [List.cons_append, List.nil_append, escape, short]
    rfl
  exact contents_escape escaped later

theorem contents_written (c : Char) (later : contents rest = .ok (others, after)) :
    contents (Utf8.encode (Codec.writtenChar c) ++ rest) =
      .ok (Utf8.encode [c] ++ others, after) := by
  unfold Codec.writtenChar
  split
  · exact contents_short rfl rfl later
  · exact contents_short rfl rfl later
  · exact contents_short rfl rfl later
  · exact contents_short rfl rfl later
  · exact contents_short rfl rfl later
  · exact contents_short rfl rfl later
  · exact contents_short rfl rfl later
  · rename_i quote backslash _ _ _ _ _
    split
    · rename_i control
      obtain ⟨code, bytes, escaped⟩ := escape_control control
      rw [bytes]
      exact contents_escape (escaped rest) later
    · rename_i printed
      exact contents_plain (fun b member => plain_encoded quote backslash printed member) later

theorem contents_text (text : List Char) (rest : List UInt8) :
    contents (Utf8.encode (text.flatMap Codec.writtenChar) ++ '"'.toUInt8 :: rest) =
      .ok (Utf8.encode text, rest) := by
  induction text with
  | nil =>
    change contents ('"'.toUInt8 :: rest) = .ok ([], rest)
    rw [contents, if_pos (by decide)]
  | cons c text ih =>
    rw [List.flatMap_cons, Utf8.encode_append, List.append_assoc, Utf8.encode_cons]
    exact contents_written c ih

end Contents

section Text

theorem encode_writtenText (text : List Char) :
    Utf8.encode (Codec.writtenText text) =
      '"'.toUInt8 :: (Utf8.encode (text.flatMap Codec.writtenChar) ++ ['"'.toUInt8]) :=
  Utf8.encode_enclosed rfl rfl _

theorem textBody_written (text : List Char) (rest : List UInt8) :
    textBody (Utf8.encode (text.flatMap Codec.writtenChar) ++ '"'.toUInt8 :: rest) =
      .ok (String.ofList text, rest) := by
  unfold textBody
  rw [contents_text]
  simp only [bind, Except.bind, Utf8.decode?_encode]
  rfl

theorem readText_written (expected : Expected) (text : List Char) (rest : List UInt8) :
    Codec.readText expected (Utf8.encode (Codec.writtenText text) ++ rest) =
      .ok (String.ofList text, rest) := by
  rw [encode_writtenText, List.cons_append, List.append_assoc, Codec.readText,
    read_bind (token_cons (by decide)), if_pos (by decide), read_bind advance_cons]
  exact textBody_written text rest

end Text

end SellerDirectory.Json
