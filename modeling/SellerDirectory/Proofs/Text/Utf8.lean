import Mathlib.Data.List.Basic
import SellerDirectory.Text.Utf8

-- What is written as bytes reads back. The code of a character is cut into a first part, which the
-- first byte shows together with the number of bytes that follow, and parts of six bits.

namespace SellerDirectory.Text.Utf8

variable {c : Char} {code n : Nat} {low high : UInt8} {rest : List UInt8}

def tail (n : Nat) : UInt8 :=
  UInt8.ofNat (n % 64 + 128)

theorem payload_tail (n : Nat) : payload (tail n) = n % 64 := by
  have each : ∀ n : Fin 64, payload (UInt8.ofNat (n + 128)) = n := by decide
  exact each ⟨n % 64, Nat.mod_lt n (by decide)⟩

theorem continues_tail (least : low.toNat ≤ n % 64 + 128) (most : n % 64 + 128 ≤ high.toNat) :
    continues low high (tail n) := by
  have same : (tail n).toNat = n % 64 + 128 := Nat.mod_eq_of_lt (by omega)
  rw [continues, Bool.and_eq_true, decide_eq_true_eq, decide_eq_true_eq, UInt8.le_iff_toNat_le,
    UInt8.le_iff_toNat_le, same]
  exact ⟨least, most⟩

theorem continues_any (n : Nat) : continues 0x80 0xBF (tail n) :=
  continues_tail (Nat.le_add_left 128 _) (by change n % 64 + 128 ≤ 191; omega)

theorem finish_tail {missing : Nat} (fits : continues low high (tail n))
    (done : finish missing 0x80 0xBF (code * 64 + n % 64) rest = .ok c) :
    finish (missing + 1) low high code (tail n :: rest) = .ok c := by
  rw [finish, if_pos fits, payload_tail, done]

theorem finish_done (same : code = c.toNat) : finish 0 low high code rest = .ok c := by
  rw [finish, same, Char.ofNat_toNat]

-- What a first byte says of the bytes that follow.
section Lead

theorem lead?_two (few : 2 ≤ n) (most : n < 32) :
    lead? (UInt8.ofNat (n + 192)) = some (1, 0x80, 0xBF, n) := by
  have each : ∀ n : Fin 32, 2 ≤ n.val →
      lead? (UInt8.ofNat (n + 192)) = some (1, 0x80, 0xBF, n.val) := by
    decide
  exact each ⟨n, most⟩ few

theorem lead?_three (most : n < 16) :
    lead? (UInt8.ofNat (n + 224)) =
      some (2, if n = 0 then 0xA0 else 0x80, if n = 13 then 0x9F else 0xBF, n) := by
  have each : ∀ n : Fin 16, lead? (UInt8.ofNat (n + 224)) =
      some (2, if n.val = 0 then 0xA0 else 0x80, if n.val = 13 then 0x9F else 0xBF, n.val) := by
    decide
  exact each ⟨n, most⟩

theorem lead?_four (most : n < 5) :
    lead? (UInt8.ofNat (n + 240)) =
      some (3, if n = 0 then 0x90 else 0x80, if n = 4 then 0x8F else 0xBF, n) := by
  have each : ∀ n : Fin 5, lead? (UInt8.ofNat (n + 240)) =
      some (3, if n.val = 0 then 0x90 else 0x80, if n.val = 4 then 0x8F else 0xBF, n.val) := by
    decide
  exact each ⟨n, most⟩

end Lead

theorem next_long {missing : Nat} {more : List UInt8} (few : 128 ≤ n) (most : n < 256)
    (lead : lead? (UInt8.ofNat n) = some (missing, low, high, code)) (length : more.length = missing)
    (done : finish missing low high code (more ++ rest) = .ok c) :
    next (UInt8.ofNat n) (more ++ rest) = .ok (c, more.length) := by
  have same : (UInt8.ofNat n).toNat = n := Nat.mod_eq_of_lt most
  have long : ¬ UInt8.ofNat n < 0x80 := by
    rw [UInt8.lt_iff_toNat_lt, same]
    exact Nat.not_lt.mpr few
  rw [next, if_neg long]
  simp only [lead, done, length]
  rfl

inductive Encoded (c : Char) : List UInt8 → Prop where
  | one (most : c.toNat < 0x80) : Encoded c [UInt8.ofNat c.toNat]
  | two (few : 0x80 ≤ c.toNat) (most : c.toNat < 0x800) :
      Encoded c [UInt8.ofNat (c.toNat / 64 + 192), tail c.toNat]
  | three (few : 0x800 ≤ c.toNat) (most : c.toNat < 0x10000) :
      Encoded c [UInt8.ofNat (c.toNat / 4096 + 224), tail (c.toNat / 64), tail c.toNat]
  | four (few : 0x10000 ≤ c.toNat) :
      Encoded c [UInt8.ofNat (c.toNat / 262144 + 240), tail (c.toNat / 4096), tail (c.toNat / 64),
        tail c.toNat]

-- Surrogates are no characters.
theorem code_bounds (c : Char) : c.toNat < 0xD800 ∨ 0xDFFF < c.toNat ∧ c.toNat < 0x110000 :=
  c.valid

theorem encoded (c : Char) : Encoded c (String.utf8EncodeChar c) := by
  have bounds := code_bounds c
  have bytes : String.utf8EncodeChar c =
      if c.toNat ≤ 127 then [UInt8.ofNat c.toNat]
      else if c.toNat ≤ 2047 then [UInt8.ofNat (c.toNat / 64 % 32 + 192), tail c.toNat]
      else if c.toNat ≤ 65535 then
        [UInt8.ofNat (c.toNat / 4096 % 16 + 224), tail (c.toNat / 64), tail c.toNat]
      else [UInt8.ofNat (c.toNat / 262144 % 8 + 240), tail (c.toNat / 4096), tail (c.toNat / 64),
        tail c.toNat] := rfl
  rw [bytes]
  split
  · exact .one (by omega)
  split
  · rw [Nat.mod_eq_of_lt (by omega : c.toNat / 64 < 32)]
    exact .two (by omega) (by omega)
  split
  · rw [Nat.mod_eq_of_lt (by omega : c.toNat / 4096 < 16)]
    exact .three (by omega) (by omega)
  · rw [Nat.mod_eq_of_lt (by omega : c.toNat / 262144 < 8)]
    exact .four (by omega)

theorem next_encoded {bytes : List UInt8} (encoded : Encoded c bytes) :
    ∃ b more, bytes = b :: more ∧ ∀ rest, next b (more ++ rest) = .ok (c, more.length) := by
  have bounds := code_bounds c
  cases encoded with
  | one most =>
    have same : (UInt8.ofNat c.toNat).toNat = c.toNat := Nat.mod_eq_of_lt (by omega)
    have short : UInt8.ofNat c.toNat < 0x80 := by
      rw [UInt8.lt_iff_toNat_lt, same]
      exact most
    refine ⟨_, [], rfl, fun rest => ?_⟩
    rw [next, if_pos short, same, Char.ofNat_toNat]
    rfl
  | two few most =>
    refine ⟨_, [tail c.toNat], rfl, fun rest => ?_⟩
    refine next_long (by omega) (by omega) (lead?_two (by omega) (by omega)) rfl ?_
    refine finish_tail (continues_any _) (finish_done ?_)
    omega
  | three few most =>
    refine ⟨_, [tail (c.toNat / 64), tail c.toNat], rfl, fun rest => ?_⟩
    refine next_long (by omega) (by omega) (lead?_three (by omega)) rfl ?_
    refine finish_tail (continues_tail ?_ ?_) (finish_tail (continues_any _) (finish_done ?_))
    · split
      · change 160 ≤ _
        omega
      · exact Nat.le_add_left 128 _
    · split
      · change _ ≤ 159
        omega
      · change _ ≤ 191
        omega
    · omega
  | four few =>
    refine ⟨_, [tail (c.toNat / 4096), tail (c.toNat / 64), tail c.toNat], rfl, fun rest => ?_⟩
    refine next_long (by omega) (by omega) (lead?_four (by omega)) rfl ?_
    refine finish_tail (continues_tail ?_ ?_)
      (finish_tail (continues_any _) (finish_tail (continues_any _) (finish_done ?_)))
    · split
      · change 144 ≤ _
        omega
      · exact Nat.le_add_left 128 _
    · split
      · change _ ≤ 143
        omega
      · change _ ≤ 191
        omega
    · omega

theorem decode?_encode (text : List Char) : decode? (encode text) = some text := by
  induction text with
  | nil => rw [encode, List.flatMap_nil, decode?]
  | cons c text ih =>
    obtain ⟨b, more, bytes, read⟩ := next_encoded (encoded c)
    unfold encode at ih ⊢
    rw [List.flatMap_cons, bytes, List.cons_append, decode?, read]
    simp only [List.drop_left, ih, Option.map_some]

theorem encode_inj {left right : List Char} : encode left = encode right ↔ left = right := by
  constructor
  · intro same
    have read := congrArg decode? same
    rw [decode?_encode, decode?_encode] at read
    exact Option.some.inj read
  · rintro rfl
    rfl

theorem encode_append (left right : List Char) :
    encode (left ++ right) = encode left ++ encode right :=
  List.flatMap_append

theorem encode_cons (c : Char) (text : List Char) : encode (c :: text) = encode [c] ++ encode text :=
  encode_append [c] text

theorem encode_enclosed {opening closing : Char} {first last : UInt8}
    (opens : encode [opening] = [first]) (closes : encode [closing] = [last]) (text : List Char) :
    encode (opening :: text ++ [closing]) = first :: (encode text ++ [last]) := by
  rw [encode_append, encode_cons, opens, closes, List.append_assoc, List.singleton_append]

-- A character below U+0080 is written as itself, any other one without bytes below 80.
theorem mem_encoded {b : UInt8} (member : b ∈ String.utf8EncodeChar c) :
    b.toNat = c.toNat ∨ 128 ≤ b.toNat := by
  have bounds := code_bounds c
  have high {n : Nat} (few : 128 ≤ n) (most : n < 256) : 128 ≤ (UInt8.ofNat n).toNat := by
    rwa [show (UInt8.ofNat n).toNat = n from Nat.mod_eq_of_lt most]
  have later (n : Nat) : 128 ≤ (tail n).toNat := high (by omega) (by omega)
  have shape := encoded c
  generalize String.utf8EncodeChar c = bytes at member shape
  cases shape with
  | one most =>
    rw [List.mem_singleton.mp member]
    exact .inl (Nat.mod_eq_of_lt (by omega))
  | two few most =>
    rcases List.mem_cons.mp member with rfl | member
    · exact .inr (high (by omega) (by omega))
    · rw [List.mem_singleton.mp member]
      exact .inr (later _)
  | three few most =>
    rcases List.mem_cons.mp member with rfl | member
    · exact .inr (high (by omega) (by omega))
    · simp only [List.mem_cons, List.not_mem_nil, or_false] at member
      rcases member with rfl | rfl <;> exact .inr (later _)
  | four few =>
    rcases List.mem_cons.mp member with rfl | member
    · exact .inr (high (by omega) (by omega))
    · simp only [List.mem_cons, List.not_mem_nil, or_false] at member
      rcases member with rfl | rfl | rfl <;> exact .inr (later _)

end SellerDirectory.Text.Utf8
