import SellerDirectory.Base64
import SellerDirectory.Proofs.Text.Blank
import SellerDirectory.Text.Utf8

-- Base64 text of bytes reads back as these bytes.

namespace SellerDirectory.Base64

open Text

def symbolByte (bits : Nat) : UInt8 :=
  UInt8.ofNat (symbol bits).toNat

section Symbol

variable {bits : Nat} (few : bits < 64)

include few

theorem utf8_symbol : String.utf8EncodeChar (symbol bits) = [symbolByte bits] := by
  have all : ∀ bits < 64, String.utf8EncodeChar (symbol bits) = [symbolByte bits] := by
    decide +kernel
  exact all bits few

theorem bits?_symbolByte : bits? (symbolByte bits) = some bits := by
  have all : ∀ bits < 64, bits? (symbolByte bits) = some bits := by decide +kernel
  exact all bits few

theorem symbolByte_ne_padding : (symbolByte bits == paddingByte) = false := by
  rw [beq_eq_false_iff_ne]
  intro same
  have found := bits?_symbolByte few
  rw [same] at found
  cases found

theorem bitsAt_symbolByte (offset : Nat) : bitsAt offset (symbolByte bits) = .ok bits := by
  rw [bitsAt, bits?_symbolByte few]

theorem lastSymbols_symbolByte (start place : Nat) (rest : List UInt8) :
    lastSymbols start place none (symbolByte bits :: rest) =
      (lastSymbols start (place + 1) none rest).map fun (symbols, padding) =>
        ((symbolByte bits, bits) :: symbols, padding) := by
  rw [lastSymbols, symbolByte_ne_padding few]
  simp only [Bool.false_eq_true, if_false, bitsAt_symbolByte few]
  cases lastSymbols start (place + 1) none rest <;> rfl

end Symbol

theorem ofNat_eq {n : Nat} {byte : UInt8} (same : n % 256 = byte.toNat) : UInt8.ofNat n = byte := by
  rw [← UInt8.toNat_inj, UInt8.toNat_ofNat', same]

theorem utf8_cons {bits : Nat} (few : bits < 64) (rest : List Char) :
    Utf8.encode (symbol bits :: rest) = symbolByte bits :: Utf8.encode rest := by
  rw [Utf8.encode, List.flatMap_cons, utf8_symbol few]
  rfl

theorem mod_few (n : Nat) : n % 64 < 64 :=
  Nat.mod_lt n (by decide)

section Rest

variable {a b : UInt8} {n : Nat}

theorem utf8_encode_one (number : n = a.toNat * 16) :
    Utf8.encode (encode [a]) =
      [symbolByte (n / 64), symbolByte (n % 64), paddingByte, paddingByte] := by
  have byte := a.toNat_lt
  subst number
  rw [encode, utf8_cons (by omega), utf8_cons (mod_few _)]
  rfl

theorem decodeLast_one (start : Nat) (number : n = a.toNat * 16) :
    decodeLast start [symbolByte (n / 64), symbolByte (n % 64), paddingByte, paddingByte] =
      .ok [a] := by
  have byte := a.toNat_lt
  have few : n / 64 < 64 := by omega
  have padding : lastSymbols start 2 none [paddingByte, paddingByte] = .ok ([], 2) := rfl
  have unused : n % 64 % 16 = 0 := by omega
  have whole : UInt8.ofNat (n / 64 * 4 + n % 64 / 16) = a := ofNat_eq (by omega)
  unfold decodeLast
  rw [lastSymbols_symbolByte few, lastSymbols_symbolByte (mod_few _), padding]
  simp [Except.map, bind, Except.bind, pure, Except.pure, unused, whole]

theorem utf8_encode_two (number : n = (a.toNat * 256 + b.toNat) * 4) :
    Utf8.encode (encode [a, b]) =
      [symbolByte (n / 4096), symbolByte (n / 64 % 64), symbolByte (n % 64), paddingByte] := by
  have byte := a.toNat_lt
  have otherByte := b.toNat_lt
  subst number
  rw [encode, utf8_cons (by omega), utf8_cons (mod_few _), utf8_cons (mod_few _)]
  rfl

theorem decodeLast_two (start : Nat) (number : n = (a.toNat * 256 + b.toNat) * 4) :
    decodeLast start
      [symbolByte (n / 4096), symbolByte (n / 64 % 64), symbolByte (n % 64), paddingByte] =
        .ok [a, b] := by
  have byte := a.toNat_lt
  have otherByte := b.toNat_lt
  have few : n / 4096 < 64 := by omega
  have padding : lastSymbols start 3 none [paddingByte] = .ok ([], 1) := rfl
  have unused : n % 64 % 4 = 0 := by omega
  have whole : (n / 4096 * 64 + n / 64 % 64) * 16 + n % 64 / 4 = n / 4 := by omega
  have left : UInt8.ofNat (n / 4 / 256) = a := ofNat_eq (by omega)
  have right : UInt8.ofNat (n / 4) = b := ofNat_eq (by omega)
  unfold decodeLast
  rw [lastSymbols_symbolByte few, lastSymbols_symbolByte (mod_few _),
    lastSymbols_symbolByte (mod_few _), padding]
  simp [Except.map, bind, Except.bind, pure, Except.pure, unused, whole, left, right]

end Rest

section Quad

structure Packed (a b c : UInt8) (n : Nat) : Prop where
  few : n / 262144 < 64
  number : ((n / 262144 * 64 + n / 4096 % 64) * 64 + n / 64 % 64) * 64 + n % 64 = n
  first : UInt8.ofNat (n / 65536) = a
  second : UInt8.ofNat (n / 256) = b
  third : UInt8.ofNat n = c

theorem packed (a b c : UInt8) : Packed a b c ((a.toNat * 256 + b.toNat) * 256 + c.toNat) := by
  have byte := a.toNat_lt
  have otherByte := b.toNat_lt
  have last := c.toNat_lt
  exact ⟨by omega, by omega, ofNat_eq (by omega), ofNat_eq (by omega), ofNat_eq (by omega)⟩

variable {a b c : UInt8} {n : Nat} (packed : Packed a b c n)

include packed

theorem decodeLast_three (start : Nat) :
    decodeLast start [symbolByte (n / 262144), symbolByte (n / 4096 % 64), symbolByte (n / 64 % 64),
      symbolByte (n % 64)] = .ok [a, b, c] := by
  have none_left : lastSymbols start 4 none [] = .ok ([], 0) := rfl
  unfold decodeLast
  rw [lastSymbols_symbolByte packed.few, lastSymbols_symbolByte (mod_few _),
    lastSymbols_symbolByte (mod_few _), lastSymbols_symbolByte (mod_few _), none_left]
  simp [Except.map, bind, Except.bind, pure, Except.pure, packed.number, packed.first,
    packed.second, packed.third]

theorem decodeQuads_three (start : Nat) {rest : List UInt8} (more : rest ≠ []) :
    decodeQuads start (symbolByte (n / 262144) :: symbolByte (n / 4096 % 64)
      :: symbolByte (n / 64 % 64) :: symbolByte (n % 64) :: rest) =
        (decodeQuads (start + 4) rest).map fun others => a :: b :: c :: others := by
  obtain ⟨next, later, rfl⟩ := List.exists_cons_of_ne_nil more
  rw [decodeQuads, bitsAt_symbolByte packed.few, bitsAt_symbolByte (mod_few _),
    bitsAt_symbolByte (mod_few _), bitsAt_symbolByte (mod_few _)]
  simp only [bind, Except.bind, packed.number, packed.first, packed.second, packed.third]
  cases decodeQuads (start + 4) (next :: later) <;> rfl

end Quad

theorem utf8_encode_three {a b c : UInt8} {n : Nat}
    (number : n = (a.toNat * 256 + b.toNat) * 256 + c.toNat) (rest : List UInt8) :
    Utf8.encode (encode (a :: b :: c :: rest)) =
      symbolByte (n / 262144) :: symbolByte (n / 4096 % 64) :: symbolByte (n / 64 % 64)
        :: symbolByte (n % 64) :: Utf8.encode (encode rest) := by
  subst number
  rw [encode, utf8_cons (packed a b c).few, utf8_cons (mod_few _), utf8_cons (mod_few _),
    utf8_cons (mod_few _)]

theorem utf8_encode_eq_nil {bytes : List UInt8} :
    Utf8.encode (encode bytes) = [] ↔ bytes = [] := by
  constructor
  · intro empty
    cases bytes using encode.fun_cases with
    | case1 => rfl
    | case2 a => rw [utf8_encode_one rfl] at empty; cases empty
    | case3 a b => rw [utf8_encode_two rfl] at empty; cases empty
    | case4 a b c rest => rw [utf8_encode_three rfl] at empty; cases empty
  · rintro rfl
    rfl

theorem decodeQuads_encode (bytes : List UInt8) (start : Nat) :
    decodeQuads start (Utf8.encode (encode bytes)) = .ok bytes := by
  induction bytes using encode.induct generalizing start with
  | case1 => rfl
  | case2 a =>
    rw [utf8_encode_one rfl]
    exact decodeLast_one start rfl
  | case3 a b =>
    rw [utf8_encode_two rfl]
    exact decodeLast_two start rfl
  | case4 a b c rest ih =>
    rw [utf8_encode_three rfl]
    by_cases empty : rest = []
    · subst empty
      exact decodeLast_three (packed a b c) start
    · rw [decodeQuads_three (packed a b c) start (mt utf8_encode_eq_nil.mp empty), ih]
      rfl

theorem length_utf8_encode (bytes : List UInt8) : (Utf8.encode (encode bytes)).length % 4 = 0 := by
  induction bytes using encode.induct with
  | case1 => rfl
  | case2 a => simp [utf8_encode_one rfl]
  | case3 a b => simp [utf8_encode_two rfl]
  | case4 a b c rest ih =>
    rw [utf8_encode_three rfl]
    simp only [List.length_cons]
    omega

theorem decode_encode (bytes : List UInt8) : decode (Utf8.encode (encode bytes)) = .ok bytes := by
  unfold decode
  cases ended : (Utf8.encode (encode bytes)).getLast? with
  | none =>
    rw [List.getLast?_eq_none_iff, utf8_encode_eq_nil] at ended
    rw [ended]
  | some last =>
    have full : ¬ (Utf8.encode (encode bytes)).length % 4 = 1 := by
      rw [length_utf8_encode]
      decide
    simp only [full, decide_false, Bool.false_and, Bool.false_eq_true, if_false]
    exact decodeQuads_encode bytes 0

theorem encode_inj {left right : List UInt8} : encode left = encode right ↔ left = right := by
  constructor
  · intro same
    have read := congrArg (fun text => decode (Utf8.encode text)) same
    simp only [decode_encode] at read
    exact Except.ok.inj read
  · rintro rfl
    rfl

def characters : List Char := '=' :: alphabet

theorem padding_mem : '=' ∈ characters := List.mem_cons_self

theorem symbol_mem (bits : Nat) : symbol bits ∈ characters := by
  unfold symbol
  rw [List.getD_eq_getElem?_getD]
  cases found : alphabet[bits]? with
  | none => exact padding_mem
  | some c => exact List.mem_cons_of_mem _ (List.mem_of_getElem? found)

theorem mem_of_mem_encode (bytes : List UInt8) : ∀ c ∈ encode bytes, c ∈ characters := by
  induction bytes using encode.induct with
  | case1 => exact fun _ member => absurd member List.not_mem_nil
  | case2 a => simp [encode, symbol_mem, padding_mem]
  | case3 a b => simp [encode, symbol_mem, padding_mem]
  | case4 a b c rest ih => simpa [encode, symbol_mem] using ih

theorem quote_not_mem_encode (bytes : List UInt8) : '"' ∉ encode bytes := by
  have unquoted : '"' ∉ characters := by decide +kernel
  exact fun member => unquoted (mem_of_mem_encode bytes _ member)

theorem trimmed_encode (bytes : List UInt8) : trimmed (encode bytes) = encode bytes := by
  have all_dark : characters.all fun c => !isBlank c := by decide +kernel
  have dark : ∀ c ∈ encode bytes, isBlank c = false := fun c member => by
    simpa using List.all_eq_true.mp all_dark c (mem_of_mem_encode bytes c member)
  exact trimmed_eq_self (fun c first => dark c (List.mem_of_mem_head? first))
    fun c last => dark c (List.mem_of_mem_getLast? last)

theorem decode_text (bytes : List UInt8) :
    decode (Utf8.encode (trimmed (text bytes).toList)) = .ok bytes := by
  rw [text, String.toList_ofList, trimmed_encode, decode_encode]

end SellerDirectory.Base64
