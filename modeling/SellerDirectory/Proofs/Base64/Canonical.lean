import SellerDirectory.Proofs.Base64
import SellerDirectory.Proofs.Except

-- Reading is strict. What is read as bytes is the one text that is written for them: its symbols are
-- those of the alphabet, its padding fills the last quad, and no bit is left over.

namespace SellerDirectory.Base64

open Text

section Symbols

variable {byte : UInt8} {bits offset : Nat}

theorem symbol_of_bits? (found : bits? byte = some bits) : bits < 64 ∧ byte = symbolByte bits := by
  have all : ∀ n : Fin 256, ∀ bits ∈ bits? (UInt8.ofNat n.val),
      bits < 64 ∧ UInt8.ofNat n.val = symbolByte bits := by
    decide +kernel
  have same : UInt8.ofNat byte.toNat = byte := UInt8.ofNat_toNat
  have known := all ⟨byte.toNat, byte.toNat_lt⟩ bits
  rw [same] at known
  exact known found

theorem symbol_of_bitsAt (read : bitsAt offset byte = .ok bits) :
    bits < 64 ∧ byte = symbolByte bits := by
  unfold bitsAt at read
  split at read
  · next found =>
    cases read
    exact symbol_of_bits? found
  · cases read

end Symbols

structure Closed (quad : List UInt8) (symbols : List (UInt8 × Nat)) (padding : Nat) : Prop where
  whole : quad = symbols.map Prod.fst ++ List.replicate padding paddingByte
  known : ∀ read ∈ symbols, read.2 < 64 ∧ read.1 = symbolByte read.2

theorem closed_of_lastSymbols {start place padding : Nat} {padded : Option Nat}
    {quad : List UInt8} {symbols : List (UInt8 × Nat)}
    (read : lastSymbols start place padded quad = .ok (symbols, padding)) :
    Closed quad symbols padding ∧ (padded.isSome → symbols = []) := by
  induction quad generalizing place padded symbols padding with
  | nil =>
    cases read
    exact ⟨⟨rfl, by simp⟩, fun _ => rfl⟩
  | cons byte quad ih =>
    unfold lastSymbols at read
    split at read
    · next pads =>
      split at read
      · cases read
      · obtain ⟨⟨symbols, padding⟩, later, done⟩ := bind_ok.mp read
        cases done
        obtain ⟨closed, none_left⟩ := ih later
        -- Once there is padding no symbol may follow.
        have bare : symbols = [] := none_left (by cases padded <;> rfl)
        subst bare
        refine ⟨⟨?_, by simp⟩, fun _ => rfl⟩
        rw [eq_of_beq pads, closed.whole]
        rfl
    · split at read
      · cases read
      · obtain ⟨bits, here, read⟩ := bind_ok.mp read
        obtain ⟨⟨symbols, padding⟩, later, done⟩ := bind_ok.mp read
        cases done
        obtain ⟨closed, _⟩ := ih later
        refine ⟨⟨?_, ?_⟩, fun padded => by cases padded⟩
        · rw [closed.whole]
          rfl
        · exact List.forall_mem_cons.mpr ⟨symbol_of_bitsAt here, closed.known⟩

section Packed

variable {a b c d n : Nat} (few_a : a < 64) (few_b : b < 64)

include few_a few_b

theorem utf8_encode_single (unused : b % 16 = 0) :
    Utf8.encode (encode [UInt8.ofNat (a * 4 + b / 16)]) =
      [symbolByte a, symbolByte b, paddingByte, paddingByte] := by
  have number : a * 64 + b = (UInt8.ofNat (a * 4 + b / 16)).toNat * 16 := by
    rw [UInt8.toNat_ofNat']
    omega
  have first : (a * 64 + b) / 64 = a := by omega
  have second : (a * 64 + b) % 64 = b := by omega
  rw [utf8_encode_one number, first, second]

theorem utf8_encode_pair (few_c : c < 64) (unused : c % 4 = 0)
    (number : n = (a * 64 + b) * 16 + c / 4) :
    Utf8.encode (encode [UInt8.ofNat (n / 256), UInt8.ofNat n]) =
      [symbolByte a, symbolByte b, symbolByte c, paddingByte] := by
  have whole : n * 4 = ((UInt8.ofNat (n / 256)).toNat * 256 + (UInt8.ofNat n).toNat) * 4 := by
    simp only [UInt8.toNat_ofNat']
    omega
  have first : n * 4 / 4096 = a := by omega
  have second : n * 4 / 64 % 64 = b := by omega
  have third : n * 4 % 64 = c := by omega
  rw [utf8_encode_two whole, first, second, third]

theorem utf8_encode_packed (few_c : c < 64) (few_d : d < 64)
    (number : n = ((a * 64 + b) * 64 + c) * 64 + d) (rest : List UInt8) :
    Utf8.encode (encode
        (UInt8.ofNat (n / 65536) :: UInt8.ofNat (n / 256) :: UInt8.ofNat n :: rest)) =
      symbolByte a :: symbolByte b :: symbolByte c :: symbolByte d ::
        Utf8.encode (encode rest) := by
  have whole : n = ((UInt8.ofNat (n / 65536)).toNat * 256 + (UInt8.ofNat (n / 256)).toNat) * 256 +
      (UInt8.ofNat n).toNat := by
    simp only [UInt8.toNat_ofNat']
    omega
  have first : n / 262144 = a := by omega
  have second : n / 4096 % 64 = b := by omega
  have third : n / 64 % 64 = c := by omega
  have fourth : n % 64 = d := by omega
  rw [utf8_encode_three whole, first, second, third, fourth]

end Packed

theorem canonical_of_decodeLast {start : Nat} {quad bytes : List UInt8} (few : quad.length ≤ 4)
    (read : decodeLast start quad = .ok bytes) : quad = Utf8.encode (encode bytes) := by
  unfold decodeLast at read
  obtain ⟨⟨symbols, padding⟩, found, read⟩ := bind_ok.mp read
  obtain ⟨⟨rfl, known⟩, _⟩ := closed_of_lastSymbols found
  rw [List.length_append, List.length_map, List.length_replicate] at few
  simp only [bind, Except.bind, pure, Except.pure, throw, throwThe, MonadExceptOf.throw] at read
  split at read
  · cases read
  next filled =>
  match symbols, known with
  | [], _ =>
    simp only at read
    split at read
    · next empty =>
      cases read
      exact List.isEmpty_iff.mp empty
    · cases read
  | [_], _ => cases read
  | [(_, a), (_, b)], known =>
    obtain ⟨⟨few_a, rfl⟩, ⟨few_b, rfl⟩⟩ : _ ∧ _ := by simpa using known
    obtain rfl : padding = 2 := by simp at filled few; omega
    simp only at read
    split at read
    · cases read
    · next unused =>
      cases read
      exact (utf8_encode_single few_a few_b (not_not.mp unused)).symm
  | [(_, a), (_, b), (_, c)], known =>
    obtain ⟨⟨few_a, rfl⟩, ⟨few_b, rfl⟩, ⟨few_c, rfl⟩⟩ : _ ∧ _ ∧ _ := by simpa using known
    obtain rfl : padding = 1 := by simp at filled few; omega
    simp only at read
    split at read
    · cases read
    · next unused =>
      cases read
      exact (utf8_encode_pair few_a few_b few_c (not_not.mp unused) rfl).symm
  | (_, a) :: (_, b) :: (_, c) :: (_, d) :: more, known =>
    obtain ⟨rfl, rfl⟩ : more = [] ∧ padding = 0 := by
      rw [← List.length_eq_zero_iff]
      simp at few
      omega
    obtain ⟨⟨few_a, rfl⟩, ⟨few_b, rfl⟩, ⟨few_c, rfl⟩, ⟨few_d, rfl⟩⟩ : _ ∧ _ ∧ _ ∧ _ := by
      simpa using known
    cases read
    exact (utf8_encode_packed few_a few_b few_c few_d rfl []).symm

theorem canonical_of_decodeQuads {start : Nat} {text bytes : List UInt8}
    (read : decodeQuads start text = .ok bytes) : text = Utf8.encode (encode bytes) := by
  fun_induction decodeQuads start text generalizing bytes with
  | case1 start a b c d e rest ih =>
    obtain ⟨first, here, read⟩ := bind_ok.mp read
    obtain ⟨second, here_b, read⟩ := bind_ok.mp read
    obtain ⟨third, here_c, read⟩ := bind_ok.mp read
    obtain ⟨fourth, here_d, read⟩ := bind_ok.mp read
    obtain ⟨others, later, done⟩ := bind_ok.mp read
    cases done
    obtain ⟨few, rfl⟩ := symbol_of_bitsAt here
    obtain ⟨few_b, rfl⟩ := symbol_of_bitsAt here_b
    obtain ⟨few_c, rfl⟩ := symbol_of_bitsAt here_c
    obtain ⟨few_d, rfl⟩ := symbol_of_bitsAt here_d
    rw [utf8_encode_packed few few_b few_c few_d rfl, ← ih later]
  | case2 start quad short =>
    refine canonical_of_decodeLast ?_ read
    match quad, short with
    | [], _ | [_], _ | [_, _], _ | [_, _, _], _ | [_, _, _, _], _ => simp
    | a :: b :: c :: d :: e :: rest, short => exact absurd rfl (short a b c d e rest)

theorem decode_eq_ok {text bytes : List UInt8} :
    decode text = .ok bytes ↔ text = Utf8.encode (encode bytes) := by
  constructor
  · intro read
    unfold decode at read
    split at read
    · split at read
      · cases read
      · exact canonical_of_decodeQuads read
    · next ended =>
      cases read
      exact List.getLast?_eq_none_iff.mp ended
  · rintro rfl
    exact decode_encode bytes

end SellerDirectory.Base64
