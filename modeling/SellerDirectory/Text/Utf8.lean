-- Text as bytes. `Utf8.encode` writes each character as one to four bytes; `Utf8.decode?` reads
-- back exactly what it writes; `Utf8.repair` reads any bytes, with U+FFFD for what is no character.

namespace SellerDirectory.Text.Utf8

def encode (text : List Char) : List UInt8 :=
  text.flatMap String.utf8EncodeChar

def bytes (text : String) : List UInt8 :=
  encode text.toList

-- A byte that continues a character, with bounds that the first byte may tighten.
def continues (low high : UInt8) (b : UInt8) : Bool :=
  low ≤ b && b ≤ high

def payload (b : UInt8) : Nat :=
  b.toNat % 64

-- Least and greatest byte that may follow the first byte of a longer character, with the number of
-- bytes that follow and the bits of the first one.
def lead? (b : UInt8) : Option (Nat × UInt8 × UInt8 × Nat) :=
  if 0xC2 ≤ b && b ≤ 0xDF then some (1, 0x80, 0xBF, b.toNat % 32)
  else if b == 0xE0 then some (2, 0xA0, 0xBF, b.toNat % 16)
  else if b == 0xED then some (2, 0x80, 0x9F, b.toNat % 16)
  else if 0xE1 ≤ b && b ≤ 0xEF then some (2, 0x80, 0xBF, b.toNat % 16)
  else if b == 0xF0 then some (3, 0x90, 0xBF, b.toNat % 8)
  else if 0xF1 ≤ b && b ≤ 0xF3 then some (3, 0x80, 0xBF, b.toNat % 8)
  else if b == 0xF4 then some (3, 0x80, 0x8F, b.toNat % 8)
  else none

-- Reads the remaining bytes of a character: the character, or how many of the bytes could have
-- belonged to one.
def finish : Nat → UInt8 → UInt8 → Nat → List UInt8 → Except Nat Char
  | 0, _, _, code, _ => .ok (Char.ofNat code)
  | _ + 1, _, _, _, [] => .error 0
  | missing + 1, low, high, code, b :: rest =>
    if continues low high b then
      match finish missing 0x80 0xBF (code * 64 + payload b) rest with
      | .ok c => .ok c
      | .error read => .error (read + 1)
    else .error 0

def next (b : UInt8) (rest : List UInt8) : Except Nat (Char × Nat) :=
  if b < 0x80 then .ok (Char.ofNat b.toNat, 0)
  else match lead? b with
    | none => .error 0
    | some (missing, low, high, code) =>
      (finish missing low high code rest).map fun c => (c, missing)

def decode? : List UInt8 → Option (List Char)
  | [] => some []
  | b :: rest =>
    match next b rest with
    | .error _ => none
    | .ok (c, taken) => (decode? (rest.drop taken)).map (c :: ·)
termination_by bytes => bytes.length
decreasing_by simp only [List.length_drop, List.length_cons]; omega

-- The text that the bytes encode, with one U+FFFD for each longest run of bytes that begins a
-- character but does not finish it, and one for each byte that begins none.
def repair : List UInt8 → List Char
  | [] => []
  | b :: rest =>
    match next b rest with
    | .error read => '\uFFFD' :: repair (rest.drop read)
    | .ok (c, taken) => c :: repair (rest.drop taken)
termination_by bytes => bytes.length
decreasing_by all_goals simp only [List.length_drop, List.length_cons]; omega

end SellerDirectory.Text.Utf8
