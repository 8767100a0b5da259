-- Base64 in the standard alphabet, with padding. Reading is strict: it accepts exactly one text for
-- each byte string, and says which byte of any other text it refuses.

namespace SellerDirectory.Base64

def alphabet : List Char :=
  "ABCDEFGHIJKLMNOPQRSTUVWXYZabcdefghijklmnopqrstuvwxyz0123456789+/".toList

def symbol (bits : Nat) : Char :=
  alphabet.getD bits '='

-- Three bytes at a time become four characters; one or two last bytes are filled up with zero bits
-- and padding.
def encode : List UInt8 → List Char
  | [] => []
  | [a] =>
    let n := a.toNat * 16
    [symbol (n / 64), symbol (n % 64), '=', '=']
  | [a, b] =>
    let n := (a.toNat * 256 + b.toNat) * 4
    [symbol (n / 4096), symbol (n / 64 % 64), symbol (n % 64), '=']
  | a :: b :: c :: rest =>
    let n := (a.toNat * 256 + b.toNat) * 256 + c.toNat
    symbol (n / 262144) :: symbol (n / 4096 % 64) :: symbol (n / 64 % 64) :: symbol (n % 64)
      :: encode rest

def text (bytes : List UInt8) : String :=
  String.ofList (encode bytes)

-- Why a text is not Base64. Offsets count bytes of the text.
inductive DecodeError where
  | symbol (byte : UInt8) (offset : Nat)
  | length (symbols : Nat)
  | padding
  | unusedBits (byte : UInt8) (offset : Nat)
  deriving DecidableEq

def DecodeError.message : DecodeError → String
  | .symbol byte offset => s!"Invalid symbol {byte.toNat}, offset {offset}."
  | .length symbols => s!"Invalid input length: {symbols}"
  | .padding => "Invalid padding"
  | .unusedBits byte offset => s!"Invalid last symbol {byte.toNat}, offset {offset}."

def paddingByte : UInt8 := 61

def bits? (byte : UInt8) : Option Nat :=
  if 65 ≤ byte && byte ≤ 90 then some (byte.toNat - 65)
  else if 97 ≤ byte && byte ≤ 122 then some (byte.toNat - 71)
  else if 48 ≤ byte && byte ≤ 57 then some (byte.toNat + 4)
  else if byte == 43 then some 62
  else if byte == 47 then some 63
  else none

def bitsAt (offset : Nat) (byte : UInt8) : Except DecodeError Nat :=
  match bits? byte with
  | some bits => .ok bits
  | none => .error (.symbol byte offset)

-- The symbols of the last quad, which end at the first padding byte: after it only padding may
-- stand, and not before the third place.
def lastSymbols (start place : Nat) (padded : Option Nat) :
    List UInt8 → Except DecodeError (List (UInt8 × Nat) × Nat)
  | [] => .ok ([], 0)
  | byte :: rest =>
    if byte == paddingByte then
      if place < 2 then .error (.symbol byte (start + place))
      else do
        let (symbols, padding) ← lastSymbols start (place + 1) (padded <|> some place) rest
        return (symbols, padding + 1)
    else match padded with
      | some first => .error (.symbol paddingByte (start + first))
      | none => do
        let bits ← bitsAt (start + place) byte
        let (symbols, padding) ← lastSymbols start (place + 1) none rest
        return ((byte, bits) :: symbols, padding)

-- The bytes of the last quad. Bits that belong to no byte must be zero.
def decodeLast (start : Nat) (quad : List UInt8) : Except DecodeError (List UInt8) := do
  let (symbols, padding) ← lastSymbols start 0 none quad
  if (symbols.length + padding) % 4 ≠ 0 && 2 ≤ symbols.length then throw .padding
  match symbols with
  | [] => if quad.isEmpty then return [] else throw (.length start)
  | [_] => throw (.length (start + 1))
  | [(_, a), (byte, b)] =>
    if b % 16 ≠ 0 then throw (.unusedBits byte (start + 1))
    return [UInt8.ofNat (a * 4 + b / 16)]
  | [(_, a), (_, b), (byte, c)] =>
    if c % 4 ≠ 0 then throw (.unusedBits byte (start + 2))
    let n := (a * 64 + b) * 16 + c / 4
    return [UInt8.ofNat (n / 256), UInt8.ofNat n]
  | (_, a) :: (_, b) :: (_, c) :: (_, d) :: _ =>
    let n := ((a * 64 + b) * 64 + c) * 64 + d
    return [UInt8.ofNat (n / 65536), UInt8.ofNat (n / 256), UInt8.ofNat n]

def decodeQuads (start : Nat) : List UInt8 → Except DecodeError (List UInt8)
  | a :: b :: c :: d :: e :: rest => do
    let first ← bitsAt start a
    let second ← bitsAt (start + 1) b
    let third ← bitsAt (start + 2) c
    let fourth ← bitsAt (start + 3) d
    let n := ((first * 64 + second) * 64 + third) * 64 + fourth
    let others ← decodeQuads (start + 4) (e :: rest)
    return UInt8.ofNat (n / 65536) :: UInt8.ofNat (n / 256) :: UInt8.ofNat n :: others
  | quad => decodeLast start quad

-- The bytes that a Base64 text stands for. A single byte after the last full quad that could be no
-- symbol at all is reported before anything else.
def decode (text : List UInt8) : Except DecodeError (List UInt8) :=
  match text.getLast? with
  | some last =>
    if text.length % 4 = 1 && last ≠ paddingByte && (bits? last).isNone then
      .error (.symbol last (text.length - 1))
    else decodeQuads 0 text
  | none => .ok []

end SellerDirectory.Base64
