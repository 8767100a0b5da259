import SellerDirectory.Json.Reader
import SellerDirectory.Time.Printer

-- Types with a JSON form: how a value is written, and how it is read from the bytes of a text.

namespace SellerDirectory.Json

open Text

structure Codec (α : Type) where
  read : Reader α
  write : α → List Char

namespace Codec

-- Controls have a short escape or one by code; quotes and backslashes have a short one, and any
-- other character stands for itself.
def writtenChar (c : Char) : List Char :=
  match c with
  | '"' => ['\\', '"']
  | '\\' => ['\\', '\\']
  | '\x08' => ['\\', 'b']
  | '\x0c' => ['\\', 'f']
  | '\n' => ['\\', 'n']
  | '\r' => ['\\', 'r']
  | '\t' => ['\\', 't']
  | _ =>
    if c.toNat < 0x20 then
      ['\\', 'u', '0', '0', Nat.digitChar (c.toNat / 16), Nat.digitChar (c.toNat % 16)]
    else [c]

def writtenText (text : List Char) : List Char :=
  '"' :: text.flatMap writtenChar ++ ['"']

def readText (expected : Expected) : Reader String := do
  if (← token) == '"'.toUInt8 then do advance; textBody else mismatched expected

def text : Codec String where
  read := readText .text
  write value := writtenText value.toList

def boolean : Codec Bool where
  read := do
    let b ← token
    if b == 't'.toUInt8 then do advance; literal (Utf8.bytes "rue"); return true
    else if b == 'f'.toUInt8 then do advance; literal (Utf8.bytes "alse"); return false
    else mismatched .boolean
  write value := if value then "true".toList else "false".toList

def readNumber (expected : Expected) : Reader Number := do
  let b ← token
  if b == '-'.toUInt8 then do advance; number true
  else if isDigitByte b then number false
  else mismatched expected

def readWhole (expected : Expected) (least most : Int) : Reader Int := do
  match ← readNumber expected with
  | .whole n =>
    if least ≤ n && n ≤ most then return n else fail (.mismatch (.value n expected))
  | .real value => fail (.mismatch (.kind (Number.real value).found expected))

def signed64 : Codec Int where
  read := readWhole .signed64 Numeral.minSigned64 Numeral.maxSigned64
  write := Numeral.ofInt

def size : Codec Nat where
  read := do return (← readWhole .size 0 Numeral.maxUnsigned64).toNat
  write := Numeral.ofNat

-- Instants are read leniently.
def time : Codec Time.Instant where
  read := do
    match Time.Lenient.read (← readText .time).toList with
    | .ok instant => return instant
    | .error error => fail (.mismatch (.time error))
  write instant := writtenText (instant.textWith ['Z'])

def readNull : Reader Unit := do
  if (← token) == 'n'.toUInt8 then do advance; literal (Utf8.bytes "ull") else mismatched .null

def optional {α : Type} (inner : Codec α) : Codec (Option α) where
  read := do
    if (← token) == 'n'.toUInt8 then do readNull; return none else return some (← inner.read)
  write
    | none => "null".toList
    | some a => inner.write a

-- A text for which null may stand in place of the empty one.
def lenientText : Codec String where
  read := do return (← (optional text).read).getD ""
  write := text.write

def commaSeparated (texts : List (List Char)) : List Char :=
  List.intercalate [','] texts

def list {α : Type} (inner : Codec α) : Codec (List α) where
  read := do
    if (← token) == '['.toUInt8 then do
      advance
      let all ← elements inner.read ((← get).length + 1) true
      endArray
      return all
    else mismatched .array
  write all := '[' :: commaSeparated (all.map inner.write) ++ [']']

def readVariant {α : Type} (known : List (String × α)) : Reader α := do
  let name ← readText .variant
  match known.lookup name with
  | some a => return a
  | none => fail (.mismatch (.unknownVariant name (known.map Prod.fst)))

-- A choice between names. It may also be read from an object that has the name as its only key,
-- with null as value.
def variant {α : Type} (known : List (String × α)) (name : α → String) : Codec α where
  read := do
    let b ← token
    if b == '"'.toUInt8 then readVariant known
    else if b == '\x7b'.toUInt8 then do
      advance
      let a ← readVariant known
      colon
      readNull
      if (← token) == '\x7d'.toUInt8 then do advance; return a else fail .malformed
    else fail .malformed
  write a := writtenText (name a).toList

def encode {α : Type} (codec : Codec α) (a : α) : String :=
  String.ofList (codec.write a)

-- Reads one value; what stands behind it is not looked at.
def decodeFront {α : Type} (codec : Codec α) (bytes : List UInt8) : Except DecodeError α :=
  Prod.fst <$> codec.read bytes

-- Reads a whole text: one value, with nothing but white space after it.
def decode {α : Type} (codec : Codec α) (bytes : List UInt8) : Except DecodeError α := do
  let (a, rest) ← codec.read bytes
  if (rest.dropWhile isSpace).isEmpty then return a else throw .malformed

-- Any JSON text with at most 127 levels of arrays and objects, of which nothing is kept.
def anything : Codec Unit where
  read := anyValue 127
  write _ := "null".toList

end Codec

end SellerDirectory.Json
