import SellerDirectory.Json.Error
import SellerDirectory.Json.Real

-- Reading JSON from bytes, one token at a time and straight into the expected type. The first thing
-- that is wrong, from left to right, decides the error; a value of the wrong kind is itself read
-- first where the message shows it.

namespace SellerDirectory.Json

open Text

abbrev Reader := StateT (List UInt8) (Except DecodeError)

def fail {α : Type} (error : DecodeError) : Reader α :=
  fun _ => .error error

def isSpace (b : UInt8) : Bool :=
  b == 32 || b == 9 || b == 10 || b == 13

def isDigitByte (b : UInt8) : Bool :=
  48 ≤ b && b ≤ 57

def digitOf (b : UInt8) : Nat :=
  b.toNat - 48

def advance : Reader Unit :=
  modify (·.drop 1)

-- The next byte after white space, which is left in place.
def token : Reader UInt8 := fun bytes =>
  match bytes.dropWhile isSpace with
  | [] => .error .truncated
  | b :: rest => .ok (b, b :: rest)

def literal (expected : List UInt8) : Reader Unit := fun bytes =>
  match expected, bytes with
  | [], rest => .ok ((), rest)
  | _ :: _, [] => .error .truncated
  | e :: es, b :: rest => if e == b then literal es rest else .error .malformed

def hexDigit? (b : UInt8) : Option Nat :=
  if isDigitByte b then some (b.toNat - 48)
  else if 97 ≤ b && b ≤ 102 then some (b.toNat - 87)
  else if 65 ≤ b && b ≤ 70 then some (b.toNat - 55)
  else none

def codeUnit : List UInt8 → Except DecodeError Nat
  | a :: b :: c :: d :: _ =>
    match hexDigit? a, hexDigit? b, hexDigit? c, hexDigit? d with
    | some w, some x, some y, some z => .ok (((w * 16 + x) * 16 + y) * 16 + z)
    | _, _, _, _ => .error .malformed
  | _ => .error .truncated

def isLeading (unit : Nat) : Bool :=
  0xD800 ≤ unit && unit ≤ 0xDBFF

def isTrailing (unit : Nat) : Bool :=
  0xDC00 ≤ unit && unit ≤ 0xDFFF

-- The character that the escape behind a `u` stands for, with the count of bytes it takes. A
-- leading surrogate needs a trailing one right behind it.
def escapedCode (bytes : List UInt8) : Except DecodeError (Char × Nat) := do
  let unit ← codeUnit bytes
  if isTrailing unit then throw .malformed
  if !isLeading unit then return (Char.ofNat unit, 4)
  match bytes.drop 4 with
  | [] => throw .truncated
  | backslash :: rest =>
    if backslash ≠ '\\'.toUInt8 then throw .malformed
    match rest with
    | [] => throw .truncated
    | u :: rest =>
      if u ≠ 'u'.toUInt8 then throw .malformed
      let second ← codeUnit rest
      if !isTrailing second then throw .malformed
      return (Char.ofNat (0x10000 + (unit - 0xD800) * 0x400 + (second - 0xDC00)), 10)

def shortEscape? (b : UInt8) : Option Char :=
  if b == '"'.toUInt8 then some '"'
  else if b == '\\'.toUInt8 then some '\\'
  else if b == '/'.toUInt8 then some '/'
  else if b == 'b'.toUInt8 then some '\x08'
  else if b == 'f'.toUInt8 then some '\x0c'
  else if b == 'n'.toUInt8 then some '\n'
  else if b == 'r'.toUInt8 then some '\r'
  else if b == 't'.toUInt8 then some '\t'
  else none

def escape : List UInt8 → Except DecodeError (List UInt8 × Nat)
  | [] => .error .truncated
  | b :: rest =>
    match shortEscape? b with
    | some c => .ok (Utf8.encode [c], 1)
    | none =>
      if b == 'u'.toUInt8 then do
        let (c, taken) ← escapedCode rest
        return (Utf8.encode [c], taken + 1)
      else .error .malformed

def contents : List UInt8 → Except DecodeError (List UInt8 × List UInt8)
  | [] => .error .truncated
  | b :: rest =>
    if b == '"'.toUInt8 then .ok ([], rest)
    else if b == '\\'.toUInt8 then
      match escape rest with
      | .error error => .error error
      | .ok (decoded, taken) =>
        match contents (rest.drop taken) with
        | .error error => .error error
        | .ok (others, after) => .ok (decoded ++ others, after)
    else if b < 32 then .error .malformed
    else
      match contents rest with
      | .error error => .error error
      | .ok (others, after) => .ok (b :: others, after)
termination_by bytes => bytes.length
decreasing_by all_goals simp only [List.length_drop, List.length_cons]; omega

def textBody : Reader String := fun bytes => do
  let (raw, rest) ← contents bytes
  match Utf8.decode? raw with
  | some text => return (String.ofList text, rest)
  | none => throw .malformed

inductive Number where
  | whole (value : Int)
  | real (value : Float)

def Number.found : Number → Found
  | .whole n => .integer n
  | .real value => .real (Real.text value)

def realOfParts (negative : Bool) (significand : Nat) (exponent : Int) : Reader Number :=
  match Real.ofParts? (Float.ofNat significand) exponent with
  | some value => return .real (if negative then -value else value)
  | none => fail .malformed

-- Takes digits into a significand for as long as it stays within 64 bits.
def growing (significand : Nat) : List UInt8 → Nat × List UInt8
  | [] => (significand, [])
  | b :: rest =>
    let grown := significand * 10 + digitOf b
    if isDigitByte b && grown ≤ Numeral.maxUnsigned64 then growing grown rest
    else (significand, b :: rest)

def startsWithDigit (bytes : List UInt8) : Bool :=
  bytes.head?.any isDigitByte

def startsWithExponent (bytes : List UInt8) : Bool :=
  bytes.head?.any fun b => b == 'e'.toUInt8 || b == 'E'.toUInt8

-- Exponents are 32-bit numbers; sums of them stay within the bounds.
def clampExponent (n : Int) : Int :=
  max (-2147483648) (min 2147483647 n)

def exponentPart (negative : Bool) (significand : Nat) (exponent : Int) : Reader Number := do
  advance
  let signed ← get
  let (down, digits) := match signed with
    | b :: rest =>
      if b == '-'.toUInt8 then (true, rest)
      else if b == '+'.toUInt8 then (false, rest) else (false, b :: rest)
    | [] => (false, [])
  if digits.isEmpty then fail .truncated
  if !startsWithDigit digits then fail .malformed
  let run := digits.takeWhile isDigitByte
  let size := run.foldl (fun total b => total * 10 + digitOf b) 0
  set (digits.drop run.length)
  if size ≤ 2147483647 then
    realOfParts negative significand
      (clampExponent (if down then exponent - size else exponent + size))
  else if significand ≠ 0 && !down then fail .malformed
  else realOfParts negative 0 0

def realEnd (negative : Bool) (significand : Nat) (exponent : Int) : Reader Number := do
  if startsWithExponent (← get) then exponentPart negative significand exponent
  else realOfParts negative significand exponent

-- The fraction of a number, from its point on. Digits that no longer fit are passed over.
def fractionPart (negative : Bool) (significand : Nat) (exponent : Int) : Reader Number := do
  advance
  let digits ← get
  let (grown, rest) := growing significand digits
  let taken := digits.length - rest.length
  let passed := rest.dropWhile isDigitByte
  if taken = 0 && passed.length = rest.length then
    fail (if rest.isEmpty then .truncated else .malformed)
  set passed
  realEnd negative grown (exponent - taken)

def numberEnd (negative : Bool) (significand : Nat) : Reader Number := do
  let bytes ← get
  if bytes.head? = some '.'.toUInt8 then fractionPart negative significand 0
  else if startsWithExponent bytes then exponentPart negative significand 0
  else if startsWithDigit bytes then
    let rest := bytes.dropWhile isDigitByte
    let passed := bytes.length - rest.length
    set rest
    if rest.head? = some '.'.toUInt8 then fractionPart negative significand passed
    else realEnd negative significand passed
  else if !negative then return .whole significand
  else if significand = 0 || Nat.pow 2 63 < significand then
    return .real (-(Float.ofNat significand))
  else return .whole (-significand)

-- A number after its sign. Whole numbers stay exact within 64 bits.
def number (negative : Bool) : Reader Number := fun bytes =>
  match bytes with
  | [] => .error .truncated
  | b :: rest =>
    if b == '0'.toUInt8 then
      if startsWithDigit rest then .error .malformed else numberEnd negative 0 rest
    else if isDigitByte b then
      let (significand, rest) := growing 0 (b :: rest)
      numberEnd negative significand rest
    else .error .malformed

-- Refuses the next value for its kind, after reading as much of it as the message shows.
def mismatched {α : Type} (expected : Expected) : Reader α := do
  let b ← token
  let found ←
    if b == 'n'.toUInt8 then do advance; literal (Utf8.bytes "ull"); pure Found.null
    else if b == 't'.toUInt8 then do advance; literal (Utf8.bytes "rue"); pure (Found.boolean true)
    else if b == 'f'.toUInt8 then do
      advance; literal (Utf8.bytes "alse"); pure (Found.boolean false)
    else if b == '-'.toUInt8 then do advance; pure (← number true).found
    else if isDigitByte b then do pure (← number false).found
    else if b == '"'.toUInt8 then do advance; pure (Found.text (← textBody))
    else if b == '['.toUInt8 then pure Found.array
    else if b == '\x7b'.toUInt8 then pure Found.object
    else fail .malformed
  fail (.mismatch (.kind found expected))

def hasElement (first : Bool) : Reader Bool := do
  let b ← token
  if b == ']'.toUInt8 then return false
  else if first then return true
  else if b == ','.toUInt8 then do
    advance
    if (← token) == ']'.toUInt8 then fail .malformed else return true
  else fail .malformed

def endArray : Reader Unit := do
  if (← token) == ']'.toUInt8 then advance else fail .malformed

-- The elements of an array. Each takes at least one byte, so the count of bytes bounds them.
def elements {α : Type} (element : Reader α) : Nat → Bool → Reader (List α)
  | 0, _ => fail .truncated
  | bound + 1, first => do
    if ← hasElement first then do
      let a ← element
      return a :: (← elements element bound false)
    else return []

-- Whether an object has another entry; the quote that opens its key is then passed.
def hasEntry (first : Bool) : Reader Bool := do
  let b ← token
  if b == '\x7d'.toUInt8 then return false
  else if first then
    if b == '"'.toUInt8 then do advance; return true else fail .malformed
  else if b == ','.toUInt8 then do
    advance
    if (← token) == '"'.toUInt8 then do advance; return true else fail .malformed
  else fail .malformed

def colon : Reader Unit := do
  if (← token) == ':'.toUInt8 then advance else fail .malformed

def scalar (first : UInt8) : Reader Unit := do
  if first == 'n'.toUInt8 then do advance; literal (Utf8.bytes "ull")
  else if first == 't'.toUInt8 then do advance; literal (Utf8.bytes "rue")
  else if first == 'f'.toUInt8 then do advance; literal (Utf8.bytes "alse")
  else if first == '"'.toUInt8 then do advance; let _ ← textBody
  else if first == '-'.toUInt8 then do advance; let _ ← number true
  else if isDigitByte first then do let _ ← number false
  else fail .malformed

-- The entries of an object of any keys. Each takes at least one byte, so the count of bytes bounds
-- them.
def anyEntries (value : Reader Unit) : Nat → Bool → Reader Unit
  | 0, _ => fail .truncated
  | bound + 1, first => do
    if ← hasEntry first then
      let _ ← textBody
      colon
      value
      anyEntries value bound false

-- Any value in which arrays and objects are nested at most so deep.
def anyValue : Nat → Reader Unit
  | 0 => do scalar (← token)
  | depth + 1 => do
    let b ← token
    if b == '['.toUInt8 then do
      advance
      let _ ← elements (anyValue depth) ((← get).length + 1) true
      endArray
    else if b == '\x7b'.toUInt8 then do
      advance
      anyEntries (anyValue depth) ((← get).length + 1) true
      advance
    else scalar b

-- Passes over an escape; that it denotes a character is not asked.
def skipEscape : List UInt8 → Except DecodeError Nat
  | [] => .error .truncated
  | b :: rest =>
    if (shortEscape? b).isSome then .ok 1
    else if b == 'u'.toUInt8 then (codeUnit rest).map fun _ => 5
    else .error .malformed

-- Passes over a text, after its opening quote. Its bytes need not be UTF-8.
def skipText : List UInt8 → Except DecodeError (List UInt8)
  | [] => .error .truncated
  | b :: rest =>
    if b == '"'.toUInt8 then .ok rest
    else if b == '\\'.toUInt8 then
      match skipEscape rest with
      | .error error => .error error
      | .ok taken => skipText (rest.drop taken)
    else if b < 32 then .error .malformed
    else skipText rest
termination_by bytes => bytes.length
decreasing_by all_goals simp only [List.length_drop, List.length_cons]; omega

def skipExponent (bytes : List UInt8) : Except DecodeError (List UInt8) :=
  let digits := match bytes with
    | b :: rest => if b == '-'.toUInt8 || b == '+'.toUInt8 then rest else bytes
    | [] => []
  if startsWithDigit digits then .ok (digits.dropWhile isDigitByte) else .error .malformed

def skipNumberEnd (bytes : List UInt8) : Except DecodeError (List UInt8) :=
  match bytes with
  | b :: rest =>
    if b == '.'.toUInt8 then
      if startsWithDigit rest then
        match rest.dropWhile isDigitByte with
        | e :: after => if startsWithExponent [e] then skipExponent after else .ok (e :: after)
        | [] => .ok []
      else .error .malformed
    else if startsWithExponent [b] then skipExponent rest
    else .ok bytes
  | [] => .ok []

def skipNumber (bytes : List UInt8) : Except DecodeError (List UInt8) :=
  match bytes with
  | b :: rest =>
    if b == '0'.toUInt8 then
      if startsWithDigit rest then .error .malformed else skipNumberEnd rest
    else if isDigitByte b then skipNumberEnd (rest.dropWhile isDigitByte)
    else .error .malformed
  | [] => .error .malformed

inductive Frame where
  | array
  | object

def Frame.closing : Frame → UInt8
  | .array => ']'.toUInt8
  | .object => '\x7d'.toUInt8

-- Passes over what stands before the next value in a frame: in an object, key and colon.
def Frame.enter (frame : Frame) : Reader Unit :=
  match frame with
  | .array => return ()
  | .object => do
    if (← token) == '"'.toUInt8 then advance else fail .malformed
    fun bytes => (skipText bytes).map fun rest => ((), rest)
    colon

def closeFrames : List Frame → Reader (List Frame)
  | [] => return []
  | frame :: outer => do
    let b ← token
    if b == ','.toUInt8 then do
      advance
      frame.enter
      return frame :: outer
    else if b == frame.closing then do
      advance
      closeFrames outer
    else fail .malformed

-- Opens a frame; if it is empty it is a complete value.
def openFrame (frame : Frame) (outer : List Frame) : Reader (List Frame) := do
  advance
  if (← token) == frame.closing then do
    advance
    closeFrames outer
  else do
    frame.enter
    return frame :: outer

def skipStart (frames : List Frame) : Reader (List Frame) := do
  let b ← token
  if b == '['.toUInt8 then openFrame .array frames
  else if b == '\x7b'.toUInt8 then openFrame .object frames
  else do
    if b == 'n'.toUInt8 then do advance; literal (Utf8.bytes "ull")
    else if b == 't'.toUInt8 then do advance; literal (Utf8.bytes "rue")
    else if b == 'f'.toUInt8 then do advance; literal (Utf8.bytes "alse")
    else if b == '"'.toUInt8 then do
      advance
      fun bytes => (skipText bytes).map fun rest => ((), rest)
    else if b == '-'.toUInt8 then do
      advance
      fun bytes => (skipNumber bytes).map fun rest => ((), rest)
    else if isDigitByte b then fun bytes => (skipNumber bytes).map fun rest => ((), rest)
    else fail .malformed
    closeFrames frames

-- Passes over values until all frames are closed. Each step takes at least one byte.
def skipAll : Nat → List Frame → Reader Unit
  | 0, _ => fail .truncated
  | bound + 1, frames => do
    let left ← skipStart frames
    if left.isEmpty then return () else skipAll bound left

def skipValue : Reader Unit := do
  skipAll ((← get).length + 1) []

end SellerDirectory.Json
