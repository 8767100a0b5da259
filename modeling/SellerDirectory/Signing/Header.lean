import SellerDirectory.Failure
import SellerDirectory.Signing.Key
import SellerDirectory.Text.Cut

-- The authorization header of a request: who signed it, when, and the signature. It is written as
-- `Signature` and a list of quoted parameters, and read from any such list.

namespace SellerDirectory.Signing

open Text

structure Header where
  subscriberId : String
  uniqueKeyId : String
  algorithm : String
  created : Int
  expires : Int
  -- The names of what is signed.
  signed : String
  signature : String
  deriving DecidableEq

def algorithmName : String := "ed25519"

def signedNames : String := "(created) (expires) digest"

namespace Header

def window (header : Header) : Window :=
  ⟨header.created, header.expires⟩

def item (name : String) (value : List Char) : List Char :=
  name.toList ++ '=' :: '"' :: value ++ ['"']

def scheme : List Char := "Signature ".toList

def keyIdText (header : Header) : List Char :=
  header.subscriberId.toList ++ '|' :: header.uniqueKeyId.toList
    ++ '|' :: header.algorithm.toList

def chars (header : Header) : List Char :=
  scheme ++ item "keyId" header.keyIdText
    ++ ',' :: item "algorithm" header.algorithm.toList
    ++ ',' :: item "created" (Numeral.ofInt header.created)
    ++ ',' :: item "expires" (Numeral.ofInt header.expires)
    ++ ',' :: item "headers" header.signed.toList
    ++ ',' :: item "signature" header.signature.toList

def text (header : Header) : String :=
  String.ofList header.chars

structure Parameters where
  keyId : Option (List Char) := none
  algorithm : Option (List Char) := none
  created : Option Int := none
  expires : Option Int := none
  signed : Option (List Char) := none
  signature : Option (List Char) := none

def seconds (name : String) (value : List Char) : Except HeaderFault Int :=
  match Numeral.signed? value with
  | some n => .ok n
  | none => .error (.notANumber name)

-- Takes in one more parameter. A later one replaces an earlier one of its name; a number is read at
-- once; unknown names are passed over.
def Parameters.add (parameters : Parameters) (name value : List Char) :
    Except HeaderFault Parameters :=
  if name = "keyId".toList then .ok { parameters with keyId := some value }
  else if name = "algorithm".toList then .ok { parameters with algorithm := some value }
  else if name = "created".toList then
    (seconds "created" value).map fun n => { parameters with created := some n }
  else if name = "expires".toList then
    (seconds "expires" value).map fun n => { parameters with expires := some n }
  else if name = "headers".toList then .ok { parameters with signed := some value }
  else if name = "signature".toList then .ok { parameters with signature := some value }
  else .ok parameters

structure Item where
  name : List Char
  value : List Char
  rest : List Char

def dropSeparators (text : List Char) : List Char :=
  dropBlanks (text.dropWhile (· = ','))

def readItem (text : List Char) : Except HeaderFault Item :=
  match cut? '=' text with
  | none => .error .pair
  | some (name, '"' :: quotedText) =>
    match cut? '"' quotedText with
    | none => .error .unterminated
    | some (value, after) => .ok ⟨trimmed name, value, dropSeparators after⟩
  | some _ => .error .unquoted

theorem length_dropSeparators_le (text : List Char) :
    (dropSeparators text).length ≤ text.length :=
  Nat.le_trans (List.dropWhile_suffix _).length_le (List.dropWhile_suffix _).length_le

theorem length_rest_lt {text : List Char} {item : Item} (read : readItem text = .ok item) :
    item.rest.length < text.length := by
  unfold readItem at read
  split at read
  · cases read
  · rename_i name quotedText found
    split at read
    · cases read
    · rename_i value after closed
      cases read
      have whole := congrArg List.length (eq_of_cut? found)
      have inner := congrArg List.length (eq_of_cut? closed)
      have shorter := length_dropSeparators_le after
      simp only [List.length_append, List.length_cons] at whole inner ⊢
      omega
  · cases read

def readItems (parameters : Parameters) (text : List Char) : Except HeaderFault Parameters :=
  if text.isEmpty then .ok parameters
  else match _read : readItem text with
    | .error fault => .error fault
    | .ok item =>
      match parameters.add item.name item.value with
      | .error fault => .error fault
      | .ok further => readItems further item.rest
termination_by text.length
decreasing_by exact length_rest_lt _read

def demand {α : Type} (name : String) : Option α → Except HeaderFault α
  | some a => .ok a
  | none => .error (.missing name)

-- Subscriber, key and algorithm; the algorithm may hold bars.
def splitKeyId (keyId : List Char) : Except HeaderFault (List Char × List Char × List Char) :=
  match cut? '|' keyId with
  | none => .error .keyId
  | some (subscriber, rest) =>
    match cut? '|' rest with
    | none => .error .keyId
    | some (key, algorithm) => .ok (subscriber, key, algorithm)

-- The header of the parameters. Without an algorithm the one of the key counts, and without the
-- names of what is signed the usual ones.
def ofParameters (parameters : Parameters) : Except HeaderFault Header := do
  let keyId ← demand "keyId" parameters.keyId
  let (subscriber, key, algorithm) ← splitKeyId keyId
  let created ← demand "created" parameters.created
  let expires ← demand "expires" parameters.expires
  let signature ← demand "signature" parameters.signature
  return {
    subscriberId := String.ofList subscriber
    uniqueKeyId := String.ofList key
    algorithm := String.ofList (parameters.algorithm.getD algorithm)
    created
    expires
    signed := (parameters.signed.map String.ofList).getD signedNames
    signature := String.ofList signature
  }

def after? : List Char → List Char → Option (List Char)
  | [], text => some text
  | p :: ps, c :: text => if p = c then after? ps text else none
  | _ :: _, [] => none

def ofChars (text : List Char) : Except HeaderFault Header :=
  match after? scheme (trimmed text) with
  | none => .error .scheme
  | some parameters =>
    match readItems {} parameters with
    | .error fault => .error fault
    | .ok read => ofParameters read

def ofText (text : String) : Except Failure Header :=
  (ofChars text.toList).mapError .malformedHeader

-- Clocks may differ by this many seconds at either end of a window.
def tolerance : Int := 5

-- A header holds for a body if it is of the known algorithm, its window contains the time up to the
-- tolerance, and its signature holds.
def verify (scheme : Scheme) (publicKey : String) (body : List UInt8) (header : Header)
    (now : Int) : Except Failure Bool :=
  if header.algorithm = algorithmName && header.created ≤ now + tolerance
      && now - tolerance ≤ header.expires then
    verifyBody scheme publicKey body header.window header.signature
  else .ok false

end Header

end SellerDirectory.Signing
