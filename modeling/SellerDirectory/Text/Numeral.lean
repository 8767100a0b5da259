-- Whole numbers in decimal: written without padding, read with an optional sign and any number of
-- leading zeros.

namespace SellerDirectory.Text.Numeral

def maxUnsigned32 : Nat := 4294967295

def maxUnsigned64 : Nat := 18446744073709551615

def maxSigned64 : Int := 9223372036854775807

def minSigned64 : Int := -9223372036854775808

def isDigit (c : Char) : Bool :=
  '0' ≤ c && c ≤ '9'

def digitValue (c : Char) : Nat :=
  c.toNat - '0'.toNat

def value (digits : List Char) : Nat :=
  digits.foldl (fun total c => total * 10 + digitValue c) 0

def natural? (text : List Char) : Option Nat :=
  if !text.isEmpty && text.all isDigit then some (value text) else none

-- A number up to the limit; a plus sign in front is allowed.
def unsigned? (limit : Nat) (text : List Char) : Option Nat :=
  let digits := match text with
    | '+' :: rest => rest
    | _ => text
  (natural? digits).filter (· ≤ limit)

-- A signed 64-bit number; either sign in front is allowed.
def signed? (text : List Char) : Option Int :=
  let number := match text with
    | '+' :: rest => (natural? rest).map Int.ofNat
    | '-' :: rest => (natural? rest).map fun n => -Int.ofNat n
    | _ => (natural? text).map Int.ofNat
  number.filter fun n => minSigned64 ≤ n && n ≤ maxSigned64

def ofNat (n : Nat) : List Char :=
  Nat.toDigits 10 n

def ofInt : Int → List Char
  | .ofNat n => ofNat n
  | .negSucc n => '-' :: ofNat (n + 1)

def padded (width n : Nat) : List Char :=
  List.replicate (width - (ofNat n).length) '0' ++ ofNat n

end SellerDirectory.Text.Numeral
