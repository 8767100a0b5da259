import SellerDirectory.Text.Numeral

-- Decimal numbers as a text gives them: a sign, digits with a point among or beside them, and an
-- exponent, of which only one digit is needed.

namespace SellerDirectory.Text

structure Decimal where
  negative : Bool
  significand : Nat
  power : Int
  -- Digits only, without point and exponent.
  plain : Bool
  deriving DecidableEq

namespace Decimal

-- Greater exponents take every number beyond the floats or down to zero, as this one does.
def maxExponent : Nat := 10000

def signed (negative : Bool) (n : Nat) : Int :=
  if negative then -Int.ofNat n else Int.ofNat n

def splitSign : List Char → Bool × List Char
  | '-' :: rest => (true, rest)
  | '+' :: rest => (false, rest)
  | text => (false, text)

-- The exponent after the digits; an empty text is the exponent zero.
def exponent? : List Char → Option Int
  | [] => some 0
  | mark :: text =>
    if mark = 'e' || mark = 'E' then
      let (negative, digits) := splitSign text
      (Numeral.natural? digits).map fun n => signed negative (min n maxExponent)
    else none

def splitFraction : List Char → List Char × List Char
  | '.' :: rest => (rest.takeWhile Numeral.isDigit, rest.dropWhile Numeral.isDigit)
  | text => ([], text)

def ofText? (text : List Char) : Option Decimal :=
  let (negative, unsigned) := splitSign text
  let whole := unsigned.takeWhile Numeral.isDigit
  let rest := unsigned.dropWhile Numeral.isDigit
  let (fraction, tail) := splitFraction rest
  if whole.isEmpty && fraction.isEmpty then none
  else (exponent? tail).map fun exponent =>
    { negative, significand := Numeral.value (whole ++ fraction)
      power := exponent - fraction.length, plain := rest.isEmpty }

def toInt (decimal : Decimal) : Int :=
  signed decimal.negative decimal.significand

def toFloat (decimal : Decimal) : Float :=
  let magnitude :=
    Float.ofScientific decimal.significand (decimal.power < 0) decimal.power.natAbs
  if decimal.negative then -magnitude else magnitude

end Decimal

end SellerDirectory.Text
