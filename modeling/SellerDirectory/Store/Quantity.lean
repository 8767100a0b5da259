import SellerDirectory.Failure
import SellerDirectory.Text.Decimal

-- What a column of whole numbers holds. A text that denotes a whole number of 64 bits is stored as
-- that number; any other number or text is kept as it is and does not read back.

namespace SellerDirectory.Store

open Text

inductive Quantity where
  | whole (n : Int)
  | other (type : StoredType)
  deriving DecidableEq

namespace Quantity

def isWord (n : Int) : Bool :=
  Numeral.minSigned64 ≤ n && n ≤ Numeral.maxSigned64

-- A float without a fraction is the whole number that it equals, if it lies between the bounds.
def ofFloat (value : Float) : Quantity :=
  if value.floor == value && value.abs < 9223372036854775808.0 then .whole value.toInt64.toInt
  else .other .real

def ofDecimal (decimal : Decimal) : Quantity :=
  if decimal.plain && isWord decimal.toInt then .whole decimal.toInt
  else ofFloat decimal.toFloat

def isGap (c : Char) : Bool :=
  c = ' ' || ('\t' ≤ c && c ≤ '\r')

def withoutGaps (text : List Char) : List Char :=
  ((text.dropWhile isGap).reverse.dropWhile isGap).reverse

def ofText (text : String) : Quantity :=
  match Decimal.ofText? (withoutGaps text.toList) with
  | some decimal => ofDecimal decimal
  | none => .other .text

def read (column : Nat) (name : String) : Quantity → Except Failure Int
  | .whole n => .ok n
  | .other type => .error (.mistyped type column name)

end Quantity

end SellerDirectory.Store
