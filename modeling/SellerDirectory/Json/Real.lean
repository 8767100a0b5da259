import SellerDirectory.Text.Numeral

-- Numbers with a fraction or an exponent, as a reader meets them: taken to a 64-bit float from at
-- most 64 bits of digits and a power of ten, and shown by the fewest digits that denote the float.

namespace SellerDirectory.Json.Real

open Text

-- The float near `significand * 10 ^ exponent`, by one multiplication or by repeated division.
-- There is none for a number beyond the greatest float.
def ofParts? (significand : Float) (exponent : Int) : Option Float :=
  if 0 ≤ exponent then
    if significand == 0.0 then some significand
    else if 308 < exponent then none
    else
      let scaled := significand * Float.ofScientific 1 false exponent.toNat
      if scaled.isInf then none else some scaled
  else if -308 ≤ exponent then
    some (significand / Float.ofScientific 1 false exponent.natAbs)
  else if significand == 0.0 then some significand
  else ofParts? (significand / Float.ofScientific 1 false 308) (exponent + 308)
termination_by exponent.natAbs
decreasing_by omega

-- The numbers that round to one float, as multiples of one unit over a common denominator; the two
-- ends belong to them where the float is even.
structure Interval where
  low : Nat
  value : Nat
  high : Nat
  denominator : Nat
  closed : Bool

def intervalOfBits (bits : Nat) : Interval :=
  let stored := bits % Nat.pow 2 52
  let field := bits / Nat.pow 2 52
  let mantissa := if field = 0 then stored else stored + Nat.pow 2 52
  let exponent : Int := (if field = 0 then 1 else field : Nat) - 1077
  let numerator := Nat.pow 2 exponent.toNat
  let below := if stored = 0 && 1 < field then 1 else 2
  { low := (4 * mantissa - below) * numerator
    value := 4 * mantissa * numerator
    high := (4 * mantissa + 2) * numerator
    denominator := Nat.pow 2 (-exponent).toNat
    closed := mantissa % 2 = 0 }

def Interval.contains (interval : Interval) (numerator : Nat) : Bool :=
  if interval.closed then interval.low ≤ numerator && numerator ≤ interval.high
  else interval.low < numerator && numerator < interval.high

def Interval.scaled (interval : Interval) (power : Int) : Interval :=
  let up := Nat.pow 10 power.toNat
  { low := interval.low * up, value := interval.value * up, high := interval.high * up,
    denominator := interval.denominator * Nat.pow 10 (-power).toNat, closed := interval.closed }

def leadingPower (interval : Interval) : Int :=
  if interval.denominator ≤ interval.value then
    (Numeral.ofNat (interval.value / interval.denominator)).length - 1
  else
    let reaches := fun steps => interval.denominator ≤ interval.value * Nat.pow 10 (steps + 1)
    let steps : Nat := ((List.range 400).find? reaches).getD 400
    Int.negSucc steps

-- The point with so many digits that lies in the interval and nearest to its value. Of two points
-- that are equally near the even one comes first.
def nearest? (interval : Interval) (leading : Int) (count : Nat) : Option (Nat × Int) :=
  let power := leading - (count - 1 : Nat)
  let grid := interval.scaled (-power)
  let below := grid.value / grid.denominator
  let inside := fun n => grid.contains (n * grid.denominator)
  let rest := grid.value - below * grid.denominator
  let down := 2 * rest < grid.denominator || (2 * rest = grid.denominator && below % 2 = 0)
  let first := if down then [below, below + 1] else [below + 1, below]
  (first.find? inside).map fun n => (n, power)

def withoutEndZeros : Nat → Nat × Int → Nat × Int
  | 0, shown => shown
  | fuel + 1, (n, power) =>
    if n % 10 = 0 && 0 < n then withoutEndZeros fuel (n / 10, power + 1) else (n, power)

def shortest (bits : Nat) : Nat × Int :=
  let interval := intervalOfBits bits
  let leading := leadingPower interval
  let found := (List.range 17).findSome? fun count => nearest? interval leading (count + 1)
  withoutEndZeros 20 (found.getD (0, 0))

def exponentText (exponent : Int) : List Char :=
  'e' :: (if 0 ≤ exponent then ['+'] else []) ++ Numeral.ofInt exponent

-- Positional up to sixteen digits before the point and five zeros after it, with an exponent
-- otherwise; a positional number has at least one digit on each side of the point.
def layout (n : Nat) (power : Int) : List Char :=
  let digits := Numeral.ofNat n
  let point := digits.length + power
  if 0 ≤ power && point ≤ 16 then
    digits ++ List.replicate power.toNat '0' ++ ['.', '0']
  else if 0 < point && point ≤ 16 then
    digits.take point.toNat ++ '.' :: digits.drop point.toNat
  else if -5 < point && point ≤ 0 then
    '0' :: '.' :: List.replicate (-point).toNat '0' ++ digits
  else
    let tail := digits.drop 1
    digits.take 1 ++ (if tail.isEmpty then [] else '.' :: tail) ++ exponentText (point - 1)

def text (value : Float) : String :=
  let bits := value.toBits.toNat
  let sign := if Nat.pow 2 63 ≤ bits then ['-'] else []
  let magnitude := bits % Nat.pow 2 63
  let shown :=
    if magnitude = 0 then ['0', '.', '0']
    else
      let (n, power) := shortest magnitude
      layout n power
  String.ofList (sign ++ shown)

end SellerDirectory.Json.Real
