-- The twisted Edwards curve -x² + y² = 1 + d x² y² over the integers modulo 2²⁵⁵ - 19, with the
-- 32-byte form of its points.

namespace SellerDirectory.Signing.Curve

def modulus : Nat := Nat.pow 2 255 - 19

def order : Nat := Nat.pow 2 252 + 27742317777372353535851937790883648493

def d : Nat :=
  37095705934669439343138083508754565189542113879843219016388785533085940283555

def add (a b : Nat) : Nat := (a + b) % modulus

def neg (a : Nat) : Nat := (modulus - a % modulus) % modulus

def sub (a b : Nat) : Nat := add a (neg b)

def mul (a b : Nat) : Nat := a * b % modulus

-- A power, by squaring along the bits of an exponent below 2²⁵⁶.
def pow (base exponent : Nat) : Nat :=
  (List.range 256).foldr
    (fun place total =>
      let squared := mul total total
      if exponent.testBit place then mul squared base else squared)
    1

def inverse (a : Nat) : Nat := pow a (modulus - 2)

def rootOfMinusOne : Nat := pow 2 ((modulus - 1) / 4)

-- The even one of the two roots of u / v, if that is a square.
def rootOfRatio? (u v : Nat) : Option Nat :=
  let cube := mul (mul v v) v
  let candidate := mul (mul u cube) (pow (mul u (mul (mul cube cube) v)) ((modulus - 5) / 8))
  let check := mul v (mul candidate candidate)
  let root :=
    if check = u then some candidate
    else if check = neg u then some (mul candidate rootOfMinusOne)
    else none
  root.map fun r => if r % 2 = 0 then r else neg r

-- A point in extended coordinates: the affine ones are x / z and y / z, and t is x y / z.
structure Point where
  x : Nat
  y : Nat
  z : Nat
  t : Nat

namespace Point

def zero : Point := ⟨0, 1, 1, 0⟩

def ofAffine (x y : Nat) : Point := ⟨x, y, 1, mul x y⟩

def base : Point :=
  ofAffine 15112221349535400772501151409588531511454012693041857206046113283949847762202
    46316835694926478169428394003475163141307993866256225615783033603165251855960

-- The sum of two points; the formula holds for equal points too.
def plus (p q : Point) : Point :=
  let a := mul (sub p.y p.x) (sub q.y q.x)
  let b := mul (add p.y p.x) (add q.y q.x)
  let c := mul (mul p.t (2 * d)) q.t
  let e := mul (2 * p.z) q.z
  let f := sub b a
  let g := sub e c
  let h := add e c
  let i := add b a
  ⟨mul f g, mul h i, mul g h, mul f i⟩

def opposite (p : Point) : Point := ⟨neg p.x, p.y, p.z, neg p.t⟩

-- A multiple of a point, by doubling along the bits of a scalar below 2²⁵⁶.
def times (p : Point) (scalar : Nat) : Point :=
  (List.range 256).foldr
    (fun place total =>
      let doubled := plus total total
      if scalar.testBit place then plus doubled p else doubled)
    zero

end Point

def number (bytes : List UInt8) : Nat :=
  bytes.foldr (fun byte total => total * 256 + byte.toNat) 0

-- A number in 32 bytes, the first byte lowest.
def bytes (n : Nat) : List UInt8 :=
  (List.range 32).map fun place => UInt8.ofNat (n / Nat.pow 256 place)

def Point.encode (p : Point) : List UInt8 :=
  let scale := inverse p.z
  bytes (mul p.y scale + Nat.pow 2 255 * (mul p.x scale % 2))

-- The point of a 32-byte form. The coordinate is taken modulo the modulus, and the top bit may be
-- set where the other coordinate is zero.
def Point.decode? (form : List UInt8) : Option Point :=
  let n := number form
  let y := n % Nat.pow 2 255 % modulus
  let square := mul y y
  (rootOfRatio? (sub square 1) (add (mul d square) 1)).map fun x =>
    ofAffine (if Nat.pow 2 255 ≤ n then neg x else x) y

end SellerDirectory.Signing.Curve
