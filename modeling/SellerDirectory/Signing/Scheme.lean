import SellerDirectory.Digest.Sha512
import SellerDirectory.Signing.Curve

-- Signature schemes, and Ed25519 as one. Everything else about signing takes a scheme as argument,
-- so that what is said of it holds for any scheme in which a signature verifies under its own key.

namespace SellerDirectory.Signing

-- A deterministic signature scheme on byte strings, with private keys given by seeds.
structure Scheme where
  publicKey (seed : List UInt8) : List UInt8
  sign (seed message : List UInt8) : List UInt8
  isKey (key : List UInt8) : Bool
  verify (key message signature : List UInt8) : Bool

structure Scheme.Sound (scheme : Scheme) : Prop where
  isKey_publicKey : ∀ seed, seed.length = 32 → scheme.isKey (scheme.publicKey seed)
  verify_sign : ∀ seed message, seed.length = 32 →
    scheme.verify (scheme.publicKey seed) message (scheme.sign seed message)

namespace Ed25519

open Curve Digest

def secret (seed : List UInt8) : Nat × List UInt8 :=
  let hash := Sha512.digest seed
  let n := number (hash.take 32)
  (n % Nat.pow 2 254 / 8 * 8 + Nat.pow 2 254, hash.drop 32)

def publicKey (seed : List UInt8) : List UInt8 :=
  (Point.base.times (secret seed).1).encode

def challenge (noncePoint key message : List UInt8) : Nat :=
  number (Sha512.digest (noncePoint ++ key ++ message)) % order

def sign (seed message : List UInt8) : List UInt8 :=
  let (scalar, start) := secret seed
  let nonce := number (Sha512.digest (start ++ message)) % order
  let noncePoint := (Point.base.times nonce).encode
  noncePoint ++ bytes ((nonce + challenge noncePoint (publicKey seed) message * scalar) % order)

-- A signature holds if its second half is a reduced scalar and the point computed from it has the
-- first half as its 32-byte form.
def verify (key message signature : List UInt8) : Bool :=
  let noncePoint := signature.take 32
  let scalar := number (signature.drop 32)
  match Point.decode? key with
  | none => false
  | some point =>
    let computed := (Point.base.times scalar).plus
      (point.opposite.times (challenge noncePoint key message))
    scalar < order && computed.encode == noncePoint

end Ed25519

def ed25519 : Scheme where
  publicKey := Ed25519.publicKey
  sign := Ed25519.sign
  isKey key := (Curve.Point.decode? key).isSome
  verify := Ed25519.verify

end SellerDirectory.Signing
