-- The BLAKE2b digest of 64 bytes, without a key.

namespace SellerDirectory.Digest.Blake2b

-- The chaining value that a digest starts from, before its parameters enter the first word.
def initial : Array UInt64 := #[
  0x6a09e667f3bcc908, 0xbb67ae8584caa73b, 0x3c6ef372fe94f82b, 0xa54ff53a5f1d36f1,
  0x510e527fade682d1, 0x9b05688c2b3e6c1f, 0x1f83d9abfb41bd6b, 0x5be0cd19137e2179
]

-- Length of the digest, no key, and a tree of a single node.
def parameters : UInt64 := 0x01010040

def schedule : List (List Nat) := [
  [0, 1, 2, 3, 4, 5, 6, 7, 8, 9, 10, 11, 12, 13, 14, 15],
  [14, 10, 4, 8, 9, 15, 13, 6, 1, 12, 0, 2, 11, 7, 5, 3],
  [11, 8, 12, 0, 5, 2, 15, 13, 10, 14, 3, 6, 7, 1, 9, 4],
  [7, 9, 3, 1, 13, 12, 11, 14, 2, 6, 5, 10, 4, 0, 15, 8],
  [9, 0, 5, 7, 2, 4, 10, 15, 14, 1, 11, 12, 6, 8, 3, 13],
  [2, 12, 6, 10, 0, 11, 8, 3, 4, 13, 7, 5, 15, 14, 1, 9],
  [12, 5, 1, 15, 14, 13, 4, 10, 0, 7, 6, 3, 9, 2, 8, 11],
  [13, 11, 7, 14, 12, 1, 3, 9, 5, 0, 15, 4, 8, 6, 2, 10],
  [6, 15, 14, 9, 11, 3, 0, 8, 12, 2, 13, 7, 1, 4, 10, 5],
  [10, 2, 8, 4, 7, 6, 1, 5, 15, 11, 9, 14, 3, 12, 13, 0]
]

-- Twelve rounds: the ten kinds, then the first two again.
def rounds : List (List Nat) :=
  schedule ++ schedule.take 2

def rotateRight (word : UInt64) (places : UInt64) : UInt64 :=
  (word >>> places) ||| (word <<< (64 - places))

def word (bytes : List UInt8) : UInt64 :=
  bytes.foldr (fun byte total => (total <<< 8) ||| byte.toUInt64) 0

def wordBytes (word : UInt64) : List UInt8 :=
  (List.range 8).map fun place => (word >>> (8 * place.toUInt64)).toUInt8

-- Sixteen words of a block; a short block is filled up with zeros.
def blockWords (block : List UInt8) : Array UInt64 :=
  ((List.range 16).map fun place => word ((block.drop (8 * place)).take 8)).toArray

def mix (a b c d : Nat) (x y : UInt64) (state : Array UInt64) : Array UInt64 :=
  let at0 := state.getD a 0 + state.getD b 0 + x
  let dt0 := rotateRight (state.getD d 0 ^^^ at0) 32
  let ct0 := state.getD c 0 + dt0
  let bt0 := rotateRight (state.getD b 0 ^^^ ct0) 24
  let at1 := at0 + bt0 + y
  let dt1 := rotateRight (dt0 ^^^ at1) 16
  let ct1 := ct0 + dt1
  let bt1 := rotateRight (bt0 ^^^ ct1) 63
  (((state.setIfInBounds a at1).setIfInBounds b bt1).setIfInBounds c ct1).setIfInBounds d dt1

-- The four places of the state that each mixing step of a round works on: columns, then diagonals.
def places : List (Nat × Nat × Nat × Nat) := [
  (0, 4, 8, 12), (1, 5, 9, 13), (2, 6, 10, 14), (3, 7, 11, 15),
  (0, 5, 10, 15), (1, 6, 11, 12), (2, 7, 8, 13), (3, 4, 9, 14)
]

def round (block : Array UInt64) (state : Array UInt64) (order : List Nat) : Array UInt64 :=
  places.zipIdx.foldl
    (fun state ((a, b, c, d), step) =>
      mix a b c d (block.getD (order.getD (2 * step) 0) 0)
        (block.getD (order.getD (2 * step + 1) 0) 0) state)
    state

-- Takes one block into the chaining value. The count is that of all bytes up to its end.
def absorb (chain : Array UInt64) (block : List UInt8) (count : Nat) (final : Bool) :
    Array UInt64 :=
  let upper := ((initial.modify 4 (· ^^^ UInt64.ofNat count)).modify 5
    (· ^^^ UInt64.ofNat (count / Nat.pow 2 64))).modify 6 fun word => if final then ~~~word else word
  let mixed := rounds.foldl (round (blockWords block)) (chain ++ upper)
  chain.mapIdx fun place word => word ^^^ mixed.getD place 0 ^^^ mixed.getD (place + 8) 0

-- Takes all blocks; the last one, which may be short or empty, is marked.
def absorbAll (chain : Array UInt64) (before : Nat) (bytes : List UInt8) : Array UInt64 :=
  if 128 < bytes.length then
    absorbAll (absorb chain (bytes.take 128) (before + 128) false) (before + 128) (bytes.drop 128)
  else absorb chain bytes (before + bytes.length) true
termination_by bytes.length
decreasing_by simp only [List.length_drop]; omega

def digest (bytes : List UInt8) : List UInt8 :=
  (absorbAll (initial.modify 0 (· ^^^ parameters)) 0 bytes).toList.flatMap wordBytes

end SellerDirectory.Digest.Blake2b
