import SellerDirectory.Proofs.Base64.Canonical
import SellerDirectory.Proofs.Except
import SellerDirectory.Proofs.Signing.Key
import SellerDirectory.Proofs.Text.Utf8

-- Which texts sign, and what with. A text that is no private key is refused, and whether as one that
-- is badly written or as one that is badly chosen depends on whether it is the Base64 of anything.

namespace SellerDirectory.Signing

open Text

-- But for the white space around it, the text is what is written for the bytes.
def Spells (text : String) (bytes : List UInt8) : Prop :=
  trimmed text.toList = Base64.encode bytes

instance (text : String) (bytes : List UInt8) : Decidable (Spells text bytes) :=
  inferInstanceAs (Decidable (_ = _))

def IsPrivateKey (scheme : Scheme) (text : String) (seed : List UInt8) : Prop :=
  ∃ bytes, Spells text bytes ∧ HoldsSeed scheme seed bytes

def IsGarbled (text : String) : Prop :=
  trimmed text.toList ≠ [] ∧ ∀ bytes, ¬ Spells text bytes

-- Bytes that are no private key: there are too few or too many, or the second half of them is not
-- the public key of the first.
inductive HoldsNoSeed (scheme : Scheme) (bytes : List UInt8) : Prop where
  | size (alone : bytes.length ≠ 32) (paired : bytes.length ≠ 64)
  | halves (paired : bytes.length = 64)
      (differ : scheme.publicKey (bytes.take 32) ≠ bytes.drop 32)

section Keys

variable {scheme : Scheme} {text : String} {seed bytes : List UInt8}

theorem seedOfBytes_error {failure : Failure}
    (refused : seedOfBytes scheme bytes = .error failure) :
    HoldsNoSeed scheme bytes ∧ failure.kind = .configuration := by
  unfold seedOfBytes at refused
  split at refused
  · next paired =>
    split at refused
    · cases refused
    · next differ =>
      cases refused
      exact ⟨.halves paired differ, rfl⟩
  · next paired =>
    split at refused
    · cases refused
    · next alone =>
      cases refused
      exact ⟨.size alone paired, rfl⟩

theorem seedOfBytes_refused (none : HoldsNoSeed scheme bytes) :
    ∃ failure, seedOfBytes scheme bytes = .error failure := by
  unfold seedOfBytes
  cases none with
  | size alone paired => exact ⟨_, by rw [if_neg paired, if_neg alone]⟩
  | halves paired differ => exact ⟨_, by rw [if_pos paired, if_neg differ]⟩

theorem decode_spelled (spells : Spells text bytes) :
    Base64.decode (Utf8.encode (trimmed text.toList)) = .ok bytes := by
  rw [Base64.decode_eq_ok, spells]

theorem spells_of_decode (read : Base64.decode (Utf8.encode (trimmed text.toList)) = .ok bytes) :
    Spells text bytes :=
  Utf8.encode_inj.mp (Base64.decode_eq_ok.mp read)

-- What becomes of a text, in the order in which it is looked at.
inductive KeyText (scheme : Scheme) (text : String) : Except Failure (List UInt8) → Prop where
  | blank (empty : trimmed text.toList = []) :
      KeyText scheme text (.error (.notConfigured "PRIVATE_KEY"))
  | garbled (garbled : IsGarbled text) (error : Base64.DecodeError) :
      KeyText scheme text (.error (.keyNotBase64 error))
  | spelled (some : trimmed text.toList ≠ []) {bytes : List UInt8} (spells : Spells text bytes) :
      KeyText scheme text (seedOfBytes scheme bytes)

theorem keyText (scheme : Scheme) (text : String) :
    KeyText scheme text (seedOfText scheme text) := by
  unfold seedOfText
  by_cases empty : trimmed text.toList = []
  · rw [if_pos (List.isEmpty_iff.mpr empty)]
    exact .blank empty
  · rw [if_neg (mt List.isEmpty_iff.mp empty)]
    split
    · next error failed =>
      refine .garbled ⟨empty, fun bytes spells => ?_⟩ error
      cases (decode_spelled spells).symm.trans failed
    · next bytes read => exact .spelled empty (spells_of_decode read)

theorem Spells.unique {other : List UInt8} (spells : Spells text bytes) (same : Spells text other) :
    other = bytes :=
  Base64.encode_inj.mp (same.symm.trans spells)

theorem empty_of_blank (empty : trimmed text.toList = []) (spells : Spells text bytes) :
    bytes = [] :=
  Spells.unique (empty : Spells text []) spells

theorem HoldsSeed.ne_nil (holds : HoldsSeed scheme seed bytes) : bytes ≠ [] := by
  rintro rfl
  have size := seedOfBytes_eq_ok.mpr holds
  cases size

theorem seedOfText_eq_ok : seedOfText scheme text = .ok seed ↔ IsPrivateKey scheme text seed := by
  have fate := keyText scheme text
  generalize seedOfText scheme text = result at fate ⊢
  cases fate with
  | blank empty =>
    constructor
    · intro done
      cases done
    · rintro ⟨bytes, spells, holds⟩
      exact absurd (empty_of_blank empty spells) holds.ne_nil
  | garbled garbled error =>
    constructor
    · intro done
      cases done
    · rintro ⟨bytes, spells, _⟩
      exact absurd spells (garbled.2 bytes)
  | spelled _ spells =>
    rw [seedOfBytes_eq_ok]
    constructor
    · exact fun holds => ⟨_, spells, holds⟩
    · rintro ⟨other, same, holds⟩
      rwa [spells.unique same] at holds

theorem seedOfText_garbled :
    (∃ failure, seedOfText scheme text = .error failure ∧ failure.kind = .encoding) ↔
      IsGarbled text := by
  have fate := keyText scheme text
  generalize seedOfText scheme text = result at fate ⊢
  cases fate with
  | blank empty =>
    constructor
    · rintro ⟨_, ⟨⟩, kind⟩
      cases kind
    · exact fun garbled => absurd empty garbled.1
  | garbled garbled error => exact ⟨fun _ => garbled, fun _ => ⟨_, rfl, rfl⟩⟩
  | spelled _ spells =>
    constructor
    · rintro ⟨failure, refused, kind⟩
      cases kind.symm.trans (seedOfBytes_error refused).2
    · exact fun garbled => absurd spells (garbled.2 _)

theorem seedOfText_refused :
    (∃ failure, seedOfText scheme text = .error failure ∧ failure.kind = .configuration) ↔
      trimmed text.toList = [] ∨ ∃ bytes, Spells text bytes ∧ HoldsNoSeed scheme bytes := by
  have fate := keyText scheme text
  generalize seedOfText scheme text = result at fate ⊢
  cases fate with
  | blank empty => exact ⟨fun _ => .inl empty, fun _ => ⟨_, rfl, rfl⟩⟩
  | garbled garbled error =>
    constructor
    · rintro ⟨_, ⟨⟩, kind⟩
      cases kind
    · rintro (empty | ⟨bytes, spells, _⟩)
      · exact absurd empty garbled.1
      · exact absurd spells (garbled.2 bytes)
  | spelled some spells =>
    constructor
    · rintro ⟨failure, refused, _⟩
      exact .inr ⟨_, spells, (seedOfBytes_error refused).1⟩
    · rintro (empty | ⟨other, same, none⟩)
      · exact absurd empty some
      · rw [spells.unique same] at none
        obtain ⟨failure, refused⟩ := seedOfBytes_refused none
        exact ⟨failure, refused, (seedOfBytes_error refused).2⟩

theorem kind_of_seedOfText {failure : Failure} (refused : seedOfText scheme text = .error failure) :
    failure.kind = .encoding ∨ failure.kind = .configuration := by
  have fate := keyText scheme text
  rw [refused] at fate
  generalize same : Except.error failure = result at fate
  cases fate with
  | blank empty =>
    cases same
    exact .inr rfl
  | garbled garbled error =>
    cases same
    exact .inl rfl
  | spelled _ spells => exact .inr (seedOfBytes_error same.symm).2

theorem seedOfText_remaining :
    (∃ failure, seedOfText scheme text = .error failure ∧ failure.kind = .configuration) ↔
      (∀ seed, ¬ IsPrivateKey scheme text seed) ∧ ¬ IsGarbled text := by
  rw [← @seedOfText_garbled scheme text]
  simp only [← seedOfText_eq_ok]
  cases done : seedOfText scheme text with
  | ok seed => simp
  | error failure =>
    have kinds := kind_of_seedOfText done
    constructor
    · rintro ⟨_, ⟨⟩, kind⟩
      simp [kind]
    · rintro ⟨_, other⟩
      rcases kinds with encoding | configuration
      · exact absurd ⟨failure, rfl, encoding⟩ other
      · exact ⟨failure, rfl, configuration⟩

theorem seedOfText_trim (text : String) :
    seedOfText scheme (trim text) = seedOfText scheme text := by
  unfold seedOfText
  rw [toList_trim, trimmed_trimmed]

theorem signBody_accepts {body : List UInt8} {created lifetime : Int} :
    (∃ signature, signBody scheme text body created lifetime = .ok signature) ↔
      ∃ seed, seedOfText scheme text = .ok seed := by
  unfold signBody
  simp only [map_ok]
  constructor
  · rintro ⟨_, seed, read, _⟩
    exact ⟨seed, read⟩
  · rintro ⟨seed, read⟩
    exact ⟨_, seed, read, rfl⟩

end Keys

-- A text signs just where it is a private key, with the seed that it holds. Any other text is
-- garbled, or nothing stands in it, or what it is written for holds no seed.
theorem signBody_settled (scheme : Scheme) (text : String) (body : List UInt8)
    (created lifetime : Int) :
    (∀ signature, signBody scheme text body created lifetime = .ok signature ↔
      ∃ seed, IsPrivateKey scheme text seed ∧
        signature = Base64.text (scheme.sign seed (message ⟨created, created + lifetime⟩ body))) ∧
    ((∃ failure, signBody scheme text body created lifetime = .error failure ∧
      failure.kind = .encoding) ↔ IsGarbled text) ∧
    ((∃ failure, signBody scheme text body created lifetime = .error failure ∧
      failure.kind = .configuration) ↔
        (∀ seed, ¬ IsPrivateKey scheme text seed) ∧ ¬ IsGarbled text) ∧
    ((∀ seed, ¬ IsPrivateKey scheme text seed) ∧ ¬ IsGarbled text ↔
      trimmed text.toList = [] ∨ ∃ bytes, Spells text bytes ∧ HoldsNoSeed scheme bytes) ∧
    ∀ other seed, IsPrivateKey scheme text seed → IsPrivateKey scheme other seed →
      signBody scheme text body created lifetime = signBody scheme other body created lifetime := by
  unfold signBody
  refine ⟨fun signature => ?_, ?_, ?_, ?_, fun other seed key same => ?_⟩
  · simp only [map_ok, seedOfText_eq_ok, signatureText, @eq_comm _ signature]
  · simp only [map_error, seedOfText_garbled]
  · simp only [map_error, seedOfText_remaining]
  · rw [← seedOfText_remaining, seedOfText_refused]
  · rw [seedOfText_eq_ok.mpr key, seedOfText_eq_ok.mpr same]

def risingSeed : List UInt8 := (List.range 32).map UInt8.ofNat

def risingSeedText : String := "\u2003AAECAwQFBgcICQoLDA0ODxAREhMUFRYXGBkaGxwdHh8="

def risingPairText : String :=
  "AAECAwQFBgcICQoLDA0ODxAREhMUFRYXGBkaGxwdHh8DoQe/884Qvh1w3RjnS8CZZ+TWMJulDV8d3IZkElUxuA==\n"

-- The text of the seed with a bit set that belongs to no byte.
def unevenSeedText : String := "AAECAwQFBgcICQoLDA0ODxAREhMUFRYXGBkaGxwdHh9="

theorem risingKey_settled :
    IsPrivateKey ed25519 risingSeedText risingSeed ∧ IsPrivateKey ed25519 risingPairText risingSeed ∧
      signBody ed25519 risingSeedText [] 1700000000 30 =
        signBody ed25519 risingPairText [] 1700000000 30 ∧
      IsGarbled unevenSeedText ∧
      ∃ failure, signBody ed25519 unevenSeedText [] 1700000000 30 = .error failure ∧
        failure.kind = .encoding := by
  have alone : IsPrivateKey ed25519 risingSeedText risingSeed :=
    ⟨_, by decide +kernel, .alone rfl⟩
  have paired : IsPrivateKey ed25519 risingPairText risingSeed :=
    ⟨_, by decide +kernel, .paired rfl (ed25519_sized.publicKey _ rfl)⟩
  have uneven : IsGarbled unevenSeedText := by
    refine ⟨by decide +kernel, fun bytes spells => ?_⟩
    have failed : Base64.decode (Utf8.encode (trimmed unevenSeedText.toList)) =
        .error (.unusedBits 57 42) := by
      decide +kernel
    cases (decode_spelled spells).symm.trans failed
  obtain ⟨_, _, _, _, alike⟩ := signBody_settled ed25519 risingSeedText [] 1700000000 30
  obtain ⟨_, garbled, _⟩ := signBody_settled ed25519 unevenSeedText [] 1700000000 30
  exact ⟨alone, paired, alike risingPairText risingSeed alone paired, uneven, garbled.mpr uneven⟩

end SellerDirectory.Signing
