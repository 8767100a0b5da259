import SellerDirectory.Proofs.Signing.Header
import SellerDirectory.Proofs.Signing.Key
import SellerDirectory.Signing.Signer

-- What a signer signs is accepted under its public key, for as long as its header says.

namespace SellerDirectory.Signing

open Text

namespace Signer

variable {scheme : Scheme} {signer : Signer}

theorem header_unmarked (subscriber : IsKeyName signer.subscriberId)
    (key : IsKeyName signer.uniqueKeyId) (body : List UInt8) (created lifetime : Int) :
    (signer.header scheme body created lifetime).Unmarked := by
  have algorithm : '"' ∉ algorithmName.toList := by decide +kernel
  have signed : '"' ∉ signedNames.toList := by decide +kernel
  have signature (bytes : List UInt8) : '"' ∉ (Base64.text bytes).toList := by
    rw [Base64.text, String.toList_ofList]
    exact Base64.quote_not_mem_encode bytes
  exact ⟨subscriber, key, algorithm, signed, signature _⟩

theorem verify_header (sized : scheme.Sized) (size : signer.seed.length = 32) {body : List UInt8}
    {created lifetime : Int}
    (accepts : scheme.Accepts signer.seed (message ⟨created, created + lifetime⟩ body)) (now : Int) :
    Header.verify scheme (signer.publicKey scheme) body
      (signer.header scheme body created lifetime) now =
        .ok (decide (created ≤ now + 5 ∧ now - 5 ≤ created + lifetime)) := by
  rw [Header.verify_of_known rfl]
  by_cases within : created ≤ now + 5 ∧ now - 5 ≤ created + lifetime
  · rw [decide_eq_true within]
    exact (if_pos within).trans (verifyBody_signatureText sized size accepts)
  · rw [decide_eq_false within]
    exact if_neg within

end Signer

-- For every text of a private key there is a signer. What it writes for a body reads back as a
-- header, and that header holds for the body, under the public key of the signer, exactly from its
-- creation to its end, give or take the tolerance.
theorem header_authenticates {scheme : Scheme} (sized : scheme.Sized) {keyText : String}
    {seed : List UInt8} (valid : IsKeyText scheme keyText seed) {subscriberId uniqueKeyId : String}
    (subscriber : IsKeyName subscriberId) (key : IsKeyName uniqueKeyId) (body : List UInt8)
    {created lifetime : Int} (starts : Numeral.IsSigned64 created)
    (ends : Numeral.IsSigned64 (created + lifetime))
    (accepts : scheme.Accepts seed (message ⟨created, created + lifetime⟩ body)) :
    ∃ signer, Signer.ofKey scheme (some keyText) subscriberId uniqueKeyId = .ok signer ∧
      ∃ header, Header.ofText (signer.header scheme body created lifetime).text = .ok header ∧
        ∀ now, header.verify scheme (signer.publicKey scheme) body now =
          .ok (decide (created ≤ now + 5 ∧ now - 5 ≤ created + lifetime)) := by
  let signer : Signer := { subscriberId, uniqueKeyId, seed }
  have made : Signer.ofKey scheme (some keyText) subscriberId uniqueKeyId = .ok signer := by
    change (seedOfText scheme keyText).map _ = _
    rw [(seedOfText_iff sized).mpr valid]
    rfl
  have unmarked : (signer.header scheme body created lifetime).Unmarked :=
    Signer.header_unmarked subscriber key body created lifetime
  exact ⟨signer, made, _, Header.ofText_text unmarked starts ends,
    Signer.verify_header sized valid.size accepts⟩

def zeroSeed : List UInt8 := List.replicate 32 0

def zeroKeyText : String := "AAAAAAAAAAAAAAAAAAAAAAAAAAAAAAAAAAAAAAAAAAA="

-- The last second at which a header of this key holds, and the one after it.
theorem zeroKey_authenticates :
    IsKeyText ed25519 zeroKeyText zeroSeed ∧
      ed25519.Accepts zeroSeed (message ⟨1700000000, 1700000030⟩ []) ∧
      ∃ signer, Signer.ofKey ed25519 (some zeroKeyText) "buyer.example" "key-1" = .ok signer ∧
        ∃ header, Header.ofText (signer.header ed25519 [] 1700000000 30).text = .ok header ∧
          header.verify ed25519 (signer.publicKey ed25519) [] 1700000035 = .ok true ∧
          header.verify ed25519 (signer.publicKey ed25519) [] 1700000036 = .ok false := by
  have valid : IsKeyText ed25519 zeroKeyText zeroSeed := ⟨rfl, .inl (by decide +kernel)⟩
  have accepts : ed25519.Accepts zeroSeed (message ⟨1700000000, 1700000030⟩ []) :=
    ⟨by decide +kernel, by decide +kernel⟩
  have subscriber : IsKeyName "buyer.example" := by decide +kernel
  have key : IsKeyName "key-1" := by decide +kernel
  have starts : Numeral.IsSigned64 1700000000 := by decide
  have ends : Numeral.IsSigned64 (1700000000 + 30) := by decide
  obtain ⟨signer, made, header, read, holds⟩ :=
    header_authenticates ed25519_sized valid subscriber key [] starts ends accepts
  exact ⟨valid, accepts, signer, made, header, read, holds 1700000035, holds 1700000036⟩

end SellerDirectory.Signing
