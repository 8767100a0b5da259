import SellerDirectory.Proofs.Base64
import SellerDirectory.Signing.Key

-- Private keys as text, and what is signed with them: it holds under the public key.

namespace SellerDirectory.Signing

open Text

structure Scheme.Sized (scheme : Scheme) : Prop where
  publicKey : ∀ seed, seed.length = 32 → (scheme.publicKey seed).length = 32
  sign : ∀ seed message, seed.length = 32 → (scheme.sign seed message).length = 64

theorem ed25519_sized : ed25519.Sized := by
  have bytes (n : Nat) : (Curve.bytes n).length = 32 := by simp [Curve.bytes]
  constructor
  · exact fun seed _ => bytes _
  · intro seed message _
    change (List.length (_ ++ _)) = 64
    rw [List.length_append, bytes]
    exact congrArg (· + 32) (bytes _)

structure Scheme.Accepts (scheme : Scheme) (seed message : List UInt8) : Prop where
  isKey : scheme.isKey (scheme.publicKey seed)
  verify : scheme.verify (scheme.publicKey seed) message (scheme.sign seed message)

theorem Scheme.Sound.accepts {scheme : Scheme} (sound : scheme.Sound) {seed : List UInt8}
    (size : seed.length = 32) (message : List UInt8) : scheme.Accepts seed message :=
  ⟨sound.isKey_publicKey seed size, sound.verify_sign seed message size⟩

-- A private key as text: a seed, or a seed with its public key behind it.
structure IsKeyText (scheme : Scheme) (text : String) (seed : List UInt8) : Prop where
  size : seed.length = 32
  read : Base64.decode (Utf8.encode (trimmed text.toList)) = .ok seed ∨
    Base64.decode (Utf8.encode (trimmed text.toList)) = .ok (seed ++ scheme.publicKey seed)

inductive HoldsSeed (scheme : Scheme) (seed : List UInt8) : List UInt8 → Prop where
  | alone (size : seed.length = 32) : HoldsSeed scheme seed seed
  | paired (size : seed.length = 32) (rest : (scheme.publicKey seed).length = 32) :
      HoldsSeed scheme seed (seed ++ scheme.publicKey seed)

section Keys

variable {scheme : Scheme} {text : String} {seed bytes : List UInt8}

theorem seedOfBytes_eq_ok : seedOfBytes scheme bytes = .ok seed ↔ HoldsSeed scheme seed bytes := by
  constructor
  · intro done
    unfold seedOfBytes at done
    split at done
    · next both =>
      split at done
      · next same =>
        cases done
        have size : (bytes.take 32).length = 32 := by
          rw [List.length_take, both]
          rfl
        have rest : (scheme.publicKey (bytes.take 32)).length = 32 := by
          rw [same, List.length_drop, both]
        have whole := HoldsSeed.paired size rest
        rwa [same, List.take_append_drop] at whole
      · cases done
    · split at done
      · next size =>
        cases done
        exact .alone size
      · cases done
  · rintro (size | ⟨size, rest⟩)
    · simp [seedOfBytes, size]
    · have both : (seed ++ scheme.publicKey seed).length = 64 := by
        rw [List.length_append, size, rest]
      rw [seedOfBytes, if_pos both, List.take_left' size, List.drop_left' size, if_pos rfl]

theorem seedOfBytes_iff (sized : scheme.Sized) :
    seedOfBytes scheme bytes = .ok seed ↔
      seed.length = 32 ∧ (bytes = seed ∨ bytes = seed ++ scheme.publicKey seed) := by
  rw [seedOfBytes_eq_ok]
  constructor
  · rintro (size | ⟨size, _⟩)
    · exact ⟨size, .inl rfl⟩
    · exact ⟨size, .inr rfl⟩
  · rintro ⟨size, rfl | rfl⟩
    · exact .alone size
    · exact .paired size (sized.publicKey seed size)

-- Just these texts are private keys. The empty one is none, whatever it decodes to.
theorem seedOfText_iff (sized : scheme.Sized) :
    seedOfText scheme text = .ok seed ↔ IsKeyText scheme text seed := by
  have same : seedOfText scheme text = .ok seed ↔
      ∃ bytes, Base64.decode (Utf8.encode (trimmed text.toList)) = .ok bytes ∧
        seedOfBytes scheme bytes = .ok seed := by
    unfold seedOfText
    cases trimmed text.toList with
    | nil =>
      simp only [List.isEmpty_nil, if_true]
      constructor
      · intro done
        cases done
      · rintro ⟨bytes, read, done⟩
        cases read
        cases done
    | cons c rest =>
      simp only [List.isEmpty_cons, Bool.false_eq_true, if_false]
      cases Base64.decode (Utf8.encode (c :: rest)) <;> simp
  rw [same]
  constructor
  · rintro ⟨bytes, read, done⟩
    obtain ⟨size, rfl | rfl⟩ := (seedOfBytes_iff sized).mp done
    · exact ⟨size, .inl read⟩
    · exact ⟨size, .inr read⟩
  · rintro ⟨size, read | read⟩
    · exact ⟨seed, read, (seedOfBytes_iff sized).mpr ⟨size, .inl rfl⟩⟩
    · exact ⟨_, read, (seedOfBytes_iff sized).mpr ⟨size, .inr rfl⟩⟩

theorem verifyBody_signatureText (sized : scheme.Sized) (size : seed.length = 32) {window : Window}
    {body : List UInt8} (accepts : scheme.Accepts seed (message window body)) :
    verifyBody scheme (Base64.text (scheme.publicKey seed)) body window
      (signatureText scheme seed window body) = .ok true := by
  have key : publicKeyOfText scheme (Base64.text (scheme.publicKey seed)) =
      .ok (scheme.publicKey seed) := by
    unfold publicKeyOfText
    rw [Base64.decode_text]
    simp only [sized.publicKey seed size, accepts.isKey, if_true]
  unfold verifyBody signatureText
  rw [key, Base64.decode_text]
  simp [sized.sign seed _ size, accepts.verify]

end Keys

end SellerDirectory.Signing
