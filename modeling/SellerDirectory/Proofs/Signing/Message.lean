import SellerDirectory.Proofs.Base64
import SellerDirectory.Proofs.Text.Numeral
import SellerDirectory.Proofs.Text.Utf8
import SellerDirectory.Signing.Message
import SellerDirectory.Text.Cut

-- What is signed says which window and which digest it was made for, since its lines can be told
-- apart and each of them says one thing.

namespace SellerDirectory.Signing

open Text

section Lines

variable {first second : Int} {rest rest' : List Char}

theorem line_inj :
    Numeral.ofInt first ++ '\n' :: rest = Numeral.ofInt second ++ '\n' :: rest' ↔
      first = second ∧ rest = rest' := by
  have unbroken (number : Int) : '\n' ∉ Numeral.ofInt number :=
    Numeral.not_mem_ofInt (by decide) (by decide)
  constructor
  · intro same
    have cuts := congrArg (cut? '\n') same
    rw [cut?_append (unbroken first), cut?_append (unbroken second)] at cuts
    obtain ⟨number, later⟩ := Prod.mk.inj (Option.some.inj cuts)
    exact ⟨Numeral.ofInt_inj.mp number, later⟩
  · rintro ⟨rfl, rfl⟩
    rfl

end Lines

theorem messageText_eq (created expires : Int) (body : List UInt8) :
    messageText ⟨created, expires⟩ body =
      "(created): ".toList ++ (Numeral.ofInt created ++ '\n' ::
        ("(expires): ".toList ++ (Numeral.ofInt expires ++ '\n' ::
          ("digest: BLAKE-512=".toList ++ digestText body)))) := by
  have expiry : "\n(expires): ".toList = '\n' :: "(expires): ".toList := by decide +kernel
  have digest : "\ndigest: BLAKE-512=".toList = '\n' :: "digest: BLAKE-512=".toList := by
    decide +kernel
  have regroup (start expiryName digestName createdText expiresText digestText : List Char) :
      start ++ createdText ++ '\n' :: expiryName ++ expiresText ++ '\n' :: digestName ++
          digestText =
        start ++ (createdText ++ '\n' ::
          (expiryName ++ (expiresText ++ '\n' :: (digestName ++ digestText)))) := by
    simp
  unfold messageText
  rw [expiry, digest]
  exact regroup _ _ _ _ _ _

-- Two messages are the same just where they were made for one window and one digest, as texts and
-- as the bytes that are signed.
theorem message_unambiguous (created expires created' expires' : Int) (body body' : List UInt8) :
    (messageText ⟨created, expires⟩ body = messageText ⟨created', expires'⟩ body' ↔
      created = created' ∧ expires = expires' ∧
        Digest.Blake2b.digest body = Digest.Blake2b.digest body') ∧
    (message ⟨created, expires⟩ body = message ⟨created', expires'⟩ body' ↔
      created = created' ∧ expires = expires' ∧
        Digest.Blake2b.digest body = Digest.Blake2b.digest body') := by
  have texts : messageText ⟨created, expires⟩ body = messageText ⟨created', expires'⟩ body' ↔
      created = created' ∧ expires = expires' ∧
        Digest.Blake2b.digest body = Digest.Blake2b.digest body' := by
    rw [messageText_eq, messageText_eq, List.append_cancel_left_eq, line_inj,
      List.append_cancel_left_eq, line_inj, List.append_cancel_left_eq, digestText, digestText,
      Base64.encode_inj]
  exact ⟨texts, Utf8.encode_inj.trans texts⟩

end SellerDirectory.Signing
