import SellerDirectory.Proofs.Json.Number
import SellerDirectory.Proofs.Time.MessageText

-- Codecs that restore what they have written: a value is read back from its text, whatever may
-- follow it, and reading stops right behind it.

namespace SellerDirectory.Json

open Text Numeral

section Restores

variable {α : Type} {codec : Codec α} {a : α} {rest : List UInt8}

-- The first byte of a value is no white space, and it does not close an array.
def Opens (bytes : List UInt8) : Prop :=
  ∃ b more, bytes = b :: more ∧ isSpace b = false ∧ b ≠ ']'.toUInt8

structure Codec.Restores (codec : Codec α) (a : α) : Prop where
  opens : Opens (Utf8.encode (codec.write a))
  read : ∀ rest, Ends rest → codec.read (Utf8.encode (codec.write a) ++ rest) = .ok (a, rest)

def Codec.ReadsBack (codec : Codec α) (a : α) : Prop :=
  codec.decode (Utf8.bytes (codec.encode a)) = .ok a

theorem Codec.Restores.readsBack (restores : codec.Restores a) : codec.ReadsBack a := by
  have read := restores.read [] ends_nil
  rw [List.append_nil] at read
  unfold Codec.ReadsBack Codec.decode Codec.encode Utf8.bytes
  rw [String.toList_ofList, read]
  rfl

end Restores

namespace Codec

variable {α : Type} {codec : Codec α} {rest : List UInt8}

section Texts

theorem opens_text (text : List Char) : Opens (Utf8.encode (writtenText text)) :=
  ⟨_, _, encode_writtenText text, by decide, by decide⟩

theorem head?_text (text : List Char) :
    (Utf8.encode (writtenText text)).head? ≠ some 'n'.toUInt8 := by
  rw [encode_writtenText, List.head?_cons]
  decide

theorem text_restores (value : String) : text.Restores value := by
  refine ⟨opens_text _, fun rest _ => ?_⟩
  have read := readText_written .text value.toList rest
  rwa [String.ofList_toList] at read

theorem time_restores (instant : Time.Instant) : time.Restores instant := by
  refine ⟨opens_text _, fun rest _ => (read_bind (readText_written _ _ rest)).trans ?_⟩
  rw [String.toList_ofList, Time.Lenient.read_text]
  rfl

end Texts

section Optional

theorem null_restores : codec.optional.Restores none := by
  refine ⟨⟨'n'.toUInt8, _, rfl, by decide, by decide⟩, fun rest _ => ?_⟩
  have token : token ('n'.toUInt8 :: (Utf8.bytes "ull" ++ rest)) =
      .ok ('n'.toUInt8, 'n'.toUInt8 :: (Utf8.bytes "ull" ++ rest)) := token_cons (by decide)
  have null : readNull ('n'.toUInt8 :: (Utf8.bytes "ull" ++ rest)) = .ok ((), rest) := by
    rw [readNull, read_bind token, if_pos (by decide)]
    rfl
  refine (read_bind token).trans ?_
  rw [if_pos (by decide), read_bind null]
  rfl

theorem some_restores {a : α} (restores : codec.Restores a)
    (other : (Utf8.encode (codec.write a)).head? ≠ some 'n'.toUInt8) :
    codec.optional.Restores (some a) := by
  refine ⟨restores.opens, fun rest ends => ?_⟩
  have read := restores.read rest ends
  obtain ⟨b, more, bytes, solid, _⟩ := restores.opens
  have value : b ≠ 'n'.toUInt8 := by
    rw [bytes] at other
    exact fun same => other (congrArg some same)
  change codec.optional.read (Utf8.encode (codec.write a) ++ rest) = .ok (some a, rest)
  rw [bytes, List.cons_append] at read ⊢
  refine (read_bind (token_cons solid)).trans ?_
  rw [if_neg (by simpa using value), read_bind read]
  rfl

theorem optionalText_restores (value? : Option String) : text.optional.Restores value? := by
  cases value? with
  | none => exact null_restores
  | some value => exact some_restores (text_restores value) (head?_text _)

theorem optionalTime_restores (instant? : Option Time.Instant) : time.optional.Restores instant? := by
  cases instant? with
  | none => exact null_restores
  | some instant => exact some_restores (time_restores instant) (head?_text _)

theorem lenientText_restores (value : String) : lenientText.Restores value := by
  refine ⟨opens_text _, fun rest ends => ?_⟩
  exact (read_bind ((optionalText_restores (some value)).read rest ends)).trans rfl

end Optional

section Scalars

theorem boolean_restores (value : Bool) : boolean.Restores value := by
  cases value with
  | true => exact ⟨⟨'t'.toUInt8, _, rfl, by decide, by decide⟩, fun rest _ => rfl⟩
  | false => exact ⟨⟨'f'.toUInt8, _, rfl, by decide, by decide⟩, fun rest _ => rfl⟩

theorem opens_ofInt (number : Int) : Opens (Utf8.encode (ofInt number)) := by
  cases number with
  | ofNat n =>
    obtain ⟨b, more, bytes, digit⟩ := start_ofNat n
    refine ⟨b, more, bytes, solid_digit digit, ?_⟩
    rintro rfl
    exact absurd digit (by decide)
  | negSucc n => exact ⟨'-'.toUInt8, _, rfl, by decide, by decide⟩

theorem signed64_restores {number : Int} (fits : IsSigned64 number) :
    signed64.Restores number := by
  have word : number ≤ maxUnsigned64 :=
    Int.le_trans fits.2 (by decide : maxSigned64 ≤ maxUnsigned64)
  exact ⟨opens_ofInt number, fun rest ends => readWhole_ofInt fits.1 fits.2 ⟨fits.1, word⟩ ends⟩

theorem size_restores {n : Nat} (fits : n ≤ maxUnsigned64) : size.Restores n := by
  have most : (n : Int) ≤ maxUnsigned64 := Int.ofNat_le.mpr fits
  have least : minSigned64 ≤ n :=
    Int.le_trans (by decide : minSigned64 ≤ 0) (Int.natCast_nonneg n)
  refine ⟨opens_ofInt n, fun rest ends => ?_⟩
  exact (read_bind (readWhole_ofInt (Int.natCast_nonneg n) most ⟨least, most⟩ ends)).trans rfl

theorem variant_restores {known : List (String × α)} {name : α → String} {a : α}
    (found : known.lookup (name a) = some a) : (variant known name).Restores a := by
  refine ⟨opens_text _, fun rest _ => ?_⟩
  have read : readVariant known (Utf8.encode (writtenText (name a).toList) ++ rest) = .ok (a, rest) := by
    rw [readVariant, read_bind (readText_written _ _ rest), String.ofList_toList]
    simp only [found]
    rfl
  change (variant known name).read (Utf8.encode (writtenText (name a).toList) ++ rest) = .ok (a, rest)
  rw [encode_writtenText, List.cons_append] at read ⊢
  refine (read_bind (token_cons (by decide))).trans ?_
  rw [if_pos (by decide), read]

end Scalars

section Lists

variable {all : List α}

theorem commaSeparated_cons (text : List Char) (texts : List (List Char)) :
    commaSeparated (text :: texts) = text ++ texts.flatMap (',' :: ·) := by
  unfold commaSeparated
  induction texts generalizing text with
  | nil => simp
  | cons next texts ih => rw [List.intercalate_cons_cons, ih]; simp

def laterBytes (texts : List (List Char)) : List UInt8 :=
  texts.flatMap fun text => ','.toUInt8 :: Utf8.encode text

theorem encode_commaSeparated (text : List Char) (texts : List (List Char)) :
    Utf8.encode (commaSeparated (text :: texts)) = Utf8.encode text ++ laterBytes texts := by
  rw [commaSeparated_cons, Utf8.encode_append]
  congr 1
  induction texts with
  | nil => rfl
  | cons next texts ih =>
    rw [List.flatMap_cons, Utf8.encode_append, ih]
    rfl

theorem length_laterBytes (texts : List (List Char)) : texts.length ≤ (laterBytes texts).length := by
  induction texts with
  | nil => exact Nat.le_refl 0
  | cons text texts ih =>
    rw [laterBytes, List.flatMap_cons, List.length_append, List.length_cons, List.length_cons]
    unfold laterBytes at ih
    omega

theorem ends_later (texts : List (List Char)) (rest : List UInt8) {closing : UInt8}
    (closes : closing = ']'.toUInt8 ∨ closing = '\x7d'.toUInt8) :
    Ends (laterBytes texts ++ closing :: rest) := by
  cases texts with
  | nil =>
    rintro _ ⟨⟩
    exact .inr closes
  | cons text texts =>
    rintro _ ⟨⟩
    exact .inl rfl

theorem hasElement_first {b : UInt8} (solid : isSpace b = false) (other : b ≠ ']'.toUInt8) :
    hasElement true (b :: rest) = .ok (true, b :: rest) := by
  rw [hasElement, read_bind (token_cons solid), if_neg (by simpa using other), if_pos rfl]
  rfl

theorem hasElement_later {b : UInt8} (solid : isSpace b = false) (other : b ≠ ']'.toUInt8) :
    hasElement false (','.toUInt8 :: b :: rest) = .ok (true, b :: rest) := by
  rw [hasElement, read_bind (token_cons (by decide)), if_neg (by decide), if_neg (by decide),
    if_pos (by decide), read_bind advance_cons, read_bind (token_cons solid),
    if_neg (by simpa using other)]
  rfl

theorem hasElement_none (first : Bool) :
    hasElement first (']'.toUInt8 :: rest) = .ok (false, ']'.toUInt8 :: rest) := by
  rw [hasElement, read_bind (token_cons (by decide)), if_pos (by decide)]
  rfl

theorem endArray_bracket : endArray (']'.toUInt8 :: rest) = .ok ((), rest) := by
  rw [endArray, read_bind (token_cons (by decide)), if_pos (by decide)]
  rfl

theorem elements_later (each : ∀ a ∈ all, codec.Restores a) {bound : Nat}
    (enough : all.length < bound) :
    elements codec.read bound false (laterBytes (all.map codec.write) ++ ']'.toUInt8 :: rest) =
      .ok (all, ']'.toUInt8 :: rest) := by
  induction all generalizing bound with
  | nil =>
    obtain ⟨bound, rfl⟩ := Nat.exists_eq_add_of_lt enough
    exact (read_bind (hasElement_none false)).trans rfl
  | cons a all ih =>
    obtain ⟨here, later⟩ := List.forall_mem_cons.mp each
    obtain ⟨bound, rfl⟩ : ∃ less, bound = less + 1 := ⟨bound - 1, by omega⟩
    have left : all.length < bound := Nat.lt_of_succ_lt_succ enough
    have read := here.read _ (ends_later (all.map codec.write) rest (.inl rfl))
    obtain ⟨b, more, bytes, solid, other⟩ := here.opens
    have shape : laterBytes ((a :: all).map codec.write) ++ ']'.toUInt8 :: rest =
        ','.toUInt8 :: (Utf8.encode (codec.write a) ++
          (laterBytes (all.map codec.write) ++ ']'.toUInt8 :: rest)) := by
      simp [laterBytes]
    rw [bytes, List.cons_append] at read
    rw [shape, bytes, List.cons_append, elements, read_bind (hasElement_later solid other),
      if_pos rfl, read_bind read, read_bind (ih later left)]
    rfl

theorem elements_all (each : ∀ a ∈ all, codec.Restores a) {bound : Nat} (enough : all.length < bound) :
    elements codec.read bound true
        (Utf8.encode (commaSeparated (all.map codec.write)) ++ ']'.toUInt8 :: rest) =
      .ok (all, ']'.toUInt8 :: rest) := by
  obtain ⟨bound, rfl⟩ : ∃ less, bound = less + 1 := ⟨bound - 1, by omega⟩
  cases all with
  | nil => exact (read_bind (hasElement_none true)).trans rfl
  | cons a all =>
    obtain ⟨here, later⟩ := List.forall_mem_cons.mp each
    have left : all.length < bound := Nat.lt_of_succ_lt_succ enough
    have read := here.read _ (ends_later (all.map codec.write) rest (.inl rfl))
    obtain ⟨b, more, start, solid, other⟩ := here.opens
    rw [List.map_cons, encode_commaSeparated, List.append_assoc]
    rw [start, List.cons_append] at read ⊢
    rw [elements, read_bind (hasElement_first solid other), if_pos rfl, read_bind read,
      read_bind (elements_later later left)]
    rfl

theorem length_commaSeparated (each : ∀ a ∈ all, codec.Restores a) :
    all.length ≤ (Utf8.encode (commaSeparated (all.map codec.write))).length := by
  cases all with
  | nil => exact Nat.zero_le _
  | cons a all =>
    have few := length_laterBytes (all.map codec.write)
    obtain ⟨b, more, start, _⟩ := (each a List.mem_cons_self).opens
    rw [List.length_map] at few
    rw [List.map_cons, encode_commaSeparated, start, List.cons_append, List.length_cons,
      List.length_cons, List.length_append]
    omega

theorem encode_list (all : List α) :
    Utf8.encode ((list codec).write all) =
      '['.toUInt8 :: (Utf8.encode (commaSeparated (all.map codec.write)) ++ [']'.toUInt8]) :=
  Utf8.encode_enclosed rfl rfl _

theorem list_restores (each : ∀ a ∈ all, codec.Restores a) : (list codec).Restores all := by
  refine ⟨⟨_, _, encode_list all, by decide, by decide⟩, fun rest _ => ?_⟩
  have enough : all.length < (Utf8.encode (commaSeparated (all.map codec.write)) ++
      ']'.toUInt8 :: rest).length + 1 := by
    have few := length_commaSeparated each
    rw [List.length_append]
    omega
  rw [encode_list, List.cons_append, List.append_assoc]
  refine (read_bind (token_cons (by decide))).trans ?_
  rw [if_pos (by decide), read_bind advance_cons, read_bind get_bytes]
  exact (read_bind (elements_all each enough)).trans ((read_bind endArray_bracket).trans rfl)

end Lists

end Codec

end SellerDirectory.Json
