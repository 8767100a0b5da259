import SellerDirectory.Proofs.Text.Blank
import SellerDirectory.Proofs.Text.Numeral
import SellerDirectory.Signing.Header

-- A header that is written reads back, where no mark of its text stands in its parts.

namespace SellerDirectory.Signing

open Text

def IsKeyName (name : String) : Prop :=
  '"' ∉ name.toList ∧ '|' ∉ name.toList

instance (name : String) : Decidable (IsKeyName name) :=
  inferInstanceAs (Decidable (_ ∧ _))

namespace Header

-- A name that is found again where it is written, behind commas and white space.
structure IsName (name : String) : Prop where
  unmarked : '=' ∉ name.toList
  trimmed : trimmed name.toList = name.toList
  first : name.toList.head? ≠ some ','

instance (name : String) : Decidable (IsName name) :=
  decidable_of_iff
    ('=' ∉ name.toList ∧ Text.trimmed name.toList = name.toList ∧ name.toList.head? ≠ some ',')
    ⟨fun ⟨unmarked, trimmed, first⟩ => ⟨unmarked, trimmed, first⟩,
      fun ⟨unmarked, trimmed, first⟩ => ⟨unmarked, trimmed, first⟩⟩

-- A parameter as it stands in a text, with the commas and the white space behind it.
structure Entry where
  name : String
  value : List Char
  commas : Nat
  blanks : List Char

namespace Entry

def separators (entry : Entry) : List Char :=
  List.replicate entry.commas ',' ++ entry.blanks

def chars (entry : Entry) : List Char :=
  item entry.name entry.value ++ entry.separators

structure Valid (entry : Entry) : Prop where
  named : IsName entry.name
  unquoted : '"' ∉ entry.value
  blank : entry.blanks.all isBlank

instance (entry : Entry) : Decidable entry.Valid :=
  decidable_of_iff (IsName entry.name ∧ '"' ∉ entry.value ∧ entry.blanks.all isBlank)
    ⟨fun ⟨named, unquoted, blank⟩ => ⟨named, unquoted, blank⟩,
      fun ⟨named, unquoted, blank⟩ => ⟨named, unquoted, blank⟩⟩

end Entry

def listing (entries : List Entry) : List Char :=
  entries.flatMap Entry.chars

section Read

variable {name : String} {value : List Char} {parameters : Parameters} {entry : Entry}
  {entries : List Entry}

theorem item_append (after : List Char) :
    item name value ++ after = name.toList ++ '=' :: '"' :: (value ++ '"' :: after) := by
  simp [item]

theorem readItem_item (named : IsName name) (unquoted : '"' ∉ value) (after : List Char) :
    readItem (item name value ++ after) = .ok ⟨name.toList, value, dropSeparators after⟩ := by
  rw [item_append]
  simp only [readItem, cut?_append named.unmarked, cut?_append unquoted, named.trimmed]

theorem head_of_listing (valid : ∀ entry ∈ entries, entry.Valid) :
    ∀ c ∈ (listing entries).head?, c ≠ ',' ∧ isBlank c = false := by
  intro c first
  cases entries with
  | nil => cases first
  | cons entry rest =>
    obtain ⟨named, _⟩ := valid entry List.mem_cons_self
    have start : (listing (entry :: rest)).head? = (entry.name.toList ++ ['=']).head? := by
      rw [listing, List.flatMap_cons, Entry.chars, List.append_assoc, item_append]
      cases entry.name.toList <;> rfl
    rw [start] at first
    cases letters : entry.name.toList with
    | nil =>
      rw [letters] at first
      cases first
      decide
    | cons d more =>
      rw [letters] at first
      cases first
      have here : entry.name.toList.head? = some c := by rw [letters]; rfl
      exact ⟨fun comma => named.first (by rw [here, comma]), head_of_trimmed named.trimmed c here⟩

theorem dropSeparators_listing {blanks : List Char} (blank : blanks.all isBlank) (commas : Nat)
    (valid : ∀ entry ∈ entries, entry.Valid) :
    dropSeparators (List.replicate commas ',' ++ (blanks ++ listing entries)) = listing entries := by
  have first := head_of_listing valid
  have bare : (blanks ++ listing entries).dropWhile (· = ',') = blanks ++ listing entries := by
    cases blanks with
    | nil =>
      cases start : listing entries with
      | nil => rfl
      | cons c rest =>
        rw [start] at first
        exact List.dropWhile_cons_of_neg (by simpa using (first c rfl).1)
    | cons c blanks =>
      have dark : c ≠ ',' := by
        rintro rfl
        have comma := List.all_eq_true.mp blank ',' List.mem_cons_self
        cases comma
      exact List.dropWhile_cons_of_neg (by simpa using dark)
  rw [dropSeparators, List.dropWhile_append_of_pos, bare, dropBlanks_append blank]
  · exact dropBlanks_eq_self fun c here => (first c here).2
  · exact fun c member => by simp [List.eq_of_mem_replicate member]

theorem readItems_item (named : IsName name) (unquoted : '"' ∉ value) (after : List Char) :
    readItems parameters (item name value ++ after) =
      (parameters.add name.toList value).bind fun further =>
        readItems further (dropSeparators after) := by
  have more : (item name value ++ after).isEmpty = false := by
    rw [item_append]
    cases name.toList <;> rfl
  rw [readItems, more, if_neg Bool.false_ne_true]
  split
  · next fault failed =>
    rw [readItem_item named unquoted] at failed
    cases failed
  · next read done =>
    rw [readItem_item named unquoted] at done
    cases done
    cases parameters.add name.toList value <;> rfl

def addAll (entries : List Entry) (parameters : Parameters) : Except HeaderFault Parameters :=
  entries.foldlM (fun parameters entry => parameters.add entry.name.toList entry.value) parameters

theorem readItems_listing (valid : ∀ entry ∈ entries, entry.Valid) :
    readItems parameters (listing entries) = addAll entries parameters := by
  induction entries generalizing parameters with
  | nil =>
    rw [readItems]
    rfl
  | cons entry rest ih =>
    obtain ⟨⟨named, unquoted, blank⟩, later⟩ := List.forall_mem_cons.mp valid
    have written : listing (entry :: rest) = item entry.name entry.value ++
        (List.replicate entry.commas ',' ++ (entry.blanks ++ listing rest)) := by
      simp [listing, Entry.chars, Entry.separators]
    rw [written, readItems_item named unquoted, dropSeparators_listing blank entry.commas later,
      addAll, List.foldlM_cons]
    cases parameters.add entry.name.toList entry.value with
    | error fault => rfl
    | ok further => exact ih later

end Read

-- The parameters that a header is written as, each but the last one with a comma behind it.
def entries (header : Header) : List Entry :=
  [⟨"keyId", header.keyIdText, 1, []⟩, ⟨"algorithm", header.algorithm.toList, 1, []⟩,
    ⟨"created", Numeral.ofInt header.created, 1, []⟩,
    ⟨"expires", Numeral.ofInt header.expires, 1, []⟩, ⟨"headers", header.signed.toList, 1, []⟩,
    ⟨"signature", header.signature.toList, 0, []⟩]

theorem chars_eq (header : Header) : header.chars = scheme ++ listing header.entries := by
  simp [chars, entries, listing, Entry.chars, Entry.separators]

theorem after?_append (front text : List Char) : after? front (front ++ text) = some text := by
  induction front with
  | nil => rfl
  | cons c rest ih => simp [after?, ih]

theorem trimmed_chars (header : Header) : trimmed header.chars = header.chars := by
  have letters : scheme = 'S' :: "ignature ".toList := rfl
  have first : header.chars.head? = some 'S' := by
    rw [chars_eq, letters]
    rfl
  obtain ⟨front, closed⟩ : ∃ front, header.chars = front ++ ['"'] :=
    ⟨_, (List.append_assoc _ (',' :: _) ['"']).symm⟩
  have last : header.chars.getLast? = some '"' := by
    rw [closed]
    exact List.getLast?_concat
  refine trimmed_eq_self (fun c here => ?_) fun c here => ?_
  · cases first.symm.trans here
    rfl
  · cases last.symm.trans here
    rfl

structure Unmarked (header : Header) : Prop where
  subscriberId : IsKeyName header.subscriberId
  uniqueKeyId : IsKeyName header.uniqueKeyId
  algorithm : '"' ∉ header.algorithm.toList
  signed : '"' ∉ header.signed.toList
  signature : '"' ∉ header.signature.toList

section Unmarked

variable {header : Header} (unmarked : header.Unmarked)

include unmarked

theorem splitKeyId_keyIdText :
    splitKeyId header.keyIdText =
      .ok (header.subscriberId.toList, header.uniqueKeyId.toList, header.algorithm.toList) := by
  simp [splitKeyId, keyIdText, cut?_append unmarked.subscriberId.2,
    cut?_append unmarked.uniqueKeyId.2]

theorem entries_valid : ∀ entry ∈ header.entries, entry.Valid := by
  have number (n : Int) : '"' ∉ Numeral.ofInt n :=
    Numeral.not_mem_ofInt (by decide) (by decide)
  have keyId : '"' ∉ header.keyIdText := by
    simp [keyIdText, unmarked.subscriberId.1, unmarked.uniqueKeyId.1, unmarked.algorithm]
  have known : ∀ name ∈ ["keyId", "algorithm", "created", "expires", "headers", "signature"],
      IsName name := by
    decide +kernel
  have named : ∀ entry ∈ header.entries, IsName entry.name :=
    fun entry member => known entry.name (List.mem_map_of_mem member)
  have unquoted : ∀ entry ∈ header.entries, '"' ∉ entry.value := by
    simp [entries, number, keyId, unmarked.algorithm, unmarked.signed, unmarked.signature]
  have blank : ∀ entry ∈ header.entries, entry.blanks.all isBlank := by simp [entries]
  exact fun entry member => ⟨named entry member, unquoted entry member, blank entry member⟩

theorem readItems_entries (created : Numeral.IsSigned64 header.created)
    (expires : Numeral.IsSigned64 header.expires) :
    readItems {} (listing header.entries) = .ok {
      keyId := some header.keyIdText
      algorithm := some header.algorithm.toList
      created := some header.created
      expires := some header.expires
      signed := some header.signed.toList
      signature := some header.signature.toList } := by
  rw [readItems_listing (entries_valid unmarked)]
  simp only [addAll, entries, List.foldlM_cons, List.foldlM_nil, Parameters.add, String.toList_inj,
    String.reduceEq, if_true, if_false, seconds, Numeral.signed?_ofInt created,
    Numeral.signed?_ofInt expires]
  rfl

theorem ofText_text (created : Numeral.IsSigned64 header.created)
    (expires : Numeral.IsSigned64 header.expires) : ofText header.text = .ok header := by
  have read : ofChars header.chars = .ok header := by
    rw [ofChars, trimmed_chars, chars_eq, after?_append]
    simp only [readItems_entries unmarked created expires]
    simp only [ofParameters, demand, bind, Except.bind, splitKeyId_keyIdText unmarked]
    simp [pure, Except.pure]
  rw [ofText, text, String.toList_ofList, read]
  rfl

end Unmarked

theorem verify_of_known {scheme : Scheme} {publicKey : String} {body : List UInt8}
    {header : Header} {now : Int} (known : header.algorithm = algorithmName) :
    header.verify scheme publicKey body now =
      if header.created ≤ now + tolerance ∧ now - tolerance ≤ header.expires then
        verifyBody scheme publicKey body header.window header.signature
      else .ok false := by
  simp [Header.verify, known]

end Header

end SellerDirectory.Signing
