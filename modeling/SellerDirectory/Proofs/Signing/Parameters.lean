import Mathlib.Data.List.Induction
import SellerDirectory.Proofs.Signing.HeaderDomain

-- Which lists of parameters are read as a header, and as which one. The last value of each known
-- name says what the header is; the values before it, all other names, the order of the names and
-- what separates the parameters do not matter, but that every time must be a number.

namespace SellerDirectory.Signing.Header

open Text

variable {name : String} {value : List Char} {entry : Entry} {entries others : List Entry}
  {parameters : Parameters} {header : Header}

section Values

def valuesOf (name : String) (entries : List Entry) : List (List Char) :=
  (entries.filter fun entry => entry.name = name).map Entry.value

def lastOf? (name : String) (entries : List Entry) : Option (List Char) :=
  (valuesOf name entries).getLast?

theorem valuesOf_cons :
    valuesOf name (entry :: entries) =
      (if entry.name = name then [entry.value] else []) ++ valuesOf name entries := by
  by_cases same : entry.name = name <;> simp [valuesOf, same]

theorem valuesOf_append :
    valuesOf name (entries ++ others) = valuesOf name entries ++ valuesOf name others := by
  simp [valuesOf]

theorem lastOf?_snoc :
    lastOf? name (entries ++ [entry]) =
      if entry.name = name then some entry.value else lastOf? name entries := by
  unfold lastOf?
  rw [valuesOf_append]
  by_cases same : entry.name = name <;> simp [valuesOf, same]

end Values

def IsSeconds (text : List Char) (number : Int) : Prop :=
  Numeral.Denotes text number ∧ Numeral.IsSigned64 number

def timeNames : List String := ["created", "expires"]

-- Every time is a number, also one that a later one replaces.
def Timed (entries : List Entry) : Prop :=
  ∀ name ∈ timeNames, ∀ value ∈ valuesOf name entries, ∃ number, IsSeconds value number

structure Tells (entries : List Entry) (header : Header) : Prop where
  key : ∃ algorithm, lastOf? "keyId" entries = some
      (header.subscriberId.toList ++ '|' :: (header.uniqueKeyId.toList ++ '|' :: algorithm)) ∧
    '|' ∉ header.subscriberId.toList ∧ '|' ∉ header.uniqueKeyId.toList ∧
    header.algorithm.toList = (lastOf? "algorithm" entries).getD algorithm
  created : ∃ text ∈ lastOf? "created" entries, IsSeconds text header.created
  expires : ∃ text ∈ lastOf? "expires" entries, IsSeconds text header.expires
  signed : header.signed.toList = (lastOf? "headers" entries).getD signedNames.toList
  signature : lastOf? "signature" entries = some header.signature.toList

structure Complete (entries : List Entry) : Prop where
  timed : Timed entries
  key : ∃ keyId ∈ lastOf? "keyId" entries, 2 ≤ keyId.count '|'
  created : valuesOf "created" entries ≠ []
  expires : valuesOf "expires" entries ≠ []
  signature : valuesOf "signature" entries ≠ []

section Reading

def parametersOf (entries : List Entry) : Parameters where
  keyId := lastOf? "keyId" entries
  algorithm := lastOf? "algorithm" entries
  created := (lastOf? "created" entries).bind Numeral.signed?
  expires := (lastOf? "expires" entries).bind Numeral.signed?
  signed := lastOf? "headers" entries
  signature := lastOf? "signature" entries

theorem seconds_ok {number : Int} :
    seconds name value = .ok number ↔ IsSeconds value number := by
  unfold seconds IsSeconds
  rw [← Numeral.signed?_eq_some]
  cases Numeral.signed? value <;> simp

theorem timed_snoc :
    Timed (entries ++ [entry]) ↔
      Timed entries ∧ (entry.name ∈ timeNames → ∃ number, IsSeconds entry.value number) := by
  unfold Timed
  simp only [valuesOf_append, List.mem_append]
  constructor
  · intro timed
    refine ⟨fun name known value member => timed name known value (.inl member), fun known => ?_⟩
    exact timed entry.name known entry.value (.inr (by simp [valuesOf]))
  · rintro ⟨timed, last⟩ name known value (member | member)
    · exact timed name known value member
    · by_cases same : entry.name = name
      · subst same
        obtain rfl : value = entry.value := by simpa [valuesOf] using member
        exact last known
      · simp [valuesOf, same] at member

theorem parametersOf_snoc :
    parametersOf (entries ++ [entry]) =
      { keyId := if entry.name = "keyId" then some entry.value else lastOf? "keyId" entries
        algorithm :=
          if entry.name = "algorithm" then some entry.value else lastOf? "algorithm" entries
        created :=
          (if entry.name = "created" then some entry.value else lastOf? "created" entries).bind
            Numeral.signed?
        expires :=
          (if entry.name = "expires" then some entry.value else lastOf? "expires" entries).bind
            Numeral.signed?
        signed := if entry.name = "headers" then some entry.value else lastOf? "headers" entries
        signature :=
          if entry.name = "signature" then some entry.value else lastOf? "signature" entries } := by
  simp only [parametersOf, lastOf?_snoc]

theorem seconds_map_ok {known : String} {further : Parameters} (take : Option Int → Parameters) :
    (seconds known value).map (fun number => take (some number)) = .ok further ↔
      (∃ number, IsSeconds value number) ∧ further = take (Numeral.signed? value) := by
  rw [map_ok]
  constructor
  · rintro ⟨number, read, rfl⟩
    have found := seconds_ok.mp read
    exact ⟨⟨number, found⟩, by rw [Numeral.signed?_eq_some.mpr found]⟩
  · rintro ⟨⟨number, found⟩, rfl⟩
    exact ⟨number, seconds_ok.mpr found, by rw [Numeral.signed?_eq_some.mpr found]⟩

-- One more parameter is taken in just where it is no time that is not a number.
theorem add_ok {further : Parameters} :
    (parametersOf entries).add entry.name.toList entry.value = .ok further ↔
      (entry.name ∈ timeNames → ∃ number, IsSeconds entry.value number) ∧
        further = parametersOf (entries ++ [entry]) := by
  rw [parametersOf_snoc]
  unfold Parameters.add
  simp only [String.toList_inj]
  split
  · next known => simp [known, timeNames, parametersOf, eq_comm]
  split
  · next known => simp [known, timeNames, parametersOf, eq_comm]
  split
  · next known =>
    rw [seconds_map_ok fun created => { parametersOf entries with created }]
    simp [known, timeNames, parametersOf]
  split
  · next known =>
    rw [seconds_map_ok fun expires => { parametersOf entries with expires }]
    simp [known, timeNames, parametersOf]
  split
  · next known => simp [known, timeNames, parametersOf, eq_comm]
  split
  · next known => simp [known, timeNames, parametersOf, eq_comm]
  · next _ _ created expires _ _ =>
    simp [created, expires, timeNames, parametersOf, eq_comm]

theorem addAll_ok :
    addAll entries {} = .ok parameters ↔ Timed entries ∧ parameters = parametersOf entries := by
  induction entries using List.reverseRecOn generalizing parameters with
  | nil =>
    constructor
    · intro done
      cases done
      exact ⟨by simp [Timed, valuesOf], rfl⟩
    · rintro ⟨_, rfl⟩
      rfl
  | append_singleton entries entry ih =>
    unfold addAll at ih ⊢
    rw [List.foldlM_append, timed_snoc]
    simp only [bind_ok, ih, List.foldlM_cons, List.foldlM_nil]
    constructor
    · rintro ⟨_, ⟨timed, rfl⟩, _, added, done⟩
      cases done
      obtain ⟨number, rfl⟩ := add_ok.mp added
      exact ⟨⟨timed, number⟩, rfl⟩
    · rintro ⟨⟨timed, number⟩, rfl⟩
      exact ⟨_, ⟨timed, rfl⟩, _, add_ok.mpr ⟨number, rfl⟩, rfl⟩

theorem demand_ok {α : Type} {given : Option α} {a : α} :
    demand name given = .ok a ↔ given = some a := by
  cases given <;> simp [demand]

theorem splitKeyId_ok {keyId subscriber key algorithm : List Char} :
    splitKeyId keyId = .ok (subscriber, key, algorithm) ↔
      keyId = subscriber ++ '|' :: (key ++ '|' :: algorithm) ∧ '|' ∉ subscriber ∧ '|' ∉ key := by
  constructor
  · exact splitKeyId_parts
  · rintro ⟨rfl, subscriber_unbarred, key_unbarred⟩
    simp [splitKeyId, cut?_append subscriber_unbarred, cut?_append key_unbarred]

theorem kept_time_iff {number : Int} :
    (lastOf? name entries).bind Numeral.signed? = some number ↔
      ∃ text ∈ lastOf? name entries, IsSeconds text number := by
  simp only [Option.bind_eq_some_iff, Numeral.signed?_eq_some]
  rfl

theorem ofParameters_ok :
    ofParameters (parametersOf entries) = .ok header ↔ Tells entries header := by
  unfold ofParameters
  simp only [bind_ok, demand_ok, parametersOf, kept_time_iff]
  constructor
  · rintro ⟨keyId, named, ⟨subscriber, key, algorithm⟩, split, created, since, expires, till,
      signature, signs, done⟩
    cases done
    obtain ⟨rfl, subscriber_unbarred, key_unbarred⟩ := splitKeyId_ok.mp split
    constructor
    · exact ⟨algorithm, by simpa using named, by simpa using subscriber_unbarred,
        by simpa using key_unbarred, by simp⟩
    · exact since
    · exact till
    · cases lastOf? "headers" entries <;> simp
    · simpa using signs
  · rintro ⟨⟨algorithm, named, subscriber_unbarred, key_unbarred, algorithm_told⟩, since, till,
      signed, signs⟩
    refine ⟨_, named, ⟨_, _, _⟩, splitKeyId_ok.mpr ⟨rfl, subscriber_unbarred, key_unbarred⟩, _,
      since, _, till, _, signs, ?_⟩
    have given :
        ((lastOf? "headers" entries).map String.ofList).getD signedNames = header.signed := by
      rw [← String.toList_inj, signed]
      cases lastOf? "headers" entries <;> simp
    simp only [given, ← algorithm_told, String.ofList_toList]
    rfl

end Reading

-- A list that tells a header misses nothing, and no other list does: two bars are enough to split
-- a key at.
theorem two_bars_iff {keyId : List Char} :
    2 ≤ keyId.count '|' ↔ ∃ subscriber key algorithm,
      keyId = subscriber ++ '|' :: (key ++ '|' :: algorithm) ∧ '|' ∉ subscriber ∧ '|' ∉ key := by
  constructor
  · intro bars
    have first : '|' ∈ keyId := List.count_pos_iff.mp (by omega)
    obtain ⟨subscriber, rest, rfl, subscriber_unbarred⟩ := List.eq_append_cons_of_mem first
    rw [List.count_append, List.count_eq_zero.mpr subscriber_unbarred, List.count_cons_self] at bars
    have second : '|' ∈ rest := List.count_pos_iff.mp (by omega)
    obtain ⟨key, algorithm, rfl, key_unbarred⟩ := List.eq_append_cons_of_mem second
    exact ⟨subscriber, key, algorithm, rfl, subscriber_unbarred, key_unbarred⟩
  · rintro ⟨subscriber, key, algorithm, rfl, _, _⟩
    simp only [List.count_append, List.count_cons_self]
    omega

theorem last_of_given (given : valuesOf name entries ≠ []) :
    ∃ value ∈ valuesOf name entries, lastOf? name entries = some value :=
  ⟨_, List.getLast_mem given, List.getLast?_eq_some_getLast given⟩

theorem complete_iff : Complete entries ↔ Timed entries ∧ ∃ header, Tells entries header := by
  constructor
  · rintro ⟨timed, ⟨keyId, named, bars⟩, given_created, given_expires, given_signature⟩
    obtain ⟨subscriber, key, algorithm, rfl, subscriber_unbarred, key_unbarred⟩ :=
      two_bars_iff.mp bars
    obtain ⟨created, created_member, created_last⟩ := last_of_given given_created
    obtain ⟨since, since_told⟩ := timed "created" (by simp [timeNames]) created created_member
    obtain ⟨expires, expires_member, expires_last⟩ := last_of_given given_expires
    obtain ⟨till, till_told⟩ := timed "expires" (by simp [timeNames]) expires expires_member
    obtain ⟨signature, _, signature_last⟩ := last_of_given given_signature
    refine ⟨timed, ⟨String.ofList subscriber, String.ofList key,
      String.ofList ((lastOf? "algorithm" entries).getD algorithm), since, till,
      String.ofList ((lastOf? "headers" entries).getD signedNames.toList),
      String.ofList signature⟩, ?_⟩
    constructor
    · exact ⟨algorithm, by simpa using named, by simpa using subscriber_unbarred,
        by simpa using key_unbarred, by simp⟩
    · exact ⟨created, created_last, since_told⟩
    · exact ⟨expires, expires_last, till_told⟩
    · simp
    · simpa using signature_last
  · rintro ⟨timed, header, ⟨algorithm, named, subscriber_unbarred, key_unbarred, _⟩,
      ⟨created, created_last, _⟩, ⟨expires, expires_last, _⟩, _, signature_last⟩
    have given_of_last {name : String} {value : List Char}
        (last : lastOf? name entries = some value) :
        valuesOf name entries ≠ [] := by
      intro none
      rw [lastOf?, none] at last
      cases last
    exact ⟨timed, ⟨_, named, two_bars_iff.mpr ⟨_, _, _, rfl, subscriber_unbarred, key_unbarred⟩⟩,
      given_of_last created_last, given_of_last expires_last, given_of_last signature_last⟩

structure Written where
  lead : List Char
  entries : List Entry
  trail : List Char

namespace Written

variable {written other : Written}

def text (written : Written) : String :=
  String.ofList (written.lead ++ (scheme ++ listing written.entries ++ written.trail))

structure Valid (written : Written) : Prop where
  lead : written.lead.all isBlank
  given : written.entries ≠ []
  entries : ∀ entry ∈ written.entries, entry.Valid
  trail : written.trail.all isBlank

end Written

section Trimmed

def Entry.bare (entry : Entry) : Entry :=
  { entry with blanks := [] }

theorem bare_valid (valid : entry.Valid) : entry.bare.Valid :=
  ⟨valid.named, valid.unquoted, rfl⟩

theorem chars_bare (entry : Entry) : entry.chars = entry.bare.chars ++ entry.blanks := by
  simp [Entry.chars, Entry.bare, Entry.separators]

theorem last_of_bare (entry : Entry) :
    ∃ front c, entry.bare.chars = front ++ [c] ∧ isBlank c = false := by
  cases commas : entry.commas with
  | zero =>
    refine ⟨entry.name.toList ++ '=' :: '"' :: entry.value, '"', ?_, by decide⟩
    simp [Entry.chars, Entry.bare, Entry.separators, item, commas]
  | succ n =>
    refine ⟨item entry.name entry.value ++ List.replicate n ',', ',', ?_, by decide⟩
    simp [Entry.chars, Entry.bare, Entry.separators, commas, List.replicate_succ']

theorem addAll_bare (entries : List Entry) (entry : Entry) :
    addAll (entries ++ [entry.bare]) parameters = addAll (entries ++ [entry]) parameters := by
  simp only [addAll, List.foldlM_append]
  rfl

-- The white space behind the last parameter goes with that around the whole.
theorem ofChars_written {lead trail : List Char} (lead_blank : lead.all isBlank)
    (given : entries ≠ []) (valid : ∀ entry ∈ entries, entry.Valid)
    (trail_blank : trail.all isBlank) :
    ofChars (lead ++ (scheme ++ listing entries ++ trail)) =
      (addAll entries {}).bind ofParameters := by
  obtain ⟨front, entry, rfl⟩ := (List.eq_nil_or_concat entries).resolve_left given
  rw [List.concat_eq_append] at valid ⊢
  obtain ⟨earlier, last⟩ := List.forall_mem_append.mp valid
  have last_valid := last entry List.mem_cons_self
  obtain ⟨core, c, ended, dark⟩ := last_of_bare entry
  have whole : scheme ++ listing (front ++ [entry]) ++ trail =
      (scheme ++ listing (front ++ [entry.bare])) ++ (entry.blanks ++ trail) := by
    simp [listing, chars_bare entry]
  have trimmed_whole : trimmed (lead ++ (scheme ++ listing (front ++ [entry]) ++ trail)) =
      scheme ++ listing (front ++ [entry.bare]) := by
    rw [whole]
    refine trimmed_padded lead_blank ?_ ⟨'S', rfl, by decide⟩ ?_
    · rw [List.all_append, last_valid.blank, trail_blank]
      rfl
    · intro d there
      have closing : scheme ++ listing (front ++ [entry.bare]) =
          (scheme ++ listing front ++ core) ++ [c] := by
        simp [listing, ended]
      rw [closing, List.getLast?_concat] at there
      cases there
      exact dark
  have bare : ∀ other ∈ front ++ [entry.bare], other.Valid :=
    List.forall_mem_append.mpr ⟨earlier, List.forall_mem_singleton.mpr (bare_valid last_valid)⟩
  rw [ofChars, trimmed_whole, after?_append]
  simp only [readItems_listing bare, addAll_bare]
  cases addAll (front ++ [entry]) {} <;> rfl

end Trimmed

namespace Written

variable {written other : Written}

theorem ofText_ok (valid : written.Valid) :
    ofText written.text = .ok header ↔ Timed written.entries ∧ Tells written.entries header := by
  rw [ofText, mapError_ok, text, String.toList_ofList,
    ofChars_written valid.lead valid.given valid.entries valid.trail]
  have steps : (addAll written.entries {}).bind ofParameters = .ok header ↔
      ∃ parameters, addAll written.entries {} = .ok parameters ∧
        ofParameters parameters = .ok header := bind_ok
  simp only [steps, addAll_ok, ← ofParameters_ok]
  constructor
  · rintro ⟨_, ⟨timed, rfl⟩, told⟩
    exact ⟨timed, told⟩
  · rintro ⟨timed, told⟩
    exact ⟨_, ⟨timed, rfl⟩, told⟩

end Written

def knownNames : List String := ["keyId", "algorithm", "created", "expires", "headers", "signature"]

-- Lists that differ only in separators, in the order of different names and in unknown names.
inductive Alike : List Entry → List Entry → Prop where
  | nil : Alike [] []
  | cons {left right : Entry} {lefts rights : List Entry} (name : left.name = right.name)
      (value : left.value = right.value) (rest : Alike lefts rights) :
      Alike (left :: lefts) (right :: rights)
  | swap {first second : Entry} {rest : List Entry} (different : first.name ≠ second.name) :
      Alike (first :: second :: rest) (second :: first :: rest)
  | unknown {first : Entry} {rest : List Entry} (name : first.name ∉ knownNames) :
      Alike rest (first :: rest)
  | symm {lefts rights : List Entry} (alike : Alike lefts rights) : Alike rights lefts
  | trans {lefts middle rights : List Entry} (front : Alike lefts middle)
      (back : Alike middle rights) : Alike lefts rights

theorem valuesOf_alike (alike : Alike entries others) (known : name ∈ knownNames) :
    valuesOf name entries = valuesOf name others := by
  induction alike with
  | nil => rfl
  | cons same_name same_value _ ih => rw [valuesOf_cons, valuesOf_cons, same_name, same_value, ih]
  | swap different =>
    simp only [valuesOf_cons]
    split
    · next first =>
      rw [if_neg fun second => different (first.trans second.symm)]
      rfl
    · rfl
  | unknown other =>
    rw [valuesOf_cons, if_neg]
    · rfl
    · rintro rfl
      exact other known
  | symm _ ih => exact ih.symm
  | trans _ _ first second => exact first.trans second

theorem parametersOf_congr
    (same : ∀ name ∈ knownNames, lastOf? name entries = lastOf? name others) :
    parametersOf entries = parametersOf others := by
  obtain ⟨keyId, algorithm, created, expires, signed, signature, _⟩ :
      lastOf? "keyId" entries = lastOf? "keyId" others ∧
      lastOf? "algorithm" entries = lastOf? "algorithm" others ∧
      lastOf? "created" entries = lastOf? "created" others ∧
      lastOf? "expires" entries = lastOf? "expires" others ∧
      lastOf? "headers" entries = lastOf? "headers" others ∧
      lastOf? "signature" entries = lastOf? "signature" others ∧ True := by
    simpa [knownNames] using same
  simp only [parametersOf, keyId, algorithm, created, expires, signed, signature]

theorem tells_congr (same : ∀ name ∈ knownNames, lastOf? name entries = lastOf? name others) :
    Tells entries header ↔ Tells others header := by
  rw [← ofParameters_ok, ← ofParameters_ok, parametersOf_congr same]

theorem timed_alike (alike : Alike entries others) : Timed entries ↔ Timed others := by
  have known : ∀ name ∈ timeNames, name ∈ knownNames := by decide +kernel
  refine forall₂_congr fun name time => ?_
  rw [valuesOf_alike alike (known name time)]

-- Any list of parameters is read just where no part of a header is missing, as the header that its
-- last values tell. No two lists with the same last values are read as different headers, and what
-- is separated or ordered otherwise, or holds further unknown names, is read as the same one.
theorem ofText_parameters {written other : Written} (valid : written.Valid)
    (other_valid : other.Valid) :
    ((∃ header, ofText written.text = .ok header) ↔ Complete written.entries) ∧
      (∀ header, ofText written.text = .ok header → Tells written.entries header) ∧
      (∀ header otherHeader, ofText written.text = .ok header →
        ofText other.text = .ok otherHeader →
        (∀ name ∈ knownNames, lastOf? name written.entries = lastOf? name other.entries) →
        header = otherHeader) ∧
      (Alike written.entries other.entries →
        ∀ header, ofText written.text = .ok header ↔ ofText other.text = .ok header) := by
  refine ⟨?_, ?_, ?_, ?_⟩
  · simp only [Written.ofText_ok valid, complete_iff, exists_and_left]
  · exact fun header read => ((Written.ofText_ok valid).mp read).2
  · intro header otherHeader read otherRead same
    have told := ofParameters_ok.mpr ((Written.ofText_ok valid).mp read).2
    have otherTold := ofParameters_ok.mpr ((Written.ofText_ok other_valid).mp otherRead).2
    rw [parametersOf_congr same, otherTold] at told
    exact (Except.ok.inj told).symm
  · intro alike header
    have same : ∀ name ∈ knownNames, lastOf? name written.entries = lastOf? name other.entries :=
      fun name known => congrArg List.getLast? (valuesOf_alike alike known)
    rw [Written.ofText_ok valid, Written.ofText_ok other_valid, timed_alike alike, tells_congr same]

-- White space all around, no comma and several, an unknown name, signs and zeros before the
-- numbers, and a time that a later one replaces.
def looseList (early : String) : Written where
  lead := ['\u2003']
  entries := [⟨"created", early.toList, 2, ['\u00a0']⟩, ⟨"", "created=".toList, 0, []⟩,
    ⟨"signature", "=, ".toList, 0, ['\n']⟩, ⟨"expires", "-00".toList, 1, ['\t']⟩,
    ⟨"keyId", "s|k,=|ed|25519".toList, 3, []⟩, ⟨"created", "+0007".toList, 0, [' ']⟩]
  trail := ['\r', '\n']

def tightList (early : String) : Written where
  lead := []
  entries := [⟨"created", early.toList, 0, []⟩, ⟨"signature", "=, ".toList, 0, []⟩,
    ⟨"expires", "-00".toList, 0, []⟩, ⟨"created", "+0007".toList, 0, []⟩,
    ⟨"keyId", "s|k,=|ed|25519".toList, 0, []⟩]
  trail := []

theorem looseList_alike (early : String) :
    Alike (looseList early).entries (tightList early).entries := by
  refine .cons rfl rfl (.trans (.symm (.unknown (by decide +kernel))) ?_)
  exact .cons rfl rfl (.cons rfl rfl (.trans (.swap (by decide +kernel))
    (.cons rfl rfl (.cons rfl rfl .nil))))

-- An early time that is no number spoils the list, although a later one replaces it.
theorem looseList_read :
    (looseList "9").Valid ∧ (tightList "9").Valid ∧ (looseList "soon").Valid ∧
      ofText (looseList "9").text = .ok ⟨"s", "k,=", "ed|25519", 7, 0, signedNames, "=, "⟩ ∧
      ofText (tightList "9").text = .ok ⟨"s", "k,=", "ed|25519", 7, 0, signedNames, "=, "⟩ ∧
      Complete (looseList "9").entries ∧
      ¬ ∃ header, ofText (looseList "soon").text = .ok header := by
  have loose : (looseList "9").Valid :=
    ⟨by decide, List.cons_ne_nil _ _, by decide +kernel, by decide⟩
  have tight : (tightList "9").Valid :=
    ⟨by decide, List.cons_ne_nil _ _, by decide +kernel, by decide⟩
  have soon : (looseList "soon").Valid :=
    ⟨by decide, List.cons_ne_nil _ _, by decide +kernel, by decide⟩
  have read : ofText (looseList "9").text =
      .ok ⟨"s", "k,=", "ed|25519", 7, 0, signedNames, "=, "⟩ :=
    mapError_ok.mpr (by decide +kernel)
  obtain ⟨complete, _, _, alike⟩ := ofText_parameters loose tight
  refine ⟨loose, tight, soon, read, (alike (looseList_alike "9") _).mp read,
    complete.mp ⟨_, read⟩, ?_⟩
  rintro spoiled
  obtain ⟨timed, _⟩ := (ofText_parameters soon tight).1.mp spoiled
  obtain ⟨number, told⟩ := timed "created" (by simp [timeNames]) "soon".toList
    (by simp [valuesOf, looseList])
  have none : Numeral.signed? "soon".toList = none := by decide +kernel
  rw [Numeral.signed?_eq_some.mpr told] at none
  cases none

end SellerDirectory.Signing.Header
