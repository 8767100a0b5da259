import Mathlib.Logic.Function.Basic
import SellerDirectory.Json.Record
import SellerDirectory.Proofs.Json.Decode
import SellerDirectory.Proofs.Json.Record

-- Records of texts that may be left out or null. An object is taken in entry by entry, whatever
-- else it holds; it is refused where a field comes back or holds anything but a text or null.

namespace SellerDirectory.Json

open Text

variable {name key : String} {names : List String} {seen : String → Option String} {value : Value}
  {entry : String × Value} {entries : List (String × Value)} {text front back gap : List Char}
  {bytes rest : List UInt8} {bound : Nat} {first : Bool} {part : Part}

section Lenient

def given? : Value → Option String
  | .null => some ""
  | .text content => some content
  | _ => none

section Refuses

variable {α β : Type} {read : Reader α} {next : α → Reader β}

def Refuses (read : Reader α) : Prop :=
  ∀ bytes, outcome read bytes = none

theorem refuses_bind (later : ∀ a, Refuses (next a)) : Refuses (read >>= next) := by
  intro bytes
  rw [outcome_bind]
  cases outcome read bytes with
  | none => rfl
  | some result => exact later _ _

theorem mismatched_refuses (expected : Expected) : Refuses (mismatched expected : Reader α) := by
  have found (found : Found) : Refuses (fail (.mismatch (.kind found expected)) : Reader α) :=
    fun _ => rfl
  refine refuses_bind fun b => ?_
  dsimp only
  split
  · exact refuses_bind fun _ => refuses_bind fun _ => refuses_bind fun _ => found _
  split
  · exact refuses_bind fun _ => refuses_bind fun _ => refuses_bind fun _ => found _
  split
  · exact refuses_bind fun _ => refuses_bind fun _ => refuses_bind fun _ => found _
  split
  · exact refuses_bind fun _ => refuses_bind fun _ => refuses_bind fun _ => found _
  split
  · exact refuses_bind fun _ => refuses_bind fun _ => found _
  split
  · exact refuses_bind fun _ => refuses_bind fun _ => refuses_bind fun _ => found _
  split
  · exact refuses_bind fun _ => found _
  split
  · exact refuses_bind fun _ => found _
  · exact refuses_bind fun _ => found _

end Refuses

theorem lenientText_null :
    Codec.lenientText.read (Utf8.encode "null".toList ++ rest) = .ok ("", rest) :=
  rfl

theorem lenientText_text {letters : List Char} {content : String}
    (written : Letters letters content.toList) :
    Codec.lenientText.read (Utf8.encode (inQuotes letters) ++ rest) = .ok (content, rest) := by
  have read : Codec.text.read (Utf8.encode (inQuotes letters) ++ rest) = .ok (content, rest) := by
    have body := textBody_letters written rest
    rw [String.ofList_toList] at body
    rw [encode_quoted]
    refine (read_bind (token_cons (by decide))).trans ?_
    rw [if_pos (by decide), read_bind advance_cons, body]
  have optional : Codec.text.optional.read (Utf8.encode (inQuotes letters) ++ rest) =
      .ok (some content, rest) := by
    rw [encode_quoted] at read ⊢
    refine (read_bind (token_cons (by decide))).trans ?_
    rw [if_neg (by decide)]
    exact (read_bind read).trans rfl
  exact (read_bind optional).trans rfl

theorem lenientText_other {b : UInt8} {more : List UInt8} (solid : isSpace b = false)
    (null : b ≠ 'n'.toUInt8) (quote : b ≠ '"'.toUInt8) :
    outcome Codec.lenientText.read (b :: more) = none := by
  have text : outcome Codec.text.read (b :: more) = none := by
    refine (outcome_of_eq (read_bind (token_cons solid))).trans ?_
    rw [if_neg (by simpa using quote)]
    exact mismatched_refuses _ _
  have optional : outcome Codec.text.optional.read (b :: more) = none := by
    refine (outcome_of_eq (read_bind (token_cons solid))).trans ?_
    rw [if_neg (by simpa using null)]
    exact outcome_map.trans (by rw [text]; rfl)
  exact outcome_map.trans (by rw [optional]; rfl)

theorem other_start {b : UInt8} (starts : Starts b value) (other : given? value = none) :
    b ≠ 'n'.toUInt8 ∧ b ≠ '"'.toUInt8 := by
  cases value with
  | null => cases other
  | text _ => cases other
  | boolean value => cases value <;> cases starts <;> decide
  | number _ =>
    rcases starts with rfl | digit
    · decide
    · constructor <;> rintro rfl <;> exact absurd digit (by decide)
  | array _ =>
    cases starts
    decide
  | object _ =>
    cases starts
    decide

theorem lenientText_makes (value : Value) : Makes Codec.lenientText.read given? value := by
  intro text rest spelled
  cases taken : given? value with
  | none =>
    obtain ⟨b, more, start, starts⟩ := starts_value spelled
    obtain ⟨null, quote⟩ := other_start starts taken
    rw [start]
    exact lenientText_other (solid_start starts).1 null quote
  | some content =>
    cases spelled with
    | null =>
      cases taken
      exact outcome_of_ok lenientText_null
    | text written =>
      cases taken
      exact outcome_of_ok (lenientText_text written)
    | _ => cases taken

end Lenient

namespace Fields

def sparse : (names : List String) → Fields (names.map fun _ => String)
  | [] => ()
  | name :: names => (.sparse name, sparse names)

def slots (seen : String → Option String) :
    (names : List String) → Slots (names.map fun _ => String)
  | [] => ()
  | name :: names => (seen name, slots seen names)

def values (told : String → String) : (names : List String) → Values (names.map fun _ => String)
  | [] => ()
  | name :: names => (told name, values told names)

def absorb (names : List String) (seen : String → Option String) (entry : String × Value) :
    Option (String → Option String) :=
  if entry.1 ∈ names then
    if (seen entry.1).isSome then none
    else (given? entry.2).map fun content => Function.update seen entry.1 (some content)
  else some seen

theorem slots_empty (names : List String) :
    slots (fun _ => none) names = Slots.empty (names.map fun _ => String) := by
  induction names with
  | nil => rfl
  | cons name names ih => exact congrArg (none, ·) ih

theorem complete_cons (slot : Option String) (slots : Slots (names.map fun _ => String)) :
    @complete (String :: names.map fun _ => String) (sparse (name :: names)) (slot, slots) =
      (complete (sparse names) slots).map fun values => (slot.getD "", values) := by
  cases slot <;> rfl

theorem complete_slots (names : List String) :
    complete (sparse names) (slots seen names) =
      .ok (values (fun name => (seen name).getD "") names) := by
  induction names with
  | nil => rfl
  | cons name names ih => exact (complete_cons _ _).trans (by rw [ih]; rfl)

theorem slots_update (other : key ∉ names) (content : Option String) :
    slots (Function.update seen key content) names = slots seen names := by
  induction names with
  | nil => rfl
  | cons name names ih =>
    obtain ⟨differs, other⟩ := List.ne_and_not_mem_of_not_mem_cons other
    rw [slots, slots, Function.update_of_ne differs.symm, ih other]

section Entry

theorem readEntry_here (slot : Option String) (slots : Slots (names.map fun _ => String)) :
    @readEntry name (String :: names.map fun _ => String) (sparse (name :: names)) (slot, slots) =
      (do
        if slot.isSome then fail (.mismatch (.duplicate name))
        colon
        return (some (← Codec.lenientText.read), slots) :
        Reader (Option String × Slots (names.map fun _ => String))) :=
  if_pos (beq_self_eq_true name)

theorem readEntry_there (differs : name ≠ key) (slot : Option String)
    (slots : Slots (names.map fun _ => String)) :
    @readEntry key (String :: names.map fun _ => String) (sparse (name :: names)) (slot, slots) =
      (do return (slot, ← readEntry key (sparse names) slots) :
        Reader (Option String × Slots (names.map fun _ => String))) :=
  if_neg (by simpa [Field.sparse] using differs)

theorem absorb_there (differs : name ≠ key) :
    absorb (name :: names) seen (key, value) = absorb names seen (key, value) := by
  simp [absorb, differs.symm]

theorem absorb_other {further : String → Option String} (differs : name ≠ key)
    (absorbed : absorb names seen (key, value) = some further) : further name = seen name := by
  unfold absorb at absorbed
  split at absorbed
  · split at absorbed
    · cases absorbed
    · obtain ⟨content, _, rfl⟩ := Option.map_eq_some_iff.mp absorbed
      exact Function.update_of_ne differs _ _
  · cases absorbed
    rfl

-- The field of the name takes the value, unless it has one already.
theorem readEntry_own_member (own : name ∉ names)
    (read : outcome (do colon; Codec.lenientText.read) bytes = (given? value).map (·, rest)) :
    outcome (readEntry name (sparse (name :: names)) (slots seen (name :: names))) bytes =
      (absorb (name :: names) seen (name, value)).map fun seen =>
        (slots seen (name :: names), rest) := by
  change outcome (@readEntry name (String :: names.map fun _ => String) (sparse (name :: names))
    (seen name, slots seen names)) _ = _
  rw [readEntry_here]
  cases before : seen name with
  | some content =>
    have refused : absorb (name :: names) seen (name, value) = none := by
      simp [absorb, before]
    rw [refused]
    rfl
  | none =>
    have taken : absorb (name :: names) seen (name, value) =
        (given? value).map fun content => Function.update seen name (some content) := by
      simp [absorb, before]
    have kept (content : String) :
        slots (Function.update seen name (some content)) (name :: names) =
          (some content, slots seen names) := by
      rw [slots, Function.update_self, slots_update own]
    have chained : outcome (do
        colon
        return (some (← Codec.lenientText.read), slots seen names) :
        Reader (Option String × Slots (names.map fun _ => String))) bytes =
          ((given? value).map (·, rest)).map fun result =>
            ((some result.1, slots seen names), result.2) := by
      rw [← read]
      exact (congrArg (outcome · bytes) (bind_assoc _ _ _).symm).trans outcome_map
    rw [taken]
    refine chained.trans ?_
    cases given? value with
    | none => rfl
    | some content =>
      simp only [Option.map_some, kept]
      rfl

theorem readEntry_other_member (differs : name ≠ key)
    (read : outcome (readEntry key (sparse names) (slots seen names)) bytes =
      (absorb names seen (key, value)).map fun seen => (slots seen names, rest)) :
    outcome (readEntry key (sparse (name :: names)) (slots seen (name :: names))) bytes =
      (absorb (name :: names) seen (key, value)).map fun seen =>
        (slots seen (name :: names), rest) := by
  change outcome (@readEntry key (String :: names.map fun _ => String) (sparse (name :: names))
    (seen name, slots seen names)) _ = _
  rw [readEntry_there differs, absorb_there differs]
  refine outcome_map.trans ?_
  rw [read]
  cases absorbed : absorb names seen (key, value) with
  | none => rfl
  | some further =>
    have kept : slots further (name :: names) = (seen name, slots further names) := by
      rw [slots, absorb_other differs absorbed]
    rw [Option.map_some, Option.map_some, Option.map_some, kept]

theorem readEntry_member (distinct : names.Nodup) (between : IsSpacing gap) (lead : IsSpacing front)
    (inner : Spells (.value value) text) (stops : Stops rest) :
    outcome (readEntry key (sparse names) (slots seen names))
        (Utf8.encode gap ++ ':'.toUInt8 :: (Utf8.encode front ++ (Utf8.encode text ++ rest))) =
      (absorb names seen (key, value)).map fun seen => (slots seen names, rest) := by
  have marked := colon_spaced between (Utf8.encode front ++ (Utf8.encode text ++ rest))
  induction names with
  | nil =>
    refine outcome_of_ok ((read_bind marked).trans ?_)
    exact (read_bind (skipValue_spelled lead inner stops)).trans rfl
  | cons name names ih =>
    obtain ⟨own, distinct⟩ := List.nodup_cons.mp distinct
    by_cases same : name = key
    · subst same
      refine readEntry_own_member own ((outcome_of_eq (read_bind marked)).trans ?_)
      rw [← lenientText_makes value text rest inner]
      exact outcome_of_eq (bind_of_eq (bind_of_eq (token_spaces lead _)))
    · exact readEntry_other_member same (ih distinct)

end Entry

section Object

theorem hasEntry_open (seen : token bytes = .ok ('"'.toUInt8, '"'.toUInt8 :: rest)) :
    hasEntry first (comma first ++ bytes) = .ok (true, rest) := by
  cases first with
  | true =>
    change hasEntry true bytes = _
    rw [hasEntry, read_bind seen, if_neg (by decide), if_pos rfl, if_pos (by decide),
      read_bind advance_cons]
    rfl
  | false =>
    change hasEntry false (','.toUInt8 :: bytes) = _
    rw [hasEntry, read_bind (token_cons (by decide)), if_neg (by decide), if_neg (by decide),
      if_pos (by decide), read_bind advance_cons, read_bind seen, if_pos (by decide),
      read_bind advance_cons]
    rfl

theorem readEntries_spaces {ts : List Type} {fields : Fields ts} {slots : Slots ts}
    (spacing : IsSpacing text) (bytes : List UInt8) :
    readEntries fields bound false slots (Utf8.encode text ++ bytes) =
      readEntries fields bound false slots bytes := by
  cases bound with
  | zero => rfl
  | succ bound => exact bind_of_eq (bind_of_eq (token_spaces spacing bytes))

theorem readEntries_member (distinct : names.Nodup) (spelled : Spells (.member entry) text)
    (stops : Stops rest) :
    outcome (readEntries (sparse names) (bound + 1) first (slots seen names))
        (comma first ++ (Utf8.encode text ++ rest)) =
      (absorb names seen entry).bind fun seen =>
        outcome (readEntries (sparse names) bound false (slots seen names)) rest := by
  cases spelled with
  | @member key value front letters gap _ lead written between inner =>
    cases inner with
    | @element _ before text after spacing inner trail =>
      have opened := token_spaces lead ('"'.toUInt8 :: (Utf8.encode letters ++
        '"'.toUInt8 :: (Utf8.encode gap ++ ':'.toUInt8 ::
          (Utf8.encode (before ++ (text ++ after)) ++ rest))))
      rw [token_cons (by decide), ← encode_member] at opened
      have name := textBody_letters written (Utf8.encode gap ++ ':'.toUInt8 ::
        (Utf8.encode (before ++ (text ++ after)) ++ rest))
      rw [String.ofList_toList] at name
      rw [readEntries, outcome_of_eq (read_bind (hasEntry_open opened)), if_pos rfl,
        outcome_of_eq (read_bind name), outcome_bind, Utf8.encode_append, Utf8.encode_append,
        List.append_assoc, List.append_assoc,
        readEntry_member distinct between spacing inner (stops_spaces trail stops)]
      cases absorb names seen (key, value) with
      | none => rfl
      | some further => exact outcome_of_eq (readEntries_spaces trail rest)

theorem readEntries_spelled (distinct : names.Nodup) (spelled : Spells part text)
    (same : part = .members entries) (enough : entries.length < bound) :
    outcome (readEntries (sparse names) bound first (slots seen names))
        (comma first ++ (Utf8.encode text ++ '\x7d'.toUInt8 :: rest)) =
      (entries.foldlM (absorb names) seen).map fun seen =>
        (slots seen names, '\x7d'.toUInt8 :: rest) := by
  have closes : Stops ('\x7d'.toUInt8 :: rest) := @stops_closing rest .object
  induction spelled generalizing entries seen first bound with
  | lastMember last =>
    cases same
    obtain ⟨bound, rfl⟩ : ∃ less, bound = less + 2 := ⟨bound - 2, by simp at enough; omega⟩
    rw [readEntries_member distinct last closes, List.foldlM_cons]
    cases absorb names seen _ with
    | none => rfl
    | some further => exact outcome_of_ok (readEntries_end _)
  | @moreMembers entry entries text others here _ _ ih =>
    cases same
    obtain ⟨bound, rfl⟩ : ∃ less, bound = less + 1 := ⟨bound - 1, by simp at enough; omega⟩
    have bytes : Utf8.encode (text ++ ',' :: others) ++ '\x7d'.toUInt8 :: rest =
        Utf8.encode text ++ (comma false ++ (Utf8.encode others ++ '\x7d'.toUInt8 :: rest)) := by
      rw [Utf8.encode_append, List.append_assoc]
      rfl
    have stops : Stops (comma false ++ (Utf8.encode others ++ '\x7d'.toUInt8 :: rest)) :=
      stops_comma
    rw [bytes, readEntries_member distinct here stops, List.foldlM_cons]
    cases absorb names seen entry with
    | none => rfl
    | some further => exact ih rfl (Nat.lt_of_succ_lt_succ enough)
  | _ => cases same

def take (names : List String) (entries : List (String × Value)) :
    Option (Values (names.map fun _ => String)) :=
  (entries.foldlM (absorb names) fun _ => none).map fun seen =>
    values (fun name => (seen name).getD "") names

theorem encode_object (text : List Char) (rest : List UInt8) :
    Utf8.encode ('\x7b' :: text ++ ['\x7d']) ++ rest =
      '\x7b'.toUInt8 :: (Utf8.encode text ++ '\x7d'.toUInt8 :: rest) :=
  encode_between rfl rfl text rest

theorem readObject_outcome {taken : Option (String → Option String)}
    (read : outcome (readEntries (sparse names) (bytes.length + 1) true
      (Slots.empty (names.map fun _ => String))) bytes =
        taken.map fun seen => (slots seen names, '\x7d'.toUInt8 :: rest)) :
    outcome (readObject (sparse names)) bytes =
      taken.map fun seen => (values (fun name => (seen name).getD "") names, rest) := by
  rw [readObject, outcome_of_eq (read_bind get_bytes), outcome_bind, read]
  cases taken with
  | none => rfl
  | some seen =>
    rw [Option.map_some, Option.bind_some, complete_slots]
    rfl

theorem read_opened (label : String) (bytes : List UInt8) :
    Fields.read label (sparse names) ('\x7b'.toUInt8 :: bytes) =
      readObject (sparse names) bytes := by
  rw [Fields.read, read_bind (token_cons (by decide)), if_neg (by decide), if_pos (by decide),
    read_bind advance_cons]

theorem read_object (distinct : names.Nodup) (label : String)
    (spelled : Spells (.value (.object entries)) text) (rest : List UInt8) :
    outcome (Fields.read label (sparse names)) (Utf8.encode text ++ rest) =
      (take names entries).map (·, rest) := by
  rw [take, Option.map_map]
  cases spelled with
  | @emptyObject space spacing =>
    have ended : hasEntry true (Utf8.encode space ++ '\x7d'.toUInt8 :: rest) =
        .ok (false, '\x7d'.toUInt8 :: rest) :=
      (bind_of_eq (token_spaces spacing _)).trans (hasEntry_none true)
    rw [encode_object, outcome_of_eq (read_opened label _)]
    refine readObject_outcome (outcome_of_ok ?_)
    rw [← slots_empty]
    exact (read_bind ended).trans rfl
  | @object _ text inner =>
    have enough : entries.length ≤ text.length := count_le inner
    have few := length_le_encode text
    rw [encode_object, outcome_of_eq (read_opened label _)]
    refine readObject_outcome ?_
    rw [← slots_empty]
    change outcome _ (comma true ++ _) = _
    refine readEntries_spelled distinct inner rfl ?_
    rw [List.length_append]
    omega

end Object

section Sparse

-- An object that gives each field at most once, as a text or as null.
structure IsSparse (names : List String) (entries : List (String × Value)) : Prop where
  once : ∀ name ∈ names, (entries.map Prod.fst).count name ≤ 1
  lenient : ∀ entry ∈ entries, entry.1 ∈ names →
    entry.2 = .null ∨ ∃ content, entry.2 = .text content

def told (entries : List (String × Value)) (name : String) : String :=
  match entries.lookup name with
  | some (.text content) => content
  | _ => ""

theorem given?_isSome :
    (given? value).isSome ↔ value = .null ∨ ∃ content, value = .text content := by
  cases value <;> simp [given?]

-- Further entries can be taken in: with what was seen before, each field is given at most once.
structure Fits (names : List String) (seen : String → Option String)
    (entries : List (String × Value)) : Prop where
  once : ∀ name ∈ names, (entries.map Prod.fst).count name + (seen name).toList.length ≤ 1
  lenient : ∀ entry ∈ entries, entry.1 ∈ names → (given? entry.2).isSome

-- Taking in an entry moves one count from what is to come to what was seen.
theorem count_update {keys : List String} {content : String} (fresh : seen key = none) :
    (key :: keys).count name + (seen name).toList.length =
      keys.count name + (Function.update seen key (some content) name).toList.length := by
  by_cases same : name = key
  · subst same
    rw [List.count_cons_self, fresh, Function.update_self]
    rfl
  · rw [List.count_cons_of_ne (Ne.symm same), Function.update_of_ne same]

theorem fits_known (known : key ∈ names) :
    Fits names seen ((key, value) :: entries) ↔
      seen key = none ∧ ∃ content, given? value = some content ∧
        Fits names (Function.update seen key (some content)) entries := by
  constructor
  · rintro ⟨once, lenient⟩
    have fresh : seen key = none := by
      have here := once key known
      rw [List.map_cons, List.count_cons_self] at here
      cases before : seen key with
      | none => rfl
      | some content => simp [before] at here
    obtain ⟨content, given⟩ := Option.isSome_iff_exists.mp (lenient _ List.mem_cons_self known)
    refine ⟨fresh, content, given, fun name member => ?_, fun entry member => ?_⟩
    · rw [← count_update fresh]
      exact once name member
    · exact lenient entry (List.mem_cons_of_mem _ member)
  · rintro ⟨fresh, content, given, once, lenient⟩
    refine ⟨fun name member => ?_, List.forall_mem_cons.mpr ⟨fun _ => ?_, lenient⟩⟩
    · rw [List.map_cons, count_update fresh]
      exact once name member
    · rw [given]
      rfl

theorem fits_unknown (unknown : key ∉ names) :
    Fits names seen ((key, value) :: entries) ↔ Fits names seen entries := by
  have counted {name : String} (member : name ∈ names) :
      (((key, value) :: entries).map Prod.fst).count name = (entries.map Prod.fst).count name := by
    refine List.count_cons_of_ne ?_
    rintro rfl
    exact unknown member
  constructor
  · rintro ⟨once, lenient⟩
    refine ⟨fun name member => ?_, fun entry member => ?_⟩
    · rw [← counted member]
      exact once name member
    · exact lenient entry (List.mem_cons_of_mem _ member)
  · rintro ⟨once, lenient⟩
    refine ⟨fun name member => ?_, List.forall_mem_cons.mpr ⟨fun known => ?_, lenient⟩⟩
    · rw [counted member]
      exact once name member
    · exact absurd known unknown

theorem absorb_known {further : String → Option String} (known : key ∈ names) :
    absorb names seen (key, value) = some further ↔
      seen key = none ∧ ∃ content, given? value = some content ∧
        further = Function.update seen key (some content) := by
  unfold absorb
  rw [if_pos known]
  cases seen key <;> simp [eq_comm]

theorem absorbAll_iff :
    (∃ further, entries.foldlM (absorb names) seen = some further) ↔ Fits names seen entries := by
  induction entries generalizing seen with
  | nil =>
    refine iff_of_true ⟨seen, rfl⟩ ⟨fun name _ => ?_, by simp⟩
    cases seen name <;> simp
  | cons entry entries ih =>
    obtain ⟨key, value⟩ := entry
    rw [List.foldlM_cons]
    by_cases known : key ∈ names
    · rw [fits_known known]
      simp only [bind, Option.bind_eq_some_iff, absorb_known known]
      constructor
      · rintro ⟨further, _, ⟨fresh, content, given, rfl⟩, later⟩
        exact ⟨fresh, content, given, ih.mp ⟨further, later⟩⟩
      · rintro ⟨fresh, content, given, fits⟩
        obtain ⟨further, later⟩ := ih.mpr fits
        exact ⟨further, _, ⟨fresh, content, given, rfl⟩, later⟩
    · have passed : absorb names seen (key, value) = some seen := if_neg known
      rw [fits_unknown known, ← ih, passed]
      rfl

-- What was seen stays, and what was not is what the first entry of the name gives.
theorem absorbAll_told {further : String → Option String}
    (absorbed : entries.foldlM (absorb names) seen = some further) :
    ∀ name ∈ names, further name = (seen name).or ((entries.lookup name).bind given?) := by
  induction entries generalizing seen with
  | nil =>
    cases absorbed
    simp
  | cons entry entries ih =>
    obtain ⟨key, value⟩ := entry
    intro name member
    rw [List.foldlM_cons] at absorbed
    obtain ⟨next, first, later⟩ := Option.bind_eq_some_iff.mp absorbed
    rw [ih later name member, List.lookup_cons]
    by_cases same : name = key
    · subst same
      obtain ⟨fresh, content, given, rfl⟩ := (absorb_known member).mp first
      simp [fresh, given]
    · rw [absorb_other same first, beq_eq_false_iff_ne.mpr same]

theorem fits_none : Fits names (fun _ => none) entries ↔ IsSparse names entries := by
  constructor
  · rintro ⟨once, lenient⟩
    exact ⟨once, fun entry member known => given?_isSome.mp (lenient entry member known)⟩
  · rintro ⟨once, lenient⟩
    exact ⟨once, fun entry member known => given?_isSome.mpr (lenient entry member known)⟩

theorem told_eq (entries : List (String × Value)) (name : String) :
    told entries name = ((entries.lookup name).bind given?).getD "" := by
  unfold told
  cases entries.lookup name with
  | none => rfl
  | some value => cases value <;> rfl

theorem values_congr {left right : String → String}
    (same : ∀ name ∈ names, left name = right name) :
    values left names = values right names := by
  induction names with
  | nil => rfl
  | cons name names ih =>
    obtain ⟨here, later⟩ := List.forall_mem_cons.mp same
    rw [values, values, here, ih later]

theorem take_some (sparse : IsSparse names entries) :
    take names entries = some (values (told entries) names) := by
  obtain ⟨further, absorbed⟩ := absorbAll_iff.mpr (fits_none.mpr sparse)
  rw [take, absorbed, Option.map_some]
  refine congrArg some (values_congr fun name member => ?_)
  rw [absorbAll_told absorbed name member, told_eq, Option.none_or]

theorem take_none (other : ¬ IsSparse names entries) : take names entries = none := by
  rw [take, Option.map_eq_none_iff, Option.eq_none_iff_forall_ne_some]
  intro further absorbed
  exact other (fits_none.mp (absorbAll_iff.mp ⟨further, absorbed⟩))

end Sparse

end Fields

end SellerDirectory.Json
