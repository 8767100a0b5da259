import Mathlib.Data.List.Nodup
import SellerDirectory.Json.Record
import SellerDirectory.Proofs.Json.Codec

-- Records restore what they have written if their fields do and have different names. Entries are
-- told apart by their keys: each one fills the slot of its own field, in whatever order they come.

namespace SellerDirectory.Json

open Text

namespace Fields

section Slots

variable {ts : List Type} {fields : Fields ts} {values : Values ts} {key : String}
  {keys : List String}

def names : {ts : List Type} → Fields ts → List String
  | [], _ => []
  | _ :: _, (field, fields) => field.name :: names fields

def Restore : {ts : List Type} → Fields ts → Values ts → Prop
  | [], _, _ => True
  | _ :: _, (field, fields), (value, values) =>
    field.codec.Restores value ∧ Restore fields values

theorem Restore.nil {fields : Fields []} {values : Values []} : Restore fields values :=
  trivial

theorem Restore.cons {t : Type} {field : Field t} {value : t}
    (here : field.codec.Restores value) (later : Restore fields values) :
    @Restore (t :: ts) (field, fields) (value, values) :=
  ⟨here, later⟩

def entries : {ts : List Type} → Fields ts → Values ts → List (String × List Char)
  | [], _, _ => []
  | _ :: _, (field, fields), (value, values) =>
    (field.name, field.codec.write value) :: entries fields values

def entryText (entry : String × List Char) : List Char :=
  Codec.writtenText entry.1.toList ++ ':' :: entry.2

def filled (keys : List String) : {ts : List Type} → Fields ts → Values ts → Slots ts
  | [], _, _ => ()
  | _ :: _, (field, fields), (value, values) =>
    (if keys.contains field.name then some value else none, filled keys fields values)

theorem entryTexts_eq (fields : Fields ts) (values : Values ts) :
    entryTexts fields values = (entries fields values).map entryText := by
  induction ts with
  | nil => rfl
  | cons t ts ih =>
    obtain ⟨field, fields⟩ := fields
    obtain ⟨value, values⟩ := values
    exact congrArg (_ :: ·) (ih fields values)

theorem keys_entries (fields : Fields ts) (values : Values ts) :
    (entries fields values).map Prod.fst = names fields := by
  induction ts with
  | nil => rfl
  | cons t ts ih =>
    obtain ⟨field, fields⟩ := fields
    obtain ⟨value, values⟩ := values
    exact congrArg (_ :: ·) (ih fields values)

theorem filled_nil (fields : Fields ts) (values : Values ts) :
    filled [] fields values = Slots.empty ts := by
  induction ts with
  | nil => rfl
  | cons t ts ih =>
    obtain ⟨field, fields⟩ := fields
    obtain ⟨value, values⟩ := values
    exact congrArg (none, ·) (ih fields values)

section Cons

variable {t : Type} {field : Field t} {value : t}

theorem filled_present (present : keys.contains field.name) :
    @filled keys (t :: ts) (field, fields) (value, values) =
      (some value, filled keys fields values) :=
  congrArg (·, filled keys fields values) (if_pos present)

theorem filled_absent (absent : keys.contains field.name = false) :
    @filled keys (t :: ts) (field, fields) (value, values) =
      (none, filled keys fields values) :=
  congrArg (·, filled keys fields values) (if_neg (Bool.eq_false_iff.mp absent))

end Cons

theorem filled_other (other : key ∉ names fields) :
    filled (key :: keys) fields values = filled keys fields values := by
  induction ts with
  | nil => rfl
  | cons t ts ih =>
    obtain ⟨field, fields⟩ := fields
    obtain ⟨value, values⟩ := values
    obtain ⟨differs, other⟩ := List.ne_and_not_mem_of_not_mem_cons other
    have same : (key :: keys).contains field.name = keys.contains field.name := by
      simp [Ne.symm differs]
    cases present : keys.contains field.name with
    | true => rw [filled_present present, filled_present (same.trans present), ih other]
    | false => rw [filled_absent present, filled_absent (same.trans present), ih other]

theorem complete_filled (all : ∀ name ∈ names fields, keys.contains name) :
    complete fields (filled keys fields values) = .ok values := by
  induction ts with
  | nil => rfl
  | cons t ts ih =>
    obtain ⟨field, fields⟩ := fields
    obtain ⟨value, values⟩ := values
    obtain ⟨here, later⟩ := List.forall_mem_cons.mp all
    rw [filled_present here]
    change (complete fields (filled keys fields values)).map _ = _
    rw [ih later]
    rfl

end Slots

section Entry

variable {ts : List Type} {fields : Fields ts} {values : Values ts} {keys : List String}
  {entry : String × List Char} {rest : List UInt8}

theorem colon_mark : colon (':'.toUInt8 :: rest) = .ok ((), rest) := by
  rw [colon, read_bind (token_cons (by decide)), if_pos (by decide)]
  rfl

section Cons

variable {t : Type} {field : Field t} {value : t} {slot : Option t} {slots slots' : Slots ts}
  {key : String} {bytes : List UInt8}

theorem readEntry_own (read : field.codec.read bytes = .ok (value, rest)) :
    @readEntry field.name (t :: ts) (field, fields) (none, slots) (':'.toUInt8 :: bytes) =
      .ok ((some value, slots), rest) := by
  have chosen : @readEntry field.name (t :: ts) (field, fields) (none, slots) =
      (do colon; return (some (← field.codec.read), slots) : Reader (Option t × Slots ts)) :=
    if_pos (beq_self_eq_true field.name)
  rw [chosen]
  exact (read_bind colon_mark).trans ((read_bind read).trans rfl)

theorem readEntry_other (differs : (field.name == key) = false)
    (read : readEntry key fields slots bytes = .ok (slots', rest)) :
    @readEntry key (t :: ts) (field, fields) (slot, slots) bytes = .ok ((slot, slots'), rest) := by
  have passed : @readEntry key (t :: ts) (field, fields) (slot, slots) =
      (do return (slot, ← readEntry key fields slots) : Reader (Option t × Slots ts)) :=
    if_neg (Bool.eq_false_iff.mp differs)
  rw [passed]
  exact (read_bind read).trans rfl

end Cons

theorem readEntry_entry (distinct : (names fields).Nodup) (restore : Restore fields values)
    (member : entry ∈ entries fields values) (fresh : keys.contains entry.1 = false)
    (ends : Ends rest) :
    readEntry entry.1 fields (filled keys fields values)
        (':'.toUInt8 :: (Utf8.encode entry.2 ++ rest)) =
      .ok (filled (entry.1 :: keys) fields values, rest) := by
  induction ts with
  | nil => cases member
  | cons t ts ih =>
    obtain ⟨field, fields⟩ := fields
    obtain ⟨value, values⟩ := values
    obtain ⟨own, distinct⟩ := List.nodup_cons.mp distinct
    obtain ⟨here, later⟩ := restore
    rcases List.mem_cons.mp member with rfl | member
    · have present : (field.name :: keys).contains field.name := by simp
      rw [filled_absent fresh, filled_present present, filled_other own]
      exact readEntry_own (here.read rest ends)
    · have named : entry.1 ∈ names fields := by
        rw [← keys_entries fields values]
        exact List.mem_map_of_mem member
      have differs : (field.name == entry.1) = false := by
        rw [beq_eq_false_iff_ne]
        rintro same
        exact own (same ▸ named)
      have kept : (entry.1 :: keys).contains field.name = keys.contains field.name := by
        rw [List.contains_cons, differs, Bool.false_or]
      have read := ih distinct later member
      cases present : keys.contains field.name with
      | true =>
        rw [filled_present present, filled_present (kept.trans present)]
        exact readEntry_other differs read
      | false =>
        rw [filled_absent present, filled_absent (kept.trans present)]
        exact readEntry_other differs read

end Entry

section Object

variable {ts : List Type} {fields : Fields ts} {values : Values ts} {keys : List String}
  {entry : String × List Char} {later : List (String × List Char)} {first : Bool} {bound : Nat}
  {bytes rest : List UInt8}

theorem hasEntry_first : hasEntry true ('"'.toUInt8 :: rest) = .ok (true, rest) := by
  rw [hasEntry, read_bind (token_cons (by decide)), if_neg (by decide), if_pos rfl,
    if_pos (by decide), read_bind advance_cons]
  rfl

theorem hasEntry_later : hasEntry false (','.toUInt8 :: '"'.toUInt8 :: rest) = .ok (true, rest) := by
  rw [hasEntry, read_bind (token_cons (by decide)), if_neg (by decide), if_neg (by decide),
    if_pos (by decide), read_bind advance_cons, read_bind (token_cons (by decide)),
    if_pos (by decide), read_bind advance_cons]
  rfl

theorem hasEntry_none (first : Bool) :
    hasEntry first ('\x7d'.toUInt8 :: rest) = .ok (false, '\x7d'.toUInt8 :: rest) := by
  rw [hasEntry, read_bind (token_cons (by decide)), if_pos (by decide)]
  rfl

def entryBytes (entry : String × List Char) : List UInt8 :=
  Utf8.encode (entry.1.toList.flatMap Codec.writtenChar) ++
    '"'.toUInt8 :: ':'.toUInt8 :: Utf8.encode entry.2

theorem encode_entryText (entry : String × List Char) :
    Utf8.encode (entryText entry) = '"'.toUInt8 :: entryBytes entry := by
  have value : Utf8.encode (':' :: entry.2) = ':'.toUInt8 :: Utf8.encode entry.2 :=
    Utf8.encode_cons ':' entry.2
  rw [entryText, Utf8.encode_append, encode_writtenText, value, entryBytes]
  simp

theorem readEntries_end (slots : Slots ts) :
    readEntries fields (bound + 1) first slots ('\x7d'.toUInt8 :: rest) =
      .ok (slots, '\x7d'.toUInt8 :: rest) :=
  (read_bind (hasEntry_none first)).trans rfl

theorem readEntries_entry (distinct : (names fields).Nodup) (restore : Restore fields values)
    (member : entry ∈ entries fields values) (fresh : keys.contains entry.1 = false)
    (ends : Ends rest) (opens : hasEntry first bytes = .ok (true, entryBytes entry ++ rest)) :
    readEntries fields (bound + 1) first (filled keys fields values) bytes =
      readEntries fields bound false (filled (entry.1 :: keys) fields values) rest := by
  have key : textBody (entryBytes entry ++ rest) =
      .ok (entry.1, ':'.toUInt8 :: (Utf8.encode entry.2 ++ rest)) := by
    have read := textBody_written entry.1.toList (':'.toUInt8 :: (Utf8.encode entry.2 ++ rest))
    rw [String.ofList_toList] at read
    rw [entryBytes, List.append_assoc]
    exact read
  rw [readEntries, read_bind opens, if_pos rfl, read_bind key,
    read_bind (readEntry_entry distinct restore member fresh ends)]

theorem readEntries_later (distinct : (names fields).Nodup) (restore : Restore fields values)
    (members : ∀ entry ∈ later, entry ∈ entries fields values)
    (fresh : ((later.map Prod.fst).reverse ++ keys).Nodup) (enough : later.length < bound) :
    readEntries fields bound false (filled keys fields values)
        (Codec.laterBytes (later.map entryText) ++ '\x7d'.toUInt8 :: rest) =
      .ok (filled ((later.map Prod.fst).reverse ++ keys) fields values, '\x7d'.toUInt8 :: rest) := by
  induction later generalizing keys bound with
  | nil =>
    obtain ⟨bound, rfl⟩ := Nat.exists_eq_add_of_lt enough
    exact readEntries_end _
  | cons entry later ih =>
    obtain ⟨bound, rfl⟩ : ∃ less, bound = less + 1 := ⟨bound - 1, by omega⟩
    obtain ⟨member, members⟩ := List.forall_mem_cons.mp members
    have bytes : Codec.laterBytes ((entry :: later).map entryText) ++ '\x7d'.toUInt8 :: rest =
        ','.toUInt8 :: '"'.toUInt8 :: (entryBytes entry ++
          (Codec.laterBytes (later.map entryText) ++ '\x7d'.toUInt8 :: rest)) := by
      simp [Codec.laterBytes, encode_entryText]
    have grown : ((entry :: later).map Prod.fst).reverse ++ keys =
        (later.map Prod.fst).reverse ++ (entry.1 :: keys) := by simp
    rw [grown] at fresh ⊢
    have unseen : keys.contains entry.1 = false := by
      have apart := (List.nodup_cons.mp (List.nodup_append.mp fresh).2.1).1
      simpa using apart
    rw [bytes, readEntries_entry distinct restore member unseen
      (Codec.ends_later _ rest (.inr rfl)) hasEntry_later]
    exact ih members fresh (Nat.lt_of_succ_lt_succ enough)

theorem readEntries_all (distinct : (names fields).Nodup) (restore : Restore fields values)
    (enough : (entries fields values).length < bound) :
    readEntries fields bound true (Slots.empty ts)
        (Utf8.encode (Codec.commaSeparated (entryTexts fields values)) ++ '\x7d'.toUInt8 :: rest) =
      .ok (filled (names fields).reverse fields values, '\x7d'.toUInt8 :: rest) := by
  have fresh : (names fields).reverse.Nodup := List.nodup_reverse.mpr distinct
  have members : ∀ entry ∈ entries fields values, entry ∈ entries fields values := fun _ h => h
  rw [entryTexts_eq, ← filled_nil fields values]
  rw [← keys_entries fields values] at fresh ⊢
  obtain ⟨bound, rfl⟩ : ∃ less, bound = less + 1 := ⟨bound - 1, by omega⟩
  generalize own : entries fields values = all at fresh members enough ⊢
  cases all with
  | nil => exact readEntries_end _
  | cons entry later =>
    obtain ⟨member, members⟩ := List.forall_mem_cons.mp members
    rw [List.map_cons, Codec.encode_commaSeparated, encode_entryText, List.cons_append,
      List.cons_append, List.append_assoc, List.map_cons, List.reverse_cons]
    rw [readEntries_entry distinct restore (own ▸ member) rfl
      (Codec.ends_later _ rest (.inr rfl)) hasEntry_first]
    rw [List.map_cons, List.reverse_cons] at fresh
    exact readEntries_later distinct restore (fun entry member => own ▸ members entry member) fresh
      (Nat.lt_of_succ_lt_succ enough)

theorem length_entryTexts (fields : Fields ts) (values : Values ts) :
    (entries fields values).length ≤
      (Utf8.encode (Codec.commaSeparated (entryTexts fields values))).length := by
  rw [entryTexts_eq]
  cases entries fields values with
  | nil => exact Nat.zero_le _
  | cons entry later =>
    have few := Codec.length_laterBytes (later.map entryText)
    rw [List.length_map] at few
    rw [List.map_cons, Codec.encode_commaSeparated, encode_entryText, List.cons_append,
      List.length_cons, List.length_cons, List.length_append]
    omega

theorem readObject_written (distinct : (names fields).Nodup) (restore : Restore fields values)
    (rest : List UInt8) :
    readObject fields
        (Utf8.encode (Codec.commaSeparated (entryTexts fields values)) ++ '\x7d'.toUInt8 :: rest) =
      .ok (values, rest) := by
  have enough : (entries fields values).length <
      (Utf8.encode (Codec.commaSeparated (entryTexts fields values)) ++
        '\x7d'.toUInt8 :: rest).length + 1 := by
    have few := length_entryTexts fields values
    rw [List.length_append]
    omega
  have all : ∀ name ∈ names fields, (names fields).reverse.contains name := by
    intro name member
    rw [List.contains_iff_mem, List.mem_reverse]
    exact member
  rw [readObject, read_bind get_bytes, read_bind (readEntries_all distinct restore enough),
    complete_filled all]
  rfl

theorem encode_write (fields : Fields ts) (values : Values ts) :
    Utf8.encode (write fields values) =
      '\x7b'.toUInt8 :: (Utf8.encode (Codec.commaSeparated (entryTexts fields values)) ++
        ['\x7d'.toUInt8]) :=
  Utf8.encode_enclosed rfl rfl _

end Object

end Fields

namespace Codec

variable {α : Type} {name : String} {ts : List Type} {fields : Fields ts}
  {toValues : α → Values ts} {ofValues : Values ts → α} {a : α}

theorem record_restores (whole : ofValues (toValues a) = a) (distinct : fields.names.Nodup)
    (restore : fields.Restore (toValues a)) :
    (record name ts fields toValues ofValues).Restores a := by
  refine ⟨⟨_, _, Fields.encode_write fields (toValues a), by decide, by decide⟩, fun rest _ => ?_⟩
  have read : Fields.read name fields (Utf8.encode (fields.write (toValues a)) ++ rest) =
      .ok (toValues a, rest) := by
    rw [Fields.encode_write, List.cons_append, List.append_assoc, Fields.read,
      read_bind (token_cons (by decide)), if_neg (by decide), if_pos (by decide),
      read_bind advance_cons]
    exact Fields.readObject_written distinct restore rest
  refine (read_bind read).trans ?_
  rw [whole]
  rfl

end Codec

end SellerDirectory.Json
