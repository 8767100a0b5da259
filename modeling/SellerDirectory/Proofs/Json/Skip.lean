import Mathlib.Data.List.DropRight
import SellerDirectory.Proofs.Json.Lexical

-- Passing over values. Whatever a text of the grammar stands for, and however deep it is nested,
-- the reader that keeps nothing of it stops right behind it.

namespace SellerDirectory.Json

open Text Numeral

variable {text space letters : List Char} {value : Value} {b : UInt8} {bytes rest : List UInt8}

section Start

theorem start_whole {whole : List Char} (first : Whole whole) :
    ∃ b more, Utf8.encode whole = b :: more ∧ isDigitByte b := by
  cases first with
  | zero => exact ⟨_, _, rfl, by decide⟩
  | positive run _ =>
    obtain ⟨given, all⟩ := run
    obtain ⟨c, others, rfl⟩ := List.exists_cons_of_ne_nil given
    obtain ⟨b, encoded, digit, _⟩ := encode_digit (all c List.mem_cons_self)
    exact ⟨b, _, by rw [Utf8.encode_cons, encoded]; rfl, digit⟩

def Starts (b : UInt8) : Value → Prop
  | .null => b = 'n'.toUInt8
  | .boolean true => b = 't'.toUInt8
  | .boolean false => b = 'f'.toUInt8
  | .number _ => b = '-'.toUInt8 ∨ isDigitByte b
  | .text _ => b = '"'.toUInt8
  | .array _ => b = '['.toUInt8
  | .object _ => b = '\x7b'.toUInt8

theorem starts_value (spelled : Spells (.value value) text) :
    ∃ b more, Utf8.encode text = b :: more ∧ Starts b value := by
  cases spelled with
  | null => exact ⟨_, _, rfl, rfl⟩
  | yes => exact ⟨_, _, rfl, rfl⟩
  | no => exact ⟨_, _, rfl, rfl⟩
  | number number =>
    cases number with
    | negative _ _ _ => exact ⟨_, _, rfl, .inl rfl⟩
    | positive first _ _ =>
      obtain ⟨b, more, start, digit⟩ := start_whole first
      exact ⟨b, _, by rw [Utf8.encode_append, start]; rfl, .inr digit⟩
  | text _ => exact ⟨_, _, rfl, rfl⟩
  | emptyArray _ => exact ⟨_, _, rfl, rfl⟩
  | array _ => exact ⟨_, _, rfl, rfl⟩
  | emptyObject _ => exact ⟨_, _, rfl, rfl⟩
  | object _ => exact ⟨_, _, rfl, rfl⟩

theorem solid_start (starts : Starts b value) : isSpace b = false ∧ b ≠ ']'.toUInt8 := by
  cases value with
  | number _ =>
    rcases starts with rfl | digit
    · decide
    · refine ⟨solid_digit digit, ?_⟩
      rintro rfl
      exact absurd digit (by decide)
  | boolean value => cases value <;> cases starts <;> decide
  | _ => cases starts; decide

end Start

section Frames

-- What is left to do behind a value that stands in some frames.
def resume (bound : Nat) (frames : List Frame) : Reader Unit := do
  let left ← closeFrames frames
  if left.isEmpty then return () else skipAll bound left

def enter (bound : Nat) (frame : Frame) (outer : List Frame) : Reader Unit := do
  frame.enter
  skipAll bound (frame :: outer)

variable {bound : Nat} {frame : Frame} {frames outer : List Frame}

theorem skip_bind {β : Type} {skip : List UInt8 → Except DecodeError (List UInt8)}
    {next : Unit → Reader β} (passed : skip bytes = .ok rest) :
    ((fun bytes => (skip bytes).map fun rest => ((), rest) : Reader Unit) >>= next) bytes =
      next () rest :=
  read_bind (by rw [passed]; rfl)

theorem bind_of_eq {α β : Type} {first other : Reader α} {next : α → Reader β}
    (same : first bytes = other rest) : (first >>= next) bytes = (other >>= next) rest := by
  change (first bytes >>= fun result => next result.1 result.2) = _
  rw [same]
  rfl

section Scalars

theorem skipStart_null :
    skipStart frames (Utf8.encode "null".toList ++ rest) = closeFrames frames rest :=
  rfl

theorem skipStart_true :
    skipStart frames (Utf8.encode "true".toList ++ rest) = closeFrames frames rest :=
  rfl

theorem skipStart_false :
    skipStart frames (Utf8.encode "false".toList ++ rest) = closeFrames frames rest :=
  rfl

theorem skipStart_text {content : List Char} (written : Letters letters content) :
    skipStart frames (Utf8.encode (inQuotes letters) ++ rest) = closeFrames frames rest := by
  rw [encode_quoted, skipStart, read_bind (token_cons (by decide)), if_neg (by decide),
    if_neg (by decide), if_neg (by decide), if_neg (by decide), if_neg (by decide),
    if_pos (by decide), read_bind advance_cons, skip_bind (skipText_letters written rest)]

theorem skipStart_number (number : IsNumber text) (stops : Stops rest) :
    skipStart frames (Utf8.encode text ++ rest) = closeFrames frames rest := by
  cases number with
  | negative first second third =>
    change skipStart frames ('-'.toUInt8 :: (Utf8.encode (_ ++ (_ ++ _)) ++ rest)) = _
    rw [skipStart, read_bind (token_cons (by decide)), if_neg (by decide), if_neg (by decide),
      if_neg (by decide), if_neg (by decide), if_neg (by decide), if_neg (by decide),
      if_pos (by decide), read_bind advance_cons,
      skip_bind (skipNumber_parts first second third stops)]
  | @positive whole fraction exponent first second third =>
    have passed := skipNumber_parts first second third stops
    obtain ⟨b, more, start, digit⟩ := start_whole first
    rw [Utf8.encode_append, start, List.append_assoc, List.cons_append] at passed ⊢
    have other {c : UInt8} (mark : isDigitByte c = false) : ¬ (b == c) = true := by
      intro same
      rw [← eq_of_beq same, digit] at mark
      cases mark
    rw [skipStart, read_bind (token_cons (solid_digit digit)), if_neg (other (by decide)),
      if_neg (other (by decide)), if_neg (other (by decide)), if_neg (other (by decide)),
      if_neg (other (by decide)), if_neg (other (by decide)), if_neg (other (by decide)),
      if_pos digit, skip_bind passed]

end Scalars

section Marks

theorem skipAll_done (start : skipStart frames bytes = closeFrames frames rest) :
    skipAll (bound + 1) frames bytes = resume bound frames rest :=
  bind_of_eq start

theorem enter_of_eq {first : Reader (List Frame)}
    (same : first bytes = (do frame.enter; return frame :: outer : Reader (List Frame)) rest) :
    (do let left ← first; if left.isEmpty then return () else skipAll bound left : Reader Unit)
      bytes = enter bound frame outer rest := by
  rw [bind_of_eq same, bind_assoc]
  rfl

theorem resume_comma :
    resume bound (frame :: outer) (','.toUInt8 :: rest) = enter bound frame outer rest := by
  refine enter_of_eq ?_
  rw [closeFrames, read_bind (token_cons (by decide)), if_pos (by decide), read_bind advance_cons]

theorem closing_facts (frame : Frame) :
    isSpace frame.closing = false ∧ (frame.closing == ','.toUInt8) = false := by
  cases frame <;> decide

theorem resume_closing :
    resume bound (frame :: outer) (frame.closing :: rest) = resume bound outer rest := by
  obtain ⟨solid, other⟩ := closing_facts frame
  refine bind_of_eq ?_
  rw [closeFrames, read_bind (token_cons solid), if_neg (Bool.eq_false_iff.mp other),
    if_pos (beq_self_eq_true _), read_bind advance_cons]

def Frame.opening : Frame → UInt8
  | .array => '['.toUInt8
  | .object => '\x7b'.toUInt8

theorem skipStart_opening :
    skipStart frames (frame.opening :: rest) = openFrame frame frames (frame.opening :: rest) := by
  cases frame with
  | array => rw [skipStart, Frame.opening, read_bind (token_cons (by decide)), if_pos (by decide)]
  | object =>
    rw [skipStart, Frame.opening, read_bind (token_cons (by decide)), if_neg (by decide),
      if_pos (by decide)]

theorem skipAll_empty (spacing : IsSpacing space) :
    skipAll (bound + 1) frames (frame.opening :: (Utf8.encode space ++ frame.closing :: rest)) =
      resume bound frames rest := by
  have seen : token (Utf8.encode space ++ frame.closing :: rest) =
      .ok (frame.closing, frame.closing :: rest) := by
    rw [token_spaces spacing, token_cons (closing_facts frame).1]
  refine skipAll_done (skipStart_opening.trans ?_)
  rw [openFrame, read_bind advance_cons, read_bind seen, if_pos (beq_self_eq_true _),
    read_bind advance_cons]

theorem token_dropSpaces (bytes : List UInt8) : token (bytes.dropWhile isSpace) = token bytes := by
  unfold token
  rw [List.dropWhile_idempotent]

theorem rest_of_token (seen : token bytes = .ok (b, rest)) : rest = bytes.dropWhile isSpace := by
  unfold token at seen
  split at seen
  · cases seen
  · next start =>
    cases seen
    exact start.symm

theorem skipAll_dropSpaces (bytes : List UInt8) :
    skipAll (bound + 1) frames (bytes.dropWhile isSpace) = skipAll (bound + 1) frames bytes := by
  refine bind_of_eq (bind_of_eq ?_)
  exact token_dropSpaces bytes

theorem enter_dropSpaces (bytes : List UInt8) :
    enter (bound + 1) frame outer (bytes.dropWhile isSpace) =
      enter (bound + 1) frame outer bytes := by
  cases frame with
  | array => exact skipAll_dropSpaces bytes
  | object => exact bind_of_eq (bind_of_eq (token_dropSpaces bytes))

theorem skipAll_opening (seen : token bytes = .ok (b, rest)) (other : b ≠ frame.closing) :
    skipAll (bound + 2) frames (frame.opening :: bytes) = enter (bound + 1) frame frames bytes := by
  rw [← enter_dropSpaces bytes, ← rest_of_token seen]
  refine enter_of_eq (skipStart_opening.trans ?_)
  rw [openFrame, read_bind advance_cons, read_bind seen, if_neg (by simpa using other)]

end Marks

section Passed

variable {values : List Value} {entry : String × Value} {entries : List (String × Value)}
  {others : List Char}

theorem token_element (spelled : Spells (.element value) text) (rest : List UInt8) :
    ∃ b more, token (Utf8.encode text ++ rest) = .ok (b, more) ∧ Starts b value := by
  cases spelled with
  | @element _ front middle back lead inner trail =>
    obtain ⟨b, more, start, starts⟩ := starts_value inner
    refine ⟨b, b :: (more ++ (Utf8.encode back ++ rest)), ?_, starts⟩
    rw [Utf8.encode_append, Utf8.encode_append, List.append_assoc, token_spaces lead, start,
      List.append_assoc, List.cons_append, token_cons (solid_start starts).1]

theorem token_elements (spelled : Spells (.elements values) text) (rest : List UInt8) :
    ∃ b more, token (Utf8.encode text ++ rest) = .ok (b, more) ∧ b ≠ ']'.toUInt8 := by
  cases spelled with
  | lastElement last =>
    obtain ⟨b, more, seen, starts⟩ := token_element last rest
    exact ⟨b, more, seen, (solid_start starts).2⟩
  | moreElements first _ =>
    rw [Utf8.encode_append, List.append_assoc]
    obtain ⟨b, more, seen, starts⟩ := token_element first (_ ++ rest)
    exact ⟨b, more, seen, (solid_start starts).2⟩

theorem encode_member (front letters gap text : List Char) (rest : List UInt8) :
    Utf8.encode (front ++ (inQuotes letters ++ (gap ++ ':' :: text))) ++ rest =
      Utf8.encode front ++ '"'.toUInt8 :: (Utf8.encode letters ++
        '"'.toUInt8 :: (Utf8.encode gap ++ ':'.toUInt8 :: (Utf8.encode text ++ rest))) := by
  have mark : Utf8.encode (':' :: text) = ':'.toUInt8 :: Utf8.encode text := Utf8.encode_cons _ _
  simp only [Utf8.encode_append, List.append_assoc, encode_quoted, mark, List.cons_append]

theorem token_member (spelled : Spells (.member entry) text) (rest : List UInt8) :
    ∃ more, token (Utf8.encode text ++ rest) = .ok ('"'.toUInt8, more) := by
  cases spelled with
  | member lead _ _ _ =>
    rw [encode_member, token_spaces lead]
    exact ⟨_, token_cons (by decide)⟩

theorem token_members (spelled : Spells (.members entries) text) (rest : List UInt8) :
    ∃ b more, token (Utf8.encode text ++ rest) = .ok (b, more) ∧ b ≠ '\x7d'.toUInt8 := by
  cases spelled with
  | lastMember last =>
    obtain ⟨more, seen⟩ := token_member last rest
    exact ⟨_, more, seen, by decide⟩
  | moreMembers first _ =>
    rw [Utf8.encode_append, List.append_assoc]
    obtain ⟨more, seen⟩ := token_member first (_ ++ rest)
    exact ⟨_, more, seen, by decide⟩

theorem colon_spaced (between : IsSpacing space) (rest : List UInt8) :
    colon (Utf8.encode space ++ ':'.toUInt8 :: rest) = .ok ((), rest) := by
  refine (bind_of_eq (token_spaces between _)).trans ?_
  rw [read_bind (token_cons (by decide)), if_pos (by decide)]
  rfl

-- A value is passed over in a number of steps that its length bounds, wherever it stands.
def ValuePassed (text : List Char) : Prop :=
  ∃ n < text.length, ∀ bound frames rest, Stops rest →
    skipAll (bound + n + 1) frames (Utf8.encode text ++ rest) = resume bound frames rest

def OnePassed (frame : Frame) (text : List Char) : Prop :=
  ∃ n < text.length, ∀ bound outer rest, Stops rest →
    enter (bound + n + 1) frame outer (Utf8.encode text ++ rest) =
      resume bound (frame :: outer) rest

def AllPassed (frame : Frame) (text : List Char) : Prop :=
  ∃ n < text.length, ∀ bound outer rest,
    enter (bound + n + 1) frame outer (Utf8.encode text ++ frame.closing :: rest) =
      resume bound outer rest

theorem stops_comma : Stops (','.toUInt8 :: rest) := by
  rintro _ ⟨⟩
  decide

theorem stops_closing : Stops (frame.closing :: rest) := by
  rintro _ ⟨⟩
  cases frame <;> decide

theorem stops_spaces (spacing : IsSpacing space) (stops : Stops rest) :
    Stops (Utf8.encode space ++ rest) := by
  intro b here
  rw [List.head?_append] at here
  cases first : (Utf8.encode space).head? with
  | none =>
    rw [first] at here
    exact stops b here
  | some d =>
    rw [first] at here
    cases here
    have blank : isSpace b := isSpace_of_mem spacing (List.mem_of_head? first)
    simp only [isSpace, Bool.or_eq_true, beq_iff_eq] at blank
    rcases blank with ((rfl | rfl) | rfl) | rfl <;> decide

theorem allPassed_last (last : OnePassed frame text) : AllPassed frame text := by
  obtain ⟨n, few, passed⟩ := last
  refine ⟨n, few, fun bound outer rest => ?_⟩
  rw [passed bound outer _ stops_closing, resume_closing]

theorem allPassed_more (first : OnePassed frame text) (later : AllPassed frame others) :
    AllPassed frame (text ++ ',' :: others) := by
  obtain ⟨n, few, passed⟩ := first
  obtain ⟨m, few_later, passed_later⟩ := later
  refine ⟨m + 1 + n, ?_, fun bound outer rest => ?_⟩
  · rw [List.length_append, List.length_cons]
    omega
  · have bytes : Utf8.encode (text ++ ',' :: others) ++ frame.closing :: rest =
        Utf8.encode text ++ ','.toUInt8 :: (Utf8.encode others ++ frame.closing :: rest) := by
      rw [Utf8.encode_append, List.append_assoc]
      rfl
    have steps : bound + (m + 1 + n) + 1 = (bound + m + 1) + n + 1 := by omega
    rw [bytes, steps, passed _ outer _ stops_comma, resume_comma, passed_later]

theorem valuePassed_nested (frame : Frame) {opening closing : Char}
    (opens : Utf8.encode [opening] = [frame.opening])
    (closes : Utf8.encode [closing] = [frame.closing])
    (seen : ∀ rest, ∃ b more, token (Utf8.encode text ++ rest) = .ok (b, more) ∧ b ≠ frame.closing)
    (inner : AllPassed frame text) : ValuePassed (opening :: text ++ [closing]) := by
  obtain ⟨n, few, passed⟩ := inner
  refine ⟨n + 1, ?_, fun bound frames rest _ => ?_⟩
  · rw [List.length_append, List.length_cons]
    omega
  · obtain ⟨b, more, seen, other⟩ := seen (frame.closing :: rest)
    rw [encode_between opens closes, ← Nat.add_assoc bound n 1, skipAll_opening seen other, passed]

def Passed : Part → List Char → Prop
  | .value _ => ValuePassed
  | .element _ => fun text => ∀ frame, ∃ n < text.length, ∀ bound outer rest, Stops rest →
    skipAll (bound + n + 1) (frame :: outer) (Utf8.encode text ++ rest) =
      resume bound (frame :: outer) rest
  | .elements _ => AllPassed .array
  | .member _ => OnePassed .object
  | .members _ => AllPassed .object

theorem valuePassed_scalar (given : text ≠ [])
    (start : ∀ frames rest, Stops rest →
      skipStart frames (Utf8.encode text ++ rest) = closeFrames frames rest) : ValuePassed text :=
  ⟨0, List.length_pos_iff.mpr given, fun _ frames rest stops =>
    skipAll_done (start frames rest stops)⟩

theorem valuePassed_empty (frame : Frame) {opening closing : Char}
    (opens : Utf8.encode [opening] = [frame.opening])
    (closes : Utf8.encode [closing] = [frame.closing]) (spacing : IsSpacing space) :
    ValuePassed (opening :: space ++ [closing]) := by
  refine ⟨0, Nat.zero_lt_succ _, fun bound frames rest _ => ?_⟩
  rw [encode_between opens closes, skipAll_empty spacing]

theorem passed_element {front back : List Char} (lead : IsSpacing front) (inner : ValuePassed text)
    (trail : IsSpacing back) (frame : Frame) :
    ∃ n < (front ++ (text ++ back)).length, ∀ bound outer rest, Stops rest →
      skipAll (bound + n + 1) (frame :: outer) (Utf8.encode (front ++ (text ++ back)) ++ rest) =
        resume bound (frame :: outer) rest := by
  obtain ⟨n, few, passed⟩ := inner
  refine ⟨n, ?_, fun bound outer rest stops => ?_⟩
  · simp only [List.length_append]
    omega
  · rw [Utf8.encode_append, Utf8.encode_append, List.append_assoc, List.append_assoc,
      ← skipAll_dropSpaces, dropSpaces_append lead, skipAll_dropSpaces,
      passed bound _ _ (stops_spaces trail stops)]
    exact bind_of_eq (bind_of_eq (token_spaces trail rest))

theorem passed_member {front letters gap content : List Char} (lead : IsSpacing front)
    (written : Letters letters content) (between : IsSpacing gap)
    (inner : ∃ n < text.length, ∀ bound outer rest, Stops rest →
      skipAll (bound + n + 1) (.object :: outer) (Utf8.encode text ++ rest) =
        resume bound (.object :: outer) rest) :
    OnePassed .object (front ++ (inQuotes letters ++ (gap ++ ':' :: text))) := by
  obtain ⟨n, few, passed⟩ := inner
  refine ⟨n, ?_, fun bound outer rest stops => ?_⟩
  · simp only [List.length_append, List.length_cons]
    omega
  · have entered : Frame.object.enter
        (Utf8.encode (front ++ (inQuotes letters ++ (gap ++ ':' :: text))) ++ rest) =
          .ok ((), Utf8.encode text ++ rest) := by
      rw [encode_member, Frame.enter]
      refine (bind_of_eq (token_spaces lead _)).trans ?_
      rw [read_bind (token_cons (by decide)), if_pos (by decide), read_bind advance_cons]
      exact (skip_bind (skipText_letters written _)).trans (colon_spaced between _)
    rw [enter, read_bind entered, passed bound outer rest stops]

theorem passed {part : Part} (spelled : Spells part text) : Passed part text := by
  induction spelled with
  | null => exact valuePassed_scalar (by decide) fun _ _ _ => skipStart_null
  | yes => exact valuePassed_scalar (by decide) fun _ _ _ => skipStart_true
  | no => exact valuePassed_scalar (by decide) fun _ _ _ => skipStart_false
  | number number =>
    obtain ⟨b, more, start, _⟩ := starts_value (.number number)
    refine valuePassed_scalar ?_ fun _ _ stops => skipStart_number number stops
    rintro rfl
    cases start
  | text written =>
    exact valuePassed_scalar (List.cons_ne_nil _ _) fun _ _ _ => skipStart_text written
  | emptyArray spacing => exact valuePassed_empty .array rfl rfl spacing
  | array inner ih => exact valuePassed_nested .array rfl rfl (token_elements inner) ih
  | emptyObject spacing => exact valuePassed_empty .object rfl rfl spacing
  | object inner ih => exact valuePassed_nested .object rfl rfl (token_members inner) ih
  | element lead _ trail ih => exact passed_element lead ih trail
  | lastElement _ ih => exact allPassed_last (ih .array)
  | moreElements _ _ first later => exact allPassed_more (first .array) later
  | member lead written between _ ih => exact passed_member lead written between (ih .object)
  | lastMember _ ih => exact allPassed_last ih
  | moreMembers _ _ first later => exact allPassed_more first later

def Part.count : Part → Nat
  | .elements values => values.length
  | .members entries => entries.length
  | _ => 0

theorem count_le {part : Part} (spelled : Spells part text) : part.count ≤ text.length := by
  induction spelled with
  | lastElement last =>
    obtain ⟨n, few, _⟩ := passed last .array
    exact Nat.lt_of_le_of_lt (Nat.zero_le n) few
  | lastMember last =>
    obtain ⟨n, few, _⟩ := passed last
    exact Nat.lt_of_le_of_lt (Nat.zero_le n) few
  | moreElements _ _ _ later =>
    simp only [Part.count, List.length_append, List.length_cons] at later ⊢
    omega
  | moreMembers _ _ _ later =>
    simp only [Part.count, List.length_append, List.length_cons] at later ⊢
    omega
  | _ => exact Nat.zero_le _

end Passed

end Frames

theorem length_le_encode (text : List Char) : text.length ≤ (Utf8.encode text).length := by
  induction text with
  | nil => exact Nat.le_refl 0
  | cons c text ih =>
    obtain ⟨b, more, bytes, _⟩ := Utf8.next_encoded (Utf8.encoded c)
    rw [Utf8.encode_cons, List.length_append, List.length_cons]
    have one : (Utf8.encode [c]).length = more.length + 1 := by
      rw [Utf8.encode, List.flatMap_singleton, bytes, List.length_cons]
    omega

theorem skipValue_spelled {front : List Char} (lead : IsSpacing front)
    (spelled : Spells (.value value) text) (stops : Stops rest) :
    skipValue (Utf8.encode front ++ (Utf8.encode text ++ rest)) = .ok ((), rest) := by
  obtain ⟨n, few, passed⟩ := passed spelled
  have bytes := length_le_encode text
  obtain ⟨bound, enough⟩ : ∃ bound,
      (Utf8.encode front ++ (Utf8.encode text ++ rest)).length + 1 = bound + n + 1 := by
    refine ⟨(Utf8.encode front ++ (Utf8.encode text ++ rest)).length - n, ?_⟩
    simp only [List.length_append]
    omega
  rw [skipValue, read_bind get_bytes, enough, ← skipAll_dropSpaces, dropSpaces_append lead,
    skipAll_dropSpaces, passed bound [] rest stops]
  rfl

end SellerDirectory.Json
