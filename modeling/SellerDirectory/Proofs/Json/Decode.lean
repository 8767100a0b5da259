import SellerDirectory.Proofs.Json.Skip

-- What decoding makes of a text of the grammar, where it may also refuse it. Which error it is does
-- not matter here: a reader has an outcome or none.

namespace SellerDirectory.Json

open Text

variable {α β : Type} {b : UInt8} {bytes rest : List UInt8} {read : Reader α} {next : α → Reader β}

section Outcome

def outcome (read : Reader α) (bytes : List UInt8) : Option (α × List UInt8) :=
  (read bytes).toOption

theorem outcome_bind :
    outcome (read >>= next) bytes =
      (outcome read bytes).bind fun result => outcome (next result.1) result.2 := by
  change (read bytes >>= fun result => next result.1 result.2).toOption = _
  unfold outcome
  cases read bytes <;> rfl

theorem outcome_of_ok {result : α × List UInt8} (done : read bytes = .ok result) :
    outcome read bytes = some result := by
  rw [outcome, done]
  rfl

theorem outcome_map {f : α → β} :
    outcome (do return f (← read)) bytes =
      (outcome read bytes).map fun result => (f result.1, result.2) := by
  refine outcome_bind.trans ?_
  cases outcome read bytes <;> rfl

theorem outcome_of_eq {other : Reader α} (same : read bytes = other rest) :
    outcome read bytes = outcome other rest :=
  congrArg Except.toOption same

end Outcome

section Elements

variable {make : Value → Option α} {value : Value} {values : List Value} {text space : List Char}
  {part : Part} {first : Bool} {bound : Nat}

def comma : Bool → List UInt8
  | true => []
  | false => [','.toUInt8]

def Makes (read : Reader α) (make : Value → Option α) (value : Value) : Prop :=
  ∀ text rest, Spells (.value value) text →
    outcome read (Utf8.encode text ++ rest) = (make value).map (·, rest)

theorem hasElement_open (seen : token bytes = .ok (b, rest)) (other : b ≠ ']'.toUInt8) :
    hasElement first (comma first ++ bytes) = .ok (true, rest) := by
  cases first with
  | true =>
    change hasElement true bytes = _
    rw [hasElement, read_bind seen, if_neg (by simpa using other), if_pos rfl]
    rfl
  | false =>
    change hasElement false (','.toUInt8 :: bytes) = _
    rw [hasElement, read_bind (token_cons (by decide)), if_neg (by decide), if_neg (by decide),
      if_pos (by decide), read_bind advance_cons, read_bind seen, if_neg (by simpa using other)]
    rfl

theorem elements_spaces (spacing : IsSpacing space) (bytes : List UInt8) :
    elements read bound false (Utf8.encode space ++ bytes) = elements read bound false bytes := by
  cases bound with
  | zero => rfl
  | succ bound => exact bind_of_eq (bind_of_eq (token_spaces spacing bytes))

theorem elements_element (makes : Makes read make value) (spelled : Spells (.element value) text) :
    outcome (elements read (bound + 1) first) (comma first ++ (Utf8.encode text ++ rest)) =
      (make value).bind fun a =>
        (outcome (elements read bound false) rest).map fun result => (a :: result.1, result.2) := by
  cases spelled with
  | @element _ front text back lead inner trail =>
    obtain ⟨b, more, start, starts⟩ := starts_value inner
    obtain ⟨solid, other⟩ := solid_start starts
    have seen : token (Utf8.encode (front ++ (text ++ back)) ++ rest) =
        .ok (b, Utf8.encode text ++ (Utf8.encode back ++ rest)) := by
      rw [Utf8.encode_append, Utf8.encode_append, List.append_assoc, List.append_assoc,
        token_spaces lead, start, List.cons_append, token_cons solid]
    rw [elements, outcome_of_eq (read_bind (hasElement_open seen other)), if_pos rfl, outcome_bind,
      makes text _ inner]
    cases make value with
    | none => rfl
    | some a =>
      refine outcome_map.trans ?_
      rw [outcome_of_eq (elements_spaces trail rest)]
      rfl

theorem elements_spelled (spelled : Spells part text) (same : part = .elements values)
    (makes : ∀ value ∈ values, Makes read make value) (enough : values.length < bound) :
    outcome (elements read bound first) (comma first ++ (Utf8.encode text ++ ']'.toUInt8 :: rest)) =
      (values.mapM make).map (·, ']'.toUInt8 :: rest) := by
  induction spelled generalizing values first bound with
  | lastElement last =>
    cases same
    obtain ⟨bound, rfl⟩ : ∃ less, bound = less + 2 := ⟨bound - 2, by simp at enough; omega⟩
    rw [elements_element (makes _ List.mem_cons_self) last]
    have ended : outcome (elements read (bound + 1) false) (']'.toUInt8 :: rest) =
        some ([], ']'.toUInt8 :: rest) :=
      outcome_of_ok ((read_bind (Codec.hasElement_none false)).trans rfl)
    rw [ended, List.mapM_cons]
    cases make _ <;> rfl
  | @moreElements value values text others here _ _ ih =>
    cases same
    obtain ⟨makes_here, makes⟩ := List.forall_mem_cons.mp makes
    obtain ⟨bound, rfl⟩ : ∃ less, bound = less + 1 := ⟨bound - 1, by simp at enough; omega⟩
    have bytes : Utf8.encode (text ++ ',' :: others) ++ ']'.toUInt8 :: rest =
        Utf8.encode text ++ (comma false ++ (Utf8.encode others ++ ']'.toUInt8 :: rest)) := by
      rw [Utf8.encode_append, List.append_assoc]
      rfl
    rw [bytes, elements_element makes_here here, List.mapM_cons,
      ih rfl makes (Nat.lt_of_succ_lt_succ enough)]
    cases make value with
    | none => rfl
    | some a =>
      cases values.mapM make <;> rfl
  | _ => cases same

def listBody (read : Reader α) (bound : Nat) : Reader (List α) := do
  let all ← elements read bound true
  endArray
  return all

theorem list_opened (codec : Codec α) (bytes : List UInt8) :
    codec.list.read ('['.toUInt8 :: bytes) = listBody codec.read (bytes.length + 1) bytes := by
  refine (read_bind (token_cons (by decide))).trans ?_
  rw [if_pos (by decide), read_bind advance_cons, read_bind get_bytes]
  rfl

theorem listBody_outcome {all : Option (List α)}
    (read_all : outcome (elements read bound true) bytes = all.map (·, ']'.toUInt8 :: rest)) :
    outcome (listBody read bound) bytes = all.map (·, rest) := by
  rw [listBody, outcome_bind, read_all]
  cases all with
  | none => rfl
  | some all => exact outcome_of_ok (read_bind Codec.endArray_bracket)

theorem encode_array (text : List Char) (rest : List UInt8) :
    Utf8.encode ('[' :: text ++ [']']) ++ rest =
      '['.toUInt8 :: (Utf8.encode text ++ ']'.toUInt8 :: rest) :=
  encode_between rfl rfl text rest

theorem list_makes {codec : Codec α} (makes : ∀ value ∈ values, Makes codec.read make value) :
    Makes codec.list.read (fun _ => values.mapM make) (.array values) := by
  intro text rest spelled
  cases spelled with
  | @emptyArray space spacing =>
    have ended : hasElement true (Utf8.encode space ++ ']'.toUInt8 :: rest) =
        .ok (false, ']'.toUInt8 :: rest) :=
      (bind_of_eq (token_spaces spacing _)).trans (Codec.hasElement_none true)
    rw [encode_array, outcome_of_eq (list_opened codec _)]
    exact listBody_outcome (outcome_of_ok ((read_bind ended).trans rfl))
  | @array _ text inner =>
    have enough : values.length ≤ text.length := count_le inner
    have few := length_le_encode text
    rw [encode_array, outcome_of_eq (list_opened codec _)]
    refine listBody_outcome ?_
    change outcome _ (comma true ++ _) = _
    refine elements_spelled inner rfl makes ?_
    rw [List.length_append]
    omega

theorem decode_outcome {codec : Codec α} :
    (codec.decode bytes).toOption = (outcome codec.read bytes).bind fun result =>
      if (result.2.dropWhile isSpace).isEmpty then some result.1 else none := by
  unfold Codec.decode outcome
  cases codec.read bytes with
  | error error => rfl
  | ok result =>
    change (if (result.2.dropWhile isSpace).isEmpty then (.ok result.1 : Except DecodeError α)
      else .error .malformed).toOption = if _ then _ else _
    split <;> rfl

theorem decode_list {codec : Codec α} (spelled : Spells (.element (.array values)) text)
    (makes : ∀ value ∈ values, Makes codec.read make value) :
    (codec.list.decode (Utf8.encode text)).toOption = values.mapM make := by
  cases spelled with
  | @element _ front text back spacing inner trail =>
    have read := list_makes makes text (Utf8.encode back) inner
    have opened :
        outcome codec.list.read (Utf8.encode front ++ (Utf8.encode text ++ Utf8.encode back)) =
        outcome codec.list.read (Utf8.encode text ++ Utf8.encode back) :=
      outcome_of_eq (bind_of_eq (token_spaces spacing _))
    rw [decode_outcome, Utf8.encode_append, Utf8.encode_append, opened, read]
    cases values.mapM make with
    | none => rfl
    | some all => simpa using fun _ member => isSpace_of_mem trail member

end Elements

end SellerDirectory.Json
