import SellerDirectory.Proofs.Except
import SellerDirectory.Proofs.Signing.Header

-- Which headers can be carried as text. Whatever text a header was read from, no mark that ends a
-- part stands in its parts; so a header that holds such a mark does not come back, and every other
-- one does. What was read is therefore settled: written out, it is read as the same header.

namespace SellerDirectory.Signing.Header

open Text

variable {parameters further : Parameters} {header : Header} {name value text : List Char}

structure Parameters.Unquoted (parameters : Parameters) : Prop where
  keyId : ∀ value ∈ parameters.keyId, '"' ∉ value
  algorithm : ∀ value ∈ parameters.algorithm, '"' ∉ value
  signed : ∀ value ∈ parameters.signed, '"' ∉ value
  signature : ∀ value ∈ parameters.signature, '"' ∉ value

theorem unquoted_start : Parameters.Unquoted {} := by
  constructor <;> simp

theorem readItem_unquoted {item : Item} (read : readItem text = .ok item) : '"' ∉ item.value := by
  unfold readItem at read
  split at read
  · cases read
  · split at read
    · cases read
    · next closed =>
      cases read
      exact not_mem_of_cut? closed
  · cases read

-- What a parameter makes of the fields: each stays as it was, or it takes the value, or the number
-- that the value is the text of.
structure Parameters.Takes (value : List Char) (before after : Parameters) : Prop where
  keyId : after.keyId = before.keyId ∨ after.keyId = some value
  algorithm : after.algorithm = before.algorithm ∨ after.algorithm = some value
  created : after.created = before.created ∨ after.created = Numeral.signed? value
  expires : after.expires = before.expires ∨ after.expires = Numeral.signed? value
  signed : after.signed = before.signed ∨ after.signed = some value
  signature : after.signature = before.signature ∨ after.signature = some value

theorem signed?_of_seconds {parameter : String} {n : Int}
    (read : seconds parameter value = .ok n) : some n = Numeral.signed? value := by
  unfold seconds at read
  split at read
  · next found =>
    cases read
    exact found.symm
  · cases read

theorem add_takes (added : parameters.add name value = .ok further) :
    Parameters.Takes value parameters further := by
  unfold Parameters.add at added
  split at added
  · cases added
    exact ⟨.inr rfl, .inl rfl, .inl rfl, .inl rfl, .inl rfl, .inl rfl⟩
  split at added
  · cases added
    exact ⟨.inl rfl, .inr rfl, .inl rfl, .inl rfl, .inl rfl, .inl rfl⟩
  split at added
  · obtain ⟨n, read, rfl⟩ := map_ok.mp added
    exact ⟨.inl rfl, .inl rfl, .inr (signed?_of_seconds read), .inl rfl, .inl rfl, .inl rfl⟩
  split at added
  · obtain ⟨n, read, rfl⟩ := map_ok.mp added
    exact ⟨.inl rfl, .inl rfl, .inl rfl, .inr (signed?_of_seconds read), .inl rfl, .inl rfl⟩
  split at added
  · cases added
    exact ⟨.inl rfl, .inl rfl, .inl rfl, .inl rfl, .inr rfl, .inl rfl⟩
  split at added
  · cases added
    exact ⟨.inl rfl, .inl rfl, .inl rfl, .inl rfl, .inl rfl, .inr rfl⟩
  · cases added
    exact ⟨.inl rfl, .inl rfl, .inl rfl, .inl rfl, .inl rfl, .inl rfl⟩

-- What each parameter that is taken in keeps true is true of all that a text is read as.
theorem readItems_preserves {Holds : Parameters → Prop}
    (kept : ∀ {before after : Parameters} {value : List Char}, Holds before → '"' ∉ value →
      Parameters.Takes value before after → Holds after)
    (start : Holds parameters) (read : readItems parameters text = .ok further) :
    Holds further := by
  fun_induction readItems parameters text with
  | case1 =>
    cases read
    exact start
  | case2 => cases read
  | case3 => cases read
  | case4 parameters text more item taken next added ih =>
    exact ih (kept start (readItem_unquoted taken) (add_takes added)) read

section Field

variable {α : Type} {Fits : α → Prop} {before after given : Option α}

theorem field_fits (old : ∀ a ∈ before, Fits a) (new : ∀ a ∈ given, Fits a)
    (takes : after = before ∨ after = given) : ∀ a ∈ after, Fits a := by
  rcases takes with rfl | rfl
  · exact old
  · exact new

end Field

theorem takes_unquoted (unquoted : parameters.Unquoted) (value_unquoted : '"' ∉ value)
    (takes : Parameters.Takes value parameters further) : further.Unquoted := by
  have fresh : ∀ other ∈ some value, '"' ∉ other := by
    intro other member
    cases member
    exact value_unquoted
  exact ⟨field_fits unquoted.keyId fresh takes.keyId,
    field_fits unquoted.algorithm fresh takes.algorithm,
    field_fits unquoted.signed fresh takes.signed,
    field_fits unquoted.signature fresh takes.signature⟩

structure Parameters.Bounded (parameters : Parameters) : Prop where
  created : ∀ n ∈ parameters.created, Numeral.IsSigned64 n
  expires : ∀ n ∈ parameters.expires, Numeral.IsSigned64 n

theorem bounded_start : Parameters.Bounded {} := by
  constructor <;> simp

theorem takes_bounded (bounded : parameters.Bounded)
    (takes : Parameters.Takes value parameters further) : further.Bounded := by
  have fresh : ∀ n ∈ Numeral.signed? value, Numeral.IsSigned64 n :=
    fun n => Numeral.isSigned64_of_signed?
  exact ⟨field_fits bounded.created fresh takes.created,
    field_fits bounded.expires fresh takes.expires⟩

theorem splitKeyId_parts {keyId subscriber key algorithm : List Char}
    (split : splitKeyId keyId = .ok (subscriber, key, algorithm)) :
    keyId = subscriber ++ '|' :: (key ++ '|' :: algorithm) ∧ '|' ∉ subscriber ∧ '|' ∉ key := by
  unfold splitKeyId at split
  split at split
  · cases split
  · next rest first =>
    split at split
    · cases split
    · next second =>
      cases split
      refine ⟨?_, not_mem_of_cut? first, not_mem_of_cut? second⟩
      rw [eq_of_cut? first, eq_of_cut? second]

theorem eq_of_demand {α : Type} {name : String} {given : Option α} {a : α}
    (found : demand name given = .ok a) : given = some a := by
  cases given with
  | none => cases found
  | some b =>
    cases found
    rfl

theorem ofParameters_unmarked (unquoted : parameters.Unquoted)
    (done : ofParameters parameters = .ok header) : header.Unmarked := by
  unfold ofParameters at done
  simp only [bind_ok] at done
  obtain ⟨keyId, named, ⟨subscriber, key, algorithm⟩, parts, created, _, expires, _, signature,
    signs, done⟩ := done
  cases done
  obtain ⟨rfl, subscriber_unbarred, key_unbarred⟩ := splitKeyId_parts parts
  have whole := unquoted.keyId _ (eq_of_demand named)
  simp only [List.mem_append, List.mem_cons, not_or] at whole
  obtain ⟨subscriber_unquoted, _, key_unquoted, _, algorithm_unquoted⟩ := whole
  have usual : '"' ∉ signedNames.toList := by decide +kernel
  constructor
  · simp [IsKeyName, subscriber_unquoted, subscriber_unbarred]
  · simp [IsKeyName, key_unquoted, key_unbarred]
  · cases given : parameters.algorithm with
    | none => simpa using algorithm_unquoted
    | some value => simpa using unquoted.algorithm value given
  · cases given : parameters.signed with
    | none => exact usual
    | some value => simpa using unquoted.signed value given
  · simpa using unquoted.signature signature (eq_of_demand signs)

theorem ofParameters_bounded (bounded : parameters.Bounded)
    (done : ofParameters parameters = .ok header) :
    Numeral.IsSigned64 header.created ∧ Numeral.IsSigned64 header.expires := by
  unfold ofParameters at done
  simp only [bind_ok] at done
  obtain ⟨_, _, _, _, created, since, expires, till, _, _, done⟩ := done
  cases done
  exact ⟨bounded.created created (eq_of_demand since), bounded.expires expires (eq_of_demand till)⟩

theorem parameters_of_ofText {text : String} (read : ofText text = .ok header) :
    ∃ parameters : Parameters, parameters.Unquoted ∧ parameters.Bounded ∧
      ofParameters parameters = .ok header := by
  have done : ofChars text.toList = .ok header := mapError_ok.mp read
  unfold ofChars at done
  split at done
  · cases done
  · split at done
    · cases done
    · next parameters read =>
      exact ⟨parameters, readItems_preserves takes_unquoted unquoted_start read,
        readItems_preserves (fun bounded _ takes => takes_bounded bounded takes) bounded_start read,
        done⟩

theorem unmarked_of_ofText {text : String} (read : ofText text = .ok header) : header.Unmarked := by
  obtain ⟨parameters, unquoted, _, done⟩ := parameters_of_ofText read
  exact ofParameters_unmarked unquoted done

theorem bounded_of_ofText {text : String} (read : ofText text = .ok header) :
    Numeral.IsSigned64 header.created ∧ Numeral.IsSigned64 header.expires := by
  obtain ⟨parameters, _, bounded, done⟩ := parameters_of_ofText read
  exact ofParameters_bounded bounded done

theorem ofText_text_iff (created : Numeral.IsSigned64 header.created)
    (expires : Numeral.IsSigned64 header.expires) :
    ofText header.text = .ok header ↔ header.Unmarked :=
  ⟨unmarked_of_ofText, fun unmarked => ofText_text unmarked created expires⟩

-- Separators, blanks and signs in the parts, a bar in the algorithm, and no subscriber at all.
def intricateHeader (key : String) : Header where
  subscriberId := ""
  uniqueKeyId := key
  algorithm := "ed|25519"
  created := -9223372036854775808
  expires := 9223372036854775807
  signed := " , =|"
  signature := "==,"

-- The bar that the algorithm may hold, the key may not.
theorem intricateHeader_carried :
    Numeral.IsSigned64 (intricateHeader "k=,").created ∧
      Numeral.IsSigned64 (intricateHeader "k=,").expires ∧
      ofText (intricateHeader "k=,").text = .ok (intricateHeader "k=,") ∧
      ofText (intricateHeader "k|k").text ≠ .ok (intricateHeader "k|k") := by
  have created (key : String) : Numeral.IsSigned64 (intricateHeader key).created :=
    ⟨Int.le_refl _, (by decide : (-9223372036854775808 : Int) ≤ 9223372036854775807)⟩
  have expires (key : String) : Numeral.IsSigned64 (intricateHeader key).expires :=
    ⟨(by decide : (-9223372036854775808 : Int) ≤ 9223372036854775807), Int.le_refl _⟩
  have unmarked : (intricateHeader "k=,").Unmarked := by
    constructor <;> decide +kernel
  refine ⟨created _, expires _, (ofText_text_iff (created _) (expires _)).mpr unmarked, ?_⟩
  intro carried
  have key := ((ofText_text_iff (created _) (expires _)).mp carried).uniqueKeyId.2
  exact key (by decide +kernel)

theorem ofText_settled {text : String} {header : Header} (read : ofText text = .ok header) :
    ofText header.text = .ok header := by
  obtain ⟨created, expires⟩ := bounded_of_ofText read
  exact ofText_text (unmarked_of_ofText read) created expires

-- White space all around, unknown names and one that is empty, a name that stands twice and far
-- apart, signs and zeros before the numbers, bars in the algorithm of the key, and nothing of what
-- may be left out.
def looseText : String :=
  "\u2003Signature realm=\"|\" ,\u00a0=\"x\",,,created=\"+0007\"\n keyId=\"old\"signature=\"=, \"" ++
    ",expires=\"-00\",\tkeyId =\"s|k,=|ed|25519\",,\r\n"

def settledText : String :=
  "Signature keyId=\"s|k,=|ed|25519\",algorithm=\"ed|25519\",created=\"7\",expires=\"0\"," ++
    "headers=\"(created) (expires) digest\",signature=\"=, \""

theorem looseText_settled :
    ∃ header, ofText looseText = .ok header ∧ header.text = settledText ∧
      ofText settledText = .ok header := by
  have read : ofText looseText = .ok ⟨"s", "k,=", "ed|25519", 7, 0, signedNames, "=, "⟩ :=
    mapError_ok.mpr (by decide +kernel)
  have written : Header.text ⟨"s", "k,=", "ed|25519", 7, 0, signedNames, "=, "⟩ = settledText := by
    decide +kernel
  exact ⟨_, read, written, written ▸ ofText_settled read⟩

end SellerDirectory.Signing.Header
