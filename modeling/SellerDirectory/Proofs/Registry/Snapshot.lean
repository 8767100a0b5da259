import SellerDirectory.Proofs.Json.Sparse
import SellerDirectory.Registry.Subscriber

-- Sparse entries of a registry snapshot. Whatever fields an entry leaves out and whatever else it
-- holds, the snapshot is read; one field of another type, or given twice, spoils all of it.

namespace SellerDirectory.Registry

open Json Text

variable {object : List (String × Value)} {objects : List (List (String × Value))}
  {text : List Char} {value : Value}

def fieldNames : List String :=
  ["subscriber_id", "ukId", "br_id", "domain", "country", "city", "signing_public_key",
    "encr_public_key", "status", "valid_from", "valid_until", "created", "updated"]

namespace Subscriber

def ofObject (object : List (String × Value)) : Subscriber where
  subscriberId := Fields.told object "subscriber_id"
  keyId := Fields.told object "ukId"
  branchId := Fields.told object "br_id"
  domain := Fields.told object "domain"
  country := Fields.told object "country"
  city := Fields.told object "city"
  signingKey := Fields.told object "signing_public_key"
  encryptionKey := Fields.told object "encr_public_key"
  status := Fields.told object "status"
  validFrom := Fields.told object "valid_from"
  validUntil := Fields.told object "valid_until"
  created := Fields.told object "created"
  updated := Fields.told object "updated"

-- The entry of the texts in the order of their fields.
def ofTexts : Values (fieldNames.map fun _ => String) → Subscriber :=
  fun (subscriberId, keyId, branchId, domain, country, city, signingKey, encryptionKey, status,
      validFrom, validUntil, created, updated, _) =>
    { subscriberId, keyId, branchId, domain, country, city, signingKey, encryptionKey, status,
      validFrom, validUntil, created, updated }

def ofValue? : Value → Option Subscriber
  | .object entries => (Fields.take fieldNames entries).map ofTexts
  | _ => none

theorem read_eq :
    codec.read = (do return ofTexts (← Fields.read "Subscriber" (Fields.sparse fieldNames)) :
      Reader Subscriber) :=
  rfl

theorem codec_makes (object : List (String × Value)) :
    Makes codec.read ofValue? (.object object) := by
  intro text rest spelled
  have distinct : fieldNames.Nodup := by decide +kernel
  rw [read_eq, outcome_map, Fields.read_object distinct "Subscriber" spelled, ofValue?]
  cases Fields.take fieldNames object <;> rfl

theorem ofValue?_sparse (sparse : Fields.IsSparse fieldNames object) :
    ofValue? (.object object) = some (ofObject object) := by
  rw [ofValue?, Fields.take_some sparse]
  rfl

theorem ofValue?_other (other : ¬ Fields.IsSparse fieldNames object) :
    ofValue? (.object object) = none := by
  rw [ofValue?, Fields.take_none other]
  rfl

theorem collect_sparse (sparse : ∀ object ∈ objects, Fields.IsSparse fieldNames object) :
    (objects.map Value.object).mapM ofValue? = some (objects.map ofObject) := by
  induction objects with
  | nil => rfl
  | cons object objects ih =>
    obtain ⟨here, later⟩ := List.forall_mem_cons.mp sparse
    rw [List.map_cons, List.mapM_cons, ofValue?_sparse here, ih later]
    rfl

theorem collect_other (member : object ∈ objects) (other : ¬ Fields.IsSparse fieldNames object) :
    (objects.map Value.object).mapM ofValue? = none := by
  induction objects with
  | nil => cases member
  | cons first objects ih =>
    rw [List.map_cons, List.mapM_cons]
    rcases List.mem_cons.mp member with rfl | later
    · rw [ofValue?_other other]
      rfl
    · rw [ih later]
      cases ofValue? (.object first) <;> rfl

end Subscriber

theorem decode_objects (spelled : Spells (.element (.array (objects.map .object))) text) :
    (snapshotCodec.decode (Utf8.encode text)).toOption =
      (objects.map Value.object).mapM Subscriber.ofValue? := by
  refine decode_list spelled fun value member => ?_
  obtain ⟨object, _, rfl⟩ := List.mem_map.mp member
  exact Subscriber.codec_makes object

-- An array of objects, however it is written, is read if each of them gives each field once at
-- most, as a text or null: entry by entry, with the empty text for what is null or left out. It is
-- refused as a whole if one of them does not.
theorem snapshot_sparse (spelled : Spells (.element (.array (objects.map .object))) text) :
    ((∀ object ∈ objects, Fields.IsSparse fieldNames object) →
      snapshotCodec.decode (Utf8.encode text) = .ok (objects.map Subscriber.ofObject)) ∧
    ((∃ object ∈ objects, ¬ Fields.IsSparse fieldNames object) →
      ∃ error, snapshotCodec.decode (Utf8.encode text) = .error error) := by
  have decoded := decode_objects spelled
  constructor
  · intro sparse
    rw [Subscriber.collect_sparse sparse] at decoded
    cases read : snapshotCodec.decode (Utf8.encode text) with
    | error error =>
      rw [read] at decoded
      cases decoded
    | ok subscribers =>
      rw [read] at decoded
      exact congrArg Except.ok (Option.some.inj decoded)
  · rintro ⟨object, member, other⟩
    rw [Subscriber.collect_other member other] at decoded
    cases read : snapshotCodec.decode (Utf8.encode text) with
    | error error => exact ⟨error, rfl⟩
    | ok subscribers =>
      rw [read] at decoded
      cases decoded

section Listing

-- A character that takes two codes.
def clef : Char := Char.ofNat 0x1D11E

-- A key and a text written by code, a known name inside a value that nothing is kept of, and null.
def roamingObject : List (String × Value) :=
  [("ukId", .text (String.ofList [clef])),
    ("more", .array [.object [("city", .number "-0.50e+3".toList)], .array [], .boolean true]),
    ("city", .null)]

def roamingText : String :=
  "\t\"\\u0075kId\" : \"\\ud834\\uDD1e\",\"more\":[\x7b\"city\":-0.50e+3\x7d,[\n], true]," ++
    "\"city\":null"

theorem spells_of_eq {part : Part} {other : List Char} (spelled : Spells part text)
    (same : text = other) : Spells part other :=
  same ▸ spelled

theorem spacing_nil : IsSpacing [] := by
  decide

theorem spacing_blank : IsSpacing [' '] := by
  decide

theorem tight (spelled : Spells (.value value) text) : Spells (.element value) text := by
  have element := Spells.element spacing_nil spelled spacing_nil
  rwa [List.nil_append, List.append_nil] at element

theorem tightMember (name : String) (printed : name.toList.all isPrinted)
    (spelled : Spells (.value value) text) :
    Spells (.member (name, value)) (inQuotes name.toList ++ ':' :: text) :=
  .member spacing_nil (letters_self printed) spacing_nil (tight spelled)

theorem number_spelled : IsNumber "-0.50e+3".toList := by
  have parts : IsNumber ('-' :: (['0'] ++ (('.' :: ['5', '0']) ++ ('e' :: (['+'] ++ ['3']))))) :=
    .negative .zero (.point (by decide)) (.mark (by decide) (by decide) (by decide))
  exact parts

theorem roaming_spelled : Spells (.members roamingObject) roamingText.toList := by
  have key : Letters ['\\', 'u', '0', '0', '7', '5', 'k', 'I', 'd'] "ukId".toList := by
    have code : IsUnit ['0', '0', '7', '5'] 'u'.toNat :=
      .digits (by decide : IsHex '0' 0) (by decide : IsHex '0' 0) (by decide : IsHex '7' 7)
        (by decide : IsHex '5' 5)
    exact .escaped (.code code) (letters_self (by decide))
  have content : Letters ("\\ud834\\uDD1e".toList) (String.ofList [clef]).toList := by
    have upper : IsUnit ['d', '8', '3', '4'] (0xD800 + (clef.toNat - 0x10000) / 0x400) :=
      .digits (by decide : IsHex 'd' 13) (by decide : IsHex '8' 8) (by decide : IsHex '3' 3)
        (by decide : IsHex '4' 4)
    have lower : IsUnit ['D', 'D', '1', 'e'] (0xDC00 + (clef.toNat - 0x10000) % 0x400) :=
      .digits (by decide : IsHex 'D' 13) (by decide : IsHex 'D' 13) (by decide : IsHex '1' 1)
        (by decide : IsHex 'e' 14)
    rw [String.toList_ofList]
    exact .escaped (.pair (by decide) upper lower) .nil
  have inner := Spells.object (.lastMember (tightMember "city" rfl (.number number_spelled)))
  have hollow := tight (.emptyArray (by decide : IsSpacing ['\n']))
  have values := Spells.array (.moreElements (tight inner)
    (.moreElements hollow (.lastElement (.element spacing_blank .yes spacing_nil))))
  have first := Spells.member (by decide : IsSpacing ['\t']) key spacing_blank
    (.element spacing_blank (.text content) spacing_nil)
  have later := Spells.moreMembers (tightMember "more" rfl values)
    (.lastMember (tightMember "city" rfl .null))
  exact spells_of_eq (.moreMembers first later) (by decide +kernel)

theorem roaming_sparse : Fields.IsSparse fieldNames roamingObject := by
  constructor
  · decide +kernel
  · intro entry member known
    simp only [roamingObject, List.mem_cons, List.not_mem_nil, or_false] at member
    rcases member with rfl | rfl | rfl
    · exact .inr ⟨_, rfl⟩
    · exact absurd known (by decide +kernel)
    · exact .inl rfl

def listingText (second : List Char) : List Char :=
  " [\x7b".toList ++ roamingText.toList ++ "\x7d ,\x7b".toList ++ second ++ "\x7d]\n".toList

theorem listing_spelled {entries : List (String × Value)} {second : List Char}
    (spelled : Spells (.members entries) second) :
    Spells (.element (.array ([roamingObject, entries].map .object))) (listingText second) := by
  have first := Spells.element spacing_nil (.object roaming_spelled) spacing_blank
  have both := Spells.array (.moreElements first (.lastElement (tight (.object spelled))))
  refine spells_of_eq (.element spacing_blank both (by decide : IsSpacing ['\n'])) ?_
  simp [listingText]

-- With a status that is a text, both entries are read. A status that is a number, or a second one,
-- spoils the first entry as well.
theorem roaming_listing :
    snapshotCodec.decode (Utf8.encode (listingText "\"status\":\"x\"".toList)) =
        .ok [Subscriber.ofObject roamingObject, Subscriber.ofObject [("status", .text "x")]] ∧
      (Subscriber.ofObject roamingObject).keyId = String.ofList [clef] ∧
      (Subscriber.ofObject roamingObject).city = "" ∧
      (∃ error, snapshotCodec.decode (Utf8.encode (listingText "\"status\":-0.50e+3".toList)) =
        .error error) ∧
      ∃ error, snapshotCodec.decode
        (Utf8.encode (listingText "\"status\":null,\"status\":null".toList)) = .error error := by
  have content : Letters ['x'] "x".toList := letters_self (by decide)
  have told := listing_spelled (.lastMember (tightMember "status" rfl (.text content)))
  have number := listing_spelled (.lastMember (tightMember "status" rfl (.number number_spelled)))
  have twice := listing_spelled (.moreMembers (tightMember "status" rfl .null)
    (.lastMember (tightMember "status" rfl .null)))
  have known : "status" ∈ fieldNames := by decide +kernel
  refine ⟨?_, by decide +kernel, by decide +kernel, ?_, ?_⟩
  · refine (snapshot_sparse told).1 ?_
    have status : Fields.IsSparse fieldNames [("status", .text "x")] := by
      refine ⟨by decide +kernel, fun entry member _ => ?_⟩
      obtain rfl := List.mem_singleton.mp member
      exact .inr ⟨_, rfl⟩
    exact List.forall_mem_cons.mpr ⟨roaming_sparse, List.forall_mem_singleton.mpr status⟩
  · refine (snapshot_sparse number).2
      ⟨_, List.mem_cons_of_mem _ List.mem_cons_self, fun sparse => ?_⟩
    rcases sparse.lenient _ List.mem_cons_self known with same | ⟨_, same⟩ <;> cases same
  · refine (snapshot_sparse twice).2
      ⟨_, List.mem_cons_of_mem _ List.mem_cons_self, fun sparse => ?_⟩
    exact absurd (sparse.once "status" known) (by decide +kernel)

end Listing

end SellerDirectory.Registry
