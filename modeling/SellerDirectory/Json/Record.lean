import SellerDirectory.Json.Codec

-- Records as JSON. A record is written as an object with its fields in order. It is read from an
-- object with its fields in any order, unknown ones among them, or from an array of its values.

namespace SellerDirectory.Json

structure Field (α : Type) where
  name : String
  codec : Codec α
  -- The value where an object has no such key; without one the field is required.
  absent : Option α
  -- The value where an array ends before it; without one the array is too short.
  cut : Option α

def Field.required {α : Type} (name : String) (codec : Codec α) : Field α :=
  ⟨name, codec, none, none⟩

def Field.nullable {α : Type} (name : String) (codec : Codec α) : Field (Option α) :=
  ⟨name, codec.optional, some none, none⟩

def Field.sparse (name : String) : Field String :=
  ⟨name, Codec.lenientText, some "", some ""⟩

def Fields : List Type → Type
  | [] => Unit
  | t :: ts => Field t × Fields ts

def Values : List Type → Type
  | [] => Unit
  | t :: ts => t × Values ts

-- The values of the fields seen so far.
def Slots : List Type → Type
  | [] => Unit
  | t :: ts => Option t × Slots ts

def Slots.empty : (ts : List Type) → Slots ts
  | [] => ()
  | _ :: ts => (none, Slots.empty ts)

namespace Fields

def entryTexts : {ts : List Type} → Fields ts → Values ts → List (List Char)
  | [], _, _ => []
  | _ :: _, (field, fields), (value, values) =>
    (Codec.writtenText field.name.toList ++ ':' :: field.codec.write value)
      :: entryTexts fields values

def write {ts : List Type} (fields : Fields ts) (values : Values ts) : List Char :=
  '\x7b' :: Codec.commaSeparated (entryTexts fields values) ++ ['\x7d']

-- The values of an array, in field order. The length error names the record and its length.
def readArray (expected : Expected) :
    {ts : List Type} → Fields ts → Nat → Reader (Values ts)
  | [], _, _ => return ()
  | _ :: _, (field, fields), position => do
    if ← hasElement (position == 0) then
      let value ← field.codec.read
      return (value, ← readArray expected fields (position + 1))
    else match field.cut with
      | some value => return (value, ← readArray expected fields (position + 1))
      | none => fail (.mismatch (.length position expected))

-- The value of one entry, after its key. A key that is no field's is passed over with its value; a
-- field that was seen before is refused.
def readEntry (key : String) : {ts : List Type} → Fields ts → Slots ts → Reader (Slots ts)
  | [], _, _ => do
    colon
    skipValue
    return ()
  | _ :: _, (field, fields), (slot, slots) => do
    if field.name == key then
      if slot.isSome then fail (.mismatch (.duplicate key))
      colon
      return (some (← field.codec.read), slots)
    else
      return (slot, ← readEntry key fields slots)

-- The entries of an object. Each takes at least one byte, so the count of bytes bounds them.
def readEntries {ts : List Type} (fields : Fields ts) : Nat → Bool → Slots ts → Reader (Slots ts)
  | 0, _, _ => fail .truncated
  | bound + 1, first, slots => do
    if ← hasEntry first then
      let key ← textBody
      readEntries fields bound false (← readEntry key fields slots)
    else return slots

def complete : {ts : List Type} → Fields ts → Slots ts → Except DecodeError (Values ts)
  | [], _, _ => .ok ()
  | _ :: _, (field, fields), (slot, slots) =>
    match slot <|> field.absent with
    | some value => (complete fields slots).map fun values => (value, values)
    | none => .error (.mismatch (.missing field.name))

def readObject {ts : List Type} (fields : Fields ts) : Reader (Values ts) := do
  let slots ← readEntries fields ((← get).length + 1) true (Slots.empty ts)
  let values ← (complete fields slots : Except DecodeError (Values ts))
  advance
  return values

def read (name : String) {ts : List Type} (fields : Fields ts) : Reader (Values ts) := do
  let b ← token
  if b == '['.toUInt8 then do
    advance
    let values ← readArray (.recordOf name ts.length) fields 0
    endArray
    return values
  else if b == '\x7b'.toUInt8 then do
    advance
    readObject fields
  else mismatched (.record name)

end Fields

def Codec.record {α : Type} (name : String) (ts : List Type) (fields : Fields ts)
    (toValues : α → Values ts) (ofValues : Values ts → α) : Codec α where
  read := do return ofValues (← Fields.read name fields)
  write a := Fields.write fields (toValues a)

end SellerDirectory.Json
