import SellerDirectory.Text.Cut

-- Media types, as a content type names them: a type, a subtype that may have a suffix, and
-- parameters, of which only the form is checked.

namespace SellerDirectory.Http

open Text

def isTokenChar (c : Char) : Bool :=
  c.isAlphanum || "!#$%&'*+-.^_\x60|~".toList.contains c

def isQuotable (c : Char) : Bool :=
  0x20 ≤ c.toNat && c.toNat < 0x7F

inductive Place where
  | beforeName
  | inName
  | beforeValue
  | inValue
  | afterQuote
  | inQuotes
  | afterQuotes
  deriving DecidableEq

-- The place after one more character. Spaces may stand before a name and after a quoted value; the
-- first quoted character may be a quote.
def Place.after? (place : Place) (c : Char) : Option Place :=
  match place with
  | .beforeName =>
    if c = ' ' then some .beforeName
    else if isTokenChar c then some .inName
    else none
  | .inName => if c = '=' then some .beforeValue else if isTokenChar c then some .inName else none
  | .beforeValue =>
    if c = '"' then some .afterQuote else if isTokenChar c then some .inValue else none
  | .inValue => if c = ';' then some .beforeName else if isTokenChar c then some .inValue else none
  | .afterQuote => if isQuotable c then some .inQuotes else none
  | .inQuotes =>
    if c = '"' then some .afterQuotes else if isQuotable c then some .inQuotes else none
  | .afterQuotes =>
    if c = ';' then some .beforeName else if c = ' ' then some .afterQuotes else none

def Place.isEnd : Place → Bool
  | .inName | .afterQuote | .inQuotes => false
  | _ => true

def areParameters (text : List Char) : Bool :=
  (text.foldlM Place.after? .beforeName).any Place.isEnd

structure MediaType where
  kind : List Char
  subtype : List Char
  suffix : Option (List Char)
  deriving DecidableEq

namespace MediaType

-- The subtype before its last plus sign, and the suffix after it. A plus sign in front belongs to
-- the subtype.
def splitSuffix (text : List Char) : List Char × Option (List Char) :=
  match cut? '+' text.reverse with
  | some (suffix, subtype) =>
    if subtype.isEmpty then (text, none) else (subtype.reverse, some suffix.reverse)
  | none => (text, none)

def ofText? (text : String) : Option MediaType := do
  let (kind, rest) ← cut? '/' (text.toList.map Char.toLower)
  let (name, isPlain, parameters) :=
    match cut? ';' rest with
    | some (name, parameters) => (name, false, parameters)
    | none => (rest, true, [])
  let (subtype, suffix) := splitSuffix name
  if !kind.isEmpty && kind.all isTokenChar && name.all isTokenChar
      && (isPlain || !name.isEmpty) && areParameters parameters then
    return ⟨kind, subtype, suffix⟩
  else none

-- JSON itself, or a format that is written as JSON.
def isJson (mediaType : MediaType) : Bool :=
  mediaType.kind = "application".toList
    && (mediaType.subtype = "json".toList || mediaType.suffix = some "json".toList)

end MediaType

end SellerDirectory.Http
