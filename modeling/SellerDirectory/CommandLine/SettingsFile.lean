import SellerDirectory.Text.Alphanumeric
import SellerDirectory.Text.Blank
import SellerDirectory.Text.Numeral
import SellerDirectory.Text.Utf8

-- Files of settings: lines of the form `name=value`, with comments, quotes that may run over
-- several lines, escapes, and variables whose values are put in.

namespace SellerDirectory.CommandLine

open Text

structure LineFault where
  line : List Char
  place : Nat
  deriving DecidableEq

def LineFault.message (fault : LineFault) : String :=
  "Error parsing line: '" ++ String.ofList fault.line ++ "', error at line index: "
    ++ String.ofList (Numeral.ofNat fault.place)

def byteLength (text : List Char) : Nat :=
  (Utf8.encode text).length

def physicalLines : List Char → List (List Char)
  | [] => []
  | c :: rest =>
    if c = '\n' then [c] :: physicalLines rest
    else match physicalLines rest with
      | [] => [[c]]
      | line :: others => (c :: line) :: others

inductive Opening where
  | nothing
  | blank
  | escape
  | double
  | escapeInDouble
  | single
  | escapeInSingle
  deriving DecidableEq

def Opening.after (opening : Opening) (c : Char) : Opening :=
  let start :=
    if c = '\\' then .escape
    else if c = '"' then .double
    else if c = '\'' then .single
    else .nothing
  match opening with
  | .nothing => if isBlank c && c ≠ '\n' && c ≠ '\r' then .blank else start
  | .blank => start
  | .escape => .nothing
  | .double => if c = '\\' then .escapeInDouble else if c = '"' then .nothing else .double
  | .escapeInDouble => .double
  | .single => if c = '\\' then .escapeInSingle else if c = '\'' then .nothing else .single
  | .escapeInSingle => .single

inductive LineEnd where
  | leaves (opening : Opening)
  | comment (before : List Char)

-- Reads a line to its end or to a comment, which begins after a blank.
def lineEnd (opening : Opening) : List Char → LineEnd
  | [] => .leaves opening
  | c :: rest =>
    if opening = .blank && c = '#' then .comment []
    else match lineEnd (opening.after c) rest with
      | .comment before => .comment (c :: before)
      | .leaves opening => .leaves opening

def withoutEnd (line : List Char) : List Char :=
  match line.reverse with
  | '\n' :: '\r' :: rest => rest.reverse
  | '\n' :: rest => rest.reverse
  | _ => line

-- Puts lines together as long as something is open. A file must leave nothing open.
def logicalLines (begun : List Char) (opening : Opening) :
    List (List Char) → List (Except LineFault (List Char))
  | [] => if opening = .nothing then [] else [.error ⟨begun, byteLength begun⟩]
  | line :: others =>
    let whole := begun ++ line
    if (dropBlanks whole).head? = some '#' then .ok [] :: logicalLines [] .nothing others
    else match lineEnd opening line with
      | .comment before => .ok (begun ++ before) :: logicalLines [] .nothing others
      | .leaves .nothing => .ok (withoutEnd whole) :: logicalLines [] .nothing others
      | .leaves still => logicalLines whole still others

inductive Piece where
  | text (c : Char)
  | variableValue (name : List Char)
  deriving DecidableEq

inductive Reading where
  | plain (quoted : Bool)
  | escape (quoted : Bool)
  | single
  | name (quoted braced : Bool) (begun : List Char)
  -- After a blank, where only a comment may follow.
  | gap
  | comment
  deriving DecidableEq

def Reading.ofPlain (quoted : Bool) (c : Char) : Reading × List Piece :=
  if c = '$' then (.name quoted false [], [])
  else if c = '"' then (.plain (!quoted), [])
  else if c = '\\' then (.escape quoted, [])
  else if quoted then (.plain true, [.text c])
  else if c = '\'' then (.single, [])
  else if c = ' ' || c = '\t' then (.gap, [])
  else (.plain false, [.text c])

def escaped? (c : Char) : Option Char :=
  if "\\'\"$ ".toList.contains c then some c
  else if c = 'n' then some '\n'
  else none

-- One more character of a value: where the reader is after it, and what it adds to the value. A
-- name outside of braces ends before the first character that is no letter or number, and that
-- character stands for itself.
def Reading.after? (reading : Reading) (c : Char) : Option (Reading × List Piece) :=
  match reading with
  | .plain quoted => some (Reading.ofPlain quoted c)
  | .escape quoted => (escaped? c).map fun meant => (.plain quoted, [.text meant])
  | .single => some (if c = '\'' then (.plain false, []) else (.single, [.text c]))
  | .name quoted braced begun =>
    if isAlphanumeric c then some (.name quoted braced (begun ++ [c]), [])
    else if braced then
      some (if c = '\x7d' then (.plain quoted, [.variableValue begun])
        else (.name quoted true (begun ++ [c]), []))
    else if c = '\x7b' && begun.isEmpty then some (.name quoted true [], [])
    else if c = '$' then some (.name quoted false [], [.variableValue begun])
    else some (.plain quoted, [.variableValue begun, .text c])
  | .gap =>
    if c = ' ' || c = '\t' then some (.gap, [])
    else if c = '#' then some (.comment, [])
    else none
  | .comment => some (.comment, [])

def Reading.atEnd? : Reading → Option (List Piece)
  | .plain quoted | .escape quoted => if quoted then none else some []
  | .single => none
  | .name quoted braced begun => if quoted || braced then none else some [.variableValue begun]
  | .gap | .comment => some []

def readValue (value : List Char) (place : Nat) (reading : Reading) :
    List Char → Except LineFault (List Piece)
  | [] =>
    match reading.atEnd? with
    | some pieces => .ok pieces
    | none => .error ⟨value, byteLength value - 1⟩
  | c :: rest =>
    match reading.after? c with
    | none => .error ⟨value, place⟩
    | some (further, pieces) => (readValue value (place + 1) further rest).map (pieces ++ ·)

structure Assignment where
  name : List Char
  value : List Piece
  deriving DecidableEq

def isNameStart (c : Char) : Bool := c.isAlpha || c = '_'

def isNameChar (c : Char) : Bool := c.isAlphanum || c = '_' || c = '.'

def readName? (text : List Char) : Option (List Char × List Char) :=
  if text.head?.any isNameStart then some (text.takeWhile isNameChar, text.dropWhile isNameChar)
  else none

def afterEquals? : List Char → Option (List Char)
  | '=' :: rest => some rest
  | _ => none

def isNothing : List Char → Bool
  | [] | '#' :: _ => true
  | _ => false

-- The assignment of a line, if there is one. The word `export` may stand before a name; it is a
-- name itself where an equals sign follows it.
def readLine (line : List Char) : Except LineFault (Option Assignment) :=
  let text := dropEndBlanks line
  let faultAt (rest : List Char) : LineFault := ⟨line, byteLength text - byteLength rest⟩
  let name (rest : List Char) : Except LineFault (List Char × List Char) :=
    match readName? rest with
    | some (name, after) => .ok (name, dropBlanks after)
    | none => .error (faultAt rest)
  let assigned (name rest : List Char) : Except LineFault (Option Assignment) :=
    let value := dropBlanks rest
    if isNothing value then .ok (some ⟨name, []⟩)
    else (readValue value 0 (.plain false) value).map fun pieces => some ⟨name, pieces⟩
  let expectEquals (name rest : List Char) : Except LineFault (Option Assignment) :=
    match afterEquals? rest with
    | some after => assigned name after
    | none => .error (faultAt rest)
  let start := dropBlanks text
  if isNothing start then .ok none
  else do
    let (first, rest) ← name start
    if first = "export".toList && (afterEquals? rest).isNone then
      let (second, after) ← name rest
      expectEquals second after
    else expectEquals first rest

-- The assignments of a file. A mark of byte order in front does not count.
def assignments (text : List Char) : Except LineFault (List Assignment) := do
  let text := match text with
    | '\uFEFF' :: rest => rest
    | _ => text
  let found ← (logicalLines [] .nothing (physicalLines text)).mapM fun line => do
    readLine (← line)
  return found.filterMap id

abbrev Variables := List (String × String)

def mentioned (all : List Assignment) : List String :=
  all.flatMap fun assignment =>
    String.ofList assignment.name :: assignment.value.filterMap fun piece =>
      match piece with
      | .text _ => none
      | .variableValue name => some (String.ofList name)

-- The value of a piece; a variable without a value stands for nothing.
def Piece.value (given : Variables) : Piece → List Char
  | .text c => [c]
  | .variableValue name => ((given.lookup (String.ofList name)).getD "").toList

def Assignment.apply (given : Variables) (assignment : Assignment) : Variables :=
  let name := String.ofList assignment.name
  if (given.lookup name).isSome then given
  else
    given ++ [(name, String.ofList (assignment.value.flatMap (Piece.value given)))]

def assign (given : Variables) (all : List Assignment) : Variables :=
  all.foldl Assignment.apply given

end SellerDirectory.CommandLine
