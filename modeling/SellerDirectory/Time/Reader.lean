import SellerDirectory.Text.Blank
import SellerDirectory.Text.Numeral
import SellerDirectory.Text.Utf8
import SellerDirectory.Time.Instant

-- Instants read from text, in two forms. The strict form, for stored rows and for what a registry
-- sends, is RFC 3339 to the letter. The lenient form, for messages, also takes numbers without
-- padding, white space, years of any length behind a sign, and `UTC` as an offset.

namespace SellerDirectory.Time

open Text

inductive ReadError where
  | tooShort
  | invalid
  | outOfRange
  | tooLong
  | impossible
  deriving DecidableEq

def ReadError.message : ReadError → String
  | .tooShort => "premature end of input"
  | .invalid => "input contains invalid characters"
  | .outOfRange => "input is out of range"
  | .tooLong => "trailing input"
  | .impossible => "no possible date and time matching input"

def orElse {α : Type} (error : ReadError) : Option α → Except ReadError α
  | some a => .ok a
  | none => .error error

def expect (c : Char) : List Char → Except ReadError (List Char)
  | [] => .error .tooShort
  | first :: rest => if first = c then .ok rest else .error .invalid

def shortNumber (most : Nat) (text : List Char) : Except ReadError (Nat × List Char) :=
  match text with
  | [] => .error .tooShort
  | first :: _ =>
    if Numeral.isDigit first then
      let digits := (text.take most).takeWhile Numeral.isDigit
      .ok (Numeral.value digits, text.drop digits.length)
    else .error .invalid

-- The nanoseconds of a fraction, if one follows; digits after the ninth are dropped.
def fraction : List Char → Except ReadError (Nat × List Char)
  | '.' :: text => do
    let (n, rest) ← shortNumber 9 text
    let read := text.length - rest.length
    return (n * Nat.pow 10 (9 - read), rest.dropWhile Numeral.isDigit)
  | text => .ok (0, text)

-- Two digits. A text of less than two bytes is too short for them.
def twoDigits : List Char → Except ReadError (Nat × List Char)
  | a :: b :: rest =>
    if Numeral.isDigit a && Numeral.isDigit b then .ok (Numeral.value [a, b], rest)
    else .error .invalid
  | text => .error (if (Utf8.encode text).length < 2 then .tooShort else .invalid)

def offsetMinutes (text : List Char) : Except ReadError (Nat × List Char) := do
  let (n, rest) ← twoDigits text
  if n < 60 then return (n, rest) else throw .outOfRange

-- Minutes ahead of UTC. What may stand between hours and minutes is left to the caller.
def offset (between : List Char → Except ReadError (List Char)) :
    List Char → Except ReadError (Int × List Char)
  | [] => .error .tooShort
  | first :: text => do
    if first = 'Z' || first = 'z' then return (0, text)
    let ahead ←
      if first = '+' then pure true
      else if first = '-' || first = '\u2212' then pure false
      else .error .invalid
    let (hours, rest) ← twoDigits text
    let (minutes, rest) ← offsetMinutes (← between rest)
    let total : Int := hours * 60 + minutes
    return (if ahead then total else -total, rest)

def checkedOffset (minutes : Int) : Except ReadError Int :=
  if -1440 < minutes && minutes < 1440 then .ok minutes else .error .outOfRange

namespace Strict

def digits (count : Nat) (text : List Char) : Except ReadError (Nat × List Char) :=
  let run := text.take count
  if run.length = count && run.all Numeral.isDigit then .ok (Numeral.value run, text.drop count)
  else .error .invalid

def mark (accepted : Char → Bool) : List Char → Except ReadError (List Char)
  | first :: rest => if accepted first then .ok rest else .error .invalid
  | [] => .error .invalid

def date (text : List Char) : Except ReadError (Date × List Char) := do
  let (year, text) ← digits 4 text
  let (month, text) ← digits 2 (← mark (· == '-') text)
  let (day, text) ← digits 2 (← mark (· == '-') text)
  return (← orElse .outOfRange (Date.of? year month day), text)

def clock (text : List Char) : Except ReadError (Clock × List Char) := do
  let (hour, text) ← digits 2 text
  let (minute, text) ← digits 2 (← mark (· == ':') text)
  let (second, text) ← digits 2 (← mark (· == ':') text)
  let (nano, text) ← fraction text
  return (← orElse .outOfRange (Clock.of? hour minute second nano), text)

-- Reads the strict form. The text must have the 19 bytes that date and time take.
def read (text : List Char) : Except ReadError Instant := do
  if (Utf8.encode text).length < 19 then throw .tooShort
  let (date, text) ← date text
  let (clock, text) ← clock (← mark (fun c => c == 'T' || c == 't' || c == ' ') text)
  let (ahead, text) ← offset (expect ':') text
  unless text.isEmpty do throw .tooLong
  orElse .outOfRange (Instant.ofLocal? date clock (← checkedOffset ahead))

end Strict

namespace Lenient

def bounded (least most : Nat) (text : List Char) : Except ReadError (Nat × List Char) := do
  let (n, text) ← shortNumber 2 (dropBlanks text)
  if least ≤ n && n ≤ most then return (n, text) else throw .outOfRange

def year (text : List Char) : Except ReadError (Int × List Char) := do
  match dropBlanks text with
  | '-' :: text =>
    let (n, rest) ← shortNumber text.length text
    if n ≤ 2147483648 then return (-(n : Int), rest) else throw .outOfRange
  | '+' :: text =>
    let (n, rest) ← shortNumber text.length text
    if n ≤ 2147483647 then return ((n : Int), rest) else throw .outOfRange
  | text =>
    let (n, rest) ← shortNumber 4 text
    return ((n : Int), rest)

def separator (c : Char) (text : List Char) : Except ReadError (List Char) :=
  expect c (dropBlanks text)

def loose (text : List Char) : Except ReadError (List Char) :=
  .ok (text.dropWhile fun c => c == ':' || isBlank c)

def zone : List Char → Except ReadError (Int × List Char)
  | a :: b :: c :: rest =>
    if [a, b, c].map Char.toUpper = ['U', 'T', 'C'] then .ok (0, rest)
    else offset loose (a :: b :: c :: rest)
  | text => offset loose text

-- Reads the lenient form. That there is such a day is checked last.
def read (text : List Char) : Except ReadError Instant := do
  let (year, text) ← year text
  let (month, text) ← bounded 1 12 (← separator '-' text)
  let (day, text) ← bounded 1 31 (← separator '-' text)
  let text ← match text with
    | [] => throw .tooShort
    | c :: rest => if c = 'T' || c = 't' || c = ' ' then pure rest else throw .invalid
  let (hour, text) ← bounded 0 23 text
  let (minute, text) ← bounded 0 59 (← separator ':' text)
  let (second, text) ← bounded 0 60 (← separator ':' text)
  let (nano, text) ← fraction text
  let (ahead, text) ← zone (dropBlanks text)
  unless (dropBlanks text).isEmpty do throw .tooLong
  let date ← orElse .outOfRange (Date.of? year month day)
  let clock ← orElse .outOfRange (Clock.of? hour minute second nano)
  orElse .impossible (Instant.ofLocal? date clock (← checkedOffset ahead))

end Lenient

end SellerDirectory.Time
