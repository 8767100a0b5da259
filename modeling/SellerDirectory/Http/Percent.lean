import SellerDirectory.Text.Cut
import SellerDirectory.Text.Utf8

-- Percent encoding: in the path of a target, and in a query, where a plus sign is a space.

namespace SellerDirectory.Http

open Text

def hexValue? (byte : UInt8) : Option UInt8 :=
  if 48 ≤ byte && byte ≤ 57 then some (byte - 48)
  else if 65 ≤ byte && byte ≤ 70 then some (byte - 55)
  else if 97 ≤ byte && byte ≤ 102 then some (byte - 87)
  else none

def percentSign : UInt8 := 37

def escaped? : List UInt8 → Option (UInt8 × List UInt8)
  | high :: low :: rest => do
    return ((← hexValue? high) * 16 + (← hexValue? low), rest)
  | _ => none

theorem length_escaped?_lt {bytes rest : List UInt8} {byte : UInt8}
    (found : escaped? bytes = some (byte, rest)) : rest.length < bytes.length := by
  match bytes with
  | [] | [_] => simp [escaped?] at found
  | high :: low :: others =>
    simp only [escaped?, Option.bind_eq_bind, Option.pure_def, Option.bind_eq_some_iff,
      Option.some.injEq, Prod.mk.injEq] at found
    obtain ⟨_, _, _, _, _, rfl⟩ := found
    simp only [List.length_cons]
    omega

-- Escapes become their bytes; a percent sign without two digits after it stands for itself.
def percentDecode (bytes : List UInt8) : List UInt8 :=
  match bytes with
  | [] => []
  | byte :: rest =>
    if byte = percentSign then
      match _found : escaped? rest with
      | some (escaped, after) => escaped :: percentDecode after
      | none => byte :: percentDecode rest
    else byte :: percentDecode rest
termination_by bytes.length
decreasing_by
  · exact Nat.lt_succ_of_lt (length_escaped?_lt _found)
  · exact Nat.lt_succ_self _
  · exact Nat.lt_succ_self _

def segmentText? (bytes : List UInt8) : Option String :=
  (Utf8.decode? (percentDecode bytes)).map String.ofList

-- A name or value of a query; what is no text in it becomes U+FFFD.
def formText (bytes : List UInt8) : String :=
  let spaced := bytes.map fun byte => if byte = '+'.toUInt8 then ' '.toUInt8 else byte
  String.ofList (Utf8.repair (percentDecode spaced))

def queryPairs (query : List UInt8) : List (String × String) :=
  ((pieces '&'.toUInt8 query).filter fun piece => !piece.isEmpty).map fun piece =>
    let (name, value) := cut '='.toUInt8 piece
    (formText name, formText value)

end SellerDirectory.Http
