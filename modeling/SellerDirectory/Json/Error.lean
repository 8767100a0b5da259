import SellerDirectory.Text.Printable
import SellerDirectory.Time.Reader

-- Why a JSON text does not decode: it is malformed, it ends early, or it is well formed and does
-- not have the expected shape.

namespace SellerDirectory.Json

open Text

inductive Found where
  | null
  | boolean (value : Bool)
  | integer (value : Int)
  | real (digits : String)
  | text (value : String)
  | array
  | object

inductive Expected where
  | text
  | boolean
  | signed64
  | size
  | array
  | record (name : String)
  | recordOf (name : String) (fields : Nat)
  | time
  | null
  | variant

inductive Mismatch where
  | kind (found : Found) (expected : Expected)
  | value (found : Int) (expected : Expected)
  | length (found : Nat) (expected : Expected)
  | missing (field : String)
  | duplicate (field : String)
  | unknownVariant (name : String) (known : List String)
  | time (error : Time.ReadError)

inductive DecodeError where
  | malformed
  | truncated
  | mismatch (mismatch : Mismatch)

def Found.message : Found → String
  | .null => "null"
  | .boolean true => "boolean `true`"
  | .boolean false => "boolean `false`"
  | .integer n => "integer `" ++ String.ofList (Numeral.ofInt n) ++ "`"
  | .real digits => "floating point `" ++ digits ++ "`"
  | .text value => "string " ++ quoted value
  | .array => "sequence"
  | .object => "map"

def Expected.message : Expected → String
  | .text => "a string"
  | .boolean => "a boolean"
  | .signed64 => "i64"
  | .size => "usize"
  | .array => "a sequence"
  | .record name => "struct " ++ name
  | .recordOf name fields =>
    "struct " ++ name ++ " with " ++ String.ofList (Numeral.ofNat fields) ++ " elements"
  | .time => "an RFC 3339 formatted date and time string"
  | .null => "unit"
  | .variant => "variant identifier"

def nameList (names : List String) : String :=
  String.intercalate ", " (names.map fun name => "`" ++ name ++ "`")

def Mismatch.message : Mismatch → String
  | .kind found expected => "invalid type: " ++ found.message ++ ", expected " ++ expected.message
  | .value found expected =>
    "invalid value: " ++ (Found.integer found).message ++ ", expected " ++ expected.message
  | .length found expected =>
    "invalid length " ++ String.ofList (Numeral.ofNat found) ++ ", expected " ++ expected.message
  | .missing field => "missing field `" ++ field ++ "`"
  | .duplicate field => "duplicate field `" ++ field ++ "`"
  | .unknownVariant name known =>
    "unknown variant `" ++ name ++ "`, expected one of " ++ nameList known
  | .time error => error.message

def DecodeError.message : DecodeError → String
  | .malformed => "malformed JSON"
  | .truncated => "truncated JSON"
  | .mismatch fault => fault.message

end SellerDirectory.Json
