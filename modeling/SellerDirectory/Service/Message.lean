import SellerDirectory.Http.MediaType
import SellerDirectory.Http.Percent
import SellerDirectory.Json.Codec

-- Requests to the service and its responses. A response carries JSON: whether the request was
-- served, a message, and the data that was asked for.

namespace SellerDirectory.Service

open Http Json Text

structure Request where
  method : String
  target : String
  contentType : Option String
  body : List UInt8
  deriving DecidableEq

structure Response where
  status : Nat
  json : Option String
  deriving DecidableEq

namespace Request

def isSchemeByte (byte : UInt8) : Bool :=
  let c := Char.ofNat byte.toNat
  c.isAlphanum || c = '+' || c = '-' || c = '.'

-- What stands behind the scheme of an absolute target, from its host on.
def afterScheme? (target : List UInt8) : Option (List UInt8) :=
  match cut? ':'.toUInt8 target with
  | some (scheme, first :: second :: rest) =>
    if scheme.all isSchemeByte && [first, second] = Utf8.bytes "//" then some rest else none
  | _ => none

-- Path and query of a target: all of one that begins with a slash, and in an absolute one what
-- stands behind the host. A target of any other form names no path.
def pathAndQuery (target : List UInt8) : List UInt8 :=
  if target.head? = some '/'.toUInt8 then target
  else match afterScheme? target with
    | some rest => rest.dropWhile fun byte => !(Utf8.bytes "/?#").contains byte
    | none => []

def address (request : Request) : List UInt8 :=
  (cut '#'.toUInt8 (pathAndQuery (Utf8.bytes request.target))).1

def path (request : Request) : List UInt8 :=
  (cut '?'.toUInt8 request.address).1

def query (request : Request) : List (String × String) :=
  queryPairs (cut '?'.toUInt8 request.address).2

def hasJson (request : Request) : Bool :=
  (request.contentType.bind MediaType.ofText?).any MediaType.isJson

end Request

namespace Response

def bare (status : Nat) : Response := ⟨status, none⟩

def entry (name : String) (value : List Char) : List Char :=
  Codec.writtenText name.toList ++ ':' :: value

def object (entries : List (List Char)) : String :=
  String.ofList ('\x7b' :: Codec.commaSeparated entries ++ ['\x7d'])

def success {α : Type} (message : String) (codec : Codec α) (data : α) : Response :=
  ⟨200, some (object [entry "success" (Codec.boolean.write true),
    entry "message" (Codec.text.write message), entry "data" (codec.write data)])⟩

def refusal (status : Nat) (message : String) : Response :=
  ⟨status, some (object [entry "success" (Codec.boolean.write false),
    entry "message" (Codec.text.write message)])⟩

def withoutBody (response : Response) : Response :=
  { response with json := none }

end Response

end SellerDirectory.Service
