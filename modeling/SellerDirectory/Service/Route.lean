import SellerDirectory.Service.Message

-- Which paths the service knows, and what it takes from a query.

namespace SellerDirectory.Service

open Http Text

inductive Route where
  | health
  | sync
  -- The status of one seller, whose id is the last segment of the path.
  | status (segment : List UInt8)
  | pending
  deriving DecidableEq

namespace Route

def segments? (path : List UInt8) : Option (List (List UInt8)) :=
  match pieces '/'.toUInt8 path with
  | [] :: segments => some segments
  | _ => none

-- The route of a path. Paths are compared as they are sent, before any decoding.
def ofPath? (path : List UInt8) : Option Route := do
  let segments ← segments? path
  if segments = ["health"].map Utf8.bytes then return .health
  else if segments = ["v1", "internal", "registry-sync"].map Utf8.bytes then return .sync
  else if segments = ["v1", "catalog-sync", "pending"].map Utf8.bytes then return .pending
  else if segments.take 3 = ["v1", "catalog-sync", "sellers"].map Utf8.bytes then
    match segments.drop 3 with
    | [segment] => if segment.isEmpty then none else return .status segment
    | _ => none
  else none

def takes (route : Route) (method : String) : Bool :=
  match route with
  | .sync => method = "POST"
  | _ => method = "GET" || method = "HEAD"

end Route

-- The value of a name that a query has at most once.
def single? (name : String) (query : List (String × String)) : Option (Option String) :=
  match query.filter fun (given, _) => given = name with
  | [] => some none
  | [(_, value)] => some (some value)
  | _ => none

def size? (name : String) (query : List (String × String)) : Option (Option Nat) := do
  match ← single? name query with
  | none => return none
  | some value => return some (← Numeral.unsigned? Numeral.maxUnsigned64 value.toList)

structure StatusQuery where
  domain : Option String
  environment : Option String
  deriving DecidableEq

def StatusQuery.ofPairs? (query : List (String × String)) : Option StatusQuery := do
  return ⟨← single? "domain" query, ← single? "registry_env" query⟩

structure PendingQuery where
  domain : Option String
  environment : Option String
  statuses : Option String
  limit : Option Nat
  page : Option Nat
  deriving DecidableEq

def PendingQuery.ofPairs? (query : List (String × String)) : Option PendingQuery := do
  return ⟨← single? "domain" query, ← single? "registry_env" query, ← single? "status" query,
    ← size? "limit" query, ← size? "page" query⟩

end SellerDirectory.Service
