import SellerDirectory.Json.Codec
import SellerDirectory.Text.Blank

-- How far the pull of a seller's catalog has come.

namespace SellerDirectory.Catalog

open Json

inductive Status where
  | notSynced
  | syncing
  | synced
  | failed
  deriving DecidableEq

namespace Status

def name : Status → String
  | .notSynced => "NOT_SYNCED"
  | .syncing => "SYNCING"
  | .synced => "SYNCED"
  | .failed => "FAILED"

def known : List (String × Status) :=
  [.notSynced, .syncing, .synced, .failed].map fun status => (status.name, status)

-- The status that a text names, blanks around it aside; or else the name, which is no status.
def ofText (text : String) : Except String Status :=
  let name := Text.trim text
  match known.lookup name with
  | some status => .ok status
  | none => .error name

def pending : List Status :=
  [.notSynced, .failed]

def codec : Codec Status :=
  .variant known name

end Status

end SellerDirectory.Catalog
