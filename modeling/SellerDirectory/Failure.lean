import SellerDirectory.Base64
import SellerDirectory.Json.Error
import SellerDirectory.Seller

-- What can go wrong, by cause. Every cause belongs to one kind, and its message begins with the
-- name of that kind.

namespace SellerDirectory

inductive FailureKind where
  | configuration
  | encoding
  | crypto
  | registry
  | persistence
  | serialization
  deriving DecidableEq

def FailureKind.name : FailureKind → String
  | .configuration => "configuration"
  | .encoding => "encoding"
  | .crypto => "crypto"
  | .registry => "upstream"
  | .persistence => "persistence"
  | .serialization => "serialization"

inductive HeaderFault where
  | scheme
  | pair
  | unquoted
  | unterminated
  | notANumber (parameter : String)
  | missing (parameter : String)
  | keyId
  deriving DecidableEq

def HeaderFault.message : HeaderFault → String
  | .scheme => "missing Signature scheme"
  | .pair => "expected key=value"
  | .unquoted => "unquoted value"
  | .unterminated => "unterminated value"
  | .notANumber parameter => parameter
  | .missing parameter => "missing " ++ parameter
  | .keyId => "keyId"

inductive ColumnFault where
  | time (error : Time.ReadError)
  | status (text : String)
  deriving DecidableEq

inductive StoredType where
  | real
  | text
  deriving DecidableEq

def StoredType.name : StoredType → String
  | .real => "Real"
  | .text => "Text"

inductive Failure where
  | reported (kind : FailureKind) (text : String)
  | during (operation : String) (cause : Failure)
  | undecodable (error : Json.DecodeError)
  | notConfigured (setting : String)
  | notACount (setting value : String)
  | zeroInterval
  | keyNotBase64 (error : Base64.DecodeError)
  | keyLength (length : Nat)
  | keyHalvesDiffer
  | publicKeyNotBase64 (error : Base64.DecodeError)
  | publicKeyLength (length : Nat)
  | notAPublicKey
  | signatureNotBase64 (error : Base64.DecodeError)
  | malformedHeader (fault : HeaderFault)
  | noResponse (reason : String)
  | unsendable
  | cutShort (reason : String)
  | refused (status : Nat) (body : String)
  | badSnapshot (error : Json.DecodeError)
  | gaveUp (domain : String) (attempts : Nat) (last : Failure)
  | noSuchRow (key : Key)
  | orphanState
  | noRows
  | nullColumn (table column : String)
  | unknownColumn (column : String)
  | duplicateKey (table : String)
  | unreadable (column : Nat) (fault : ColumnFault)
  | mistyped (type : StoredType) (column : Nat) (name : String)
  -- A question to the database that is nested too deep for it.
  | tooDeep (most : Nat)
  | unknownStatus (text : String)
  | lockPoisoned
  | simulated (operation : String)
  | cannotOpen (path : String)

namespace Failure

def kind : Failure → FailureKind
  | reported kind _ => kind
  | during _ cause => cause.kind
  | undecodable _ => .serialization
  | notConfigured _ | notACount .. | zeroInterval | keyLength _ | keyHalvesDiffer => .configuration
  | keyNotBase64 _ | publicKeyNotBase64 _ | signatureNotBase64 _ | malformedHeader _ => .encoding
  | publicKeyLength _ | notAPublicKey => .crypto
  | noResponse _ | unsendable | cutShort _ | refused .. | badSnapshot _ | gaveUp .. => .registry
  | noSuchRow _ | orphanState | noRows | nullColumn .. | unknownColumn _ | duplicateKey _
  | unreadable .. | mistyped .. | tooDeep _ | unknownStatus _ | lockPoisoned | simulated _
  | cannotOpen _ => .persistence

end Failure

def ColumnFault.message : ColumnFault → String
  | .time error => error.message
  | .status text => "persistence error: unknown catalog status " ++ Text.quoted text

namespace Failure

def detail : Failure → String
  | reported _ text => text
  | during operation cause => operation ++ ": " ++ cause.detail
  | undecodable error => error.message
  | notConfigured setting => setting ++ " not configured"
  | notACount setting value =>
    setting ++ " must be a non-negative integer, got " ++ Text.quoted value
  | zeroInterval => "SYNC_INTERVAL_SECS must be greater than zero"
  | keyNotBase64 error => "error decoding signing private key: " ++ error.message
  | keyLength length => s!"signing private key must be 32 or 64 bytes, got {length}"
  | keyHalvesDiffer => "signing keypair halves do not match"
  | publicKeyNotBase64 error => "error decoding public key: " ++ error.message
  | publicKeyLength length => s!"public key must be 32 bytes, got {length}"
  | notAPublicKey =>
    "invalid ed25519 public key: signature error: Cannot decompress Edwards point"
  | signatureNotBase64 error => "unable to base64 decode received signature: " ++ error.message
  | malformedHeader fault => "malformed authorization header: " ++ fault.message
  | noResponse reason => "request failed: " ++ reason
  | unsendable => "request failed: builder error"
  | cutShort reason => "reading response body: " ++ reason
  | refused status body => s!"API request failed with status {status}: {body}"
  | badSnapshot error => "invalid lookup response: " ++ error.message
  | gaveUp domain attempts last =>
    s!"lookup {domain}: giving up after {attempts} attempts: {last.kind.name} error: "
      ++ last.detail
  | noSuchRow key => "update matched no row for seller " ++ key.text
  | orphanState => "FOREIGN KEY constraint failed"
  | noRows => "Query returned no rows"
  | nullColumn table column => s!"NOT NULL constraint failed: {table}.{column}"
  | unknownColumn column => "no such column: " ++ column
  | duplicateKey table =>
    s!"UNIQUE constraint failed: {table}.seller_id, {table}.domain, {table}.registry_env"
  | unreadable column fault =>
    s!"Conversion error from type Text at index: {column}, {fault.message}"
  | mistyped type column name =>
    s!"Invalid column type {type.name} at index: {column}, name: {name}"
  | tooDeep most => s!"Expression tree is too large (maximum depth {most})"
  | unknownStatus text => "unknown catalog status " ++ Text.quoted text
  | lockPoisoned => "participant store lock poisoned"
  | simulated operation => s!"simulated {operation} failure"
  | cannotOpen path => "unable to open database file: " ++ path

def message (failure : Failure) : String :=
  failure.kind.name ++ " error: " ++ failure.detail

-- The failure told as one within an operation. A decoding error keeps its own text.
def within (operation : String) : Failure → Failure
  | undecodable error => undecodable error
  | failure => during operation failure

end Failure

end SellerDirectory
