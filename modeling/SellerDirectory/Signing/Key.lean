import SellerDirectory.Failure
import SellerDirectory.Signing.Message
import SellerDirectory.Signing.Scheme
import SellerDirectory.Text.Blank

-- Keys as text. A private key is the Base64 of a seed, or of a seed followed by its public key; a
-- public key is the Base64 of its bytes.

namespace SellerDirectory.Signing

open Text

def seedOfBytes (scheme : Scheme) (bytes : List UInt8) : Except Failure (List UInt8) :=
  if bytes.length = 64 then
    if scheme.publicKey (bytes.take 32) = bytes.drop 32 then .ok (bytes.take 32)
    else .error .keyHalvesDiffer
  else if bytes.length = 32 then .ok bytes
  else .error (.keyLength bytes.length)

def seedOfText (scheme : Scheme) (text : String) : Except Failure (List UInt8) :=
  let key := trimmed text.toList
  if key.isEmpty then .error (.notConfigured "PRIVATE_KEY")
  else match Base64.decode (Utf8.encode key) with
    | .error error => .error (.keyNotBase64 error)
    | .ok bytes => seedOfBytes scheme bytes

def publicKeyOfText (scheme : Scheme) (text : String) : Except Failure (List UInt8) :=
  match Base64.decode (Utf8.encode (trimmed text.toList)) with
  | .error error => .error (.publicKeyNotBase64 error)
  | .ok bytes =>
    if bytes.length = 32 then
      if scheme.isKey bytes then .ok bytes else .error .notAPublicKey
    else .error (.publicKeyLength bytes.length)

def signatureText (scheme : Scheme) (seed : List UInt8) (window : Window) (body : List UInt8) :
    String :=
  Base64.text (scheme.sign seed (message window body))

def signBody (scheme : Scheme) (privateKey : String) (body : List UInt8)
    (created lifetime : Int) : Except Failure String :=
  (seedOfText scheme privateKey).map fun seed =>
    signatureText scheme seed ⟨created, created + lifetime⟩ body

-- Whether a signature of a body for a window holds. One of the wrong length holds for no body; one
-- that is not Base64 is an error.
def verifyBody (scheme : Scheme) (publicKey : String) (body : List UInt8) (window : Window)
    (signature : String) : Except Failure Bool :=
  match publicKeyOfText scheme publicKey with
  | .error failure => .error failure
  | .ok key =>
    match Base64.decode (Utf8.encode (trimmed signature.toList)) with
    | .error error => .error (.signatureNotBase64 error)
    | .ok bytes =>
      .ok (bytes.length = 64 && scheme.verify key (message window body) bytes)

structure KeyPair where
  publicKey : String
  privateKey : String
  deriving DecidableEq

namespace KeyPair

def ofSeed (scheme : Scheme) (seed : List UInt8) : KeyPair where
  publicKey := Base64.text (scheme.publicKey seed)
  privateKey := Base64.text (seed ++ scheme.publicKey seed)

-- The pair for a log, where the private key must not appear.
def description (pair : KeyPair) : String :=
  "KeyPair \x7b public_key: " ++ quoted pair.publicKey
    ++ ", private_key: \"<redacted>\" \x7d"

end KeyPair

end SellerDirectory.Signing
