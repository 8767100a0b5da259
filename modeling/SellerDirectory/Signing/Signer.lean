import SellerDirectory.Config
import SellerDirectory.Signing.Header

-- A signing identity: whose requests are signed, and with which key.

namespace SellerDirectory.Signing

open Text

structure Signer where
  subscriberId : String
  uniqueKeyId : String
  seed : List UInt8
  deriving DecidableEq

namespace Signer

def ofKey (scheme : Scheme) (privateKey : Option String) (subscriberId uniqueKeyId : String) :
    Except Failure Signer :=
  match privateKey with
  | none => .error (.notConfigured "PRIVATE_KEY")
  | some text => (seedOfText scheme text).map fun seed => { subscriberId, uniqueKeyId, seed }

-- The signer that is configured. Of the settings it needs, the ids are looked at first.
def ofConfig (scheme : Scheme) (config : Config) : Except Failure Signer :=
  match config.subscriberId, config.uniqueKeyId with
  | none, _ => .error (.notConfigured "SUBSCRIBER_ID")
  | some _, none => .error (.notConfigured "UNIQUE_KEY_ID")
  | some subscriberId, some uniqueKeyId =>
    ofKey scheme config.privateKey subscriberId uniqueKeyId

def publicKey (scheme : Scheme) (signer : Signer) : String :=
  Base64.text (scheme.publicKey signer.seed)

def header (scheme : Scheme) (signer : Signer) (body : List UInt8) (created lifetime : Int) :
    Header where
  subscriberId := signer.subscriberId
  uniqueKeyId := signer.uniqueKeyId
  algorithm := algorithmName
  created := created
  expires := created + lifetime
  signed := signedNames
  signature := signatureText scheme signer.seed ⟨created, created + lifetime⟩ body

-- The signer for a log, without its key.
def description (signer : Signer) : String :=
  "Signer \x7b subscriber_id: " ++ quoted signer.subscriberId
    ++ ", unique_key_id: " ++ quoted signer.uniqueKeyId ++ ", .. \x7d"

end Signer

end SellerDirectory.Signing
