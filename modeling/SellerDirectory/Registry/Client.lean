import SellerDirectory.Registry.LookupRequest
import SellerDirectory.Signing.Signer

-- Lookups in the registry. A lookup is a signed request with the body of its domain. What may pass
-- (no response, half a response, a busy or broken registry) is tried again as often as the policy
-- allows; the first other outcome counts. How requests travel is left open.

namespace SellerDirectory.Registry

open Signing Text

-- A request to the registry, always with a body of JSON.
structure Request where
  url : String
  body : List UInt8
  authorization : String
  deriving DecidableEq

-- A response, with its body or with the reason why that ends early.
structure Response where
  status : Nat
  body : Except String (List UInt8)

inductive Verdict where
  | settled (result : Except Failure (List Subscriber))
  | again (failure : Failure)

-- A status with which the same request may succeed later.
def isPassing (status : Nat) : Bool :=
  status == 429 || (500 ≤ status && status ≤ 599)

def judge : Except String Response → Verdict
  | .error reason => .again (.noResponse reason)
  | .ok ⟨200, .error reason⟩ => .again (.cutShort reason)
  | .ok ⟨200, .ok body⟩ => .settled ((snapshotCodec.decode body).mapError .badSnapshot)
  | .ok ⟨status, body⟩ =>
    let failure := .refused status (String.ofList (Utf8.repair (body.toOption.getD [])))
    if isPassing status then .again failure else .settled (.error failure)

-- A text that can stand in a header: no control but the tab.
def isHeaderText (text : String) : Bool :=
  text.toList.all fun c => (c.toNat ≥ 0x20 && c.toNat ≠ 0x7F) || c == '\t'

-- Seconds for which the signature of a lookup is valid.
def lifetime : Int := 30

structure Client where
  url : String
  signer : Signer
  policy : RetryPolicy
  deriving DecidableEq

structure Transport (m : Type → Type) where
  now : m Int
  -- A response, or why there is none.
  send : Request → m (Except String Response)
  pause : m Unit

namespace Client

def ofConfig (scheme : Scheme) (config : Config) : Except Failure Client :=
  (Signer.ofConfig scheme config).map fun signer => ⟨config.registryUrl, signer, config.retry⟩

variable {m : Type → Type} [Monad m]

def attempt (scheme : Scheme) (transport : Transport m) (client : Client) (body : List UInt8) :
    m Verdict := do
  let header := client.signer.header scheme body (← transport.now) lifetime
  if isHeaderText header.text then
    return judge (← transport.send ⟨client.url, body, header.text⟩)
  else return .again .unsendable

-- The attempts from a number on, after which as many more may follow.
def attemptsFrom (scheme : Scheme) (transport : Transport m) (client : Client)
    (domain : String) (number : Nat) (log : List Event) (more : Nat) : m Fetched := do
  match ← client.attempt scheme transport (Utf8.bytes (LookupRequest.body domain)) with
  | .settled result => return ⟨result.mapError (·.within ("lookup " ++ domain)), log⟩
  | .again failure =>
    let attempts := client.policy.attempts
    let told := log ++ [.attemptFailed domain number attempts failure]
    match more with
    | 0 => return ⟨.error (.gaveUp domain attempts failure), told⟩
    | more + 1 =>
      transport.pause
      client.attemptsFrom scheme transport domain (number + 1) told more

def fetch (scheme : Scheme) (transport : Transport m) (client : Client) (domain : String) :
    m Fetched :=
  client.attemptsFrom scheme transport domain 1 [] (client.policy.attempts - 1)

end Client

end SellerDirectory.Registry
