import SellerDirectory.Failure
import SellerDirectory.Text.Cut

-- What the program calls itself, and its settings, taken from named variables. A variable that is
-- blank counts as absent; absent settings have defaults, those of the signing identity apart.

namespace SellerDirectory

namespace About

def name : String := "registry-sync"

def version : String := "0.1.0"

def purpose : String := "Reconcile local sellers with the network registry"

end About

open Text

structure RetryPolicy where
  timeoutSeconds : Nat
  -- Attempts after the first one.
  retries : Nat
  backoffSeconds : Nat
  deriving DecidableEq

namespace RetryPolicy

def standard : RetryPolicy := ⟨30, 3, 5⟩

-- All attempts, the first one included; a count of 32 bits.
def attempts (policy : RetryPolicy) : Nat :=
  min (policy.retries + 1) Numeral.maxUnsigned32

end RetryPolicy

structure Config where
  databasePath : String
  registryUrl : String
  privateKey : Option String
  subscriberId : Option String
  uniqueKeyId : Option String
  environment : String
  domains : List String
  retry : RetryPolicy
  intervalSeconds : Nat
  bindAddress : String
  deriving DecidableEq

namespace Config

def defaultDomains : List String :=
  ["ONDC:RET10", "ONDC:RET11", "ONDC:RET12", "ONDC:RET13", "ONDC:RET14", "ONDC:RET15",
    "ONDC:RET16", "ONDC:RET17", "ONDC:RET18"]

def variableNames : List String :=
  ["DATABASE_PATH", "REGISTRY_URL", "PRIVATE_KEY", "SUBSCRIBER_ID", "UNIQUE_KEY_ID",
    "REGISTRY_ENV", "DOMAINS", "BIND_ADDR", "SYNC_INTERVAL_SECS", "REGISTRY_TIMEOUT_SECS",
    "REGISTRY_MAX_RETRIES", "REGISTRY_BACKOFF_SECS"]

def setting? (lookup : String → Option String) (name : String) : Option String :=
  ((lookup name).map trim).filter (· ≠ "")

def count (lookup : String → Option String) (name : String) (limit default : Nat) :
    Except Failure Nat :=
  match setting? lookup name with
  | none => .ok default
  | some value =>
    match Numeral.unsigned? limit value.toList with
    | some n => .ok n
    | none => .error (.notACount name value)

def ofLookup (lookup : String → Option String) : Except Failure Config := do
  let standard := RetryPolicy.standard
  let timeoutSeconds ←
    count lookup "REGISTRY_TIMEOUT_SECS" Numeral.maxUnsigned64 standard.timeoutSeconds
  let retries ← count lookup "REGISTRY_MAX_RETRIES" Numeral.maxUnsigned32 standard.retries
  let backoffSeconds ←
    count lookup "REGISTRY_BACKOFF_SECS" Numeral.maxUnsigned64 standard.backoffSeconds
  let intervalSeconds ← count lookup "SYNC_INTERVAL_SECS" Numeral.maxUnsigned64 21600
  if intervalSeconds = 0 then throw .zeroInterval
  return {
    databasePath := (setting? lookup "DATABASE_PATH").getD "registry_sync.db"
    registryUrl :=
      (setting? lookup "REGISTRY_URL").getD "https://preprod.registry.ondc.org/v2.0/lookup"
    privateKey := setting? lookup "PRIVATE_KEY"
    subscriberId := setting? lookup "SUBSCRIBER_ID"
    uniqueKeyId := setting? lookup "UNIQUE_KEY_ID"
    environment := (setting? lookup "REGISTRY_ENV").getD "preprod"
    domains := ((setting? lookup "DOMAINS").map parts).getD defaultDomains
    retry := { timeoutSeconds, retries, backoffSeconds }
    intervalSeconds
    bindAddress := (setting? lookup "BIND_ADDR").getD "0.0.0.0:8080"
  }

end Config

end SellerDirectory
