import SellerDirectory.Catalog.Status
import SellerDirectory.Seller

-- What is kept about the pulls of one seller's catalog, and the view of it that a status request
-- answers with.

namespace SellerDirectory.Catalog

open Json

structure State where
  sellerId : String
  domain : String
  environment : String
  status : Status
  lastPull : Option Time.Instant
  lastSuccess : Option Time.Instant
  lastError : Option String
  -- Counts the pulls; a signed number of 64 bits.
  version : Int
  updatedAt : Time.Instant
  deriving DecidableEq

namespace State

def key (state : State) : Key :=
  ⟨state.sellerId, state.domain, state.environment⟩

def initial (seller : Seller) (now : Time.Instant) : State where
  sellerId := seller.sellerId
  domain := seller.domain
  environment := seller.environment
  status := .notSynced
  lastPull := none
  lastSuccess := none
  lastError := none
  version := 0
  updatedAt := now

def codec : Codec State :=
  Codec.record "SellerCatalogState"
    [String, String, String, Status, Option Time.Instant, Option Time.Instant, Option String, Int,
      Time.Instant]
    (.required "seller_id" .text, .required "domain" .text, .required "registry_env" .text,
      .required "status" Status.codec, .nullable "last_pull_at" .time,
      .nullable "last_success_at" .time, .nullable "last_error" .text,
      .required "sync_version" .signed64, .required "updated_at" .time, ())
    (fun s => (s.sellerId, s.domain, s.environment, s.status, s.lastPull, s.lastSuccess,
      s.lastError, s.version, s.updatedAt, ()))
    (fun (sellerId, domain, environment, status, lastPull, lastSuccess, lastError, version,
        updatedAt, _) =>
      { sellerId, domain, environment, status, lastPull, lastSuccess, lastError, version,
        updatedAt })

end State

structure Progress where
  sellerId : String
  domain : String
  environment : String
  status : Status
  lastPull : Option Time.Instant
  lastSuccess : Option Time.Instant
  lastError : Option String
  version : Int
  lastSeen : Time.Instant
  deriving DecidableEq

namespace Progress

def ofState (seller : Seller) (state : State) : Progress where
  sellerId := state.sellerId
  domain := state.domain
  environment := state.environment
  status := state.status
  lastPull := state.lastPull
  lastSuccess := state.lastSuccess
  lastError := state.lastError
  version := state.version
  lastSeen := seller.lastSeen

-- A seller without a state counts as never pulled.
def unstarted (seller : Seller) : Progress where
  sellerId := seller.sellerId
  domain := seller.domain
  environment := seller.environment
  status := .notSynced
  lastPull := none
  lastSuccess := none
  lastError := none
  version := 0
  lastSeen := seller.lastSeen

def codec : Codec Progress :=
  Codec.record "CatalogSyncStatus"
    [String, String, String, Status, Option Time.Instant, Option Time.Instant, Option String, Int,
      Time.Instant]
    (.required "seller_id" .text, .required "domain" .text, .required "registry_env" .text,
      .required "status" Status.codec, .nullable "last_pull_at" .time,
      .nullable "last_success_at" .time, .nullable "last_error" .text,
      .required "sync_version" .signed64, .required "registry_last_seen_at" .time, ())
    (fun p => (p.sellerId, p.domain, p.environment, p.status, p.lastPull, p.lastSuccess,
      p.lastError, p.version, p.lastSeen, ()))
    (fun (sellerId, domain, environment, status, lastPull, lastSuccess, lastError, version,
        lastSeen, _) =>
      { sellerId, domain, environment, status, lastPull, lastSuccess, lastError, version,
        lastSeen })

end Progress

end SellerDirectory.Catalog
