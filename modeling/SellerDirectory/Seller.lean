import SellerDirectory.Json.Record

-- Sellers: participants of a network that a registry lists under a domain, in one environment of
-- the registry.

namespace SellerDirectory

open Json

structure Scope where
  domain : String
  environment : String
  deriving DecidableEq

structure Key where
  sellerId : String
  scope : Scope
  deriving DecidableEq

def Key.text (key : Key) : String :=
  key.scope.environment ++ "/" ++ key.scope.domain ++ "/" ++ key.sellerId

structure Seller where
  sellerId : String
  domain : String
  environment : String
  -- The registry's own status of the participant.
  status : String
  kind : String
  url : String
  country : String
  city : String
  validFrom : Option Time.Instant
  validUntil : Option Time.Instant
  -- Listed in the last snapshot of the registry.
  active : Bool
  -- The registry's entry as JSON.
  entry : String
  lastSeen : Time.Instant
  createdAt : Time.Instant
  updatedAt : Time.Instant
  deriving DecidableEq

namespace Seller

def scope (seller : Seller) : Scope :=
  ⟨seller.domain, seller.environment⟩

def key (seller : Seller) : Key :=
  ⟨seller.sellerId, seller.scope⟩

def codec : Codec Seller :=
  Codec.record "Seller"
    [String, String, String, String, String, String, String, String, Option Time.Instant,
      Option Time.Instant, Bool, String, Time.Instant, Time.Instant, Time.Instant]
    (.required "seller_id" .text, .required "domain" .text, .required "registry_env" .text,
      .required "status" .text, .required "type" .text, .required "subscriber_url" .text,
      .required "country" .text, .required "city" .text, .nullable "valid_from" .time,
      .nullable "valid_until" .time, .required "active" .boolean, .required "registry_raw" .text,
      .required "last_seen_in_registry" .time, .required "created_at" .time,
      .required "updated_at" .time, ())
    (fun s => (s.sellerId, s.domain, s.environment, s.status, s.kind, s.url, s.country, s.city,
      s.validFrom, s.validUntil, s.active, s.entry, s.lastSeen, s.createdAt, s.updatedAt, ()))
    (fun (sellerId, domain, environment, status, kind, url, country, city, validFrom, validUntil,
        active, entry, lastSeen, createdAt, updatedAt, _) =>
      { sellerId, domain, environment, status, kind, url, country, city, validFrom, validUntil,
        active, entry, lastSeen, createdAt, updatedAt })

end Seller

end SellerDirectory
