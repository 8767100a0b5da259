import SellerDirectory.Event
import SellerDirectory.Json.Record

-- Entries of a registry snapshot, and the sellers that they become.

namespace SellerDirectory.Registry

open Json

-- One entry as the registry sends it: texts only, with the empty text for what it leaves out.
structure Subscriber where
  subscriberId : String
  keyId : String
  branchId : String
  domain : String
  country : String
  city : String
  signingKey : String
  encryptionKey : String
  status : String
  validFrom : String
  validUntil : String
  created : String
  updated : String
  deriving DecidableEq

def sellerKind : String := "BPP"

def instant? (text : String) : Option Time.Instant :=
  (Time.Strict.read (Text.trimmed text.toList)).toOption

namespace Subscriber

def codec : Codec Subscriber :=
  Codec.record "Subscriber"
    [String, String, String, String, String, String, String, String, String, String, String,
      String, String]
    (.sparse "subscriber_id", .sparse "ukId", .sparse "br_id", .sparse "domain",
      .sparse "country", .sparse "city", .sparse "signing_public_key", .sparse "encr_public_key",
      .sparse "status", .sparse "valid_from", .sparse "valid_until", .sparse "created",
      .sparse "updated", ())
    (fun s => (s.subscriberId, s.keyId, s.branchId, s.domain, s.country, s.city,
      s.signingKey, s.encryptionKey, s.status, s.validFrom, s.validUntil, s.created, s.updated,
      ()))
    (fun (subscriberId, keyId, branchId, domain, country, city, signingKey,
        encryptionKey, status, validFrom, validUntil, created, updated, _) =>
      { subscriberId, keyId, branchId, domain, country, city, signingKey,
        encryptionKey, status, validFrom, validUntil, created, updated })

-- The active seller of an entry, under the scope that was looked up and not under the entry's own
-- domain.
def toSeller (subscriber : Subscriber) (scope : Scope) (now : Time.Instant) : Seller where
  sellerId := subscriber.subscriberId
  domain := scope.domain
  environment := scope.environment
  status := subscriber.status
  kind := sellerKind
  url := subscriber.subscriberId
  country := subscriber.country
  city := subscriber.city
  validFrom := instant? subscriber.validFrom
  validUntil := instant? subscriber.validUntil
  active := true
  entry := codec.encode subscriber
  lastSeen := now
  createdAt := now
  updatedAt := now

end Subscriber

def snapshotCodec : Codec (List Subscriber) :=
  .list Subscriber.codec

structure Fetched where
  result : Except Failure (List Subscriber)
  log : List Event

end SellerDirectory.Registry
