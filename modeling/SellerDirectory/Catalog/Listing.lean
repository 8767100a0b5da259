import SellerDirectory.Catalog.State

-- The listing of sellers that wait for a catalog pull, in pages.

namespace SellerDirectory.Catalog

open Json

structure Entry where
  sellerId : String
  status : Status
  lastPull : Option Time.Instant
  lastSuccess : Option Time.Instant
  lastError : Option String
  deriving DecidableEq

def Entry.codec : Codec Entry :=
  Codec.record "SellerInfo"
    [String, Status, Option Time.Instant, Option Time.Instant, Option String]
    (.required "seller_id" .text, .required "status" Status.codec, .nullable "last_pull_at" .time,
      .nullable "last_success_at" .time, .nullable "last_error" .text, ())
    (fun e => (e.sellerId, e.status, e.lastPull, e.lastSuccess, e.lastError, ()))
    (fun (sellerId, status, lastPull, lastSuccess, lastError, _) =>
      { sellerId, status, lastPull, lastSuccess, lastError })

structure PageInfo where
  limit : Nat
  page : Nat
  hasMore : Bool
  deriving DecidableEq

def PageInfo.codec : Codec PageInfo :=
  Codec.record "PageInfo" [Nat, Nat, Bool]
    (.required "limit" .size, .required "page" .size, .required "has_more" .boolean, ())
    (fun p => (p.limit, p.page, p.hasMore, ()))
    (fun (limit, page, hasMore, _) => { limit, page, hasMore })

structure Page where
  domain : String
  environment : String
  filter : List Status
  entries : List Entry
  info : PageInfo
  deriving DecidableEq

def Page.codec : Codec Page :=
  Codec.record "PendingSellersPage" [String, String, List Status, List Entry, PageInfo]
    (.required "domain" .text, .required "registry_env" .text,
      .required "status_filter" (.list Status.codec), .required "sellers" (.list Entry.codec),
      .required "page" PageInfo.codec, ())
    (fun p => (p.domain, p.environment, p.filter, p.entries, p.info, ()))
    (fun (domain, environment, filter, entries, info, _) =>
      { domain, environment, filter, entries, info })

end SellerDirectory.Catalog
