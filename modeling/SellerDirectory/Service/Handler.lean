import SellerDirectory.Config
import SellerDirectory.Service.Route
import SellerDirectory.Store.Listing
import SellerDirectory.Store.Shared
import SellerDirectory.Sync.Run

-- The service: a run on demand, the progress of one seller's catalog, and the listing of sellers
-- that wait for a pull.

namespace SellerDirectory.Service

open Http Json Registry Store Text

structure Resources (m : Type → Type) where
  environment : String
  fetch : String → m Fetched
  now : m Time.Instant

structure Answered where
  response : Response
  store : Shared
  log : List Event

def health : Response :=
  ⟨200, some (Response.object [Response.entry "service" (Codec.text.write About.name),
    Response.entry "status" (Codec.text.write "ok"),
    Response.entry "version" (Codec.text.write About.version)])⟩

-- The request for a run at the front of a body; what stands behind it is not looked at.
def runRequest? (request : Request) : Option Sync.Request :=
  if request.hasJson then (Sync.Request.codec.decodeFront request.body).toOption else none

section

variable {m : Type → Type} [Monad m]

def sync (resources : Resources m) (store : Shared) (request : Request) : m Answered := do
  match runRequest? request with
  | none => return ⟨.refusal 400 "Invalid request body", store, []⟩
  | some asked =>
    if asked.isComplete then
      let now ← resources.now
      let run ← Sync.run resources.fetch Shared.answer asked now store
      let report := run.report asked.environment now
      return ⟨.success "Registry sync completed successfully" Sync.Report.codec report,
        run.store, run.log⟩
    else return ⟨.refusal 400 "registry_env and domains are required", store, []⟩

end

def status (environment : String) (store : Shared) (segment : List UInt8) (request : Request) :
    Response × List Event :=
  match segmentText? segment, StatusQuery.ofPairs? request.query with
  | some sellerId, some query =>
    let domain := query.domain.getD ""
    if sellerId.isEmpty || domain.isEmpty then
      (.refusal 400 "seller_id and domain are required", [])
    else
      let scope := ⟨domain, query.environment.getD environment⟩
      match store.ask (·.progress? ⟨sellerId, scope⟩) with
      | .ok (some progress) =>
        (.success "Sync status retrieved successfully" Catalog.Progress.codec progress, [])
      | .ok none => (.refusal 404 "Record not found", [])
      | .error failure =>
        (.refusal 500 "Failed to get sync status", [.statusUnavailable sellerId domain failure])
  | _, _ => (.bare 400, [])

def statuses? (text : String) : Option (List Catalog.Status) :=
  (parts text).mapM fun part => (Catalog.Status.ofText part).toOption

-- A page of the listing. Pages have 100 lines unless 1 to 1000 are asked for.
def pending (environment : String) (store : Shared) (request : Request) :
    Response × List Event :=
  match PendingQuery.ofPairs? request.query with
  | none => (.bare 400, [])
  | some query =>
    let domain := query.domain.getD ""
    if domain.isEmpty then (.refusal 400 "domain is required", [])
    else match statuses? (query.statuses.getD "") with
      | none => (.refusal 400 "unknown status in filter", [])
      | some filter =>
        let scope := ⟨domain, query.environment.getD environment⟩
        let limit := min (max (query.limit.getD 100) 1) 1000
        match store.ask (·.pendingPage scope filter limit (query.page.getD 1)) with
        | .ok page =>
          (.success "Pending catalog sync sellers retrieved successfully" Catalog.Page.codec page,
            [])
        | .error failure =>
          (.refusal 500 "Failed to get pending sellers", [.listingUnavailable domain failure])

-- Serves a request. Anyone may ask which methods there are; a head is the response without its
-- body.
def respond {m : Type → Type} [Monad m] (resources : Resources m) (store : Shared)
    (request : Request) : m Answered := do
  let reading (answer : Response × List Event) : Answered :=
    ⟨if request.method = "HEAD" then answer.1.withoutBody else answer.1, store, answer.2⟩
  if request.method = "OPTIONS" then return ⟨.bare 200, store, []⟩
  else match Route.ofPath? request.path with
    | none => return ⟨.bare 404, store, []⟩
    | some route =>
      if route.takes request.method then
        match route with
        | .health => return reading (health, [])
        | .status segment => return reading (status resources.environment store segment request)
        | .pending => return reading (pending resources.environment store request)
        | .sync => sync resources store request
      else return ⟨.bare 405, store, []⟩

end SellerDirectory.Service
