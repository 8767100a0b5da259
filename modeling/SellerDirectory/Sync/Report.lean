import SellerDirectory.Json.Record
import SellerDirectory.Text.Blank

-- What a run is asked to do and what it reports.

namespace SellerDirectory.Sync

open Json

structure Request where
  environment : String
  domains : List String
  deriving DecidableEq

namespace Request

-- A run needs an environment that is not blank and at least one domain.
def isComplete (request : Request) : Bool :=
  !Text.isBlankText request.environment && !request.domains.isEmpty

def codec : Codec Request :=
  Codec.record "SyncRegistryRequest" [String, List String]
    (.required "registry_env" .text, .required "domains" (.list .text), ())
    (fun r => (r.environment, r.domains, ()))
    (fun (environment, domains, _) => { environment, domains })

end Request

structure Summary where
  domain : String
  inserted : Nat
  updated : Nat
  deactivated : Nat
  listed : Nat
  deriving DecidableEq

namespace Summary

def empty (domain : String) : Summary :=
  ⟨domain, 0, 0, 0, 0⟩

def codec : Codec Summary :=
  Codec.record "DomainSyncSummary" [String, Nat, Nat, Nat, Nat]
    (.required "domain" .text, .required "new_sellers" .size, .required "updated_sellers" .size,
      .required "deactivated_sellers" .size, .required "total_sellers_in_registry" .size, ())
    (fun s => (s.domain, s.inserted, s.updated, s.deactivated, s.listed, ()))
    (fun (domain, inserted, updated, deactivated, listed, _) =>
      { domain, inserted, updated, deactivated, listed })

end Summary

structure Report where
  environment : String
  runAt : String
  domains : List Summary
  deriving DecidableEq

namespace Report

def codec : Codec Report :=
  Codec.record "SyncRegistryResponse" [String, String, List Summary]
    (.required "registry_env" .text, .required "run_at" .text,
      .required "domains" (.list Summary.codec), ())
    (fun r => (r.environment, r.runAt, r.domains, ()))
    (fun (environment, runAt, domains, _) => { environment, runAt, domains })

def total (report : Report) (count : Summary → Nat) : Nat :=
  report.domains.foldl (fun sum summary => sum + count summary) 0

def line (report : Report) : String :=
  let n := report.domains.length
  let inserted := report.total Summary.inserted
  let updated := report.total Summary.updated
  let deactivated := report.total Summary.deactivated
  s!"Registry sync {report.environment} at {report.runAt}: {n} domains, {inserted} new, "
    ++ s!"{updated} updated, {deactivated} deactivated"

end Report

end SellerDirectory.Sync
