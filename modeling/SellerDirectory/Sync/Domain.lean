import SellerDirectory.Registry.Subscriber
import SellerDirectory.Store.Call
import SellerDirectory.Sync.Plan
import SellerDirectory.Sync.Report

-- The run for one domain, as a program over the store: the sellers of the snapshot are set against
-- the active ones, and the difference is written. A failing write is reported and does not keep the
-- others from being tried, except that states are only written after their sellers.

namespace SellerDirectory.Sync

open Registry Store

def isNameless (subscriber : Subscriber) : Bool :=
  Text.isBlankText subscriber.subscriberId

-- The sellers of a snapshot. Of several entries with one id the last one counts.
def listedSellers (scope : Scope) (now : Time.Instant) (snapshot : List Subscriber) :
    List Seller :=
  lastOfEachId ((snapshot.filter fun entry => !isNameless entry).map (·.toSeller scope now))

def skippedEntries (domain : String) (snapshot : List Subscriber) : List Event :=
  (snapshot.filter isNameless).map fun _ => .entrySkipped domain

structure Outcome where
  summary : Summary
  log : List Event

def attempt (domain : String) (step : Step) (call : Call) :
    Program (Option call.Reply × List Event) := do
  match ← Program.perform call with
  | .ok reply => return (some reply, [])
  | .error failure => return (none, [.stepFailed domain step failure])

def attemptUnless (idle : Bool) (domain : String) (step : Step) (call : Call) :
    Program (Option call.Reply × List Event) :=
  if idle then return (none, []) else attempt domain step call

def initStates (domain : String) (now : Time.Instant) : List Seller → Program (List Event)
  | [] => return []
  | seller :: rest => do
    let (_, log) ← attempt domain (.initState seller.sellerId)
      (.addState (Catalog.State.initial seller now))
    return log ++ (← initStates domain now rest)

def writePlan (scope : Scope) (now : Time.Instant) (listed : Nat) (plan : Plan) :
    Program Outcome := do
  let domain := scope.domain
  let (inserted, insertLog) ← attemptUnless plan.toInsert.isEmpty domain .insertSellers
    (.insert plan.toInsert)
  let (updated, updateLog) ← attemptUnless plan.toUpdate.isEmpty domain .updateSellers
    (.update plan.toUpdate)
  let stateLog ← if inserted.isSome then initStates domain now plan.toInsert else pure []
  let (deactivated, deactivateLog) ← attemptUnless plan.toDeactivate.isEmpty domain
    .deactivateSellers (.deactivate plan.toDeactivate scope now)
  return {
    summary := {
      domain
      inserted := inserted.getD 0
      updated := updated.getD 0
      deactivated := deactivated.getD 0
      listed
    }
    log := insertLog ++ updateLog ++ stateLog ++ deactivateLog
  }

def syncDomain (scope : Scope) (now : Time.Instant)
    (fetched : Except Failure (List Subscriber)) : Program Outcome :=
  match fetched with
  | .error failure =>
    return ⟨.empty scope.domain, [.stepFailed scope.domain .fetchRegistry failure]⟩
  | .ok snapshot => do
    match ← Program.perform (.active scope) with
    | .error failure =>
      return ⟨{ Summary.empty scope.domain with listed := snapshot.length },
        [.stepFailed scope.domain .fetchLocal failure]⟩
    | .ok active =>
      let plan := Plan.between (listedSellers scope now snapshot) (lastOfEachId active)
      let outcome ← writePlan scope now snapshot.length plan
      return { outcome with log := skippedEntries scope.domain snapshot ++ outcome.log }

end SellerDirectory.Sync
