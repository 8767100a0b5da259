import SellerDirectory.Sync.Domain

-- A run: the domains of a request one after the other, all at the same time of the clock. A domain
-- that fails does not keep the later ones from being run.

namespace SellerDirectory.Sync

open Registry Store

structure Run (σ : Type) where
  store : σ
  summaries : List Summary
  log : List Event

namespace Run

variable {σ : Type}

def start (store : σ) : Run σ := ⟨store, [], []⟩

def next (answer : σ → (call : Call) → Except Failure call.Reply × σ) (environment : String)
    (now : Time.Instant) (run : Run σ) (domain : String) (fetched : Fetched) : Run σ :=
  let (outcome, store) :=
    (syncDomain ⟨domain, environment⟩ now fetched.result).run answer run.store
  { store
    summaries := run.summaries ++ [outcome.summary]
    log := run.log ++ fetched.log ++ outcome.log }

def report (environment : String) (now : Time.Instant) (run : Run σ) : Report :=
  ⟨environment, now.secondText, run.summaries⟩

end Run

-- Runs a request. The snapshot of each domain is fetched when its turn comes.
def run {σ : Type} {m : Type → Type} [Monad m] (fetch : String → m Fetched)
    (answer : σ → (call : Call) → Except Failure call.Reply × σ) (request : Request)
    (now : Time.Instant) (store : σ) : m (Run σ) :=
  request.domains.foldlM
    (fun run domain => return run.next answer request.environment now domain (← fetch domain))
    (Run.start store)

end SellerDirectory.Sync
