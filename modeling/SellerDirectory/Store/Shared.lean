import SellerDirectory.Store.Call

-- A store behind a lock, which each operation holds for its time. Once a holder of the lock has
-- crashed the lock is poisoned, and every operation fails that needs it.

namespace SellerDirectory.Store

structure Shared where
  store : Store
  poisoned : Bool
  deriving DecidableEq

-- Deactivating nobody needs no lock.
def Call.needsLock : Call → Bool
  | .deactivate ids _ _ => !ids.isEmpty
  | _ => true

namespace Shared

def ofStore (store : Store) : Shared := ⟨store, false⟩

def ask {α : Type} (shared : Shared) (question : Store → Except Failure α) : Except Failure α :=
  if shared.poisoned then .error .lockPoisoned else question shared.store

def answer (shared : Shared) (call : Call) : Except Failure call.Reply × Shared :=
  if shared.poisoned && call.needsLock then (.error .lockPoisoned, shared)
  else
    let (reply, store) := shared.store.answer call
    (reply, { shared with store })

end Shared

end SellerDirectory.Store
