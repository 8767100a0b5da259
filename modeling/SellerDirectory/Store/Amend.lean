import SellerDirectory.Store.Basic

-- Single columns as another program may set them, without regard to what they mean. A column takes
-- what fits its type, and the rules of the tables hold: no null where a value must be, one row for
-- each key, and no state without its seller.

namespace SellerDirectory.Store

open Text

inductive Cell where
  | null
  | integer (n : Int)
  | text (characters : String)
  deriving DecidableEq

def Cell.text? : Cell → Option String
  | .null => none
  | .integer n => some (String.ofList (Numeral.ofInt n))
  | .text characters => some characters

def Cell.quantity? : Cell → Option Quantity
  | .null => none
  | .integer n => some (.whole n)
  | .text characters => some (.ofText characters)

abbrev Column (Row : Type) := Cell → Row → Option Row

variable {Row : Type}

def textColumn (set : Row → String → Row) : Column Row := fun cell row =>
  cell.text?.map (set row)

def optionalColumn (set : Row → Option String → Row) : Column Row := fun cell row =>
  some (set row cell.text?)

def numberColumn (set : Row → Quantity → Row) : Column Row := fun cell row =>
  cell.quantity?.map (set row)

def sellerColumns : List (String × Column SellerRow) := [
  ("seller_id", textColumn fun row text => { row with key.sellerId := text }),
  ("domain", textColumn fun row text => { row with key.scope.domain := text }),
  ("registry_env", textColumn fun row text => { row with key.scope.environment := text }),
  ("status", textColumn fun row text => { row with status := text }),
  ("type", textColumn fun row text => { row with kind := text }),
  ("subscriber_url", textColumn fun row text => { row with url := text }),
  ("country", textColumn fun row text => { row with country := text }),
  ("city", textColumn fun row text => { row with city := text }),
  ("valid_from", optionalColumn fun row text => { row with validFrom := text }),
  ("valid_until", optionalColumn fun row text => { row with validUntil := text }),
  ("active", numberColumn fun row n => { row with active := n }),
  ("registry_raw", textColumn fun row text => { row with entry := text }),
  ("last_seen_in_reg", textColumn fun row text => { row with lastSeen := text }),
  ("created_at", textColumn fun row text => { row with createdAt := text }),
  ("updated_at", textColumn fun row text => { row with updatedAt := text })]

def stateColumns : List (String × Column StateRow) := [
  ("seller_id", textColumn fun row text => { row with key.sellerId := text }),
  ("domain", textColumn fun row text => { row with key.scope.domain := text }),
  ("registry_env", textColumn fun row text => { row with key.scope.environment := text }),
  ("status", textColumn fun row text => { row with status := text }),
  ("last_pull_at", optionalColumn fun row text => { row with lastPull := text }),
  ("last_success_at", optionalColumn fun row text => { row with lastSuccess := text }),
  ("last_error", optionalColumn fun row text => { row with lastError := text }),
  ("sync_version", numberColumn fun row n => { row with version := n }),
  ("updated_at", textColumn fun row text => { row with updatedAt := text })]

def setCell [Keyed Row] (table : String) (columns : List (String × Column Row))
    (column : String) (cell : Cell) (key : Key) (rows : List Row) :
    Except Failure (Nat × List Row) :=
  match columns.lookup column with
  | none => .error (.unknownColumn column)
  | some set =>
    match Table.find? key rows with
    | none => .ok (0, rows)
    | some row =>
      match set cell row with
      | none => .error (.nullColumn table column)
      | some changed =>
        if Keyed.key changed ≠ key && Table.contains (Keyed.key changed) rows then
          .error (.duplicateKey table)
        else
          .ok (1, rows.map fun other => if Keyed.key other = key then changed else other)

def withoutOrphans (store : Store) : Except Failure Store :=
  if store.states.all fun row => Table.contains row.key store.sellers then .ok store
  else .error .orphanState

def setSellerColumn (store : Store) (column : String) (cell : Cell) (key : Key) :
    Except Failure (Nat × Store) := do
  let (count, sellers) ← setCell "sellers" sellerColumns column cell key store.sellers
  return (count, ← withoutOrphans { store with sellers })

def setStateColumn (store : Store) (column : String) (cell : Cell) (key : Key) :
    Except Failure (Nat × Store) := do
  let (count, states) ← setCell "seller_catalog_state" stateColumns column cell key store.states
  return (count, ← withoutOrphans { store with states })

end SellerDirectory.Store
