import SellerDirectory.CommandLine.Start

-- The program: it keeps a directory of sellers in step with the registry of their network. Lookups
-- end without a response, since nothing here opens connections, and rows are kept in memory.

namespace SellerDirectory.Main

open CommandLine

-- The seconds since the start of 1970 and the part of one, as the file system stamps a new file.
def stamp : IO (Int × Nat) := do
  let (_, path) ← IO.FS.createTempFile
  let modified := (← path.metadata).modified
  IO.FS.removeFile path
  return (modified.sec, modified.nsec.toNat)

def now : IO Time.Instant := do
  let (seconds, nano) ← stamp
  match Time.Instant.ofUnix? seconds nano with
  | some instant => return instant
  | none => throw (IO.userError "the clock is out of range")

def environment (names : List String) : IO Variables := do
  let values ← names.mapM fun name => return (name, ← IO.getEnv name)
  return values.filterMap fun (name, value) => value.map fun text => (name, text)

def contents? (path : String) : IO (Option (List UInt8)) := do
  try return some (← IO.FS.readBinFile path).toList
  catch
    | .noFileOrDirectory .. => return none
    | error => throw error

def host : Host IO where
  «variables» := environment
  contents? := contents?
  openStore? _ := return some .empty
  seed := return (← IO.getRandomBytes 32).toList
  now := now
  transport := ⟨return (← stamp).1, fun _ => return .error "no connection", return⟩

def levelName : Level → String
  | .warning => "WARN"
  | .error => "ERROR"

def fieldText : FieldValue → String
  | .text value => value
  | .count n => toString n

def tell (event : Event) : IO Unit := do
  let record := event.record
  let fields := record.fields.map fun (name, value) => " " ++ name ++ "=" ++ fieldText value
  IO.eprintln (levelName record.level ++ " " ++ record.message ++ String.join fields)

def finish (exit : Exit) : IO UInt32 := do
  IO.print exit.output
  IO.eprint exit.complaint
  return UInt32.ofNat exit.code

partial def runForever (ready : Ready) : IO UInt32 := do
  IO.sleep (UInt32.ofNat (min (ready.config.intervalSeconds * 1000) 4294967295))
  let finished ← runOnce Signing.ed25519 host ready
  finished.log.forM tell
  runForever { ready with store := finished.store }

def run (arguments : List String) : IO UInt32 := do
  match ← start Signing.ed25519 host arguments with
  | .exit exit => finish exit
  | .ran exit finished =>
    finished.log.forM tell
    finish exit
  | .scheduled ready => runForever ready

end SellerDirectory.Main

def main (arguments : List String) : IO UInt32 :=
  SellerDirectory.Main.run arguments
