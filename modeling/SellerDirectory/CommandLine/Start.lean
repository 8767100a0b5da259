import SellerDirectory.CommandLine.Arguments
import SellerDirectory.CommandLine.SettingsFile
import SellerDirectory.Json.Pretty
import SellerDirectory.Registry.Client
import SellerDirectory.Store.Shared
import SellerDirectory.Sync.Run

-- What the program does with its arguments: it shows a text, makes new keys, runs once, or gets
-- ready to run again and again. What it needs of the computer it runs on is a parameter.

namespace SellerDirectory.CommandLine

open Registry Signing Store Text

structure Host (m : Type → Type) where
  «variables» : List String → m Variables
  contents? : String → m (Option (List UInt8))
  openStore? : String → m (Option Store)
  -- Random bytes for a private key.
  seed : m (List UInt8)
  now : m Time.Instant
  transport : Transport m

structure Exit where
  code : Nat
  output : String
  complaint : String
  deriving DecidableEq

namespace Exit

def success (output : String) : Exit := ⟨0, output, ""⟩

def indented (text : String) : String :=
  String.ofList ((pieces '\n' text.toList).flatMap fun line => '\n' :: "    ".toList ++ line)

def broken (failed reason : String) : Exit :=
  ⟨1, "", "Error: " ++ failed ++ "\n\nCaused by:" ++ indented reason ++ "\n"⟩

def misused (error : UsageError) : Exit := ⟨2, "", error.message⟩

end Exit

structure Ready where
  config : Config
  client : Client
  store : Store

structure Finished where
  report : Sync.Report
  store : Store
  log : List Event

inductive Started where
  | exit (exit : Exit)
  | ran (exit : Exit) (finished : Finished)
  | scheduled (ready : Ready)

section

variable {m : Type → Type} [Monad m]

-- The variables of the environment, and those that a file adds to them. A missing file adds none.
def variablesWith (host : Host m) (file : String) : m (Except Exit Variables) := do
  match ← host.contents? file with
  | none => return .ok (← host.variables Config.variableNames)
  | some bytes =>
    let failed := "Failed to load " ++ file
    match Utf8.decode? bytes with
    | none => return .error (.broken failed "stream did not contain valid UTF-8")
    | some text =>
      match assignments text with
      | .error fault => return .error (.broken failed fault.message)
      | .ok all =>
        return .ok (assign (← host.variables (Config.variableNames ++ mentioned all)) all)

-- Gets ready for runs. Settings are looked at first, then the signing identity, then the store.
def getReady (scheme : Scheme) (host : Host m) (given : Variables) :
    m (Except Exit Ready) := do
  match Config.ofLookup (fun name => given.lookup name) with
  | .error failure => return .error (.broken "Error loading configuration" failure.message)
  | .ok config =>
    match Client.ofConfig scheme config with
    | .error failure =>
      return .error (.broken "Error configuring registry client" failure.message)
    | .ok client =>
      match ← host.openStore? config.databasePath with
      | some store => return .ok { config, client, store }
      | none =>
        return .error (.broken "Failed to open participant store"
          (Failure.cannotOpen config.databasePath).message)

def runOnce (scheme : Scheme) (host : Host m) (ready : Ready) : m Finished := do
  let request : Sync.Request := ⟨ready.config.environment, ready.config.domains⟩
  let now ← host.now
  let run ← Sync.run (ready.client.fetch scheme host.transport) Shared.answer request now
    (Shared.ofStore ready.store)
  return ⟨run.report request.environment now, run.store.store, run.log⟩

def reportText (report : Sync.Report) : String :=
  Json.pretty (Sync.Report.codec.encode report) ++ "\n"

def keysText (pair : KeyPair) : String :=
  "SIGNING_PUBLIC_KEY=" ++ pair.publicKey ++ "\nPRIVATE_KEY=" ++ pair.privateKey ++ "\n"

def perform (scheme : Scheme) (host : Host m) (invocation : Invocation) : m Started := do
  match invocation with
  | .show text => return .exit (.success text)
  | .keygen file =>
    match ← variablesWith host file with
    | .error exit => return .exit exit
    | .ok _ => return .exit (.success (keysText (KeyPair.ofSeed scheme (← host.seed))))
  | .sync file once =>
    match ← variablesWith host file with
    | .error exit => return .exit exit
    | .ok given =>
      match ← getReady scheme host given with
      | .error exit => return .exit exit
      | .ok ready =>
        if once then
          let finished ← runOnce scheme host ready
          return .ran (.success (reportText finished.report)) finished
        else return .scheduled ready

def start (scheme : Scheme) (host : Host m) (arguments : List String) : m Started :=
  match Invocation.ofArguments arguments with
  | .error error => return .exit (.misused error)
  | .ok invocation => perform scheme host invocation

end

end SellerDirectory.CommandLine
