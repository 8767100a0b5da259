import SellerDirectory.Config

-- The arguments of the program. They are read from left to right: a request for help or for the
-- version is answered as soon as it is met, and the first argument that does not fit is refused.

namespace SellerDirectory.CommandLine

open Text

inductive Invocation where
  | show (text : String)
  | keygen (settingsFile : String)
  | sync (settingsFile : String) (once : Bool)
  deriving DecidableEq

inductive UsageError where
  | unexpected (argument : String)
  | repeated (option : String)
  | withoutValue (option : String)
  | withValue (option : String)
  deriving DecidableEq

def UsageError.reason : UsageError → String
  | .unexpected argument => "unexpected argument '" ++ argument ++ "' found"
  | .repeated option => "the argument '" ++ option ++ "' cannot be used multiple times"
  | .withoutValue option => "a value is required for '" ++ option ++ "' but none was supplied"
  | .withValue option => "unexpected value for '" ++ option ++ "' found; no more were expected"

def usage : String := "Usage: " ++ About.name ++ " [OPTIONS] [COMMAND]"

def UsageError.message (error : UsageError) : String :=
  "error: " ++ error.reason ++ "\n\n" ++ usage ++ "\n\nFor more information, try '--help'.\n"

def defaultSettingsFile : String := ".env"

def linesText (lines : List String) : String :=
  String.join (lines.map (· ++ "\n"))

def purposeOfKeygen : String := "Generate an ed25519 signing keypair (base64)"

def purposeOfHelp : String := "Print this message or the help of the given subcommand(s)"

def help : String :=
  linesText [
    About.purpose,
    "",
    usage,
    "",
    "Commands:",
    "  keygen  " ++ purposeOfKeygen,
    "  help    " ++ purposeOfHelp,
    "",
    "Options:",
    "      --run-now          Run the job once immediately and exit",
    "      --dotenv <DOTENV>  Environment file loaded before reading configuration [default: .env]",
    "  -h, --help             Print help",
    "  -V, --version          Print version"]

def keygenHelp : String :=
  linesText [
    purposeOfKeygen,
    "",
    "Usage: " ++ About.name ++ " keygen",
    "",
    "Options:",
    "  -h, --help  Print help"]

def helpOfHelp : String :=
  linesText [
    purposeOfHelp,
    "",
    "Usage: " ++ About.name ++ " help [COMMAND]...",
    "",
    "Arguments:",
    "  [COMMAND]...  Print help for the subcommand(s)"]

def versionText : String := About.name ++ " " ++ About.version ++ "\n"

structure Options where
  once : Bool := false
  settingsFile : Option String := none

def Options.file (options : Options) : String :=
  options.settingsFile.getD defaultSettingsFile

-- An argument that may be an option and so is no value. A single hyphen is a value.
def looksLikeOption (argument : String) : Bool :=
  match argument.toList with
  | '-' :: _ :: _ => true
  | _ => false

def readKeygen (options : Options) : List String → Except UsageError Invocation
  | [] => .ok (.keygen options.file)
  | "--help" :: _ => .ok (.show keygenHelp)
  | "--" :: rest =>
    match rest with
    | [] => .ok (.keygen options.file)
    | argument :: _ => .error (.unexpected argument)
  | argument :: _ =>
    match argument.toList with
    | '-' :: 'h' :: _ => .ok (.show keygenHelp)
    | _ => .error (.unexpected argument)

def readHelp : List String → Except UsageError Invocation
  | [] => .ok (.show help)
  | ["help"] => .ok (.show helpOfHelp)
  | ["keygen"] => .ok (.show keygenHelp)
  | argument :: rest => .error (.unexpected (rest.headD argument))

def readOther (argument : String) : Except UsageError Invocation :=
  match argument.toList with
  | '-' :: 'h' :: _ => .ok (.show help)
  | '-' :: 'V' :: _ => .ok (.show versionText)
  | _ =>
    let name := String.ofList (cut '=' argument.toList).1
    if ["--help", "--version", "--run-now"].contains name then .error (.withValue name)
    else .error (.unexpected argument)

def attachedFile? (argument : String) : Option String :=
  match cut? '=' argument.toList with
  | some (name, value) =>
    if name = "--dotenv".toList then some (String.ofList value) else none
  | none => none

def withFile (options : Options) (file : String) : Except UsageError Options :=
  if options.settingsFile.isSome then .error (.repeated "--dotenv <DOTENV>")
  else .ok { options with settingsFile := some file }

def readFrom (options : Options) : List String → Except UsageError Invocation
  | [] => .ok (.sync options.file options.once)
  | "keygen" :: rest => readKeygen options rest
  | "help" :: rest => readHelp rest
  | "--help" :: _ => .ok (.show help)
  | "--version" :: _ => .ok (.show versionText)
  | ["--"] => .ok (.sync options.file options.once)
  | "--" :: argument :: _ => .error (.unexpected argument)
  | "--run-now" :: rest =>
    if options.once then .error (.repeated "--run-now")
    else readFrom { options with once := true } rest
  | ["--dotenv"] => .error (.withoutValue "--dotenv <DOTENV>")
  | "--dotenv" :: value :: rest =>
    if looksLikeOption value then .error (.withoutValue "--dotenv <DOTENV>")
    else match withFile options value with
      | .error error => .error error
      | .ok options => readFrom options rest
  | argument :: rest =>
    match attachedFile? argument with
    | none => readOther argument
    | some value =>
      match withFile options value with
      | .error error => .error error
      | .ok options => readFrom options rest

def Invocation.ofArguments (arguments : List String) : Except UsageError Invocation :=
  readFrom {} arguments

end SellerDirectory.CommandLine
