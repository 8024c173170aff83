import SchemaScript.Document
import SchemaScript.FileSystem

/-! The command line: the path of a request document, then options. All options are read before the
document is, and the script goes to the standard output or to one file, or nowhere if anything
fails. -/

namespace SchemaScript.CommandLine

/-! ### Options -/

structure Options where
  input : String
  output : Option String := none
  dialect : Dialect := {}
  verbose : Bool := false
  deriving DecidableEq

inductive Failure where
  | usage
  | invalidVersion (text : String)
  | unknownOption (text : String)
  | unreadable (path : String) (error : FileError)
  | unrenderable (path : String) (error : DocumentError)
  | unwritable (path : String) (error : FileError)

def usageText (program : String) : String :=
  "Usage: " ++ program ++ " <request.json> [options]\n\nOptions:\n" ++
    "  -o, --output <file>          Output file (default: stdout)\n" ++
    "  --dialect-version <version>  Server major version (default: 3)\n" ++
    "  --quote-all                  Quote every identifier\n" ++
    "  -v, --verbose                Debug logging\n"

/-- What is said about a failure; `program` is the name that the program was called by. -/
def Failure.message (program : String) : Failure → String
  | usage => usageText program
  | invalidVersion text => "Invalid dialect version: " ++ text ++ "\n"
  | unknownOption text => "Unknown option: " ++ text ++ "\n"
  | unreadable path error => "Failed to read " ++ path ++ ": " ++ error.message ++ "\n"
  | unrenderable path error => path ++ ": " ++ error.message ++ "\n"
  | unwritable path error => "Failed to write " ++ path ++ ": " ++ error.message ++ "\n"

def readVersion (text : String) : Except Failure UInt32 :=
  match Dialect.version? text with
  | none => .error (.invalidVersion text)
  | some version => .ok version

/-- Takes the options in order. One whose value is missing at the end changes nothing. -/
def takeOptions (options : Options) : List String → Except Failure Options
  | [] => .ok options
  | option :: rest =>
    if option = "-o" ∨ option = "--output" then
      match rest with
      | [] => .ok options
      | path :: rest => takeOptions { options with output := some path } rest
    else if option = "--dialect-version" then
      match rest with
      | [] => .ok options
      | text :: rest => do
        let version ← readVersion text
        takeOptions { options with dialect := { options.dialect with version } } rest
    else if option = "--quote-all" then
      takeOptions { options with dialect := { options.dialect with alwaysQuote := true } } rest
    else if option = "-v" ∨ option = "--verbose" then
      takeOptions { options with verbose := true } rest
    else .error (.unknownOption option)

def readOptions : List String → Except Failure Options
  | [] => .error .usage
  | input :: rest => takeOptions { input } rest

/-! ### Delivery -/

/-- What the program does with files and with its log, in any monad. -/
structure Host (m : Type → Type) where
  read (path : String) : ExceptT FileError m String
  write (path text : String) : ExceptT FileError m Unit
  log (text : String) : m Unit

variable {m : Type → Type} [Monad m]

/-- The script of the document that the options name. -/
def script (host : Host m) (options : Options) : ExceptT Failure m String := do
  let text ← (host.read options.input).adapt (.unreadable options.input)
  if options.verbose then
    host.log ("dialect version " ++ toString options.dialect.version.toNat ++
      ", quote all: " ++ toString options.dialect.alwaysQuote)
  MonadExcept.ofExcept
    ((Document.render options.dialect text).mapError (.unrenderable options.input))

/-- Brings a text to its path, and gives what is left for the standard output. -/
def place (host : Host m) (path : Option String) (text : String) : ExceptT Failure m String :=
  match path with
  | none => return text
  | some path => do
    (host.write path text).adapt (.unwritable path)
    return ""

def deliver (host : Host m) (arguments : List String) : ExceptT Failure m String := do
  let options ← MonadExcept.ofExcept (readOptions arguments)
  let text ← script host options
  place host options.output text

structure Outcome (σ : Type) where
  exit : Nat
  stdout : String
  stderr : String
  files : σ
  deriving DecidableEq

/-- How the program ends after a delivery. -/
def conclude {σ : Type} (program : String) (result : Except Failure String) (files : σ) :
    Outcome σ :=
  match result with
  | .ok stdout => ⟨0, stdout, "", files⟩
  | .error failure => ⟨1, "", failure.message program, files⟩

/-! ### A run from one state of the files to another -/

variable {σ : Type} [FileSystem σ]

/-- The host whose state is the files. Its log is lost. -/
def Host.ofFiles : Host (StateM σ) where
  read path := fun files => (FileSystem.read files path, files)
  write path text := fun files => match FileSystem.write files path text with
    | .ok after => (.ok (), after)
    | .error error => (.error error, files)
  log _ := pure ()

/-- A run of the program with the given arguments. -/
def run (program : String) (arguments : List String) (files : σ) : Outcome σ :=
  let (result, after) := (deliver Host.ofFiles arguments).run.run files
  conclude program result after

end SchemaScript.CommandLine
