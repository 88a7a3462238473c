import ScriptLex.CommandLine.Help
import ScriptLex.Config.Load
import ScriptLex.Diagnostic.Report
import ScriptLex.Failure
import ScriptLex.Scanner.Basic
import ScriptLex.Scanner.Diagnosis

/-! The program as a function of its command line, its environment and the files it finds. -/

set_option autoImplicit false

namespace ScriptLex

open ScriptLex.Source ScriptLex.Text ScriptLex.CommandLine

structure Settings where
  verbose : Bool
  color : Bool
  format : Format
  encoding : Encoding
  deriving DecidableEq, Repr

namespace Settings

-- Either side may ask for a log and either may refuse color; for the rest the command line goes
-- before the configuration.
def merge (arguments : Arguments) (config : Config) : Settings where
  verbose := arguments.verbose || config.verbose
  color := !arguments.noColor && config.color
  format := arguments.format.getD config.output.format
  encoding := arguments.encoding.getD config.output.encoding

def display (settings : Settings) : String :=
  let truth (b : Bool) := if b then "true" else "false"
  let format := match settings.format with
    | .text => "Text"
    | .json => "Json"
  let encoding := match settings.encoding with
    | .utf8 => "Utf8"
    | .latin1 => "Latin1"
  "Settings \x7b verbose: " ++ truth settings.verbose ++ ", color: " ++ truth settings.color ++
    ", format: " ++ format ++ ", encoding: " ++ encoding ++ " \x7d"

end Settings

inductive Event where
  | starting (settings : Settings)
  | readSource (path : String) (bytes : Nat)
  | scanStarted (bytes : Nat)
  | scanFinished (tokens : Nat) (line : UInt32)
  | scanFailed (error : LexicalError)
  | scanned (tokens : Nat)
  deriving DecidableEq, Repr

def Event.display : Event → String
  | .starting settings => "DEBUG starting settings=" ++ settings.display
  | .readSource path bytes => "DEBUG read source path=" ++ path ++ " bytes=" ++ bytes.repr
  | .scanStarted bytes => "DEBUG scan started bytes=" ++ bytes.repr
  | .scanFinished tokens line =>
    "DEBUG scan finished tokens=" ++ tokens.repr ++ " lines=" ++ line.toNat.repr
  | .scanFailed error => "DEBUG scan failed error=" ++ error.display
  | .scanned tokens => "DEBUG scanned count=" ++ tokens.repr

structure Environment where
  lookup : Variables
  directories : Config.Directories

-- What a run leaves behind: its status, both streams apart from the log, and the log with whether
-- it is colored.
structure Outcome where
  exitCode : UInt8
  output : String
  errors : String
  log : List String
  coloredLog : Bool
  deriving DecidableEq, Repr

def Outcome.logged (outcome : Outcome) (settings : Settings) (events : List Event) : Outcome :=
  if settings.verbose then
    { outcome with log := events.map Event.display, coloredLog := settings.color }
  else outcome

namespace Program

def readSource (files : Files) (path : String) : Except Failure (List UInt8) :=
  match files path with
  | none => .error (.fileNotFound path)
  | some node => node.contents.mapError (.unreadable path)

def decodeSource (encoding : Encoding) (path : String) (bytes : List UInt8) :
    Except Failure String :=
  (encoding.decode bytes).mapError (.undecodable path)

def lexicalFailure (path source : String) (error : LexicalError) : Failure :=
  .lexical ((Report.empty.add (error.toDiagnostic source)).render (some path)) error

def scanSource (path source : String) : List Event × Except Failure (List Token) :=
  let started := Event.scanStarted (byteLength source.toList)
  match (Scanner.ofSource source).drain with
  | (.ok tokens, last) =>
    ([started, .scanFinished tokens.length last.cursor.line, .scanned tokens.length], .ok tokens)
  | (.error error, _) => ([started, .scanFailed error], .error (lexicalFailure path source error))

def tokensOf (files : Files) (encoding : Encoding) (path : String) :
    List Event × Except Failure (List Token) :=
  match readSource files path with
  | .error failure => ([], .error failure)
  | .ok bytes =>
    let read := Event.readSource path bytes.length
    match decodeSource encoding path bytes with
    | .error failure => ([read], .error failure)
    | .ok source =>
      let (events, result) := scanSource path source
      (read :: events, result)

def failed (failure : Failure) : Outcome := ⟨failure.exitCode, "", failure.report, [], false⟩

def printed (text : String) : Outcome := ⟨0, text, "", [], false⟩

def list (files : Files) (settings : Settings) (path : String) : Outcome :=
  let (events, result) := tokensOf files settings.encoding path
  let outcome := match result with
    | .error failure => failed failure
    | .ok tokens => printed (Listing.render settings.format tokens)
  outcome.logged settings (.starting settings :: events)

def runWith (files : Files) (environment : Environment) (arguments : Arguments) : Outcome :=
  match Config.load files environment.directories arguments.config with
  | .error failure => failed failure
  | .ok config => list files (Settings.merge arguments config) arguments.file

-- Every path that the run of some arguments may look at.
def paths (environment : Environment) (arguments : Arguments) : List String :=
  let candidates := (Config.candidates environment.directories).toOption.getD []
  arguments.file :: (arguments.config.toList ++ candidates)

/-- The status of a run whose command line cannot be used. -/
def usageExitCode : UInt8 := 64

def run (files : Files) (environment : Environment) (arguments : List String) : Outcome :=
  match parse arguments environment.lookup with
  | .run arguments => runWith files environment arguments
  | .summary => printed (summary environment.lookup)
  | .help => printed (help environment.lookup)
  | .version => printed version
  | .unusable => ⟨usageExitCode, "", "error: unusable arguments\n\n" ++ about, [], false⟩

end Program

end ScriptLex
