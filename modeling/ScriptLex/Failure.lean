import ScriptLex.Config.Basic
import ScriptLex.Scanner.Error

/-! The ways in which a run fails. -/

set_option autoImplicit false

namespace ScriptLex

open ScriptLex.Text

inductive Failure where
  | fileNotFound (path : String)
  | unreadable (path reason : String)
  | undecodable (path : String) (malformed : Utf8.Malformed)
  | lexical (rendered : String) (error : LexicalError)
  | configuration (text : String)
  | io (reason : String)
  deriving DecidableEq, Repr

namespace Failure

def ofConfigError (error : ConfigError) : Failure := .configuration error.message

def message : Failure → String
  | .fileNotFound path => "File " ++ path ++ " not found"
  | .unreadable path reason => "Unable to read file " ++ path ++ ": " ++ reason
  | .undecodable path malformed =>
    "File " ++ path ++ " is not valid UTF-8: " ++ malformed.message
  | .lexical rendered _ => rendered
  | .configuration text => "Configuration error: " ++ text
  | .io reason => "IO error: " ++ reason

/-- The status with which a run ends, after the conventions of `sysexits`. -/
def exitCode : Failure → UInt8
  | .lexical .. => 65
  | .fileNotFound .. => 66
  | .unreadable .. | .undecodable .. | .io .. => 74
  | .configuration .. => 78

/-- The text of what brought the failure about, if that is an error of its own. -/
def cause? : Failure → Option String
  | .unreadable _ reason => some reason
  | .undecodable _ malformed => some malformed.message
  | .lexical _ error => some error.display
  | .io reason => some reason
  | .fileNotFound .. | .configuration .. => none

-- What a failure leaves on the error stream. A diagnostic speaks for itself.
def report : Failure → String
  | .lexical rendered _ => rendered ++ "\n"
  | failure => "error: " ++ failure.message ++ "\n"

end Failure

end ScriptLex
