import ScriptLex.Listing
import ScriptLex.Source.Encoding

/-! Command lines and what they ask for.

Arguments are taken from left to right, and the first one that cannot be taken, or that asks for
help or the version, settles the matter. Variables of the environment stand in for options that are
not given, and are looked at last. -/

set_option autoImplicit false

namespace ScriptLex.CommandLine

open ScriptLex.Source

structure Arguments where
  file : String
  config : Option String := none
  verbose : Bool := false
  noColor : Bool := false
  format : Option Format := none
  encoding : Option Encoding := none
  deriving DecidableEq, Repr

inductive Request where
  | run (arguments : Arguments)
  | summary
  | help
  | version
  | unusable
  deriving DecidableEq, Repr

structure Taken where
  file : Option String := none
  config : Option String := none
  verbose : Bool := false
  noColor : Bool := false
  format : Option Format := none
  encoding : Option Encoding := none
  deriving DecidableEq, Repr

/-- Options that stand alone. -/
inductive Flag where
  | verbose
  | noColor
  | summary
  | help
  | version
  deriving DecidableEq, Repr

/-- Options with a value. -/
inductive Setting where
  | config
  | format
  | encoding
  deriving DecidableEq, Repr

inductive Opt where
  | flag (flag : Flag)
  | setting (setting : Setting)
  deriving DecidableEq, Repr

def longOption? : String → Option Opt
  | "verbose" => some (.flag .verbose)
  | "no-color" => some (.flag .noColor)
  | "help" => some (.flag .help)
  | "version" => some (.flag .version)
  | "config" => some (.setting .config)
  | "format" => some (.setting .format)
  | "encoding" => some (.setting .encoding)
  | _ => none

def shortOption? : Char → Option Opt
  | 'v' => some (.flag .verbose)
  | 'h' => some (.flag .summary)
  | 'V' => some (.flag .version)
  | 'c' => some (.setting .config)
  | 'f' => some (.setting .format)
  | _ => none

namespace Taken

-- Take a flag; one that was taken before cannot be taken again.
def takeFlag (taken : Taken) : Flag → Except Request Taken
  | .verbose => if taken.verbose then .error .unusable else .ok { taken with verbose := true }
  | .noColor => if taken.noColor then .error .unusable else .ok { taken with noColor := true }
  | .summary => .error .summary
  | .help => .error .help
  | .version => .error .version

-- Take the value of a setting that has none yet.
def takeSetting (taken : Taken) (setting : Setting) (value : String) : Except Request Taken :=
  match setting with
  | .config =>
    if taken.config.isSome ∨ value.isEmpty then .error .unusable
    else .ok { taken with config := some value }
  | .format =>
    match taken.format, Format.ofName? value with
    | none, some format => .ok { taken with format := some format }
    | _, _ => .error .unusable
  | .encoding =>
    match taken.encoding, Encoding.ofName? value with
    | none, some encoding => .ok { taken with encoding := some encoding }
    | _, _ => .error .unusable

-- Take the file; there is one only, and its name is not empty.
def takeFile (taken : Taken) (path : String) : Except Request Taken :=
  if taken.file.isSome ∨ path.isEmpty then .error .unusable
  else .ok { taken with file := some path }

def takeFiles (taken : Taken) (paths : List String) : Except Request Taken :=
  paths.foldlM takeFile taken

-- Take grouped letters. The text behind the letter of a setting is its value, without the equals
-- sign it may begin with; a setting at the end still waits for its value.
def takeLetters (taken : Taken) : List Char → Except Request (Taken × Option Setting)
  | [] => .ok (taken, none)
  | c :: rest =>
    match shortOption? c with
    | none => .error .unusable
    | some (.flag flag) => do takeLetters (← taken.takeFlag flag) rest
    | some (.setting setting) =>
      match rest with
      | [] => .ok (taken, some setting)
      | '=' :: value => do return (← taken.takeSetting setting (String.ofList value), none)
      | value => do return (← taken.takeSetting setting (String.ofList value), none)

-- Take an option written with its long name, which may hold its value behind an equals sign. A flag
-- has no value.
def takeLong (taken : Taken) (text : List Char) : Except Request (Taken × Option Setting) :=
  let name := String.ofList (text.takeWhile (· ≠ '='))
  match longOption? name, text.dropWhile (· ≠ '=') with
  | some (.flag flag), [] => do return (← taken.takeFlag flag, none)
  | some (.setting setting), [] => .ok (taken, some setting)
  | some (.setting setting), _ :: value => do
    return (← taken.takeSetting setting (String.ofList value), none)
  | _, _ => .error .unusable

end Taken

-- Whether an argument is an option, or several, and never a value or a file. A single hyphen is a
-- name.
def isOption (argument : List Char) : Bool :=
  match argument with
  | '-' :: _ :: _ => true
  | _ => false

-- Take every argument. `waiting` is a setting whose value is still to come.
def take (taken : Taken) (waiting : Option Setting) : List String → Except Request Taken
  | [] => if waiting.isSome then .error .unusable else .ok taken
  | argument :: rest =>
    match waiting, argument.toList with
    | some setting, text =>
      if isOption text then .error .unusable
      else do take (← taken.takeSetting setting argument) none rest
    -- Two hyphens end the options.
    | none, ['-', '-'] => taken.takeFiles rest
    | none, '-' :: '-' :: text => do
      let (taken, waiting) ← taken.takeLong text
      take taken waiting rest
    | none, '-' :: c :: text => do
      let (taken, waiting) ← taken.takeLetters (c :: text)
      take taken waiting rest
    | none, _ => do take (← taken.takeFile argument) none rest

abbrev Variables := String → Option String

def verboseVariable : String := "SPARTIE_VERBOSE"
def noColorVariable : String := "SPARTIE_NO_COLOR"
def configVariable : String := "SPARTIE_CONFIG"

-- A flag that was given, or else the truth value in its variable.
def flagOr (given : Bool) (fallback : Option String) : Option Bool :=
  if given then some true
  else match fallback with
    | none => some false
    | some "true" => some true
    | some "false" => some false
    | some _ => none

-- A path that was given, or else the one in its variable, which may not be empty.
def pathOr (given fallback : Option String) : Option (Option String) :=
  match given, fallback with
  | some path, _ => some (some path)
  | none, some path => if path.isEmpty then none else some (some path)
  | none, none => some none

/-- The arguments as far as they are given, filled up from the environment. -/
def complete? (taken : Taken) (lookup : Variables) : Option Arguments := do
  let config ← pathOr taken.config (lookup configVariable)
  let verbose ← flagOr taken.verbose (lookup verboseVariable)
  let noColor ← flagOr taken.noColor (lookup noColorVariable)
  let file ← taken.file
  return { file, config, verbose, noColor, format := taken.format, encoding := taken.encoding }

def parse (arguments : List String) (lookup : Variables) : Request :=
  match take {} none arguments with
  | .error request => request
  | .ok taken =>
    match complete? taken lookup with
    | some arguments => .run arguments
    | none => .unusable

end ScriptLex.CommandLine
