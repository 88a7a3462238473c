import ScriptLex.Listing
import ScriptLex.Source.Encoding
import ScriptLex.Toml.Document

/-! Configurations and the TOML documents that hold them. -/

set_option autoImplicit false

namespace ScriptLex

open ScriptLex.Source

inductive ConfigError where
  | notFound (path : String)
  | unreadable (path reason : String)
  | notToml
  | unknownKey (key : String)
  | unsuitableValue (key : String)
  deriving DecidableEq, Repr

def ConfigError.message : ConfigError → String
  | .notFound path => "Configuration file not found: " ++ path
  | .unreadable path reason => "Failed to read " ++ path ++ ": " ++ reason
  | .notToml => "Failed to parse configuration: not a TOML document"
  | .unknownKey key => "Failed to parse configuration: unknown key " ++ key
  | .unsuitableValue key => "Failed to parse configuration: unsuitable value for " ++ key

namespace Config

structure Output where
  format : Format := .text
  encoding : Encoding := .utf8
  deriving DecidableEq, Repr

end Config

/-- What a configuration file settles; each field has a default. -/
structure Config where
  verbose : Bool := false
  color : Bool := true
  output : Config.Output := {}
  deriving DecidableEq, Repr

namespace Config

open Toml (Value Table)

/-- A value with nothing in it. -/
def isVoid : Value → Bool
  | .array [] => true
  | .table _ [] => true
  | .tables [] => true
  | _ => false

-- A choice among names: a string, or a table with the name as its only key and nothing under it.
def choice? : Value → Option String
  | .string name => some name
  | .table _ [(name, inner)] => if isVoid inner then some name else none
  | _ => none

def boolean? : Value → Option Bool
  | .boolean value => some value
  | _ => none

def format? (value : Value) : Option Format := choice? value >>= Format.ofName?

def encoding? (value : Value) : Option Encoding := choice? value >>= Encoding.ofName?

/-- The value of an optional setting, read by `read`. -/
def setting {α : Type} (key : String) (read : Value → Option α) (default : α) :
    Option Value → Except ConfigError α
  | none => .ok default
  | some value =>
    match read value with
    | some setting => .ok setting
    | none => .error (.unsuitableValue key)

-- Refuse a table with a key that is not in a list.
def checkKeys (table : Table) (known : List String) : Except ConfigError Unit :=
  match table.find? (fun entry => !known.contains entry.1) with
  | some (key, _) => .error (.unknownKey key)
  | none => .ok ()

/-- Output settings from the values of its two keys. -/
def outputOf (format encoding : Option Value) : Except ConfigError Output := do
  return {
    format := ← setting "format" format? .text format
    encoding := ← setting "encoding" encoding? .utf8 encoding }

-- Output settings from a table of named values, or from a list of values in their order.
def outputOfValue : Value → Except ConfigError Output
  | .table _ table => do
    checkKeys table ["format", "encoding"]
    outputOf (Table.get? table "format") (Table.get? table "encoding")
  | .array items => outputOf items[0]? items[1]?
  | .tables elements =>
    let items := elements.map (Value.table .header)
    outputOf items[0]? items[1]?
  | _ => .error (.unsuitableValue "output")

/-- The configuration that a table describes. -/
def ofTable (table : Table) : Except ConfigError Config := do
  checkKeys table ["verbose", "color", "output"]
  return {
    verbose := ← setting "verbose" boolean? false (table.get? "verbose")
    color := ← setting "color" boolean? true (table.get? "color")
    output := ← match table.get? "output" with
      | none => .ok {}
      | some value => outputOfValue value }

def parse (text : String) : Except ConfigError Config :=
  match Toml.read? text with
  | none => .error .notToml
  | some table => ofTable table

end Config

end ScriptLex
