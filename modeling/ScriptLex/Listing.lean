import ScriptLex.Token.Json

/-! Lists of tokens as they are printed. -/

set_option autoImplicit false

namespace ScriptLex

inductive Format where
  | text
  | json
  deriving DecidableEq, Repr

namespace Format

def name : Format → String
  | text => "text"
  | json => "json"

def ofName? (name : String) : Option Format := [text, json].find? (·.name == name)

end Format

namespace Listing

def text (tokens : List Token) : String :=
  String.join (tokens.map fun token => token.display ++ "\n")

-- A JSON array, laid out over several lines unless it is empty.
def json (tokens : List Token) : String :=
  if tokens.isEmpty then "[]\n"
  else "[\n  " ++ ",\n  ".intercalate (tokens.map (Token.toJson .indented)) ++ "\n]\n"

def render (format : Format) (tokens : List Token) : String :=
  match format with
  | .text => text tokens
  | .json => json tokens

end Listing

end ScriptLex
