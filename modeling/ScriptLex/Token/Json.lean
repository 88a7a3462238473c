import ScriptLex.Json.Reading
import ScriptLex.Token.Basic

/-! Tokens as JSON objects. -/

set_option autoImplicit false

namespace ScriptLex

open ScriptLex.Text

structure Layout where
  opening : String
  colon : String
  comma : String
  closing : String
  deriving DecidableEq, Repr

def Layout.compact : Layout := ⟨"", ":", ",", ""⟩

-- One member a line, inside a list that is itself indented by two columns.
def Layout.indented : Layout := ⟨"\n    ", ": ", ",\n    ", "\n  "⟩

namespace Token

def toJson (layout : Layout) (token : Token) : String :=
  let member (name value : String) := Json.quoted name ++ layout.colon ++ value
  "\x7b" ++ layout.opening ++ member "kind" (Json.quoted token.kind.name) ++ layout.comma ++
    member "lexeme" (Json.quoted token.lexeme) ++ layout.comma ++
    member "line" token.line.toNat.repr ++ layout.closing ++ "\x7d"

-- A kind is written as its name, or as an object of that name and null.
def kindOfJson? : Json → Option Kind
  | .string (some name) => Kind.ofName? name
  | .object [(some name, .null)] => Kind.ofName? name
  | _ => none

def lexemeOfJson? : Json → Option String
  | .string text => text
  | _ => none

-- A line is a whole number of 32 bits, written with digits only.
def lineOfJson? : Json → Option UInt32
  | .number literal =>
    let n := Nat.ofDigitChars 10 literal 0
    if literal.all Json.Reading.isDigit && n < UInt32.size then some (UInt32.ofNat n) else none
  | _ => none

def ofParts? (kind lexeme line : Json) : Option Token := do
  return ⟨← kindOfJson? kind, ← lexemeOfJson? lexeme, ← lineOfJson? line⟩

-- The value of a name that occurs exactly once.
def unique? (members : List (Option String × Json)) (name : String) : Option Json :=
  match members.filter (·.1 == some name) with
  | [(_, value)] => some value
  | _ => none

-- A token from an object with its three members, or from a list of the three values. Other members
-- are ignored as long as their names are texts.
def ofJson? : Json → Option Token
  | .array [kind, lexeme, line] => ofParts? kind lexeme line
  | .object members =>
    if members.all (·.1.isSome) then do
      ofParts? (← unique? members "kind") (← unique? members "lexeme") (← unique? members "line")
    else none
  | _ => none

def read? (text : String) : Option Token := Json.read? text >>= ofJson?

def readList? (text : String) : Option (List Token) :=
  match Json.read? text with
  | some (.array items) => items.mapM ofJson?
  | _ => none

end Token

end ScriptLex
