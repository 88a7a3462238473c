import ScriptLex.Token.Kind

/-! Tokens and the line that lists one. -/

set_option autoImplicit false

namespace ScriptLex

/-- A piece of source text with its kind and the line where it starts. -/
structure Token where
  kind : Kind
  lexeme : String
  line : UInt32
  deriving DecidableEq, Repr

namespace Token

def isIgnored (token : Token) : Bool := token.kind = .ignored

-- The token as one line of a listing; an empty lexeme leaves no trailing blank.
def display (token : Token) : String :=
  let head := "[line " ++ token.line.toNat.repr ++ "] " ++ token.kind.name
  if token.lexeme.isEmpty then head else head ++ " " ++ token.lexeme

end Token

end ScriptLex
