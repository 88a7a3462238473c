import ScriptLex.Text.Escape

/-! Lexical errors. -/

set_option autoImplicit false

namespace ScriptLex

open ScriptLex.Text

/-- What is wrong with the text at some place. -/
inductive LexicalCause where
  | unexpectedCharacter (character : Char)
  | unterminatedString
  | malformedNumber (lexeme : String)
  deriving DecidableEq, Repr

/-- A text that no token begins with, by its cause, byte offset and line. -/
structure LexicalError where
  cause : LexicalCause
  offset : Nat
  line : UInt32
  deriving DecidableEq, Repr

namespace LexicalError

def wording (shown : Char → String) (error : LexicalError) : String :=
  match error.cause with
  | .unexpectedCharacter character =>
    "Unexpected character '" ++ shown character ++ "' at " ++ error.offset.repr
  | .unterminatedString => "unterminated string"
  | .malformedNumber lexeme =>
    "invalid number '" ++ lexeme ++ "' (multiple decimal points)"

def message (error : LexicalError) : String := error.wording escaped

-- The error in words after its line; a character stands as it is.
def display (error : LexicalError) : String :=
  "line " ++ error.line.toNat.repr ++ ": " ++ error.wording Char.toString

end LexicalError

end ScriptLex
