import ScriptLex.Diagnostic.Draft
import ScriptLex.Scanner.Error

/-! Lexical errors shown in the source where they occur. -/

set_option autoImplicit false

namespace ScriptLex.LexicalError

open ScriptLex.Diagnostic ScriptLex.Source ScriptLex.Text

def code (error : LexicalError) : Code :=
  match error.cause with
  | .unexpectedCharacter _ => .unexpectedCharacter
  | .unterminatedString => .unterminatedString
  | .malformedNumber _ => .malformedNumber

/-- What the marks under the offending text say. -/
def label (error : LexicalError) : String :=
  match error.cause with
  | .unexpectedCharacter _ => "no token starts here"
  | .unterminatedString => "string starts here"
  | .malformedNumber _ => "more than one decimal point"

-- Where the offending text ends. An open string ends with its line, or with the source if its
-- offset is not a place in it.
def stop (error : LexicalError) (source : List Char) (offset : Nat) : Nat :=
  match error.cause with
  | .unexpectedCharacter character => offset + character.utf8Size
  | .unterminatedString =>
    match splitAt? source offset with
    | some (_, rest) => offset + byteLength (rest.takeWhile (· ≠ '\n'))
    | none => byteLength source
  | .malformedNumber lexeme => offset + byteLength lexeme.toList

/-- The span of the offending text, kept within the source. -/
def span (error : LexicalError) (source : String) : Span :=
  let cs := source.toList
  let offset := min error.offset (byteLength cs)
  let column := match lineColumn source offset with
    | .ok (_, column) => column
    | .error _ => 1
  ⟨offset, min (error.stop cs offset) (byteLength cs), error.line, column⟩

def remarks (error : LexicalError) : List Addition :=
  match error.cause with
  | .unexpectedCharacter _ => []
  | .unterminatedString =>
    [.note "string literals must close on the line they start", .help "add a closing '\"'"]
  | .malformedNumber _ => [.help "a number may contain at most one decimal point"]

/-- The error as a diagnostic about a source. A line that the source does not have is not shown. -/
def toDiagnostic (error : LexicalError) (source : String) : Diagnostic :=
  let span := error.span source
  let shown : List Addition := match Snippet.ofSpan source span with
    | .ok snippet => [.snippet (snippet.withLabel error.label)]
    | .error _ => []
  -- The code comes first, but the order in which different things are added does not show.
  let draft := (Draft.error error.message).add (.code error.code) |>.place span
  ((shown ++ error.remarks).foldl Draft.add draft).build

end ScriptLex.LexicalError
