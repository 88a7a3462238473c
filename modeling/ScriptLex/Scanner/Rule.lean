import ScriptLex.Scanner.CharClass
import ScriptLex.Scanner.Cursor
import ScriptLex.Scanner.Error
import ScriptLex.Scanner.Vocabulary
import ScriptLex.Token.Basic

/-! The lexical rules, one for each way that a token can be read. -/

set_option autoImplicit false

namespace ScriptLex.Scanner

/-- What a rule says about the text under the cursor. -/
inductive Verdict where
  | declined
  | token (token : Token)
  | error (error : LexicalError)
  deriving DecidableEq, Repr

/-- A rule reads at most one token and says where reading ended. -/
abbrev Rule := Vocabulary → Cursor → Verdict × Cursor

def tokenAt (start : Cursor) (kind : Kind) (lexeme : List Char) : Token :=
  ⟨kind, String.ofList lexeme, start.line⟩

def errorAt (start : Cursor) (cause : LexicalCause) : LexicalError :=
  ⟨cause, start.position, start.line⟩

namespace Rule

-- A symbol of the vocabulary. An equals or exclamation sign before another equals sign is left to
-- `comparison`.
def symbol : Rule := fun vocabulary cursor =>
  match cursor.current? with
  | none => (.declined, cursor)
  | some c =>
    -- Whatever the vocabulary says of the first sign, the two together are a comparison.
    if (c == '=' || c == '!') && cursor.nextIs '=' then (.declined, cursor)
    else match vocabulary.symbol? c with
      | none => (.declined, cursor)
      | some kind => (.token (tokenAt cursor kind [c]), cursor.advance)

-- The comparison that begins with a character and goes on with an equals sign or not.
def comparisonKind? (c : Char) (withEquals : Bool) : Option Kind :=
  match c, withEquals with
  | '<', true => some .lessEqual
  | '<', false => some .lessThan
  | '>', true => some .greaterEqual
  | '>', false => some .greaterThan
  | '=', true => some .equivalent
  | '!', true => some .notEqual
  | _, _ => none

def comparison : Rule := fun _ cursor =>
  match cursor.current? with
  | none => (.declined, cursor)
  | some c =>
    let withEquals := cursor.nextIs '='
    match comparisonKind? c withEquals with
    | none => (.declined, cursor)
    | some kind =>
      if withEquals then (.token (tokenAt cursor kind [c, '=']), cursor.advance.advance)
      else (.token (tokenAt cursor kind [c]), cursor.advance)

-- The division sign, or a comment that two of them open. A comment runs through the end of its
-- line.
def slash : Rule := fun _ cursor =>
  if cursor.current? = some '/' then
    if cursor.nextIs '/' then
      -- The line break belongs to the comment; the last comment of a source may lack one.
      let (_, lineEnd) := cursor.takeWhile (· != '\n')
      (.token (tokenAt cursor .ignored []), lineEnd.advance)
    else (.token (tokenAt cursor .divide ['/']), cursor.advance)
  else (.declined, cursor)

-- A string in quotes, closed on its line.
def quoted : Rule := fun _ cursor =>
  if cursor.current? = some '"' then
    let (body, close) := cursor.advance.takeWhile isStringBody
    if close.current? = some '"' then (.token (tokenAt cursor .string body), close.advance)
    else (.error (errorAt cursor .unterminatedString), close)
  else (.declined, cursor)

-- Digits with at most one decimal point among them. A second point is an error that covers the text
-- up to it.
def number : Rule := fun _ cursor =>
  if cursor.current?.any isNumberStart then
    let (whole, afterWhole) := cursor.takeWhile isDigit
    if afterWhole.current? = some '.' then
      let (fraction, afterFraction) := afterWhole.advance.takeWhile isDigit
      let lexeme := whole ++ '.' :: fraction
      -- Nothing behind the second point is looked at.
      if afterFraction.current? = some '.' then
        let malformed := String.ofList (lexeme ++ ['.'])
        (.error (errorAt cursor (.malformedNumber malformed)), afterFraction.advance)
      else (.token (tokenAt cursor .number lexeme), afterFraction)
    else (.token (tokenAt cursor .number whole), afterWhole)
  else (.declined, cursor)

-- A run of letters: a reserved word of the vocabulary, or else an identifier.
def word : Rule := fun vocabulary cursor =>
  let (letters, after) := cursor.takeWhile isLetter
  if letters.isEmpty then (.declined, after)
  else
    let kind := (vocabulary.word? (String.ofList letters)).getD .identifier
    (.token (tokenAt cursor kind letters), after)

-- Every rule, in the order in which they are tried.
def all : List Rule := [symbol, comparison, slash, quoted, number, word]

end Rule

end ScriptLex.Scanner
