import ScriptLex.Text.Bytes
import ScriptLex.Text.Lines

/-! Places in a source text: byte spans, line and column numbers, and the text of a line.

Lines and columns count from one and are 32-bit words; columns count characters. -/

set_option autoImplicit false

namespace ScriptLex.Source

open ScriptLex.Text

inductive PlaceError where
  | reversed (start stop : Nat)
  | outOfBounds (length start stop : Nat)
  | noSuchLine (line : UInt32) (lines : Nat)
  | insideCharacter (offset : Nat)
  deriving DecidableEq, Repr

def PlaceError.message : PlaceError → String
  | .reversed start stop =>
    "Invalid span: start " ++ start.repr ++ " > end " ++ stop.repr
  | .outOfBounds length start stop =>
    "Span out of bounds: source has " ++ length.repr ++ " bytes, span is " ++ start.repr ++ ".." ++
      stop.repr
  | .noSuchLine line lines =>
    "Invalid line number: " ++ line.toNat.repr ++ " (source has " ++ lines.repr ++ " lines)"
  | .insideCharacter offset =>
    "Offset " ++ offset.repr ++ " is not on a character boundary"

/-- A byte range with the line and column where it starts. -/
structure Span where
  start : Nat
  stop : Nat
  line : UInt32
  column : UInt32
  deriving DecidableEq, Repr

namespace Span

/-- The span of something that has no place. -/
def nowhere : Span := ⟨0, 0, 0, 0⟩

instance : Inhabited Span := ⟨nowhere⟩

def isEmpty (span : Span) : Bool := span.start == span.stop

-- The length in bytes; a span that ends before it starts has none.
def length (span : Span) : Nat := span.stop - span.start

/-- The characters that the span covers. A span is refused for its order first, then for its end,
then for the first of its two offsets that falls inside a character. -/
def text (span : Span) (source : String) : Except PlaceError String :=
  let cs := source.toList
  if span.stop < span.start then .error (.reversed span.start span.stop)
  else if byteLength cs < span.stop then
    .error (.outOfBounds (byteLength cs) span.start span.stop)
  else match splitAt? cs span.start with
    | none => .error (.insideCharacter span.start)
    | some (_, rest) =>
      match splitAt? rest (span.stop - span.start) with
      | none => .error (.insideCharacter span.stop)
      | some (part, _) => .ok (String.ofList part)

end Span

def placeAfter (before : List Char) : UInt32 × UInt32 :=
  (UInt32.ofNat (newlines before) + 1,
    UInt32.ofNat (before.reverse.takeWhile (· ≠ '\n')).length + 1)

/-- The line and column of a byte offset. The end of the source is a place too. -/
def lineColumn (source : String) (offset : Nat) : Except PlaceError (UInt32 × UInt32) :=
  let cs := source.toList
  if byteLength cs < offset then .error (.outOfBounds (byteLength cs) offset offset)
  else match splitAt? cs offset with
    | none => .error (.insideCharacter offset)
    | some (before, _) => .ok (placeAfter before)

/-- The span of the character at a byte offset, empty at the end of the source. -/
def Span.ofOffset (source : String) (offset : Nat) : Except PlaceError Span := do
  let (line, column) ← lineColumn source offset
  let width := match splitAt? source.toList offset with
    | some (_, c :: _) => c.utf8Size
    | _ => 0
  return ⟨offset, offset + width, line, column⟩

def lineText (source : String) (line : UInt32) : Except PlaceError String :=
  let lines := rawLines source.toList
  if line = 0 ∨ lines.length < line.toNat then .error (.noSuchLine line lines.length)
  else .ok (String.ofList (withoutReturn (lines.getD (line.toNat - 1) [])))

end ScriptLex.Source
