import ScriptLex.Source.Span

/-! A source line with a range of its columns marked. -/

set_option autoImplicit false

namespace ScriptLex.Diagnostic

open ScriptLex.Source ScriptLex.Text

/-- A line and the columns from `startColumn` up to but not including `endColumn` in it. -/
structure Snippet where
  line : String
  lineNumber : Nat
  startColumn : Nat
  endColumn : Nat
  label : Option String
  deriving DecidableEq, Repr

namespace Snippet

-- The first line of what a span covers. The marks end where the covered text or the line does.
def ofSpan (source : String) (span : Span) : Except PlaceError Snippet := do
  let line ← lineText source span.line
  let startColumn := max span.column.toNat 1
  let covered := (slice? source.toList span.start span.stop).getD []
  let width := (covered.takeWhile (· ≠ '\n')).length
  let lineEnd := max (line.length + 1) startColumn
  return {
    line
    lineNumber := span.line.toNat
    startColumn
    endColumn := min (startColumn + width) lineEnd
    label := none }

def withLabel (snippet : Snippet) (label : String) : Snippet := { snippet with label := some label }

-- The width of the margin: that of the line number, but three columns at least.
def marginWidth (snippet : Snippet) : Nat := max snippet.lineNumber.repr.length 3

def rightAligned (width : Nat) (text : String) : String :=
  String.ofList (List.replicate (width - text.length) ' ') ++ text

-- The row of marks, with at least one mark and the label after the last.
def marks (snippet : Snippet) : String :=
  let indent := List.replicate (snippet.startColumn - 1) ' '
  let carets := List.replicate (max (snippet.endColumn - snippet.startColumn) 1) '^'
  String.ofList (indent ++ carets) ++
    match snippet.label with
    | some label => " " ++ label
    | none => ""

def render (snippet : Snippet) : String :=
  rightAligned snippet.marginWidth snippet.lineNumber.repr ++ " | " ++ snippet.line ++ "\n" ++
    rightAligned snippet.marginWidth "" ++ " | " ++ snippet.marks

end Snippet

end ScriptLex.Diagnostic
