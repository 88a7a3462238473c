import ScriptLex.Diagnostic.Basic

/-! Diagnostics written step by step. -/

set_option autoImplicit false

namespace ScriptLex.Diagnostic

open ScriptLex.Source

/-- One addition to a diagnostic. A code replaces the one before it; the others accumulate. -/
inductive Addition where
  | code (code : Code)
  | note (text : String)
  | help (text : String)
  | snippet (snippet : Snippet)
  deriving DecidableEq, Repr

def extend (diagnostic : Diagnostic) : Addition → Diagnostic
  | .code code => diagnostic.withCode code
  | .note text => diagnostic.withNote text
  | .help text => diagnostic.withHelp text
  | .snippet snippet => diagnostic.withSnippet snippet

/-- A diagnostic under way: what was added so far, the latest first. -/
structure Draft where
  level : Level
  message : String
  span : Span
  additions : List Addition
  deriving DecidableEq, Repr

namespace Draft

def start (level : Level) (message : String) : Draft := ⟨level, message, Span.nowhere, []⟩

def error (message : String) : Draft := start .error message

def add (draft : Draft) (addition : Addition) : Draft :=
  { draft with additions := addition :: draft.additions }

-- Say where; an earlier place is forgotten.
def place (draft : Draft) (span : Span) : Draft := { draft with span }

def code? : Addition → Option Code
  | .code code => some code
  | _ => none

def note? : Addition → Option String
  | .note text => some text
  | _ => none

def help? : Addition → Option String
  | .help text => some text
  | _ => none

def snippet? : Addition → Option Snippet
  | .snippet snippet => some snippet
  | _ => none

def build (draft : Draft) : Diagnostic where
  level := draft.level
  message := draft.message
  span := draft.span
  code := draft.additions.findSome? code?
  notes := draft.additions.reverse.filterMap note?
  helps := draft.additions.reverse.filterMap help?
  snippets := draft.additions.reverse.filterMap snippet?

end Draft

end ScriptLex.Diagnostic
