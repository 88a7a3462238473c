import ScriptLex.Diagnostic.Code
import ScriptLex.Diagnostic.Snippet

/-! Diagnostics and their text. -/

set_option autoImplicit false

namespace ScriptLex

open ScriptLex.Source

namespace Diagnostic

/-- How serious a diagnostic is. -/
inductive Level where
  | error
  | note
  | help
  deriving DecidableEq, Repr

def Level.text : Level → String
  | .error => "error"
  | .note => "note"
  | .help => "help"

end Diagnostic

/-- A message about a place in a source, with what explains it. -/
structure Diagnostic where
  level : Diagnostic.Level
  message : String
  span : Span
  code : Option Diagnostic.Code
  notes : List String
  helps : List String
  snippets : List Diagnostic.Snippet
  deriving DecidableEq, Repr

namespace Diagnostic

def plain (level : Level) (message : String) (span : Span) : Diagnostic :=
  ⟨level, message, span, none, [], [], []⟩

def withCode (diagnostic : Diagnostic) (code : Code) : Diagnostic :=
  { diagnostic with code := some code }

def withNote (diagnostic : Diagnostic) (note : String) : Diagnostic :=
  { diagnostic with notes := diagnostic.notes ++ [note] }

def withHelp (diagnostic : Diagnostic) (help : String) : Diagnostic :=
  { diagnostic with helps := diagnostic.helps ++ [help] }

def withSnippet (diagnostic : Diagnostic) (snippet : Snippet) : Diagnostic :=
  { diagnostic with snippets := diagnostic.snippets ++ [snippet] }

def headline (diagnostic : Diagnostic) : String :=
  let heading := match diagnostic.code with
    | some code => diagnostic.level.text ++ "[" ++ code.text ++ "]"
    | none => diagnostic.level.text
  heading ++ ": " ++ diagnostic.message

-- The line that says where, left out for a diagnostic without a place.
def location (diagnostic : Diagnostic) (origin : Option String) : List String :=
  if diagnostic.span = Span.nowhere then []
  else
    let line := diagnostic.span.line.toNat.repr
    let column := diagnostic.span.column.toNat.repr
    match origin with
    | some origin => [" --> " ++ origin ++ ":" ++ line ++ ":" ++ column]
    | none => [" --> line " ++ line ++ ", column " ++ column]

def remark (level : Level) (text : String) : String := "  = " ++ level.text ++ ": " ++ text

def parts (diagnostic : Diagnostic) (origin : Option String) : List String :=
  diagnostic.headline :: (diagnostic.location origin ++ diagnostic.snippets.map Snippet.render ++
    diagnostic.notes.map (remark .note) ++ diagnostic.helps.map (remark .help))

def render (diagnostic : Diagnostic) (origin : Option String) : String :=
  "\n".intercalate (diagnostic.parts origin)

end Diagnostic

end ScriptLex
