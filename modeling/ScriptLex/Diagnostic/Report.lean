import ScriptLex.Diagnostic.Basic

/-! Diagnostics collected to be shown together. -/

set_option autoImplicit false

namespace ScriptLex

/-- Diagnostics in the order in which they were found. -/
structure Report where
  diagnostics : List Diagnostic
  deriving DecidableEq, Repr

namespace Report

def empty : Report := ⟨[]⟩

def add (report : Report) (diagnostic : Diagnostic) : Report :=
  ⟨report.diagnostics ++ [diagnostic]⟩

def size (report : Report) : Nat := report.diagnostics.length

def errorCount (report : Report) : Nat := report.diagnostics.countP (·.level = .error)

def hasErrors (report : Report) : Bool := report.diagnostics.any (·.level = .error)

def render (report : Report) (origin : Option String) : String :=
  "\n\n".intercalate (report.diagnostics.map (·.render origin))

end Report

end ScriptLex
