/-! Codes that classify diagnostics. -/

set_option autoImplicit false

namespace ScriptLex.Diagnostic

structure Code where
  series : String
  number : UInt32
  deriving DecidableEq, Repr

namespace Code

def zeroPadded (width n : Nat) : String :=
  let digits := n.repr
  String.ofList (List.replicate (width - digits.length) '0') ++ digits

/-- The series and at least four digits. -/
def text (code : Code) : String := code.series ++ zeroPadded 4 code.number.toNat

def isError (code : Code) : Bool := code.series == "E"

def unexpectedCharacter : Code := ⟨"E", 1001⟩
def unterminatedString : Code := ⟨"E", 1002⟩
def malformedNumber : Code := ⟨"E", 1003⟩

end Code

end ScriptLex.Diagnostic
