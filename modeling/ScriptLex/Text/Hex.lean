/-! Hexadecimal numbers and the characters they name. -/

set_option autoImplicit false

namespace ScriptLex.Text

def hexDigit? (c : Char) : Option Nat :=
  if '0' ≤ c ∧ c ≤ '9' then some (c.toNat - '0'.toNat)
  else if 'a' ≤ c ∧ c ≤ 'f' then some (c.toNat - 'a'.toNat + 10)
  else if 'A' ≤ c ∧ c ≤ 'F' then some (c.toNat - 'A'.toNat + 10)
  else none

def hexValue? (cs : List Char) : Option Nat :=
  cs.foldlM (fun value c => (hexDigit? c).map (16 * value + ·)) 0

-- The character of a code point, surrogates refused.
def charOfNumber? (n : Nat) : Option Char :=
  if n.isValidChar then some (Char.ofNat n) else none

def hexNumber (c : Char) : String := String.ofList (Nat.toDigits 16 c.toNat)

end ScriptLex.Text
