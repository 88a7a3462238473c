/-! Reading UTF-8, with the place and the extent of the first fault.

Bytes are read one at a time. A first byte fixes how many bytes follow it and which second bytes are
admissible; that rules out overlong forms, surrogates and code points beyond the last one. -/

set_option autoImplicit false

namespace ScriptLex.Text.Utf8

/-- What is wrong with the bytes at some place: so many bytes form no character, or the input ends
inside one. -/
inductive Fault where
  | invalid (length : Nat)
  | incomplete
  deriving DecidableEq, Repr

/-- The first fault of an input, with the number of bytes before the character it is in. -/
structure Malformed where
  index : Nat
  fault : Fault
  deriving DecidableEq, Repr

def Malformed.message (malformed : Malformed) : String :=
  match malformed.fault with
  | .invalid length =>
    "invalid utf-8 sequence of " ++ length.repr ++ " bytes from index " ++ malformed.index.repr
  | .incomplete => "incomplete utf-8 byte sequence from index " ++ malformed.index.repr

/-- A character that has begun: its bits and bytes so far, how many bytes are missing, and the range
of the next one. -/
structure Begun where
  bits : Nat
  seen : Nat
  missing : Nat
  low : UInt8
  high : UInt8
  deriving DecidableEq, Repr

def begin? (b : UInt8) : Option Begun :=
  -- A continuation byte, or a form longer than its character needs.
  if b < 0xC2 then none
  else if b < 0xE0 then some ⟨b.toNat - 0xC0, 1, 1, 0x80, 0xBF⟩
  else if b = 0xE0 then some ⟨0, 1, 2, 0xA0, 0xBF⟩
  -- The second byte keeps surrogates out.
  else if b = 0xED then some ⟨0xD, 1, 2, 0x80, 0x9F⟩
  else if b < 0xF0 then some ⟨b.toNat - 0xE0, 1, 2, 0x80, 0xBF⟩
  else if b = 0xF0 then some ⟨0, 1, 3, 0x90, 0xBF⟩
  else if b < 0xF4 then some ⟨b.toNat - 0xF0, 1, 3, 0x80, 0xBF⟩
  -- The second byte keeps to the last plane.
  else if b = 0xF4 then some ⟨4, 1, 3, 0x80, 0x8F⟩
  else none

-- One more byte of a character that has begun. Six bits come from each.
def Begun.extend (begun : Begun) (b : UInt8) : Begun :=
  ⟨64 * begun.bits + (b.toNat - 0x80), begun.seen + 1, begun.missing - 1, 0x80, 0xBF⟩

-- The characters of an input that goes on at byte `index`, possibly inside a character that began
-- there.
def decodeFrom (index : Nat) : Option Begun → List UInt8 → Except Malformed (List Char)
  | none, [] => .ok []
  | some _, [] => .error ⟨index, .incomplete⟩
  | none, b :: bs =>
    if b < 0x80 then (decodeFrom (index + 1) none bs).map (Char.ofNat b.toNat :: ·)
    else match begin? b with
      | none => .error ⟨index, .invalid 1⟩
      | some begun => decodeFrom index (some begun) bs
  | some begun, b :: bs =>
    if begun.low ≤ b ∧ b ≤ begun.high then
      let further := begun.extend b
      if further.missing = 0 then
        (decodeFrom (index + further.seen) none bs).map (Char.ofNat further.bits :: ·)
      else decodeFrom index (some further) bs
    else .error ⟨index, .invalid begun.seen⟩

def decode (bytes : List UInt8) : Except Malformed (List Char) := decodeFrom 0 none bytes

end ScriptLex.Text.Utf8
