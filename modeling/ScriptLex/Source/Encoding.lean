import ScriptLex.Text.Utf8

/-! Encodings of source files. -/

set_option autoImplicit false

namespace ScriptLex.Source

open ScriptLex.Text

inductive Encoding where
  | utf8
  | latin1
  deriving DecidableEq, Repr

namespace Encoding

def name : Encoding → String
  | utf8 => "utf-8"
  | latin1 => "latin-1"

def ofName? (name : String) : Option Encoding := [utf8, latin1].find? (·.name == name)

-- A text without the byte order mark that may stand before it.
def withoutMark : List Char → List Char
  | '\ufeff' :: cs => cs
  | cs => cs

-- The text that bytes encode. In Latin-1 every byte is the character of the same number; in UTF-8
-- one byte order mark at the front is dropped.
def decode (encoding : Encoding) (bytes : List UInt8) : Except Utf8.Malformed String :=
  match encoding with
  | utf8 => (Utf8.decode bytes).map fun cs => String.ofList (withoutMark cs)
  | latin1 => .ok (String.ofList (bytes.map fun b => Char.ofNat b.toNat))

end Encoding

end ScriptLex.Source
