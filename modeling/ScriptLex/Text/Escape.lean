import ScriptLex.Text.Hex
import ScriptLex.Text.Unprintable

/-! Characters as they are written inside a message: what would break the line or could not be
seen is written with a backslash. -/

set_option autoImplicit false

namespace ScriptLex.Text

def escaped (c : Char) : String :=
  match c with
  | '\x00' => "\\0"
  | '\t' => "\\t"
  | '\r' => "\\r"
  | '\n' => "\\n"
  | '\\' => "\\\\"
  | '"' => "\\\""
  | '\x27' => "\\'"
  | _ => if isUnprintable c then "\\u\x7b" ++ hexNumber c ++ "\x7d" else c.toString

end ScriptLex.Text
