/-! TOML values and tables. -/

set_option autoImplicit false

namespace ScriptLex.Toml

/-- How a table came to be, which decides what may still be added to it. -/
inductive Form where
  /-- By a header of its own. -/
  | header
  /-- On the way to another header. -/
  | implied
  /-- By the dotted key of an entry. -/
  | dotted
  /-- In braces. -/
  | inline
  deriving DecidableEq, Repr

/-- A TOML value. Floats and points in time keep the text they were written with. -/
inductive Value where
  | string (text : String)
  | boolean (value : Bool)
  | integer (value : Int)
  | float (literal : String)
  | moment (literal : String)
  | array (items : List Value)
  | table (form : Form) (entries : List (String × Value))
  | tables (elements : List (List (String × Value)))
  deriving Repr

/-- Entries in the order of writing, no key twice. -/
abbrev Table := List (String × Value)

namespace Table

def get? (table : Table) (key : String) : Option Value := table.lookup key

def set : Table → String → Value → Table
  | [], key, value => [(key, value)]
  | entry :: rest, key, value =>
    if entry.1 = key then (key, value) :: rest else entry :: set rest key value

end Table

end ScriptLex.Toml
