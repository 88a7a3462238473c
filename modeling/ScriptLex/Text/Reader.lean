/-! Readers: functions that take a value off the front of a text. -/

set_option autoImplicit false

namespace ScriptLex.Text

/-- A reader gives the value at the front of a text and the text behind it, or refuses. -/
abbrev Reader (α : Type) := List Char → Option (α × List Char)

namespace Reader

variable {α : Type}

def after? : List Char → List Char → Option (List Char)
  | [], cs => some cs
  | _ :: _, [] => none
  | w :: ws, c :: cs => if w = c then after? ws cs else none

-- A fixed text that stands for a value.
def word (text : String) (value : α) : Reader α := fun cs =>
  (after? text.toList cs).map fun rest => (value, rest)

def orElse (first second : Reader α) : Reader α := fun cs => first cs <|> second cs

-- As many items as there are. An item that takes no text is not read.
def many (item : Reader α) (cs : List Char) : List α × List Char :=
  match item cs with
  | none => ([], cs)
  | some (first, rest) =>
    if _shorter : rest.length < cs.length then
      let (others, last) := many item rest
      (first :: others, last)
    else ([], cs)
termination_by cs.length
decreasing_by exact _shorter

-- As many items as there are, with a mark between each two. A mark with no item behind it is left
-- in the text.
def separated (item : Reader α) (mark : Char) (cs : List Char) : List α × List Char :=
  match item cs with
  | none => ([], cs)
  | some (first, []) => ([first], [])
  | some (first, c :: rest) =>
    if _shorter : c = mark ∧ rest.length < cs.length then
      match separated item mark rest with
      | ([], _) => ([first], c :: rest)
      | (others, last) => (first :: others, last)
    else ([first], c :: rest)
termination_by cs.length
decreasing_by exact _shorter.2

end Reader

end ScriptLex.Text
