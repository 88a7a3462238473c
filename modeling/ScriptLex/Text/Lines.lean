/-! Lines of a character sequence. A newline ends a line, so the text after the last newline is a
line too, possibly an empty one. -/

set_option autoImplicit false

namespace ScriptLex.Text

def newlines (cs : List Char) : Nat := cs.count '\n'

@[simp] theorem newlines_nil : newlines [] = 0 := rfl

@[simp] theorem newlines_append (as bs : List Char) :
    newlines (as ++ bs) = newlines as + newlines bs := List.count_append

/-- The pieces between newlines, the newlines themselves left out. -/
def rawLines : List Char → List (List Char)
  | [] => [[]]
  | c :: cs =>
    if c = '\n' then [] :: rawLines cs
    else match rawLines cs with
      | [] => [[c]]
      | line :: lines => (c :: line) :: lines

/-- A line as it is shown: one carriage return at its end belongs to the line break. -/
def withoutReturn (line : List Char) : List Char :=
  if line.getLast? = some '\r' then line.dropLast else line

theorem rawLines_ne_nil (cs : List Char) : rawLines cs ≠ [] := by
  cases cs with
  | nil => simp [rawLines]
  | cons c cs => rw [rawLines]; split <;> (try split) <;> simp

-- There is one more line than there are newlines.
theorem length_rawLines (cs : List Char) : (rawLines cs).length = newlines cs + 1 := by
  induction cs with
  | nil => rfl
  | cons c cs ih =>
    rw [rawLines]
    split
    case isTrue newline => simp [newline, newlines, ih]
    case isFalse other =>
      have same : newlines (c :: cs) = newlines cs := by
        simp [newlines, other]
      split
      case h_1 none => exact absurd none (rawLines_ne_nil cs)
      case h_2 line lines some => rw [same, ← ih, some]; rfl

end ScriptLex.Text
