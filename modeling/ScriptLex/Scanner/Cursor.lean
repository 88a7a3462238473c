import ScriptLex.Text.Bytes

/-! A reading position in a source text.

A cursor counts bytes and lines as it moves, so that neither has to be recovered from the text. It
moves one character at a time; longer moves are repetitions of `advance`. -/

set_option autoImplicit false

namespace ScriptLex

open ScriptLex.Text

/-- A source, what is still to be read of it, and how far reading has come. -/
structure Cursor where
  source : String
  rest : List Char
  position : Nat
  line : UInt32
  deriving DecidableEq, Repr

namespace Cursor

def ofSource (source : String) : Cursor := ⟨source, source.toList, 0, 1⟩

def atEnd (cursor : Cursor) : Bool := cursor.rest.isEmpty

def current? (cursor : Cursor) : Option Char := cursor.rest.head?

-- Whether there is a character after the current one and it is `c`.
def nextIs (cursor : Cursor) (c : Char) : Bool := cursor.rest.tail.head? == some c

def remaining (cursor : Cursor) : String := String.ofList cursor.rest

-- Move over one character; at the end of the source there is nowhere to go.
def advance (cursor : Cursor) : Cursor :=
  match cursor.rest with
  | [] => cursor
  | c :: rest =>
    { cursor with
      rest := rest
      position := cursor.position + c.utf8Size
      line := if c = '\n' then cursor.line + 1 else cursor.line }

def advanceBy : Nat → Cursor → Cursor
  | 0, cursor => cursor
  | n + 1, cursor => advanceBy n cursor.advance

theorem advance_rest (cursor : Cursor) : cursor.advance.rest = cursor.rest.tail := by
  unfold advance
  split <;> simp_all

theorem advance_rest_cons {cursor : Cursor} {c : Char} {rest : List Char}
    (here : cursor.rest = c :: rest) : cursor.advance.rest = rest := by
  simp [advance_rest, here]

/-- Move over the characters that satisfy `p`, up to the first that does not. The result begins with
the characters passed. -/
def takeWhile (p : Char → Bool) (cursor : Cursor) : List Char × Cursor :=
  match _here : cursor.rest with
  | [] => ([], cursor)
  | c :: _ =>
    if p c then
      let (run, after) := cursor.advance.takeWhile p
      (c :: run, after)
    else ([], cursor)
termination_by cursor.rest.length
decreasing_by simp [advance_rest_cons _here, _here]

/-- A run together with what follows it is what there was to read. -/
theorem takeWhile_append_rest (p : Char → Bool) (cursor : Cursor) :
    (cursor.takeWhile p).1 ++ (cursor.takeWhile p).2.rest = cursor.rest := by
  fun_induction takeWhile p cursor with
  | case1 cursor here => simp [here]
  | case2 cursor c rest here holds run after passed ih =>
    rw [passed] at ih
    simp only [List.cons_append, ih, advance_rest_cons here, here]
  | case3 cursor c rest here fails => simp

theorem takeWhile_rest_length (p : Char → Bool) (cursor : Cursor) :
    (cursor.takeWhile p).1.length + (cursor.takeWhile p).2.rest.length = cursor.rest.length := by
  rw [← List.length_append, takeWhile_append_rest]

-- The text from an earlier byte offset to the cursor, if that offset is a boundary not beyond it.
def sliceFrom? (cursor : Cursor) (start : Nat) : Option String :=
  (slice? cursor.source.toList start cursor.position).map String.ofList

end Cursor

end ScriptLex
