import ScriptLex.Proofs.Text
import ScriptLex.Scanner.Basic

/-! Where moves bring a cursor.

Whatever a cursor has read, a move over a run adds the bytes and the lines of the run. Every cursor
that reading can reach stands between what has been read and what has not; its byte position and its
line are those of the part before it. -/

set_option autoImplicit false

namespace ScriptLex.Cursor

open ScriptLex.Text ScriptLex.Scanner

/-! ### Moves over a run -/

/-- The cursor behind a run, in front of `rest`. -/
def past (cursor : Cursor) (run rest : List Char) : Cursor :=
  { cursor with
    rest := rest
    position := cursor.position + byteLength run
    line := cursor.line + UInt32.ofNat (newlines run) }

@[simp] theorem past_rest (cursor : Cursor) (run rest : List Char) :
    (cursor.past run rest).rest = rest := rfl

theorem past_nil (cursor : Cursor) : cursor.past [] cursor.rest = cursor := by
  simp [past]

theorem past_past (cursor : Cursor) (first second middle rest : List Char) :
    (cursor.past first middle).past second rest = cursor.past (first ++ second) rest := by
  simp [past, Nat.add_assoc, UInt32.add_assoc, UInt32.ofNat_add]

theorem advance_of_cons {cursor : Cursor} {c : Char} {rest : List Char}
    (here : cursor.rest = c :: rest) : cursor.advance = cursor.past [c] rest := by
  have line : UInt32.ofNat (newlines [c]) = if c = '\n' then 1 else 0 := by
    split
    case isTrue newline => rw [newline]; rfl
    case isFalse other => simp [newlines, other]
  rw [advance]
  split
  case h_1 empty => simp [here] at empty
  case h_2 d tail text =>
    obtain ⟨rfl, rfl⟩ : c = d ∧ rest = tail := by simpa [here] using text
    rw [past, line]
    split <;> simp

/-- Moving over a run is moving past the characters of the run. -/
theorem takeWhile_of_run {p : Char → Bool} {cursor : Cursor} {run after : List Char}
    (text : cursor.rest = run ++ after) (within : ∀ c ∈ run, p c = true) (stops : StopsAt p after) :
    cursor.takeWhile p = (run, cursor.past run after) := by
  induction run generalizing cursor with
  | nil =>
    rw [List.nil_append] at text
    subst text
    rw [past_nil, takeWhile]
    split
    case h_1 => rfl
    case h_2 c rest here =>
      rw [here, stopsAt_cons] at stops
      rw [if_neg (by simp [stops])]
  | cons c run ih =>
    rw [takeWhile]
    split
    case h_1 empty => simp [text] at empty
    case h_2 d rest here =>
      obtain ⟨rfl, rfl⟩ : c = d ∧ run ++ after = rest := by simpa [text] using here
      have moved := advance_of_cons here
      have further := @ih cursor.advance (by rw [moved, past_rest])
        fun e member => within e (List.mem_cons_of_mem c member)
      rw [if_pos (within c List.mem_cons_self), further, moved, past_past]
      rfl

theorem takeWhile_of_stopsAt {p : Char → Bool} {cursor : Cursor} (stops : StopsAt p cursor.rest) :
    cursor.takeWhile p = ([], cursor) := by
  rw [takeWhile_of_run (List.nil_append _).symm (by simp) stops, past_nil]

theorem stopsAt_takeWhile (p : Char → Bool) (cursor : Cursor) :
    StopsAt p (cursor.takeWhile p).2.rest := by
  obtain ⟨run, after, text, within, stops⟩ := exists_run p cursor.rest
  rw [takeWhile_of_run text within stops]
  exact stops

/-- A run can be passed in two moves, first over characters of a smaller class. -/
theorem takeWhile_takeWhile {p q : Char → Bool} (weaker : ∀ c, p c = true → q c = true)
    (cursor : Cursor) : ((cursor.takeWhile p).2.takeWhile q).2 = (cursor.takeWhile q).2 := by
  obtain ⟨run, rest, text, within, stops⟩ := exists_run p cursor.rest
  obtain ⟨more, after, rfl, within', stops'⟩ := exists_run q rest
  have both : ∀ c ∈ run ++ more, q c = true := fun c member =>
    (List.mem_append.1 member).elim (fun first => weaker c (within c first)) (within' c)
  have whole : cursor.rest = (run ++ more) ++ after := by rw [text, List.append_assoc]
  rw [takeWhile_of_run text within stops, takeWhile_of_run (past_rest _ _ _) within' stops',
    takeWhile_of_run whole both stops', past_past]

/-- Skipping separators is one move over them: the moves of a round stay within that one, and a
round that meets no line break leaves nothing of it. -/
theorem skipSeparators_eq_takeWhile (cursor : Cursor) :
    cursor.skipSeparators = (cursor.takeWhile isSeparator).2 := by
  have ofBlank : ∀ c, isBlank c = true → isSeparator c = true := fun c blank => by
    simp [isSeparator, blank]
  have ofBreak : ∀ c, (c == '\n') = true → isSeparator c = true := fun c newline => by
    simp only [isSeparator, newline, Bool.or_true]
  fun_induction skipSeparators cursor with
  | case1 cursor lineEnd breaks none =>
    have still : breaks.2 = lineEnd := takeWhile_eq_self (List.isEmpty_iff.1 none)
    have noBlank : StopsAt isBlank lineEnd.rest := stopsAt_takeWhile isBlank cursor
    have noBreak : StopsAt (· == '\n') breaks.2.rest := stopsAt_takeWhile (· == '\n') lineEnd
    rw [still] at noBreak
    have spent : StopsAt isSeparator lineEnd.rest := noBlank.or noBreak
    rw [still, ← takeWhile_takeWhile ofBlank cursor, takeWhile_of_stopsAt spent]
  | case2 cursor lineEnd breaks _ ih =>
    calc breaks.2.skipSeparators
      _ = (breaks.2.takeWhile isSeparator).2 := ih
      _ = (lineEnd.takeWhile isSeparator).2 := takeWhile_takeWhile ofBreak lineEnd
      _ = (cursor.takeWhile isSeparator).2 := takeWhile_takeWhile ofBlank cursor

/-! ### Between two parts of a text -/

/-- The cursor between two parts of a text. -/
def between (before rest : List Char) : Cursor :=
  ⟨String.ofList (before ++ rest), rest, byteLength before, lineAfter before⟩

theorem ofSource_eq_between (source : String) : ofSource source = between [] source.toList := by
  simp [ofSource, between]

@[simp] theorem between_rest (before rest : List Char) : (between before rest).rest = rest := rfl

@[simp] theorem between_position (before rest : List Char) :
    (between before rest).position = byteLength before := rfl

@[simp] theorem between_line (before rest : List Char) :
    (between before rest).line = lineAfter before := rfl

@[simp] theorem between_current? (before rest : List Char) :
    (between before rest).current? = rest.head? := rfl

@[simp] theorem between_nextIs (before rest : List Char) (c : Char) :
    (between before rest).nextIs c = (rest.tail.head? == some c) := rfl

@[simp] theorem between_advance_nil (before : List Char) :
    (between before []).advance = between before [] := rfl

theorem between_past (before run rest : List Char) :
    (between before (run ++ rest)).past run rest = between (before ++ run) rest := by
  have line : lineAfter before + UInt32.ofNat (newlines run) = lineAfter (before ++ run) := by
    rw [lineAfter, lineAfter, newlines_append, UInt32.ofNat_add, UInt32.add_assoc,
      UInt32.add_comm 1, UInt32.add_assoc]
  simp [past, between, line]

@[simp] theorem between_advance (before rest : List Char) (c : Char) :
    (between before (c :: rest)).advance = between (before ++ [c]) rest := by
  rw [advance_of_cons rfl]
  exact between_past before [c] rest

theorem between_takeWhile_run {p : Char → Bool} {run after : List Char} (before : List Char)
    (within : ∀ c ∈ run, p c = true) (stops : StopsAt p after) :
    (between before (run ++ after)).takeWhile p = (run, between (before ++ run) after) := by
  rw [takeWhile_of_run (between_rest _ _) within stops, between_past]

theorem between_takeWhile (p : Char → Bool) (before rest : List Char) :
    (between before rest).takeWhile p =
      (rest.takeWhile p, between (before ++ rest.takeWhile p) (rest.dropWhile p)) := by
  obtain ⟨run, after, rfl, within, stops⟩ := exists_run p rest
  rw [between_takeWhile_run before within stops, takeWhile_run within stops,
    dropWhile_run within stops]

/-- Separators are skipped in any mixture, up to the first character that is none. -/
theorem between_skipSeparators {gap rest : List Char} (before : List Char)
    (blank : ∀ c ∈ gap, isSeparator c = true) (stops : StopsAt isSeparator rest) :
    (between before (gap ++ rest)).skipSeparators = between (before ++ gap) rest := by
  rw [skipSeparators_eq_takeWhile, between_takeWhile_run before blank stops]

end ScriptLex.Cursor
