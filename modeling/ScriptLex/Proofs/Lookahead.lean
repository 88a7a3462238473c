import ScriptLex.Proofs.Reading

/-! How little of the text behind a piece counts.

A rule looks at one character behind what it takes, and no rule takes a separator for a
continuation. So a reading stays the same when the text behind it is cut off or exchanged for one
that shows the same character or a separator. -/

set_option autoImplicit false

namespace ScriptLex.Scanner

open ScriptLex.Text

variable {vocabulary : Vocabulary}

/-- Behind a text that shows `after`, `after'` shows nothing else, or a separator. -/
def Shows (after after' : List Char) : Prop :=
  ∀ c ∈ after'.head?, c ∈ after.head? ∨ isSeparator c = true

theorem Shows.append {after after' : List Char} (shows : Shows after after') (text : List Char) :
    Shows (text ++ after) (text ++ after') := by
  cases text with
  | nil => exact shows
  | cons c text => exact fun d first => .inl first

theorem Shows.of_ne_nil {text : List Char} (nonempty : text ≠ []) (after after' : List Char) :
    Shows (text ++ after) (text ++ after') := by
  obtain ⟨c, text, rfl⟩ := List.exists_cons_of_ne_nil nonempty
  exact fun d first => .inl first

theorem Shows.of_separator {c : Char} (after : List Char) (blank : isSeparator c = true)
    (more : List Char) : Shows after (c :: more) := by
  intro d first
  obtain rfl : c = d := by simpa using first
  exact .inr blank

theorem Shows.head_ne {after after' : List Char} (shows : Shows after after') {c : Char}
    (other : isSeparator c = false) (none : after.head? ≠ some c) : after'.head? ≠ some c :=
  fun first => (shows c first).elim none (by simp [other])

theorem Shows.stopsAt {after after' : List Char} (shows : Shows after after') {p : Char → Bool}
    (other : ∀ {c}, isSeparator c = true → p c = false) (stops : StopsAt p after) :
    StopsAt p after' := by
  intro c first
  rcases shows c first with same | blank
  · exact stops c same
  · exact other blank

/-- A token piece stays what it is, unless it is a comment that loses its place at the end. -/
theorem Piece.change_after {run after after' lexeme : List Char} {kind : Kind}
    (piece : Piece vocabulary run after (.token kind lexeme)) (shows : Shows after after') :
    Piece vocabulary run after' (.token kind lexeme) ∨
      after = [] ∧ kind = .ignored ∧ lexeme = [] ∧
        ∀ more, Piece vocabulary (run ++ ['\n']) more (.token .ignored []) := by
  cases piece with
  | symbol listed alone =>
    exact .inl (.symbol listed fun sign => shows.head_ne (by decide) (alone sign))
  | pair known free => exact .inl (.pair known free)
  | single known free alone => exact .inl (.single known free (shows.head_ne (by decide) alone))
  | divide free alone => exact .inl (.divide free (shows.head_ne (by decide) alone))
  | comment free within => exact .inl (.comment free within)
  | lastComment free within => exact .inr ⟨rfl, rfl, rfl, fun more => .comment free within⟩
  | quoted free within => exact .inl (.quoted free within)
  | whole free nonempty digits stops =>
    exact .inl (.whole free nonempty digits (shows.stopsAt isNumberStart_of_isSeparator stops))
  | decimal free decimal stops =>
    exact .inl (.decimal free decimal (shows.stopsAt isNumberStart_of_isSeparator stops))
  | word free nonempty letters stops =>
    exact .inl (.word free nonempty letters (shows.stopsAt isLetter_of_isSeparator stops))

theorem Piece.start_of_token {run after lexeme : List Char} {kind : Kind}
    (piece : Piece vocabulary run after (.token kind lexeme))
    (start : StopsAt isSeparator (run ++ after)) (after' : List Char) :
    StopsAt isSeparator (run ++ after') := by
  obtain ⟨c, run, rfl⟩ := List.exists_cons_of_ne_nil piece.run_ne_nil_of_token
  exact start

/-- What is read in front of some text is read there in front of any text that shows as much. -/
theorem Reads.change_rest {before text rest rest' : List Char} {tokens : List Token}
    (reads : Reads vocabulary before text rest tokens) (nonempty : rest ≠ [])
    (shows : Shows rest rest') : Reads vocabulary before text rest' tokens := by
  induction reads with
  | gap blank => exact .gap blank
  | @piece before gap run text rest lexeme kind tokens blank start piece more ih =>
    have start' := piece.start_of_token start (text ++ rest')
    rcases piece.change_after (shows.append text) with piece | ⟨none, -⟩
    · exact .piece blank start' piece (ih nonempty shows)
    · exact absurd (List.append_eq_nil_iff.1 none).2 nonempty

theorem Reads.tokens_of_nil {before rest : List Char} {tokens : List Token}
    (reads : Reads vocabulary before [] rest tokens) : tokens = [] := by
  generalize none : ([] : List Char) = text at reads
  cases reads with
  | gap => rfl
  | piece blank start piece more =>
    obtain ⟨rfl, -⟩ := List.append_eq_nil_iff.1 (List.append_eq_nil_iff.1 none.symm).2
    exact absurd rfl piece.run_ne_nil_of_token

/-- A text that is read to its end may be closed by a newline. -/
theorem Reads.close_line {before text : List Char} {tokens : List Token}
    (reads : Reads vocabulary before text [] tokens) (more : List Char) :
    Reads vocabulary before (text ++ ['\n']) more tokens := by
  obtain ⟨rest, ending, whole⟩ : ∃ rest, rest = [] ∧ Reads vocabulary before text rest tokens :=
    ⟨[], rfl, reads⟩
  clear reads
  induction whole with
  | @gap before gap _ blank =>
    refine .gap fun c member => ?_
    rcases List.mem_append.1 member with inside | newline
    · exact blank c inside
    · obtain rfl : c = '\n' := by simpa using newline
      rfl
  | @piece before gap run text _ lexeme kind tokens blank start piece reads ih =>
    subst ending
    have shows := (Shows.of_separator [] (show isSeparator '\n' = true from rfl) more).append text
    have start' := piece.start_of_token start (text ++ '\n' :: more)
    rcases piece.change_after shows with piece | ⟨none, rfl, rfl, comment⟩
    · have closed := Reads.piece blank (by simpa using start') (by simpa using piece) (ih rfl)
      simpa using closed
    · -- The newline becomes the end of the comment, and nothing is left behind it.
      obtain rfl : text = [] := (List.append_eq_nil_iff.1 none).1
      obtain rfl := reads.tokens_of_nil
      have closed : Reads vocabulary before (gap ++ (run ++ ['\n'] ++ [])) more _ :=
        Reads.piece blank (by simpa using start') (comment more) (.gap (by simp))
      simpa using closed

end ScriptLex.Scanner
