import ScriptLex.Proofs.Place
import ScriptLex.Proofs.Steps

/-! The lines that a scanner counts as it moves are those that are found from a byte offset.

The scanner counts newlines where it passes them: between tokens, and at the end of a comment. A
place in a source has its line from the text in front of it. The two agree after any steps, and so
do the lines that tokens and errors are reported with. -/

set_option autoImplicit false

namespace ScriptLex.Scanner

open ScriptLex.Text ScriptLex.Source

variable {vocabulary : Vocabulary}

/-- The line that a result is reported with. -/
def lineOf : Except LexicalError Token → UInt32
  | .ok token => token.line
  | .error error => error.line

theorem Takes.lineOf_eq {start : Cursor} {name : RuleName} {text behind : List Char}
    {result : Except LexicalError Token} (takes : Takes start name text behind result) :
    lineOf result = start.line := by
  cases takes <;> rfl

theorem Takes.offset_eq {start : Cursor} {name : RuleName} {text behind : List Char}
    {error : LexicalError} (takes : Takes start name text behind (.error error)) :
    error.offset = start.position := by
  cases takes <;> rfl

theorem Call.lineOf_eq {before gap text behind : List Char} {result : Except LexicalError Token}
    (call : Call vocabulary before gap text behind (some result)) :
    lineOf result = lineAfter (before ++ gap) := by
  cases call with
  | stuck blank solid refused => rfl
  | reads blank solid reader reading => exact reading.takes.lineOf_eq

theorem Call.offset_eq {before gap text behind : List Char} {error : LexicalError}
    (call : Call vocabulary before gap text behind (some (.error error))) :
    error.offset = byteLength (before ++ gap) := by
  cases call with
  | stuck blank solid refused => rfl
  | reads blank solid reader reading => exact reading.takes.offset_eq

theorem lineAfter_le_append {first second : List Char}
    (few : newlines (first ++ second) < UInt32.size - 1) :
    lineAfter first ≤ lineAfter (first ++ second) := by
  have fewer : newlines first ≤ newlines (first ++ second) := by
    rw [newlines_append]
    omega
  rw [UInt32.le_iff_toNat_le, toNat_lineAfter few, toNat_lineAfter (by omega)]
  omega

/-- The lines of what the steps report one after the other. -/
def reportedLines (results : List (Option (Except LexicalError Token))) : List UInt32 :=
  (results.filterMap id).map lineOf

/-- Every line that is reported is that of a place further on, and they come in order. -/
theorem reportedLines_ascend (steps : List Step) (before text : List Char) (finished : Bool)
    (few : newlines (before ++ text) < UInt32.size - 1) :
    (∀ line ∈ reportedLines (perform steps (standing vocabulary before text finished)).1,
      lineAfter before ≤ line) ∧
    (reportedLines (perform steps (standing vocabulary before text finished)).1).Pairwise
      (· ≤ ·) := by
  induction steps generalizing before text finished with
  | nil => exact ⟨by simp [perform, reportedLines], .nil⟩
  | cons step steps ih =>
    obtain ⟨passed, behind, result, finished', rfl, move, -, run⟩ :=
      step.exists_move vocabulary before text finished
    obtain ⟨later, ascending⟩ := ih (before ++ passed) behind finished' (by simpa using few)
    have onward : lineAfter before ≤ lineAfter (before ++ passed) := by
      refine lineAfter_le_append ?_
      simp only [newlines_append] at few ⊢
      omega
    rw [perform, run]
    cases move with
    | silent => exact ⟨fun line member => UInt32.le_trans onward (later line member), ascending⟩
    | @reports front gap text _ result call =>
      have split : before ++ (front ++ (gap ++ text)) = before ++ front ++ gap ++ text := by simp
      have fewer : newlines (before ++ front ++ gap ++ text) < UInt32.size - 1 := by
        simp only [newlines_append] at few ⊢
        omega
      have from_here : lineAfter before ≤ lineOf result := by
        rw [call.lineOf_eq, List.append_assoc]
        refine lineAfter_le_append ?_
        simp only [newlines_append] at fewer ⊢
        omega
      have up_to_there : lineOf result ≤ lineAfter (before ++ (front ++ (gap ++ text))) := by
        rw [call.lineOf_eq, split]
        exact lineAfter_le_append fewer
      have behind_it := fun line member => UInt32.le_trans up_to_there (later line member)
      refine ⟨List.forall_mem_cons.2 ⟨from_here, fun line member => ?_⟩, .cons behind_it ascending⟩
      exact UInt32.le_trans from_here (behind_it line member)

/-- The text of a token lies in the source from `start` up to `stop`: there a rule takes it for the
token. -/
def HasText (vocabulary : Vocabulary) (source : String) (token : Token) (start stop : Nat) : Prop :=
  ∃ before text behind name, splitAt? source.toList start = some (before, text ++ behind) ∧
    stop = start + byteLength text ∧
    reader? vocabulary (Cursor.between before (text ++ behind)) = some name ∧
    Takes (Cursor.between before (text ++ behind)) name text behind (.ok token)

/-- A line is that of a byte offset. -/
def IsLineOf (line : UInt32) (source : String) (offset : Nat) : Prop :=
  ∃ column, lineColumn source offset = .ok (line, column)

/-- The lines of a scanner and of what it reports are those of the offsets in question. -/
structure LinesAgree (vocabulary : Vocabulary) (source : String) (scanner : Scanner) : Prop where
  here : IsLineOf scanner.cursor.line source scanner.cursor.position
  token : ∀ (step : Step) (token : Token) (after : Scanner),
    step.run scanner = (some (.ok token), after) →
      ∃ start, scanner.cursor.position ≤ start ∧
        HasText vocabulary source token start after.cursor.position ∧
        IsLineOf token.line source start
  error : ∀ (step : Step) (error : LexicalError) (after : Scanner),
    step.run scanner = (some (.error error), after) → IsLineOf error.line source error.offset
  ends : ∀ after : Scanner, scanner.nextToken = (none, after) →
    after.cursor.line.toNat = 1 + newlines source.toList

theorem isLineOf_lineAfter {source : String} {before behind : List Char}
    (split : source.toList = before ++ behind) :
    IsLineOf (lineAfter before) source (byteLength before) :=
  ⟨_, lineColumn_of_split split⟩

theorem linesAgree_standing {source : String} {before behind : List Char}
    (whole : source.toList = before ++ behind) (few : newlines source.toList < UInt32.size - 1)
    (finished : Bool) : LinesAgree vocabulary source (standing vocabulary before behind finished) where
  here := isLineOf_lineAfter whole
  token step token after run := by
    obtain ⟨passed, rest, result, finished', rfl, move, -, run'⟩ :=
      step.exists_move vocabulary before behind finished
    obtain ⟨rfl, rfl⟩ := Prod.mk.inj (run'.symm.trans run)
    cases move with
    | @reports front gap text _ _ call =>
      have split : source.toList = before ++ front ++ gap ++ (text ++ rest) := by simpa using whole
      cases call with
      | reads blank solid reader reading =>
        refine ⟨byteLength (before ++ front ++ gap), ?_, ⟨_, text, rest, _, ?_, ?_, reader,
          reading.takes⟩, ?_⟩
        · simp only [standing_position, byteLength_append]
          omega
        · rw [split]
          exact splitAt?_append _ _
        · simp only [standing_position, byteLength_append]
          omega
        · have line : token.line = lineAfter (before ++ front ++ gap) := reading.takes.lineOf_eq
          rw [line]
          exact isLineOf_lineAfter split
  error step error after run := by
    obtain ⟨passed, rest, result, finished', rfl, move, -, run'⟩ :=
      step.exists_move vocabulary before behind finished
    obtain ⟨rfl, rfl⟩ := Prod.mk.inj (run'.symm.trans run)
    cases move with
    | @reports front gap text _ _ call =>
      have split : source.toList = before ++ front ++ gap ++ (text ++ rest) := by simpa using whole
      have line : error.line = lineAfter (before ++ front ++ gap) := call.lineOf_eq
      rw [line, call.offset_eq]
      exact isLineOf_lineAfter split
  ends after read := by
    obtain ⟨gap, text, rest, result, rfl, call⟩ := exists_call vocabulary before behind
    obtain ⟨rfl, rfl⟩ := Prod.mk.inj ((call.nextToken finished).symm.trans read)
    obtain ⟨rfl, rfl⟩ := call.of_none
    have split : source.toList = before ++ gap := by simpa using whole
    rw [split] at few ⊢
    simpa [standing, Nat.add_comm] using toNat_lineAfter few

/-- Whatever steps a scanner has taken, its line is that of its position, and its reports come with
the lines of the texts that they are about, in ascending order. -/
theorem lines_agree (vocabulary : Vocabulary) (source : String)
    (few : newlines source.toList < UInt32.size - 1) (steps : List Step) :
    LinesAgree vocabulary source ((withVocabulary vocabulary source).after steps) ∧
      (reportedLines (perform steps (withVocabulary vocabulary source)).1).Pairwise (· ≤ ·) := by
  obtain ⟨passed, behind, finished, whole, reached⟩ := exists_standing vocabulary source steps
  constructor
  · rw [reached]
    exact linesAgree_standing whole few finished
  · rw [withVocabulary_eq_standing]
    exact (reportedLines_ascend steps [] source.toList false few).2

theorem lines_agree_past_errors :
    newlines "a//é\n\"b\n1.2.3\n\n@".toList < UInt32.size - 1 ∧
      reportedLines (perform [.nextToken, .nextToken, .next, .skipSeparators, .nextToken, .nextToken,
        .next, .nextToken] (withVocabulary .standard "a//é\n\"b\n1.2.3\n\n@")).1 =
          [1, 1, 2, 3, 3, 5] ∧
      LinesAgree .standard "a//é\n\"b\n1.2.3\n\n@" ((withVocabulary .standard
        "a//é\n\"b\n1.2.3\n\n@").after [.nextToken, .nextToken, .next, .skipSeparators]) :=
  ⟨by decide, by decide +kernel,
    (lines_agree .standard _ (by decide) [.nextToken, .nextToken, .next, .skipSeparators]).1⟩

end ScriptLex.Scanner
