import ScriptLex.Proofs.Reading
import ScriptLex.Proofs.Taking

/-! The steps of a scanner, in any order.

A scanner that is asked for tokens stands somewhere in its source all the time: what it has passed
and what is still in front of it make up the text. One inversion lemma for each kind of step says
how far it goes and what it reports. -/

set_option autoImplicit false

namespace ScriptLex.Scanner

open ScriptLex.Text

variable {vocabulary : Vocabulary}

theorem withVocabulary_eq_standing (vocabulary : Vocabulary) (source : String) :
    withVocabulary vocabulary source = standing vocabulary [] source.toList false :=
  withVocabulary_eq_between vocabulary source

/-! ### Calls of `nextToken` -/

/-- `Call vocabulary before gap text behind result`: behind `before`, a call of `nextToken` passes
the separators `gap` and takes `text` for `result`, in front of `behind`. -/
inductive Call (vocabulary : Vocabulary) (before gap : List Char) :
    List Char → List Char → Option (Except LexicalError Token) → Prop where
  | ends (blank : ∀ c ∈ gap, isSeparator c = true) : Call vocabulary before gap [] [] none
  | stuck {behind : List Char} {c : Char} (blank : ∀ c ∈ gap, isSeparator c = true)
      (solid : isSeparator c = false)
      (refused : reader? vocabulary (Cursor.between (before ++ gap) (c :: behind)) = none) :
      Call vocabulary before gap [] (c :: behind) (some (.error
        (errorAt (Cursor.between (before ++ gap) (c :: behind)) (.unexpectedCharacter c))))
  | reads {text behind : List Char} {name : RuleName} {result : Except LexicalError Token}
      (blank : ∀ c ∈ gap, isSeparator c = true) (solid : StopsAt isSeparator (text ++ behind))
      (reader : reader? vocabulary (Cursor.between (before ++ gap) (text ++ behind)) = some name)
      (reading : Reading vocabulary (before ++ gap) name text behind result) :
      Call vocabulary before gap text behind (some result)

theorem Call.nextToken {before gap text behind : List Char}
    {result : Option (Except LexicalError Token)}
    (call : Call vocabulary before gap text behind result) (finished : Bool) :
    (standing vocabulary before (gap ++ (text ++ behind)) finished).nextToken =
      (result, standing vocabulary (before ++ gap ++ text) behind finished) := by
  cases call with
  | ends blank => simpa using nextToken_standing_nil before blank finished
  | stuck blank solid refused =>
    rw [List.nil_append, nextToken_standing_cons before blank solid finished,
      firstVerdict_of_no_reader refused, List.append_nil]
    rfl
  | @reads _ _ name result blank solid reader reading =>
    obtain ⟨c, rest, split⟩ : ∃ c rest, text ++ behind = c :: rest :=
      List.exists_cons_of_ne_nil (List.append_ne_nil_of_left_ne_nil reading.takes.ne_nil behind)
    have answers := reading.answers
    rw [split] at solid reader answers ⊢
    rw [nextToken_standing_cons before blank (by simpa using solid) finished,
      firstVerdict_of_reader? reader, answers]
    cases result <;> rfl

/-- A call is possible everywhere. -/
theorem exists_call (vocabulary : Vocabulary) (before text : List Char) :
    ∃ gap taken behind result, text = gap ++ (taken ++ behind) ∧
      Call vocabulary before gap taken behind result := by
  obtain ⟨gap, rest, rfl, blank, stops⟩ := exists_run isSeparator text
  cases rest with
  | nil => exact ⟨gap, [], [], none, rfl, .ends blank⟩
  | cons c rest =>
    cases reader : reader? vocabulary (Cursor.between (before ++ gap) (c :: rest)) with
    | none => exact ⟨gap, [], c :: rest, _, rfl, .stuck blank (by simpa using stops) reader⟩
    | some name =>
      have accepts := List.find?_some reader
      rcases name.reads (c :: rest) with declines | ⟨taken, behind, result, split, reading⟩
      · rw [declines] at accepts
        simp at accepts
      · rw [split] at stops reader ⊢
        exact ⟨gap, taken, behind, some result, rfl, .reads blank stops reader reading⟩

/-- Only at the end of the text does a call report nothing. -/
theorem Call.of_none {before gap text behind : List Char}
    (call : Call vocabulary before gap text behind none) : text = [] ∧ behind = [] := by
  cases call with
  | ends blank => exact ⟨rfl, rfl⟩

theorem Call.token_ne_nil {before gap text behind : List Char} {token : Token}
    (call : Call vocabulary before gap text behind (some (.ok token))) : text ≠ [] := by
  cases call with
  | reads blank solid reader reading => exact reading.takes.ne_nil

/-! ### Calls of `next` -/

/-- Whether a result of `next` is its last. -/
def isLast : Option (Except LexicalError Token) → Bool
  | some (.ok _) => false
  | _ => true

/-- A call of `next` ends with a call of `nextToken`, which may be some way ahead. -/
theorem exists_next (vocabulary : Vocabulary) (before text : List Char) :
    ∃ front gap taken behind result, text = front ++ (gap ++ (taken ++ behind)) ∧
      Call vocabulary (before ++ front) gap taken behind result ∧
      (standing vocabulary before text false).next =
        (result, standing vocabulary (before ++ front ++ gap ++ taken) behind (isLast result)) := by
  obtain ⟨gap, taken, behind, result, rfl, call⟩ := exists_call vocabulary before text
  have read := call.nextToken false
  have here : Call vocabulary (before ++ []) gap taken behind result := by simpa using call
  match result with
  | none =>
    refine ⟨[], gap, taken, behind, none, rfl, here, ?_⟩
    rw [List.append_nil]
    exact next_of_end rfl read
  | some (.error error) =>
    refine ⟨[], gap, taken, behind, _, rfl, here, ?_⟩
    rw [List.append_nil]
    exact next_of_error rfl read
  | some (.ok token) =>
    have step := next_of_token rfl read
    cases ignored : token.isIgnored with
    | false =>
      rw [ignored, if_neg (by simp)] at step
      refine ⟨[], gap, taken, behind, _, rfl, here, ?_⟩
      rw [List.append_nil]
      exact step
    | true =>
      have shorter : behind.length < (gap ++ (taken ++ behind)).length := by
        have nonempty := List.length_pos_iff.2 call.token_ne_nil
        simp only [List.length_append]
        omega
      rw [ignored, if_pos rfl] at step
      obtain ⟨front, gap', taken', behind', result, rfl, call', next⟩ :=
        exists_next vocabulary (before ++ gap ++ taken) behind
      refine ⟨gap ++ (taken ++ front), gap', taken', behind', result, by simp, ?_, ?_⟩
      · simpa using call'
      · rw [step, next]
        simp only [List.append_assoc]
termination_by text.length

/-! ### Runs -/

/-- What a scanner can be asked for. -/
inductive Step where
  | next | nextToken | skipSeparators
  deriving DecidableEq, Repr

def Step.run : Step → Scanner → Option (Except LexicalError Token) × Scanner
  | next, scanner => scanner.next
  | nextToken, scanner => scanner.nextToken
  | skipSeparators, scanner => (none, scanner.skipSeparators)

/-- What the steps report one after the other, with the scanner afterwards. -/
def perform : List Step → Scanner → List (Option (Except LexicalError Token)) × Scanner
  | [], scanner => ([], scanner)
  | step :: steps, scanner =>
    let (result, after) := step.run scanner
    let (results, last) := perform steps after
    (result :: results, last)

/-- The scanner after some steps. -/
def after (scanner : Scanner) (steps : List Step) : Scanner := (perform steps scanner).2

@[simp] theorem after_nil (scanner : Scanner) : scanner.after [] = scanner := rfl

@[simp] theorem after_cons (scanner : Scanner) (step : Step) (steps : List Step) :
    scanner.after (step :: steps) = (step.run scanner).2.after steps := rfl

/-- What a step reports comes from a call of `nextToken`, which may be some way ahead. -/
inductive Move (vocabulary : Vocabulary) (before : List Char) :
    List Char → List Char → Option (Except LexicalError Token) → Prop where
  | silent {passed behind : List Char} : Move vocabulary before passed behind none
  | reports {front gap text behind : List Char} {result : Except LexicalError Token}
      (call : Call vocabulary (before ++ front) gap text behind (some result)) :
      Move vocabulary before (front ++ (gap ++ text)) behind (some result)

theorem Move.of_call {before front gap text behind : List Char}
    {result : Option (Except LexicalError Token)}
    (call : Call vocabulary (before ++ front) gap text behind result) :
    Move vocabulary before (front ++ (gap ++ text)) behind result := by
  cases result with
  | none => exact .silent
  | some result => exact .reports call

/-- A scanner that has given its last result stays where it is. -/
theorem next_of_finished {scanner : Scanner} (finished : scanner.finished = true) :
    scanner.next = (none, scanner) := by
  rw [next, if_pos finished]

theorem Step.exists_move (step : Step) (vocabulary : Vocabulary) (before text : List Char)
    (finished : Bool) : ∃ passed behind result finished', text = passed ++ behind ∧
      Move vocabulary before passed behind result ∧ (finished = true → finished' = true) ∧
      step.run (standing vocabulary before text finished) =
        (result, standing vocabulary (before ++ passed) behind finished') := by
  cases step with
  | next =>
    cases finished with
    | true =>
      refine ⟨[], text, none, true, rfl, .silent, id, ?_⟩
      rw [List.append_nil]
      exact next_of_finished rfl
    | false =>
      obtain ⟨front, gap, taken, behind, result, rfl, call, next⟩ :=
        exists_next vocabulary before text
      refine ⟨front ++ (gap ++ taken), behind, result, isLast result, by simp, .of_call call,
        by simp, ?_⟩
      rw [run, next]
      simp only [List.append_assoc]
  | nextToken =>
    obtain ⟨gap, taken, behind, result, rfl, call⟩ := exists_call vocabulary before text
    have here : Call vocabulary (before ++ []) gap taken behind result := by simpa using call
    refine ⟨[] ++ (gap ++ taken), behind, result, finished, by simp, .of_call here, id, ?_⟩
    rw [run, call.nextToken]
    simp only [List.append_assoc, List.nil_append]
  | skipSeparators =>
    obtain ⟨gap, rest, rfl, blank, stops⟩ := exists_run isSeparator text
    refine ⟨gap, rest, none, finished, rfl, .silent, id, ?_⟩
    rw [run, skipSeparators_standing before blank stops]

theorem exists_after (steps : List Step) (vocabulary : Vocabulary) (before text : List Char)
    (finished : Bool) : ∃ passed behind finished', text = passed ++ behind ∧
      (finished = true → finished' = true) ∧
      (standing vocabulary before text finished).after steps =
        standing vocabulary (before ++ passed) behind finished' := by
  induction steps generalizing before text finished with
  | nil => exact ⟨[], text, finished, rfl, id, by simp⟩
  | cons step steps ih =>
    obtain ⟨passed, behind, result, finished', rfl, -, keeps, move⟩ :=
      step.exists_move vocabulary before text finished
    obtain ⟨passed', behind', finished'', rfl, keeps', reached⟩ :=
      ih (before ++ passed) behind finished'
    refine ⟨passed ++ passed', behind', finished'', by simp, keeps' ∘ keeps, ?_⟩
    rw [after_cons, move, reached, List.append_assoc]

/-- A scanner that has taken any steps stands somewhere in its source. -/
theorem exists_standing (vocabulary : Vocabulary) (source : String) (steps : List Step) :
    ∃ passed behind finished, source.toList = passed ++ behind ∧
      (withVocabulary vocabulary source).after steps =
        standing vocabulary passed behind finished := by
  obtain ⟨passed, behind, finished, whole, -, reached⟩ :=
    exists_after steps vocabulary [] source.toList false
  rw [withVocabulary_eq_standing]
  exact ⟨passed, behind, finished, whole, reached⟩

end ScriptLex.Scanner
