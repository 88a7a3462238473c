import ScriptLex.Proofs.Place
import ScriptLex.Proofs.Steps

/-! What holds of a scanner whatever it has been asked for.

The steps of a scanner may come in any order, also after errors and after its end. Its position stays
between two characters and never goes back, whatever the rules cut out of the source is there to be
cut out, and what has come to an end stays at its end. -/

set_option autoImplicit false

namespace ScriptLex.Scanner

open ScriptLex.Text

variable {vocabulary : Vocabulary}

/-! ### Slices of the source -/

/-- The source can be cut from `offset` up to the cursor, and reads `text` there. -/
structure Slices (cursor : Cursor) (offset : Nat) (text : String) : Prop where
  ordered : offset ≤ cursor.position
  boundary : isBoundary cursor.source.toList offset = true
  reads : cursor.sliceFrom? offset = some text

/-- What the rules keep of a text is cut out of the source: a lexeme from where the rule began, the
body of a string from behind its quote up to the other one. -/
structure RulesSlice (vocabulary : Vocabulary) (start : Cursor) : Prop where
  lexeme : ∀ name ∈ [RuleName.symbol, .comparison, .number, .word], ∀ (token : Token) (stop : Cursor),
    name.rule vocabulary start = (.token token, stop) → Slices stop start.position token.lexeme
  division : ∀ (token : Token) (stop : Cursor),
    RuleName.slash.rule vocabulary start = (.token token, stop) → start.nextIs '/' = false →
      Slices stop start.position token.lexeme
  string : ∀ (token : Token) (stop : Cursor),
    RuleName.quoted.rule vocabulary start = (.token token, stop) →
      Slices (start.advance.takeWhile isStringBody).2 start.advance.position token.lexeme
  malformed : ∀ (error : LexicalError) (stop : Cursor),
    RuleName.number.rule vocabulary start = (.error error, stop) →
      ∃ lexeme, error.cause = .malformedNumber lexeme ∧ Slices stop start.position lexeme

theorem slices_between (before text behind : List Char) :
    Slices (Cursor.between (before ++ text) behind) (byteLength before) (String.ofList text) where
  ordered := by
    rw [Cursor.between_position, byteLength_append]
    omega
  boundary := by
    rw [Cursor.between, String.toList_ofList, List.append_assoc, isBoundary, splitAt?_append]
    rfl
  reads := by
    rw [Cursor.sliceFrom?, Cursor.between, String.toList_ofList, List.append_assoc,
      byteLength_append, slice?_append]
    rfl

theorem rulesSlice_between (vocabulary : Vocabulary) (before text : List Char) :
    RulesSlice vocabulary (Cursor.between before text) where
  lexeme name member token stop answer := by
    obtain ⟨taken, behind, rfl, rfl, takes⟩ := RuleName.exists_takes (.ok token) answer
    cases takes with
    | lexeme => exact slices_between before taken behind
    | _ => simp at member
  division token stop answer alone := by
    obtain ⟨taken, behind, rfl, rfl, takes⟩ := RuleName.exists_takes (.ok token) answer
    cases takes with
    | lexeme verbatim => simp at verbatim
    | division => exact slices_between before ['/'] behind
    | comment within => simp at alone
    | lastComment within => simp at alone
  string token stop answer := by
    obtain ⟨taken, behind, rfl, rfl, takes⟩ := RuleName.exists_takes (.ok token) answer
    cases takes with
    | lexeme verbatim => simp at verbatim
    | @string body _ within =>
      have inside : ∀ c ∈ body, isStringBody c = true := fun c member =>
        isStringBody_iff.2 (within c member)
      have closes : StopsAt isStringBody ('"' :: behind) := stopsAt_cons.2 rfl
      have run := Cursor.between_takeWhile_run (before ++ ['"']) inside closes
      have text : '"' :: body ++ ['"'] ++ behind = '"' :: (body ++ '"' :: behind) := by simp
      rw [text, Cursor.between_advance, run]
      exact slices_between (before ++ ['"']) body ('"' :: behind)
  malformed error stop answer := by
    obtain ⟨taken, behind, rfl, rfl, takes⟩ := RuleName.exists_takes (.error error) answer
    cases takes with
    | malformed => exact ⟨String.ofList taken, rfl, slices_between before taken behind⟩

/-! ### Single calls -/

/-- How a call of `nextToken` moves a scanner: up to the end of the text, past some of it, or to a
character that no token begins with. There the scanner stays, whatever it is asked for. -/
structure CallsProgress (source : String) (scanner : Scanner) : Prop where
  ends : ∀ stop : Scanner, scanner.nextToken = (none, stop) →
    stop.cursor.position = byteLength source.toList
  token : ∀ (token : Token) (stop : Scanner), scanner.nextToken = (some (.ok token), stop) →
    scanner.cursor.position < stop.cursor.position
  error : ∀ (error : LexicalError) (stop : Scanner),
    scanner.nextToken = (some (.error error), stop) →
      (∀ c, error.cause ≠ .unexpectedCharacter c) →
        scanner.cursor.position < stop.cursor.position
  unexpected : ∀ (c : Char) (offset : Nat) (line : UInt32) (stop : Scanner),
    scanner.nextToken = (some (.error ⟨.unexpectedCharacter c, offset, line⟩), stop) →
      stop.cursor.position = offset ∧
      (∃ before behind, splitAt? source.toList offset = some (before, c :: behind)) ∧
      ∀ steps, (stop.after steps).cursor = stop.cursor ∧
        (stop.after steps).nextToken =
          (some (.error ⟨.unexpectedCharacter c, offset, line⟩), stop.after steps)

section

variable {before behind : List Char} {c : Char} (solid : isSeparator c = false)
  (refused : reader? vocabulary (Cursor.between before (c :: behind)) = none)

include solid refused

theorem nextToken_stuck (finished : Bool) :
    (standing vocabulary before (c :: behind) finished).nextToken =
      (some (.error ⟨.unexpectedCharacter c, byteLength before, lineAfter before⟩),
        standing vocabulary before (c :: behind) finished) := by
  have here : reader? vocabulary (Cursor.between (before ++ []) (c :: behind)) = none := by
    rwa [List.append_nil]
  have call := Call.nextToken (.stuck (by simp) solid here) finished
  simp only [List.append_nil, List.nil_append] at call
  exact call

theorem Step.exists_run_stuck (step : Step) (finished : Bool) :
    ∃ finished', (step.run (standing vocabulary before (c :: behind) finished)).2 =
      standing vocabulary before (c :: behind) finished' := by
  cases step with
  | next =>
    cases finished with
    | true => exact ⟨true, by rw [run, next_of_finished rfl]⟩
    | false => exact ⟨true, by rw [run, next_of_error rfl (nextToken_stuck solid refused false)]; rfl⟩
  | nextToken => exact ⟨finished, by rw [run, nextToken_stuck solid refused]⟩
  | skipSeparators =>
    have skip := @skipSeparators_standing vocabulary [] (c :: behind) before (by simp)
      (by simpa using solid) finished
    rw [List.append_nil, List.nil_append] at skip
    exact ⟨finished, by rw [run, skip]⟩

/-- In front of a character that nothing begins with no step leads on. -/
theorem exists_after_stuck (steps : List Step) (finished : Bool) :
    ∃ finished', (standing vocabulary before (c :: behind) finished).after steps =
      standing vocabulary before (c :: behind) finished' := by
  induction steps generalizing finished with
  | nil => exact ⟨finished, rfl⟩
  | cons step steps ih =>
    obtain ⟨finished', stays⟩ := step.exists_run_stuck solid refused finished
    rw [after_cons, stays]
    exact ih finished'

end

theorem callsProgress_standing {source : String} {before behind : List Char}
    (whole : source.toList = before ++ behind) (finished : Bool) :
    CallsProgress source (standing vocabulary before behind finished) := by
  obtain ⟨gap, text, rest, result, rfl, call⟩ := exists_call vocabulary before behind
  have read := call.nextToken finished
  constructor
  case ends =>
    intro stop ends
    obtain ⟨rfl, rfl⟩ := Prod.mk.inj (read.symm.trans ends)
    obtain ⟨rfl, rfl⟩ := call.of_none
    simp [whole]
  case token =>
    intro token stop reads
    obtain ⟨rfl, rfl⟩ := Prod.mk.inj (read.symm.trans reads)
    have width := byteLength_pos call.token_ne_nil
    simp only [standing_position, byteLength_append]
    omega
  case error =>
    intro error stop reads other
    obtain ⟨rfl, rfl⟩ := Prod.mk.inj (read.symm.trans reads)
    cases call with
    | stuck => exact absurd rfl (other _)
    | reads blank solid reader reading =>
      have width := byteLength_pos reading.takes.ne_nil
      simp only [standing_position, byteLength_append]
      omega
  case unexpected =>
    intro c offset line stop reads
    obtain ⟨same, rfl⟩ := Prod.mk.inj (read.symm.trans reads)
    cases call with
    | ends => simp at same
    | @stuck rest d blank solid refused =>
      obtain ⟨rfl, rfl, rfl⟩ : d = c ∧ byteLength (before ++ gap) = offset ∧
          lineAfter (before ++ gap) = line := by simpa [errorAt] using same
      rw [List.append_nil]
      refine ⟨rfl, ⟨before ++ gap, rest, ?_⟩, fun steps => ?_⟩
      · rw [whole, List.nil_append, ← List.append_assoc, splitAt?_append]
      · obtain ⟨finished', stays⟩ := exists_after_stuck solid refused steps finished
        rw [stays]
        exact ⟨rfl, nextToken_stuck solid refused finished'⟩
    | reads blank solid reader reading =>
      -- No rule reports a character: each reports what it has taken.
      obtain rfl := Option.some.inj same
      have takes := reading.takes
      cases takes

/-! ### The end of scanning -/

/-- Nothing that a finished scanner is asked for starts it again. -/
theorem next_after_finished (vocabulary : Vocabulary) (before behind : List Char)
    (steps : List Step) :
    ((standing vocabulary before behind true).after steps).next =
      (none, (standing vocabulary before behind true).after steps) := by
  obtain ⟨passed, rest, finished, rfl, keeps, reached⟩ :=
    exists_after steps vocabulary before behind true
  rw [reached]
  exact next_of_finished (keeps rfl)

theorem exists_finished {before behind : List Char} {finished : Bool}
    {result : Option (Except LexicalError Token)} {stop : Scanner}
    (call : (standing vocabulary before behind finished).next = (result, stop))
    (last : isLast result = true) : ∃ passed rest, stop = standing vocabulary passed rest true := by
  cases finished with
  | true =>
    obtain ⟨-, rfl⟩ := Prod.mk.inj ((next_of_finished rfl).symm.trans call)
    exact ⟨before, behind, rfl⟩
  | false =>
    obtain ⟨front, gap, taken, rest, result', rfl, -, next⟩ := exists_next vocabulary before behind
    obtain ⟨rfl, rfl⟩ := Prod.mk.inj (next.symm.trans call)
    exact ⟨before ++ front ++ gap ++ taken, rest, by rw [last]⟩

/-- Calls of `next` up to the last one, with the tokens that come before it. -/
inductive NextRun : Scanner → List Token → Prop where
  | ending {scanner stop : Scanner} {result : Option (Except LexicalError Token)}
      (call : scanner.next = (result, stop)) (last : isLast result = true) : NextRun scanner []
  | token {scanner stop : Scanner} {token : Token} {tokens : List Token}
      (call : scanner.next = (some (.ok token), stop)) (more : NextRun stop tokens) :
      NextRun scanner (token :: tokens)

/-- There are no more tokens than characters. -/
theorem exists_nextRun (vocabulary : Vocabulary) (before text : List Char) (finished : Bool) :
    ∃ tokens, NextRun (standing vocabulary before text finished) tokens ∧
      tokens.length ≤ text.length := by
  cases finished with
  | true => exact ⟨[], .ending (next_of_finished rfl) rfl, Nat.zero_le _⟩
  | false =>
    obtain ⟨front, gap, taken, behind, result, rfl, call, next⟩ := exists_next vocabulary before text
    match result with
    | none => exact ⟨[], .ending next rfl, Nat.zero_le _⟩
    | some (.error error) => exact ⟨[], .ending next rfl, Nat.zero_le _⟩
    | some (.ok token) =>
      have shorter : behind.length < (front ++ (gap ++ (taken ++ behind))).length := by
        have nonempty := List.length_pos_iff.2 call.token_ne_nil
        simp only [List.length_append]
        omega
      obtain ⟨tokens, more, few⟩ := exists_nextRun vocabulary (before ++ front ++ gap ++ taken)
        behind (isLast (some (.ok token)))
      refine ⟨token :: tokens, .token next more, ?_⟩
      rw [List.length_cons]
      omega
termination_by text.length

/-- What holds of a scanner at any time. -/
structure Safe (source : String) (scanner : Scanner) : Prop where
  source_eq : scanner.cursor.source = source
  boundary : isBoundary source.toList scanner.cursor.position = true
  inside : scanner.cursor.position ≤ byteLength source.toList
  ascends : ∀ steps, scanner.cursor.position ≤ (scanner.after steps).cursor.position
  slices : RulesSlice scanner.vocabulary scanner.cursor.skipSeparators
  progress : CallsProgress source scanner
  fused : ∀ (result : Option (Except LexicalError Token)) (stop : Scanner),
    scanner.next = (result, stop) → isLast result = true → ∀ steps,
      (stop.after steps).next = (none, stop.after steps) ∧ (stop.after steps).scan = .ok []
  ends : ∃ tokens, NextRun scanner tokens ∧
    tokens.length ≤ byteLength source.toList - scanner.cursor.position

theorem safe_standing {source : String} {before behind : List Char}
    (whole : source.toList = before ++ behind) (finished : Bool) :
    Safe source (standing vocabulary before behind finished) where
  source_eq := by simp [standing, Cursor.between, ← whole]
  boundary := by
    rw [whole, standing_position, isBoundary, splitAt?_append]
    rfl
  inside := by
    rw [whole, standing_position, byteLength_append]
    omega
  ascends steps := by
    obtain ⟨passed, rest, finished', rfl, -, reached⟩ :=
      exists_after steps vocabulary before behind finished
    rw [reached]
    simp only [standing_position, byteLength_append]
    omega
  slices := by
    obtain ⟨gap, rest, rfl, blank, stops⟩ := exists_run isSeparator behind
    simp only [standing, Cursor.between_skipSeparators before blank stops]
    exact rulesSlice_between vocabulary (before ++ gap) rest
  progress := callsProgress_standing whole finished
  fused result stop call last steps := by
    obtain ⟨passed, rest, rfl⟩ := exists_finished call last
    have silent := next_after_finished vocabulary passed rest steps
    exact ⟨silent, by rw [scan, drain_of_end silent]⟩
  ends := by
    obtain ⟨tokens, run, few⟩ := exists_nextRun vocabulary before behind finished
    refine ⟨tokens, run, ?_⟩
    have width := length_le_byteLength behind
    simp only [whole, standing_position, byteLength_append]
    omega

/-- Whatever steps a scanner has taken, it has stayed within its source, and it goes on so. -/
theorem steps_safe (vocabulary : Vocabulary) (source : String) (steps : List Step) :
    Safe source ((withVocabulary vocabulary source).after steps) := by
  obtain ⟨passed, behind, finished, whole, reached⟩ := exists_standing vocabulary source steps
  rw [reached]
  exact safe_standing whole finished

-- A character that nothing begins with is reported by every call of `nextToken`, but once by `next`.
example : (perform [.next, .nextToken, .next, .next, .skipSeparators, .nextToken]
    (withVocabulary .standard "a @b")).1 =
      [some (.ok ⟨.identifier, "a", 1⟩), some (.error ⟨.unexpectedCharacter '@', 2, 1⟩),
        some (.error ⟨.unexpectedCharacter '@', 2, 1⟩), none, none,
        some (.error ⟨.unexpectedCharacter '@', 2, 1⟩)] := by decide +kernel

end ScriptLex.Scanner
