import ScriptLex.Proofs.Rule

/-! What the rules find at the front of a text.

A piece is a run of characters that is read in one go, with what follows it. There is one form of
piece for each way in which a rule can end; every text begins with exactly one. -/

set_option autoImplicit false

namespace ScriptLex.Scanner

open ScriptLex.Text

/-- What a piece is, apart from its place: a token or an error. -/
inductive Finding where
  | token (kind : Kind) (lexeme : List Char)
  | error (cause : LexicalCause)
  deriving DecidableEq, Repr

/-- A finding in its place, with `before` in front of it. -/
def Finding.result (before : List Char) : Finding → Except LexicalError Token
  | .token kind lexeme => .ok ⟨kind, String.ofList lexeme, lineAfter before⟩
  | .error cause => .error ⟨cause, byteLength before, lineAfter before⟩

/-- The verdict of the rules on a finding. They decline a character that is not expected. -/
@[simp] def Finding.verdict (before : List Char) : Finding → Verdict
  | .token kind lexeme => .token ⟨kind, String.ofList lexeme, lineAfter before⟩
  | .error (.unexpectedCharacter _) => .declined
  | .error cause => .error ⟨cause, byteLength before, lineAfter before⟩

theorem Finding.eq_or_eq_unexpected_of_verdict {before : List Char} {finding finding' : Finding}
    (same : finding.verdict before = finding'.verdict before) : finding = finding' ∨
      ∃ c d, finding = .error (.unexpectedCharacter c) ∧
        finding' = .error (.unexpectedCharacter d) := by
  cases finding with
  | token =>
    rcases finding' with _ | _ | _ | _ <;> simp_all [verdict, String.ofList_inj]
  | error cause =>
    rcases finding' with _ | _ | _ | _ <;> cases cause <;> simp_all [verdict]

/-- `Piece vocabulary run after finding`: with `after` behind it, `run` is read as `finding`. -/
inductive Piece (vocabulary : Vocabulary) : List Char → List Char → Finding → Prop where
  | symbol {c : Char} {after : List Char} {kind : Kind}
      (listed : vocabulary.symbol? c = some kind)
      (alone : c = '=' ∨ c = '!' → after.head? ≠ some '=') :
      Piece vocabulary [c] after (.token kind [c])
  | pair {c : Char} {after : List Char} {kind : Kind}
      (known : Rule.comparisonKind? c true = some kind)
      (free : c = '=' ∨ c = '!' ∨ vocabulary.symbol? c = none) :
      Piece vocabulary [c, '='] after (.token kind [c, '='])
  | single {c : Char} {after : List Char} {kind : Kind}
      (known : Rule.comparisonKind? c false = some kind) (free : vocabulary.symbol? c = none)
      (alone : after.head? ≠ some '=') : Piece vocabulary [c] after (.token kind [c])
  | divide {after : List Char} (free : vocabulary.symbol? '/' = none)
      (alone : after.head? ≠ some '/') : Piece vocabulary ['/'] after (.token .divide ['/'])
  | comment {body after : List Char} (free : vocabulary.symbol? '/' = none)
      (within : ∀ c ∈ body, c ≠ '\n') :
      Piece vocabulary ('/' :: '/' :: body ++ ['\n']) after (.token .ignored [])
  | lastComment {body : List Char} (free : vocabulary.symbol? '/' = none)
      (within : ∀ c ∈ body, c ≠ '\n') :
      Piece vocabulary ('/' :: '/' :: body) [] (.token .ignored [])
  | quoted {body after : List Char} (free : vocabulary.symbol? '"' = none)
      (within : ∀ c ∈ body, isStringBody c = true) :
      Piece vocabulary ('"' :: body ++ ['"']) after (.token .string body)
  | unclosed {body after : List Char} (free : vocabulary.symbol? '"' = none)
      (within : ∀ c ∈ body, isStringBody c = true) (ends : ∀ c ∈ after.head?, c = '\n') :
      Piece vocabulary ('"' :: body) after (.error .unterminatedString)
  | whole {run after : List Char} (free : Unlisted vocabulary run) (nonempty : run ≠ [])
      (digits : ∀ c ∈ run, isDigit c = true) (stops : StopsAt isNumberStart after) :
      Piece vocabulary run after (.token .number run)
  | decimal {run after : List Char} (free : Unlisted vocabulary run) (decimal : Decimal run)
      (stops : StopsAt isNumberStart after) : Piece vocabulary run after (.token .number run)
  | malformed {run after : List Char} (free : Unlisted vocabulary run) (decimal : Decimal run) :
      Piece vocabulary (run ++ ['.']) after
        (.error (.malformedNumber (String.ofList (run ++ ['.']))))
  | word {run after : List Char} (free : Unlisted vocabulary run) (nonempty : run ≠ [])
      (letters : ∀ c ∈ run, isLetter c = true) (stops : StopsAt isLetter after) :
      Piece vocabulary run after
        (.token ((vocabulary.word? (String.ofList run)).getD .identifier) run)
  | unexpected {c : Char} {after : List Char} (free : vocabulary.symbol? c = none)
      (noSlash : c ≠ '/') (noQuote : c ≠ '"') (noNumber : isNumberStart c = false)
      (noLetter : isLetter c = false)
      (noComparison : Rule.comparisonKind? c (after.head? == some '=') = none) :
      Piece vocabulary [] (c :: after) (.error (.unexpectedCharacter c))

/-- A number piece is left to the number rule, a word piece to the word rule. -/
theorem firstVerdict_number {vocabulary : Vocabulary} {run : List Char}
    (free : Unlisted vocabulary run) (nonempty : run ≠ [])
    (start : ∀ c ∈ run.head?, isNumberStart c = true) (before after : List Char) :
    firstVerdict vocabulary Rule.all (Cursor.between before (run ++ after)) =
      firstVerdict vocabulary [Rule.number, Rule.word] (Cursor.between before (run ++ after)) := by
  obtain ⟨c, run, rfl⟩ := List.exists_cons_of_ne_nil nonempty
  exact Rule.all_from_number (free c rfl) (not_mem_signs_of_isNumberStart (start c rfl))

/-- The rules give the verdict of the piece at the front of the text and stop behind the piece. -/
theorem Piece.firstVerdict {vocabulary : Vocabulary} {run after : List Char} {finding : Finding}
    (piece : Piece vocabulary run after finding) (before : List Char) :
    Scanner.firstVerdict vocabulary Rule.all (Cursor.between before (run ++ after)) =
      (finding.verdict before, Cursor.between (before ++ run) after) := by
  cases piece with
  | symbol listed alone =>
    exact firstVerdict_accepted (Rule.symbol_accepts listed alone) (by simp)
  | @pair c _ _ known free =>
    have leave : Rule.symbol vocabulary (Cursor.between before (c :: '=' :: after)) =
        (.declined, Cursor.between before (c :: '=' :: after)) := by
      rcases free with sign | sign | free
      · exact Rule.symbol_leaves_pair (.inl sign)
      · exact Rule.symbol_leaves_pair (.inr sign)
      · exact Rule.symbol_declines (by simpa [Unlisted] using free)
    exact (firstVerdict_declined leave).trans
      (firstVerdict_accepted (Rule.comparison_accepts_pair known) (by simp))
  | single known free alone =>
    exact (firstVerdict_declined (Rule.symbol_declines (by simpa [Unlisted] using free))).trans
      (firstVerdict_accepted (Rule.comparison_accepts_single known alone) (by simp))
  | divide free alone =>
    exact (Rule.all_from_slash free (by decide)).trans
      (firstVerdict_accepted (Rule.slash_accepts_division alone) (by simp))
  | @comment body _ free within =>
    have accepts := @Rule.slash_accepts_comment vocabulary before ('\n' :: after) _ within (by simp)
    rw [Cursor.between_advance] at accepts
    refine (Rule.all_from_slash free (by decide)).trans ?_
    simpa using firstVerdict_accepted accepts (by simp)
  | @lastComment body free within =>
    have accepts := @Rule.slash_accepts_comment vocabulary before [] _ within (by simp)
    refine (Rule.all_from_slash free (by decide)).trans ?_
    simpa using firstVerdict_accepted accepts (by simp)
  | @quoted body _ free within =>
    refine (Rule.all_from_slash free (by decide)).trans ?_
    rw [firstVerdict_declined (Rule.slash_declines (by simp))]
    have accepts := @Rule.quoted_accepts vocabulary before after _ within
    simpa using firstVerdict_accepted accepts (by simp)
  | unclosed free within ends =>
    refine (Rule.all_from_slash free (by decide)).trans ?_
    rw [firstVerdict_declined (Rule.slash_declines (by simp))]
    exact firstVerdict_accepted (Rule.quoted_refuses within ends) (by simp)
  | @whole run _ free nonempty digits stops =>
    have start : ∀ c ∈ run.head?, isNumberStart c = true := fun c first =>
      isNumberStart_iff.2 (.inl (digits c (List.mem_of_mem_head? first)))
    exact (firstVerdict_number free nonempty start before after).trans
      (firstVerdict_accepted (Rule.number_accepts_whole nonempty digits stops) (by simp))
  | @decimal run _ free decimal stops =>
    have noPoint : after.head? ≠ some '.' := fun first => absurd (stops '.' first) (by decide)
    have accepts := @Rule.number_decimal vocabulary before _ _ decimal (stopsAt_isDigit stops)
    rw [if_neg noPoint] at accepts
    exact (firstVerdict_number free decimal.ne_nil decimal.head before after).trans
      (firstVerdict_accepted accepts (by simp))
  | @malformed run _ free decimal =>
    have accepts := @Rule.number_decimal vocabulary before ('.' :: after) _ decimal (by simp; rfl)
    rw [List.head?_cons, if_pos rfl, Cursor.between_advance] at accepts
    have left := firstVerdict_number free decimal.ne_nil decimal.head before ('.' :: after)
    simpa using left.trans (firstVerdict_accepted accepts (by simp))
  | @word run _ free nonempty letters stops =>
    have accepts := @Rule.word_accepts vocabulary before _ _ nonempty letters stops
    obtain ⟨c, run, rfl⟩ := List.exists_cons_of_ne_nil nonempty
    have letter := letters c List.mem_cons_self
    rw [List.cons_append] at accepts ⊢
    rw [Rule.all_from_number (free c rfl) (not_mem_signs_of_isLetter letter),
      firstVerdict_declined (Rule.number_declines
        (by simpa using isNumberStart_of_isLetter letter))]
    exact firstVerdict_accepted accepts (by simp)
  | @unexpected c _ free noSlash noQuote noNumber noLetter noComparison =>
    rw [List.nil_append, List.append_nil, Rule.all,
      firstVerdict_declined (Rule.symbol_declines (by simpa [Unlisted] using free)),
      firstVerdict_declined (Rule.comparison_declines fun d first => by
        obtain rfl : c = d := by simpa using first
        exact noComparison),
      firstVerdict_declined (Rule.slash_declines (by simpa using noSlash)),
      firstVerdict_declined (Rule.quoted_declines (by simpa using noQuote)),
      firstVerdict_declined (Rule.number_declines (by simpa using noNumber)),
      firstVerdict_declined (Rule.word_declines (by simpa using noLetter))]
    rfl

namespace Piece

variable {vocabulary : Vocabulary}

theorem exists_comment (rest : List Char) (free : vocabulary.symbol? '/' = none) :
    ∃ run after, '/' :: '/' :: rest = run ++ after ∧
      Piece vocabulary run after (.token .ignored []) := by
  obtain ⟨body, after, rfl, within, rfl | ⟨after, rfl⟩⟩ := exists_line rest
  · exact ⟨'/' :: '/' :: body, [], by simp, .lastComment free within⟩
  · exact ⟨'/' :: '/' :: body ++ ['\n'], after, by simp, .comment free within⟩

theorem exists_string {rest : List Char} (free : vocabulary.symbol? '"' = none) :
    ∃ run after finding, '"' :: rest = run ++ after ∧ Piece vocabulary run after finding := by
  obtain ⟨body, after, rfl, within, ⟨after, rfl⟩ | ends⟩ := exists_body rest
  · exact ⟨'"' :: body ++ ['"'], after, _, by simp, .quoted free within⟩
  · exact ⟨'"' :: body, after, _, rfl, .unclosed free within ends⟩

theorem exists_number {c : Char} {rest : List Char} (free : vocabulary.symbol? c = none)
    (start : isNumberStart c = true) :
    ∃ run after finding, c :: rest = run ++ after ∧ Piece vocabulary run after finding := by
  have unlisted : Unlisted vocabulary (c :: rest) := by simpa [Unlisted] using free
  obtain ⟨run, after, split, ⟨nonempty, digits, stops⟩ | ⟨decimal, stops⟩⟩ :=
    @exists_digits c rest start
  · exact ⟨run, after, _, split, .whole (split ▸ unlisted).front nonempty digits stops⟩
  · have free' : Unlisted vocabulary run := (split ▸ unlisted).front
    by_cases second : after.head? = some '.'
    · obtain ⟨after, rfl⟩ : ∃ tail, after = '.' :: tail := List.head?_eq_some_iff.1 second
      exact ⟨run ++ ['.'], after, _, by simpa using split, .malformed free' decimal⟩
    · exact ⟨run, after, _, split, .decimal free' decimal (stopsAt_isNumberStart stops second)⟩

theorem exists_word {c : Char} {rest : List Char} (free : vocabulary.symbol? c = none)
    (letter : isLetter c = true) :
    ∃ run after finding, c :: rest = run ++ after ∧ Piece vocabulary run after finding := by
  obtain ⟨run, after, rfl, letters, stops⟩ := exists_run isLetter rest
  have letters' : ∀ d ∈ c :: run, isLetter d = true := by simpa [letter] using letters
  exact ⟨c :: run, after, _, rfl, .word (by simpa [Unlisted] using free) (by simp) letters' stops⟩

theorem exists_comparison {c : Char} {rest : List Char} {kind : Kind}
    (known : Rule.comparisonKind? c (rest.head? == some '=') = some kind)
    (free : vocabulary.symbol? c = none) :
    ∃ run after finding, c :: rest = run ++ after ∧ Piece vocabulary run after finding := by
  by_cases equals : rest.head? = some '='
  · obtain ⟨after, rfl⟩ : ∃ tail, rest = '=' :: tail := List.head?_eq_some_iff.1 equals
    exact ⟨[c, '='], after, _, rfl, .pair (by simpa using known) (.inr (.inr free))⟩
  · have noEquals : (rest.head? == some '=') = false := by simpa using equals
    exact ⟨[c], rest, _, rfl, .single (noEquals ▸ known) free equals⟩

theorem exists_symbol {c : Char} {rest : List Char} {kind : Kind}
    (listed : vocabulary.symbol? c = some kind) :
    ∃ run after finding, c :: rest = run ++ after ∧ Piece vocabulary run after finding := by
  by_cases pair : (c = '=' ∨ c = '!') ∧ rest.head? = some '='
  · obtain ⟨sign, equals⟩ := pair
    obtain ⟨after, rfl⟩ : ∃ tail, rest = '=' :: tail := List.head?_eq_some_iff.1 equals
    rcases sign with rfl | rfl
    · exact ⟨['=', '='], after, _, rfl, .pair rfl (.inl rfl)⟩
    · exact ⟨['!', '='], after, _, rfl, .pair rfl (.inr (.inl rfl))⟩
  · exact ⟨[c], rest, _, rfl, .symbol listed fun sign equals => pair ⟨sign, equals⟩⟩

/-- Every text begins with a piece. -/
theorem exists_of_cons (vocabulary : Vocabulary) (c : Char) (rest : List Char) :
    ∃ run after finding, c :: rest = run ++ after ∧ Piece vocabulary run after finding := by
  cases free : vocabulary.symbol? c with
  | some kind => exact exists_symbol free
  | none =>
    cases known : Rule.comparisonKind? c (rest.head? == some '=') with
    | some kind => exact exists_comparison known free
    | none =>
      by_cases slash : c = '/'
      · subst slash
        by_cases second : rest.head? = some '/'
        · obtain ⟨rest, rfl⟩ : ∃ tail, rest = '/' :: tail := List.head?_eq_some_iff.1 second
          obtain ⟨run, after, split, piece⟩ := exists_comment rest free
          exact ⟨run, after, _, split, piece⟩
        · exact ⟨['/'], rest, _, rfl, .divide free second⟩
      · by_cases quote : c = '"'
        · subst quote
          exact exists_string free
        · cases number : isNumberStart c with
          | true => exact exists_number free number
          | false =>
            cases letter : isLetter c with
            | true => exact exists_word free letter
            | false =>
              exact ⟨[], c :: rest, _, rfl, .unexpected free slash quote number letter known⟩

theorem of_unexpected {run after : List Char} {c : Char}
    (piece : Piece vocabulary run after (.error (.unexpectedCharacter c))) :
    run = [] ∧ after.head? = some c := by
  cases piece with
  | unexpected => exact ⟨rfl, rfl⟩

theorem run_ne_nil_of_token {run after lexeme : List Char} {kind : Kind}
    (piece : Piece vocabulary run after (.token kind lexeme)) : run ≠ [] := by
  cases piece with
  | whole _ nonempty | word _ nonempty => exact nonempty
  | decimal _ decimal => exact decimal.ne_nil
  | _ => simp

theorem text_ne_nil {run after : List Char} {finding : Finding}
    (piece : Piece vocabulary run after finding) : run ++ after ≠ [] := by
  cases finding with
  | token kind lexeme => exact List.append_ne_nil_of_left_ne_nil piece.run_ne_nil_of_token after
  | error cause => cases piece <;> simp

/-- There is only one piece at the front of a text. -/
theorem unique {run run' after after' : List Char} {finding finding' : Finding}
    (piece : Piece vocabulary run after finding) (piece' : Piece vocabulary run' after' finding')
    (same : run ++ after = run' ++ after') : run = run' ∧ after = after' ∧ finding = finding' := by
  have verdicts := piece.firstVerdict []
  rw [same, piece'.firstVerdict []] at verdicts
  obtain ⟨verdict, cursor⟩ := Prod.mk.inj verdicts
  obtain rfl : after' = after := congrArg Cursor.rest cursor
  obtain rfl : run = run' := List.append_cancel_right same
  refine ⟨rfl, rfl, ?_⟩
  rcases finding.eq_or_eq_unexpected_of_verdict verdict.symm with equal | ⟨c, d, rfl, rfl⟩
  · exact equal
  · -- The verdict does not name the character, but the text after the piece begins with it.
    have here := piece.of_unexpected.2
    rw [piece'.of_unexpected.2] at here
    rw [Option.some.inj here]

end Piece

end ScriptLex.Scanner
