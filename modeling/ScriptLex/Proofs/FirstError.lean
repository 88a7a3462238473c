import ScriptLex.Proofs.Lookahead
import ScriptLex.Proofs.Vocabulary

/-! The text that an error is about, and what the rest of a source has to do with the error. -/

set_option autoImplicit false

namespace ScriptLex

open ScriptLex.Text ScriptLex.Scanner

/-- A character at which no token, comment or gap begins. -/
structure Foreign (c : Char) : Prop where
  separator : c ≠ ' ' ∧ c ≠ '\r' ∧ c ≠ '\n'
  number : isDigit c = false ∧ c ≠ '.'
  letter : isLetter c = false
  sign : c ≠ '"' ∧ c ≠ '/' ∧ c ≠ '<' ∧ c ≠ '>'
  symbol : ∀ kind, (c, kind) ∉ Vocabulary.standard.symbols

namespace LexicalCause

/-- The texts that each cause is about. -/
inductive Offends : LexicalCause → List Char → Prop where
  | character {c : Char} (foreign : Foreign c) : Offends (.unexpectedCharacter c) [c]
  | string {body : List Char} (within : ∀ c ∈ body, c ≠ '"' ∧ c ≠ '\n') :
      Offends .unterminatedString ('"' :: body)
  | number {whole fraction : List Char} (digits : ∀ c ∈ whole, isDigit c = true)
      (digits' : ∀ c ∈ fraction, isDigit c = true) :
      Offends (.malformedNumber (String.ofList (whole ++ '.' :: fraction ++ ['.'])))
        (whole ++ '.' :: fraction ++ ['.'])

/-- What may stand behind such a text. Only an open string reaches as far as its line. -/
def Leaves : LexicalCause → List Char → Prop
  | .unterminatedString, after => after = [] ∨ after.head? = some '\n'
  | .unexpectedCharacter _, _ => True
  | .malformedNumber _, _ => True

theorem Offends.ne_nil {cause : LexicalCause} {text : List Char} (offends : cause.Offends text) :
    text ≠ [] := by
  cases offends <;> simp

end LexicalCause

/-- What the steps of a scanner yield up to its first error. -/
inductive Yields : Scanner → List Token → LexicalError → Prop where
  | error {scanner after : Scanner} {error : LexicalError}
      (step : scanner.next = (some (.error error), after)) : Yields scanner [] error
  | token {scanner after : Scanner} {token : Token} {tokens : List Token} {error : LexicalError}
      (step : scanner.next = (some (.ok token), after)) (more : Yields after tokens error) :
      Yields scanner (token :: tokens) error

theorem Yields.congr {scanner other : Scanner} {tokens : List Token} {error : LexicalError}
    (yields : Yields scanner tokens error) (same : other.next = scanner.next) :
    Yields other tokens error := by
  cases yields with
  | error step => exact .error (same.trans step)
  | token step more => exact .token (same.trans step) more

namespace Scanner

variable {vocabulary : Vocabulary}

/-! ### Error pieces of the standard vocabulary -/

theorem Piece.foreign {run after : List Char} {c : Char}
    (piece : Piece .standard run after (.error (.unexpectedCharacter c)))
    (start : StopsAt isSeparator (run ++ after)) : Foreign c := by
  cases piece with
  | @unexpected _ after free noSlash noQuote noNumber noLetter noComparison =>
    have point : isDigit c = false ∧ c ≠ '.' := by simpa [isNumberStart] using noNumber
    have blank : ¬(c = ' ' ∨ c = '\r' ∨ c = '\n') := by
      rw [← isSeparator_iff, stopsAt_cons.1 start]
      decide
    obtain ⟨noLess, noGreater⟩ := Rule.ne_of_comparisonKind?_none noComparison
    have noSymbol := Vocabulary.symbol?_standard_none.1 free
    exact ⟨by simpa using blank, point, noLetter, ⟨noQuote, noSlash, noLess, noGreater⟩, noSymbol⟩

theorem Piece.unexpected_of_foreign {c : Char} (foreign : Foreign c) (after : List Char) :
    Piece .standard [] (c :: after) (.error (.unexpectedCharacter c)) := by
  have free := Vocabulary.symbol?_standard_none.2 foreign.symbol
  -- The sign of assignment and that of negation are symbols.
  have noEquals : c ≠ '=' := by
    rintro rfl
    cases free
  have noNot : c ≠ '!' := by
    rintro rfl
    cases free
  obtain ⟨noQuote, noSlash, noLess, noGreater⟩ := foreign.sign
  apply Piece.unexpected free noSlash noQuote _ foreign.letter
  · unfold Rule.comparisonKind?
    split <;> first | rfl | contradiction
  · simp [isNumberStart, foreign.number]

/-- The text of an error piece, which for an unexpected character goes beyond the piece. -/
theorem Piece.offends {run after : List Char} {cause : LexicalCause}
    (piece : Piece .standard run after (.error cause))
    (start : StopsAt isSeparator (run ++ after)) :
    ∃ text rest, run ++ after = text ++ rest ∧ cause.Offends text ∧ cause.Leaves rest := by
  cases cause with
  | unexpectedCharacter c =>
    obtain ⟨rfl, first⟩ := piece.of_unexpected
    obtain ⟨rest, rfl⟩ := List.head?_eq_some_iff.1 first
    exact ⟨[c], rest, rfl, .character (piece.foreign start), trivial⟩
  | unterminatedString =>
    cases piece with
    | @unclosed body _ free within ends =>
      have leaves : after = [] ∨ after.head? = some '\n' := by
        cases after with
        | nil => exact .inl rfl
        | cons c after => exact .inr (congrArg some (ends c rfl))
      exact ⟨'"' :: body, after, rfl,
        .string fun c member => isStringBody_iff.1 (within c member), leaves⟩
  | malformedNumber lexeme =>
    cases piece with
    | malformed free decimal =>
      cases decimal with
      | intro digits digits' => exact ⟨_, after, rfl, .number digits digits', trivial⟩

theorem exists_error_piece {cause : LexicalCause} {text : List Char} (offends : cause.Offends text)
    {after : List Char} (leaves : cause.Leaves after) :
    StopsAt isSeparator (text ++ after) ∧ ∃ run rest, text ++ after = run ++ rest ∧
      Piece .standard run rest (.error cause) := by
  cases offends with
  | @character c foreign =>
    refine ⟨?_, [], c :: after, rfl, .unexpected_of_foreign foreign after⟩
    rw [List.singleton_append, stopsAt_cons, Bool.eq_false_iff, Ne, isSeparator_iff]
    simpa using foreign.separator
  | @string body within =>
    have ends : ∀ c ∈ after.head?, c = '\n' := by
      rcases leaves with rfl | newline
      · simp
      · simp [newline]
    exact ⟨by simp; rfl, '"' :: body, after, rfl,
      .unclosed rfl (fun c member => isStringBody_iff.2 (within c member)) ends⟩
  | @number whole fraction digits digits' =>
    have decimal : Decimal (whole ++ '.' :: fraction) := .intro digits digits'
    obtain ⟨c, run, split⟩ := List.exists_cons_of_ne_nil decimal.ne_nil
    have first : isNumberStart c = true := decimal.head c (by rw [split]; rfl)
    have unlisted : Unlisted .standard (whole ++ '.' :: fraction) :=
      Vocabulary.unlisted_standard fun c member => .inl (decimal.isNumberStart c member)
    refine ⟨?_, _, after, rfl, .malformed unlisted decimal⟩
    rw [split]
    simpa using isSeparator_of_class (.inl first)

/-! ### Up to the error -/

/-- What is read of a text is yielded before what the rest yields. -/
theorem Reads.yields {before text rest : List Char} {tokens more : List Token}
    {error : LexicalError} (reads : Reads vocabulary before text rest tokens)
    (yields : Yields (between vocabulary (before ++ text) rest) more error) :
    Yields (between vocabulary before (text ++ rest)) (tokens ++ more) error := by
  induction reads with
  | gap blank => exact yields.congr (next_gap blank)
  | @piece before gap run text rest lexeme kind tokens blank start piece reads ih =>
    have rest_yields := ih (by simpa using yields)
    have step := next_of_token rfl (nextToken_piece start piece (before ++ gap))
    have skip : (between vocabulary before (gap ++ (run ++ text) ++ rest)).next =
        (between vocabulary (before ++ gap) (run ++ (text ++ rest))).next := by
      simpa using @next_gap vocabulary before gap (run ++ (text ++ rest)) blank
    rw [Token.kept]
    split
    case isTrue ignored =>
      rw [if_pos ignored] at step
      exact rest_yields.congr (skip.trans step)
    case isFalse significant =>
      rw [if_neg significant] at step
      exact .token (skip.trans step) rest_yields

theorem FailsAt.yields {before left run after : List Char} {tokens : List Token}
    {cause : LexicalCause} (fails : FailsAt vocabulary before left run after tokens cause) :
    Yields (between vocabulary before (left ++ (run ++ after))) tokens
      ⟨cause, byteLength (before ++ left), lineAfter (before ++ left)⟩ := by
  have step := next_of_error rfl (nextToken_piece fails.start fails.piece (before ++ left))
  simpa using fails.reads.yields (.error step)

end Scanner

/-- The text that an error is about stands where scanning fails. -/
theorem exists_offends {source : String} {error : LexicalError}
    (failed : scan source = .error error) : ∃ before text after run rest tokens,
      source.toList = before ++ (text ++ after) ∧ run ++ rest = text ++ after ∧
      FailsAt .standard [] before run rest tokens error.cause ∧
      error.offset = byteLength before ∧ error.line = lineAfter before ∧
      error.cause.Offends text ∧ error.cause.Leaves after := by
  rw [scan_eq_between, scan_eq_error_iff_failsAt] at failed
  obtain ⟨before, run, rest, tokens, split, fails, offset, line⟩ := failed
  obtain ⟨text, after, same, offends, leaves⟩ := fails.piece.offends fails.start
  exact ⟨before, text, after, run, rest, tokens, same ▸ split, same, fails, offset, line, offends,
    leaves⟩

section

variable {left text after : List Char} {tokens : List Token}

-- Truncation: what was read in front of the offending text looked at nothing of it.
theorem scan_truncated (reads : Reads .standard [] left (text ++ after) tokens)
    (nonempty : text ≠ []) : scan (String.ofList left) = .ok tokens := by
  have front : Reads .standard [] left [] tokens :=
    reads.change_rest (by simp [nonempty]) (by simp [Shows])
  rw [scan_eq_between, scan_eq_ok_iff_reads, String.toList_ofList]
  exact front

-- Extension: the offending text is an error in front of anything that it can leave.
theorem scan_extended {cause : LexicalCause}
    (reads : Reads .standard [] left (text ++ after) tokens) (offends : cause.Offends text)
    {after' : List Char} (leaves : cause.Leaves after') :
    scan (String.ofList (left ++ text ++ after')) =
      .error ⟨cause, byteLength left, lineAfter left⟩ := by
  have front : Reads .standard [] left (text ++ after') tokens :=
    reads.change_rest (by simp [offends.ne_nil]) (Shows.of_ne_nil offends.ne_nil after after')
  obtain ⟨start, run, rest, same, piece⟩ := exists_error_piece offends leaves
  rw [same] at front start
  rw [scan_eq_between, scan_eq_error_iff_failsAt, String.toList_ofList]
  exact ⟨left, run, rest, tokens, by simp [same], ⟨front, start, piece⟩, rfl, rfl⟩

end

/-- An error with the text it is about and what stands before and behind that text. -/
structure Located (source : String) (error : LexicalError) (before text after : List Char)
    (tokens : List Token) : Prop where
  place : splitAt? source.toList error.offset = some (before, text ++ after)
  inside : error.offset < byteLength source.toList
  line : error.line.toNat = 1 + newlines before
  front : scan (String.ofList before) = .ok tokens
  yields : Yields (ofSource source) tokens error
  offends : error.cause.Offends text
  leaves : error.cause.Leaves after
  stable : ∀ after', error.cause.Leaves after' →
    scan (String.ofList (before ++ text ++ after')) = .error error

/-- An error is about the first text that cannot be read, in its place. The source in front of it
scans to the tokens that come before the error, and no other text behind it changes the error. -/
theorem first_error_located (source : String) (error : LexicalError)
    (few : newlines source.toList < UInt32.size - 1) (failed : scan source = .error error) :
    ∃ before text after tokens, Located source error before text after tokens := by
  obtain ⟨left, text, after, run, rest, tokens, split, same, fails, offset, line, offends,
    leaves⟩ := exists_offends failed
  have reads : Reads .standard [] left (text ++ after) tokens := same ▸ fails.reads
  have yields := fails.yields
  rw [List.nil_append, same] at yields
  have located : error = ⟨error.cause, byteLength left, lineAfter left⟩ := by
    rw [← offset, ← line]
  refine ⟨left, text, after, tokens, ?place, ?inside, ?line,
    scan_truncated reads offends.ne_nil, ?yields, offends, leaves, ?stable⟩
  case place =>
    rw [split, offset]
    exact splitAt?_append left (text ++ after)
  case inside =>
    have nonempty := byteLength_pos offends.ne_nil
    rw [split, offset, byteLength_append, byteLength_append]
    omega
  case line =>
    have within : newlines left ≤ newlines source.toList := by
      rw [split, newlines_append]
      omega
    exact (toNat_eq_iff_eq_lineAfter (by omega)).2 line
  case yields =>
    rw [ofSource, withVocabulary_eq_between, split, located]
    exact yields
  case stable =>
    intro after' leaves'
    rw [located]
    exact scan_extended reads offends leaves'

theorem located_open_string :
    newlines "x =\n\"é + 1\ny".toList < UInt32.size - 1 ∧
      scan "x =\n\"é + 1\ny" = .error ⟨.unterminatedString, 4, 2⟩ ∧
      ∃ before text after tokens, Located "x =\n\"é + 1\ny" ⟨.unterminatedString, 4, 2⟩
        before text after tokens :=
  ⟨by decide, by decide +kernel, first_error_located _ _ (by decide) (by decide +kernel)⟩

end ScriptLex
