import ScriptLex.Proofs.Lookahead

/-! Comments at the end of a line.

A comment hides whatever stands in it. Behind a text that scans it adds no token, and what follows
on the next line is read as if the comment were not there, only that many bytes further on. -/

set_option autoImplicit false

namespace ScriptLex

open ScriptLex.Text ScriptLex.Scanner

/-- The same error some bytes further on. -/
def LexicalError.movedBy (bytes : Nat) (error : LexicalError) : LexicalError :=
  { error with offset := error.offset + bytes }

theorem map_mapError {E E' A B : Type} (move : E → E') (change : A → B) (outcome : Except E A) :
    (outcome.mapError move).map change = (outcome.map change).mapError move := by
  cases outcome <;> rfl

namespace Scanner

variable {vocabulary : Vocabulary}

/-! ### A comment behind a reading -/

/-- A comment that a newline closes was one without the newline. -/
theorem Piece.exists_comment_body {run after : List Char}
    (piece : Piece vocabulary (run ++ ['\n']) after (.token .ignored [])) :
    ∃ body, run = '/' :: '/' :: body ∧ ∀ c ∈ body, c ≠ '\n' := by
  -- Symbols and words may be ignored too, but their lexemes are not empty.
  generalize closed : run ++ ['\n'] = text at piece
  generalize found : Finding.token .ignored [] = finding at piece
  cases piece with
  | @comment body _ free within =>
    exact ⟨body, List.append_cancel_right closed, within⟩
  | @lastComment body free within =>
    have newline : '\n' ∈ '/' :: '/' :: body := closed ▸ List.mem_append_right run (by simp)
    exact absurd rfl (within '\n' (by simpa using newline))
  | word free nonempty =>
    obtain ⟨-, rfl⟩ := Finding.token.inj found
    exact absurd rfl nonempty
  | _ => cases found

/-- A text that is read to its end may go on with a comment. -/
theorem Reads.append_comment {before text body : List Char} {tokens : List Token}
    (reads : Reads vocabulary before text [] tokens) (free : vocabulary.symbol? '/' = none)
    (within : ∀ c ∈ body, c ≠ '\n') :
    Reads vocabulary before (text ++ ' ' :: '/' :: '/' :: body) [] tokens := by
  generalize ending : [] = rest at reads
  induction reads with
  | @gap before gap _ blank =>
    subst ending
    have blank' : ∀ c ∈ gap ++ [' '], isSeparator c = true := by
      simpa [or_imp, forall_and, isSeparator, isBlank] using blank
    have comment : Reads vocabulary before (gap ++ [' '] ++ ('/' :: '/' :: body ++ [])) [] _ :=
      .piece blank' (stopsAt_cons.2 rfl) (.lastComment free within) (.gap (by simp))
    simpa [Token.kept, Token.isIgnored] using comment
  | @piece before gap run text _ lexeme kind tokens blank start piece more ih =>
    subst ending
    have shows := (Shows.of_separator [] (show isSeparator ' ' = true from rfl)
      ('/' :: '/' :: body)).append text
    have start' := piece.start_of_token start (text ++ ' ' :: '/' :: '/' :: body)
    rcases piece.change_after shows with piece | ⟨none, rfl, rfl, closed⟩
    · have commented := Reads.piece blank (by simpa using start') (by simpa using piece) (ih rfl)
      simpa using commented
    · -- The text ends in a comment already, and that comment becomes longer.
      obtain rfl : text = [] := (List.append_eq_nil_iff.1 none).1
      obtain rfl := more.tokens_of_nil
      obtain ⟨inner, rfl, inside⟩ := (closed []).exists_comment_body
      have within' : ∀ c ∈ inner ++ ' ' :: '/' :: '/' :: body, c ≠ '\n' := by
        simpa [or_imp, forall_and] using And.intro inside within
      have longer : Reads vocabulary before
          (gap ++ ('/' :: '/' :: (inner ++ ' ' :: '/' :: '/' :: body) ++ [])) [] _ :=
        .piece blank (stopsAt_cons.2 rfl) (.lastComment free within') (.gap (by simp))
      simpa using longer

/-! ### The same text further on -/

theorem lineAfter_append_congr {before before' : List Char}
    (lines : newlines before' = newlines before) (text : List Char) :
    lineAfter (before' ++ text) = lineAfter (before ++ text) := by
  simp only [lineAfter, newlines_append, lines]

/-- Of what stands in front of a text only the number of lines counts for its tokens. -/
theorem Reads.change_before {before before' text rest : List Char} {tokens : List Token}
    (reads : Reads vocabulary before text rest tokens)
    (lines : newlines before' = newlines before) : Reads vocabulary before' text rest tokens := by
  induction reads generalizing before' with
  | gap blank => exact .gap blank
  | @piece before gap run text rest lexeme kind tokens blank start piece more ih =>
    have same : newlines (before' ++ gap ++ run) = newlines (before ++ gap ++ run) := by
      simp only [newlines_append, lines]
    rw [← lineAfter_append_congr lines gap]
    exact .piece blank start piece (ih same)

theorem scan_change_before {before before' : List Char} {bytes : Nat}
    (lines : newlines before' = newlines before)
    (further : byteLength before' = byteLength before + bytes) (text : List Char) :
    (between vocabulary before' text).scan =
      (between vocabulary before text).scan.mapError (·.movedBy bytes) := by
  obtain ⟨left, rest, tokens, rfl, reads, rfl | ⟨start, run, after, cause, rfl, piece⟩⟩ :=
    exists_reads vocabulary before text
  · rw [List.append_nil, scan_eq_ok_iff_reads.2 reads,
      scan_eq_ok_iff_reads.2 (reads.change_before lines)]
    rfl
  · have fails : FailsAt vocabulary before left run after tokens cause := ⟨reads, start, piece⟩
    have fails' : FailsAt vocabulary before' left run after tokens cause :=
      ⟨reads.change_before lines, start, piece⟩
    have offset : byteLength (before' ++ left) = byteLength (before ++ left) + bytes := by
      simp only [byteLength_append, further]
      omega
    rw [scan, scan, fails.drain, fails'.drain, offset, lineAfter_append_congr lines]
    rfl

theorem Reads.scan {before text rest : List Char} {tokens : List Token}
    (reads : Reads vocabulary before text rest tokens) :
    (between vocabulary before (text ++ rest)).scan =
      (between vocabulary (before ++ text) rest).scan.map (tokens ++ ·) :=
  congrArg Prod.fst reads.drain

end Scanner

/-- A comment at the end of a text that scans adds nothing to its tokens. What follows on the next
line gives the same tokens as without the comment, or the same error as many bytes further on as the
comment takes. -/
theorem scan_comment (vocabulary : Vocabulary) (source body : String) (tokens : List Token)
    (free : vocabulary.symbol? '/' = none) (line : ∀ c ∈ body.toList, c ≠ '\n')
    (read : (withVocabulary vocabulary source).scan = .ok tokens) :
    (withVocabulary vocabulary (source ++ " //" ++ body)).scan = .ok tokens ∧
    ∀ rest : String, (withVocabulary vocabulary (source ++ " //" ++ body ++ "\n" ++ rest)).scan =
      (withVocabulary vocabulary (source ++ "\n" ++ rest)).scan.mapError
        (·.movedBy (3 + byteLength body.toList)) := by
  rw [withVocabulary_eq_between, scan_eq_ok_iff_reads] at read
  have commented := read.append_comment free line
  refine ⟨?alone, fun rest => ?followed⟩
  case alone =>
    rw [withVocabulary_eq_between, scan_eq_ok_iff_reads]
    simpa using commented
  case followed =>
    have lines : newlines (source.toList ++ ' ' :: '/' :: '/' :: body.toList ++ ['\n']) =
        newlines (source.toList ++ ['\n']) := by
      simpa [newlines] using newlines_eq_zero line
    have further : byteLength (source.toList ++ ' ' :: '/' :: '/' :: body.toList ++ ['\n']) =
        byteLength (source.toList ++ ['\n']) + (3 + byteLength body.toList) := by
      have width : ' '.utf8Size = 1 ∧ '/'.utf8Size = 1 := ⟨rfl, rfl⟩
      simp only [byteLength_append, byteLength_cons, width]
      omega
    have behind := (commented.close_line rest.toList).scan
    have behind' := (read.close_line rest.toList).scan
    rw [List.nil_append] at behind behind'
    rw [scan_change_before lines further, map_mapError, ← behind'] at behind
    simpa [withVocabulary_eq_between] using behind

/-- A vocabulary that lists separators, and a symbol that is left out as comments are. -/
def wordyVocabulary : Vocabulary := ⟨[(' ', .semicolon), ('\n', .comma), ('#', .ignored)], []⟩

theorem scan_comment_crowded :
    wordyVocabulary.symbol? '/' = none ∧ (∀ c ∈ "\"é /3.1.4\r".toList, c ≠ '\n') ∧
      (withVocabulary wordyVocabulary "x < # // y").scan =
        .ok [⟨.identifier, "x", 1⟩, ⟨.lessThan, "<", 1⟩] ∧
      (withVocabulary wordyVocabulary "x < # // y //\"é /3.1.4\r").scan =
        .ok [⟨.identifier, "x", 1⟩, ⟨.lessThan, "<", 1⟩] ∧
      (withVocabulary wordyVocabulary "x < # // y\n!").scan =
        .error ⟨.unexpectedCharacter '!', 11, 2⟩ ∧
      (withVocabulary wordyVocabulary "x < # // y //\"é /3.1.4\r\n!").scan =
        .error ⟨.unexpectedCharacter '!', 25, 2⟩ := by
  have free : wordyVocabulary.symbol? '/' = none := by decide
  have line : ∀ c ∈ "\"é /3.1.4\r".toList, c ≠ '\n' := by simp
  have read : (withVocabulary wordyVocabulary "x < # // y").scan =
      .ok [⟨.identifier, "x", 1⟩, ⟨.lessThan, "<", 1⟩] := by decide +kernel
  have failed : (withVocabulary wordyVocabulary "x < # // y\n!").scan =
      .error ⟨.unexpectedCharacter '!', 11, 2⟩ := by decide +kernel
  have hidden := scan_comment wordyVocabulary _ _ _ free line read
  have behind := hidden.2 "!"
  rw [show "x < # // y" ++ "\n" ++ "!" = "x < # // y\n!" from rfl, failed] at behind
  exact ⟨free, line, read, hidden.1, failed, behind⟩

end ScriptLex
