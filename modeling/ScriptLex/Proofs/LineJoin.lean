import Mathlib.Data.List.Forall2
import ScriptLex.Proofs.Lookahead

/-! Sources joined by a newline.

No piece reaches over a newline but a comment, which ends with it. So the parts of a joined source
are read as if each stood alone, with the second further down. -/

set_option autoImplicit false

namespace ScriptLex

open ScriptLex.Text ScriptLex.Scanner

/-- The same token some lines further down. -/
structure Token.Below (lines : Nat) (token below : Token) : Prop where
  kind : below.kind = token.kind
  lexeme : below.lexeme = token.lexeme
  line : below.line.toNat = token.line.toNat + lines

/-- The same error some bytes further on and some lines further down. -/
structure LexicalError.Below (bytes lines : Nat) (error below : LexicalError) : Prop where
  cause : below.cause = error.cause
  offset : below.offset = error.offset + bytes
  line : below.line.toNat = error.line.toNat + lines

namespace Scanner

variable {vocabulary : Vocabulary}

theorem toNat_lineAfter_append {first second : List Char}
    (few : newlines (first ++ second) < UInt32.size - 1) :
    (lineAfter (first ++ second)).toNat = (lineAfter second).toNat + newlines first := by
  have within : newlines second ≤ newlines (first ++ second) := by
    rw [newlines_append]
    omega
  rw [toNat_lineAfter few, toNat_lineAfter (by omega), newlines_append]
  omega

/-- Readings of neighbouring texts make up one reading. -/
theorem Reads.append {before text text' rest : List Char} {tokens tokens' : List Token}
    (reads : Reads vocabulary before text (text' ++ rest) tokens)
    (reads' : Reads vocabulary (before ++ text) text' rest tokens') :
    Reads vocabulary before (text ++ text') rest (tokens ++ tokens') := by
  -- The text behind is an index of the relation, and the induction needs it to be a variable.
  generalize behind : text' ++ rest = all at reads
  induction reads with
  | gap blank => exact .of_gap blank reads'
  | @piece before gap run text _ lexeme kind tokens blank start piece more ih =>
    subst behind
    rw [← List.append_assoc text] at start piece
    have joined := Reads.piece blank start piece (ih (by simpa using reads') rfl)
    simpa using joined

/-- A text reads alike further down, as long as the lines can be counted. -/
theorem Reads.move_down {before text rest : List Char} {tokens : List Token}
    (reads : Reads vocabulary before text rest tokens) (base : List Char)
    (few : newlines (base ++ (before ++ text)) < UInt32.size - 1) :
    ∃ below, Reads vocabulary (base ++ before) text rest below ∧
      List.Forall₂ (Token.Below (newlines base)) tokens below := by
  induction reads with
  | gap blank => exact ⟨[], .gap blank, .nil⟩
  | @piece before gap run text rest lexeme kind tokens blank start piece more ih =>
    obtain ⟨below, reads', forall₂⟩ := ih (by simpa using few)
    have few' : newlines (base ++ (before ++ gap)) < UInt32.size - 1 := by
      simp only [newlines_append] at few ⊢
      omega
    have same : Token.Below (newlines base)
        ⟨kind, String.ofList lexeme, lineAfter (before ++ gap)⟩
        ⟨kind, String.ofList lexeme, lineAfter (base ++ (before ++ gap))⟩ :=
      ⟨rfl, rfl, toNat_lineAfter_append few'⟩
    have joined := @Reads.piece vocabulary (base ++ before) gap run text rest lexeme kind below
      blank start piece (by simpa using reads')
    refine ⟨_, joined, ?_⟩
    rw [List.append_assoc base]
    by_cases ignored : kind = .ignored
    · simpa [Token.kept, Token.isIgnored, ignored] using forall₂
    · simpa [Token.kept, Token.isIgnored, ignored] using And.intro same forall₂

/-- A newline at the end does not keep an error from being one. -/
theorem Piece.close_line {run after : List Char} {cause : LexicalCause}
    (piece : Piece vocabulary run after (.error cause)) (more : List Char) :
    Piece vocabulary run (after ++ '\n' :: more) (.error cause) := by
  cases piece with
  | unclosed free within ends =>
    apply Piece.unclosed free within
    cases after with
    | nil => simp
    | cons c after => exact ends
  | malformed free decimal => exact .malformed free decimal
  | @unexpected c after free noSlash noQuote noNumber noLetter noComparison =>
    have same : ((after ++ '\n' :: more).head? == some '=') = (after.head? == some '=') := by
      cases after <;> simp
    exact .unexpected free noSlash noQuote noNumber noLetter (same ▸ noComparison)

theorem FailsAt.close_line {before left run after : List Char} {tokens : List Token}
    {cause : LexicalCause} (fails : FailsAt vocabulary before left run after tokens cause)
    (more : List Char) :
    FailsAt vocabulary before left run (after ++ '\n' :: more) tokens cause := by
  have nonempty := fails.piece.text_ne_nil
  have shows := Shows.of_ne_nil nonempty [] ('\n' :: more)
  rw [List.append_nil, List.append_assoc] at shows
  have start := fails.start.of_ne_nil nonempty ('\n' :: more)
  rw [List.append_assoc] at start
  exact ⟨fails.reads.change_rest nonempty shows, start, fails.piece.close_line more⟩

end Scanner

section

variable {vocabulary : Vocabulary} {first second : String}

theorem toList_joined (first second : String) :
    (first ++ "\n" ++ second).toList = first.toList ++ ['\n'] ++ second.toList := by
  simp

theorem newlines_closed (text : List Char) : newlines (text ++ ['\n']) = newlines text + 1 := by
  rw [newlines_append]
  rfl

theorem scan_joined_failing {error : LexicalError}
    (failed : (withVocabulary vocabulary first).scan = .error error) :
    (withVocabulary vocabulary (first ++ "\n" ++ second)).scan = .error error := by
  rw [withVocabulary_eq_between, scan_eq_error_iff_failsAt] at *
  obtain ⟨left, run, after, tokens, split, fails, place⟩ := failed
  refine ⟨left, run, after ++ '\n' :: second.toList, tokens, ?_, fails.close_line _, place⟩
  rw [toList_joined, split]
  simp

theorem scan_joined_reading {tokens tokens' : List Token}
    (few : newlines first.toList + newlines second.toList < UInt32.size - 2)
    (read : (withVocabulary vocabulary first).scan = .ok tokens)
    (read' : (withVocabulary vocabulary second).scan = .ok tokens') :
    ∃ below, List.Forall₂ (Token.Below (newlines first.toList + 1)) tokens' below ∧
      (withVocabulary vocabulary (first ++ "\n" ++ second)).scan = .ok (tokens ++ below) := by
  rw [withVocabulary_eq_between, scan_eq_ok_iff_reads] at *
  have few' : newlines (first.toList ++ ['\n'] ++ ([] ++ second.toList)) < UInt32.size - 1 := by
    rw [List.nil_append, newlines_append, newlines_closed]
    omega
  have front := read.close_line (second.toList ++ [])
  obtain ⟨below, behind, lower⟩ := read'.move_down _ few'
  rw [List.append_nil] at behind
  rw [newlines_closed] at lower
  refine ⟨below, lower, ?_⟩
  rw [toList_joined]
  exact scan_eq_ok_iff_reads.2 (front.append behind)

theorem scan_joined_failing_behind {tokens : List Token} {error : LexicalError}
    (few : newlines first.toList + newlines second.toList < UInt32.size - 2)
    (read : (withVocabulary vocabulary first).scan = .ok tokens)
    (failed : (withVocabulary vocabulary second).scan = .error error) :
    ∃ below, LexicalError.Below (byteLength first.toList + 1) (newlines first.toList + 1)
        error below ∧
      (withVocabulary vocabulary (first ++ "\n" ++ second)).scan = .error below := by
  rw [withVocabulary_eq_between, scan_eq_ok_iff_reads] at read
  rw [withVocabulary_eq_between, scan_eq_error_iff_failsAt] at failed
  obtain ⟨left, run, after, tokens', split, fails, offset, line⟩ := failed
  rw [List.nil_append] at offset line
  have few' : newlines (first.toList ++ ['\n'] ++ left) < UInt32.size - 1 := by
    rw [split, newlines_append] at few
    rw [newlines_append, newlines_closed]
    omega
  obtain ⟨below, behind, lower⟩ := fails.reads.move_down (first.toList ++ ['\n']) few'
  rw [List.append_nil] at behind
  have front := read.close_line (left ++ (run ++ after))
  have lines := toNat_lineAfter_append few'
  rw [newlines_closed, ← line] at lines
  refine ⟨⟨error.cause, byteLength (first.toList ++ ['\n'] ++ left),
    lineAfter (first.toList ++ ['\n'] ++ left)⟩, ⟨rfl, ?_, lines⟩, ?_⟩
  · rw [byteLength_append, byteLength_append, offset, Nat.add_comm]
    rfl
  · rw [withVocabulary_eq_between, scan_eq_error_iff_failsAt, toList_joined, split]
    exact ⟨first.toList ++ ['\n'] ++ left, run, after, tokens ++ below, by simp,
      ⟨front.append behind, fails.start, fails.piece⟩, rfl, rfl⟩

end

/-- A source joined from two is scanned line by line: an error of the first is that of the whole,
and behind a first without errors the second has its tokens or its error further down. -/
theorem scan_joined (vocabulary : Vocabulary) (first second : String)
    (few : newlines first.toList + newlines second.toList < UInt32.size - 2) :
    (∀ error, (withVocabulary vocabulary first).scan = .error error →
      (withVocabulary vocabulary (first ++ "\n" ++ second)).scan = .error error) ∧
    (∀ tokens tokens', (withVocabulary vocabulary first).scan = .ok tokens →
      (withVocabulary vocabulary second).scan = .ok tokens' →
      ∃ below, List.Forall₂ (Token.Below (newlines first.toList + 1)) tokens' below ∧
        (withVocabulary vocabulary (first ++ "\n" ++ second)).scan = .ok (tokens ++ below)) ∧
    (∀ tokens error, (withVocabulary vocabulary first).scan = .ok tokens →
      (withVocabulary vocabulary second).scan = .error error →
      ∃ below, LexicalError.Below (byteLength first.toList + 1) (newlines first.toList + 1)
          error below ∧
        (withVocabulary vocabulary (first ++ "\n" ++ second)).scan = .error below) := by
  refine ⟨?first, ?both, ?second⟩
  case first => exact fun error failed => scan_joined_failing failed
  case both => exact fun tokens tokens' read read' => scan_joined_reading few read read'
  case second => exact fun tokens error read failed => scan_joined_failing_behind few read failed

/-- A vocabulary that lists the newline, the quote and the sign of comments. -/
def bareVocabulary : Vocabulary := ⟨[('\n', .semicolon), ('"', .or), ('/', .add)], []⟩

theorem scan_joined_bare :
    newlines "/\"".toList + newlines "a\n\"@".toList < UInt32.size - 2 ∧
      (withVocabulary bareVocabulary "/\"").scan = .ok [⟨.add, "/", 1⟩, ⟨.or, "\"", 1⟩] ∧
      (withVocabulary bareVocabulary "a\n\"@").scan = .error ⟨.unexpectedCharacter '@', 3, 2⟩ ∧
      ∃ below, LexicalError.Below 3 1 ⟨.unexpectedCharacter '@', 3, 2⟩ below ∧
        (withVocabulary bareVocabulary "/\"\na\n\"@").scan = .error below := by
  have read : (withVocabulary bareVocabulary "/\"").scan =
      .ok [⟨.add, "/", 1⟩, ⟨.or, "\"", 1⟩] := by decide +kernel
  have failed : (withVocabulary bareVocabulary "a\n\"@").scan =
      .error ⟨.unexpectedCharacter '@', 3, 2⟩ := by decide +kernel
  exact ⟨by decide, read, failed, (scan_joined bareVocabulary _ _ (by decide)).2.2 _ _ read failed⟩

end ScriptLex
