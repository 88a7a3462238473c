import ScriptLex.Proofs.Lookahead

/-! Sources with a carriage return in front of every newline.

A carriage return is a separator, and a comment or an open string takes it in with its line. So a
source reads alike with either line ending; only its offsets grow, by one for each line. -/

set_option autoImplicit false

namespace ScriptLex

open ScriptLex.Text ScriptLex.Scanner

namespace Text

/-- A text with a carriage return in front of every newline. -/
def withReturns (cs : List Char) : List Char :=
  cs.flatMap fun c => if c = '\n' then ['\r', '\n'] else [c]

@[simp] theorem withReturns_nil : withReturns [] = [] := rfl

@[simp] theorem withReturns_append (as bs : List Char) :
    withReturns (as ++ bs) = withReturns as ++ withReturns bs := List.flatMap_append

@[simp] theorem withReturns_newline (cs : List Char) :
    withReturns ('\n' :: cs) = '\r' :: '\n' :: withReturns cs := rfl

theorem withReturns_cons {c : Char} (other : c ≠ '\n') (cs : List Char) :
    withReturns (c :: cs) = c :: withReturns cs := by
  simp [withReturns, other]

theorem withReturns_line {line : List Char} (within : ∀ c ∈ line, c ≠ '\n') :
    withReturns line = line := by
  induction line with
  | nil => rfl
  | cons c line ih =>
    rw [withReturns_cons (within c List.mem_cons_self),
      ih fun d member => within d (List.mem_cons_of_mem c member)]

theorem newlines_withReturns (cs : List Char) : newlines (withReturns cs) = newlines cs := by
  induction cs with
  | nil => rfl
  | cons c cs ih =>
    by_cases newline : c = '\n'
    · subst newline
      simpa [newlines] using ih
    · simpa [withReturns_cons newline, newlines, newline] using ih

@[simp] theorem lineAfter_withReturns (cs : List Char) :
    lineAfter (withReturns cs) = lineAfter cs := by
  rw [lineAfter, newlines_withReturns, lineAfter]

/-- Every line break takes one byte more. -/
theorem byteLength_withReturns (cs : List Char) :
    byteLength (withReturns cs) = byteLength cs + newlines cs := by
  induction cs with
  | nil => rfl
  | cons c cs ih =>
    by_cases newline : c = '\n'
    · subst newline
      have count : newlines ('\n' :: cs) = newlines cs + 1 := List.count_cons_self
      have width : '\r'.utf8Size = 1 := rfl
      rw [withReturns_newline, byteLength_cons, byteLength_cons, byteLength_cons, ih, count, width]
      omega
    · have count : newlines (c :: cs) = newlines cs := List.count_cons_of_ne newline
      rw [withReturns_cons newline, byteLength_cons, byteLength_cons, ih, count]
      omega

theorem isSeparator_withReturns {gap : List Char} (blank : ∀ c ∈ gap, isSeparator c = true) :
    ∀ c ∈ withReturns gap, isSeparator c = true := by
  intro c member
  obtain ⟨d, inside, here⟩ := List.mem_flatMap.1 member
  split at here
  · obtain rfl | rfl : c = '\r' ∨ c = '\n' := by simpa using here
    · rfl
    · rfl
  · obtain rfl := List.mem_singleton.1 here
    exact blank c inside

theorem getLast?_withReturns {closed : List Char} (opens : ∀ c ∈ closed.getLast?, c = '\n') :
    ∀ c ∈ (withReturns closed).getLast?, c = '\n' := by
  rcases List.eq_nil_or_concat closed with rfl | ⟨front, c, rfl⟩
  · exact opens
  · obtain rfl : c = '\n' := opens c (by simp)
    simp

/-- Of whole lines behind a place only a carriage return comes to its line. -/
theorem exists_ending {behind : List Char} (closes : ∀ c ∈ behind.head?, c = '\n') :
    ∃ ending behind', withReturns behind = ending ++ behind' ∧ (ending = [] ∨ ending = ['\r']) ∧
      ∀ c ∈ behind'.head?, c = '\n' := by
  cases behind with
  | nil => exact ⟨[], [], rfl, .inl rfl, closes⟩
  | cons c more =>
    obtain rfl : c = '\n' := closes c rfl
    exact ⟨['\r'], '\n' :: withReturns more, rfl, .inr rfl, by simp⟩

theorem isStringBody_of_ending {ending : List Char} (ends : ending = [] ∨ ending = ['\r']) :
    ∀ c ∈ ending, isStringBody c = true := by
  rcases ends with rfl | rfl <;> simp [isStringBody]

end Text

namespace Scanner

variable {vocabulary : Vocabulary}

/-- With its carriage returns a text shows the same character, or a carriage return. -/
theorem shows_withReturns (after : List Char) : Shows after (withReturns after) := by
  cases after with
  | nil => simp [Shows]
  | cons c after =>
    by_cases newline : c = '\n'
    · subst newline
      exact .of_separator _ rfl _
    · rw [withReturns_cons newline]
      exact fun d first => .inl first

theorem stopsAt_withReturns {text : List Char} (start : StopsAt isSeparator text) :
    StopsAt isSeparator (withReturns text) := by
  cases text with
  | nil => exact start
  | cons c text =>
    have newline : c ≠ '\n' := by
      rintro rfl
      cases stopsAt_cons.1 start
    rw [withReturns_cons newline]
    exact start

/-- A token piece stands on one line, but for a comment that ends its line. -/
theorem Piece.line_or_comment {run after lexeme : List Char} {kind : Kind}
    (piece : Piece vocabulary run after (.token kind lexeme))
    (start : StopsAt isSeparator (run ++ after)) :
    (∀ c ∈ run, c ≠ '\n') ∨ ∃ body, run = '/' :: '/' :: body ++ ['\n'] ∧
      vocabulary.symbol? '/' = none ∧ (∀ c ∈ body, c ≠ '\n') ∧ kind = .ignored ∧ lexeme = [] := by
  have solid : ∀ {c : Char}, isSeparator c = false → c ≠ '\n' := by
    rintro c other rfl
    cases other
  cases piece with
  | symbol | single => exact .inl (by simpa using solid (stopsAt_cons.1 start))
  | pair => exact .inl (by simpa using solid (stopsAt_cons.1 start))
  | divide => exact .inl (by simp)
  | @comment body _ free within => exact .inr ⟨body, rfl, free, within, rfl, rfl⟩
  | lastComment free within => exact .inl (by simpa using within)
  | quoted free within =>
    have line := fun c member => (isStringBody_iff.1 (within c member)).2
    exact .inl (by simpa [or_imp, forall_and] using line)
  | whole free nonempty digits =>
    exact .inl fun c member =>
      solid (isSeparator_of_class (.inl (isNumberStart_iff.2 (.inl (digits c member)))))
  | decimal free decimal =>
    exact .inl fun c member => solid (isSeparator_of_class (.inl (decimal.isNumberStart c member)))
  | word free nonempty letters =>
    exact .inl fun c member => solid (isSeparator_of_class (.inr (letters c member)))

/-- A token piece is the same token with carriage returns in it and behind it. -/
theorem Piece.token_withReturns {run after lexeme : List Char} {kind : Kind}
    (piece : Piece vocabulary run after (.token kind lexeme))
    (start : StopsAt isSeparator (run ++ after)) :
    Piece vocabulary (withReturns run) (withReturns after) (.token kind lexeme) := by
  rcases piece.line_or_comment start with line | ⟨body, rfl, free, within, rfl, rfl⟩
  · rw [withReturns_line line]
    rcases piece.change_after (shows_withReturns after) with same | ⟨rfl, -⟩
    · exact same
    · exact piece
  · have line : ∀ c ∈ '/' :: '/' :: body, c ≠ '\n' := by simpa using within
    have within' : ∀ c ∈ body ++ ['\r'], c ≠ '\n' := by simpa [or_imp, forall_and] using within
    have comment := @Piece.comment vocabulary _ (withReturns after) free within'
    rw [withReturns_append, withReturns_line line]
    simpa using comment

/-- An error piece is the same error with carriage returns behind it; an open string takes in the
one of its line. -/
theorem Piece.error_withReturns {run after : List Char} {cause : LexicalCause}
    (piece : Piece vocabulary run after (.error cause))
    (start : StopsAt isSeparator (run ++ after)) :
    ∃ run' after', withReturns (run ++ after) = run' ++ after' ∧
      Piece vocabulary run' after' (.error cause) := by
  cases piece with
  | @unclosed body _ free within ends =>
    have line : ∀ c ∈ '"' :: body, c ≠ '\n' := by
      simpa using fun c member => (isStringBody_iff.1 (within c member)).2
    rw [withReturns_append, withReturns_line line]
    cases after with
    | nil => exact ⟨'"' :: body, [], rfl, .unclosed free within ends⟩
    | cons c more =>
      obtain rfl : c = '\n' := ends c rfl
      have within' : ∀ c ∈ body ++ ['\r'], isStringBody c = true := by
        simp only [List.mem_append, List.mem_singleton]
        rintro c (inside | rfl)
        · exact within c inside
        · rfl
      exact ⟨'"' :: (body ++ ['\r']), '\n' :: withReturns more, by simp,
        .unclosed free within' (by simp)⟩
  | @malformed run _ free decimal =>
    have line : ∀ c ∈ run ++ ['.'], c ≠ '\n' := by
      intro c member same
      rcases List.mem_append.1 member with inside | point
      · have other := isSeparator_of_class (.inl (decimal.isNumberStart c inside))
        rw [same] at other
        cases other
      · simp [same] at point
    refine ⟨run ++ ['.'], withReturns after, ?_, .malformed free decimal⟩
    rw [withReturns_append, withReturns_line line]
  | @unexpected c rest free noSlash noQuote noNumber noLetter noComparison =>
    have newline : c ≠ '\n' := by
      rintro rfl
      cases stopsAt_cons.1 start
    have same : ((withReturns rest).head? == some '=') = (rest.head? == some '=') := by
      cases rest with
      | nil => rfl
      | cons d rest =>
        by_cases next : d = '\n'
        · subst next
          rfl
        · rw [withReturns_cons next]
          rfl
    refine ⟨[], c :: withReturns rest, withReturns_cons newline rest, ?_⟩
    exact .unexpected free noSlash noQuote noNumber noLetter (same ▸ noComparison)

/-- A reading goes the same way with carriage returns everywhere. -/
theorem Reads.withReturns {before text rest : List Char} {tokens : List Token}
    (reads : Reads vocabulary before text rest tokens) :
    Reads vocabulary (withReturns before) (withReturns text) (withReturns rest) tokens := by
  induction reads with
  | gap blank => exact .gap (isSeparator_withReturns blank)
  | @piece before gap run text rest lexeme kind tokens blank start piece more ih =>
    have start' := stopsAt_withReturns start
    have piece' := piece.token_withReturns start
    simp only [withReturns_append] at start' piece' ih ⊢
    have joined := Reads.piece (isSeparator_withReturns blank) start' piece' ih
    rw [← withReturns_append before, lineAfter_withReturns] at joined
    exact joined

theorem FailsAt.withReturns {before left run after : List Char} {tokens : List Token}
    {cause : LexicalCause} (fails : FailsAt vocabulary before left run after tokens cause) :
    ∃ run' after', Text.withReturns (run ++ after) = run' ++ after' ∧
      FailsAt vocabulary (withReturns before) (withReturns left) run' after' tokens cause := by
  obtain ⟨run', after', same, piece⟩ := fails.piece.error_withReturns fails.start
  have reads := fails.reads.withReturns
  have start := stopsAt_withReturns fails.start
  rw [same] at reads start
  exact ⟨run', after', same, reads, start, piece⟩

end Scanner

/-- A source with a carriage return in front of every newline. -/
def crlf (source : String) : String := String.ofList (withReturns source.toList)

section

variable {vocabulary : Vocabulary} {source : String}

theorem scan_crlf_reading {tokens : List Token}
    (read : (withVocabulary vocabulary source).scan = .ok tokens) :
    (withVocabulary vocabulary (crlf source)).scan = .ok tokens := by
  rw [withVocabulary_eq_between, scan_eq_ok_iff_reads] at *
  rw [crlf, String.toList_ofList]
  exact read.withReturns

theorem scan_crlf_failing {error : LexicalError}
    (failed : (withVocabulary vocabulary source).scan = .error error) :
    ∃ before after, splitAt? source.toList error.offset = some (before, after) ∧
      (withVocabulary vocabulary (crlf source)).scan =
        .error { error with offset := error.offset + newlines before } := by
  rw [withVocabulary_eq_between] at failed
  obtain ⟨left, run, after, tokens, split, fails, offset, line⟩ :=
    scan_eq_error_iff_failsAt.1 failed
  obtain ⟨run', after', same, fails'⟩ := fails.withReturns
  rw [List.nil_append] at offset line
  refine ⟨left, run ++ after, ?place, ?failed⟩
  case place =>
    rw [split, offset]
    exact splitAt?_append left (run ++ after)
  case failed =>
    rw [withVocabulary_eq_between, scan_eq_error_iff_failsAt, crlf, String.toList_ofList]
    refine ⟨withReturns left, run', after', tokens, ?_, fails', ?_, ?_⟩
    · rw [split, withReturns_append, same]
    · rw [List.nil_append, byteLength_withReturns, ← offset]
    · rw [List.nil_append, lineAfter_withReturns, ← line]

end

/-- Carriage returns in front of the newlines change nothing of what is scanned but the offset of an
error, which grows by the newlines in front of it. -/
theorem scan_crlf (vocabulary : Vocabulary) (source : String) :
    (∀ tokens, (withVocabulary vocabulary source).scan = .ok tokens →
      (withVocabulary vocabulary (crlf source)).scan = .ok tokens) ∧
    (∀ error, (withVocabulary vocabulary source).scan = .error error →
      ∃ before after, splitAt? source.toList error.offset = some (before, after) ∧
        (withVocabulary vocabulary (crlf source)).scan =
          .error { error with offset := error.offset + newlines before }) := by
  constructor
  · intro tokens read
    exact scan_crlf_reading read
  · intro error failed
    exact scan_crlf_failing failed

theorem scan_crlf_mixed :
    scan (crlf "a //b\r\n\n=\r") = .ok [⟨.identifier, "a", 1⟩, ⟨.assign, "=", 3⟩] ∧
      scan (crlf "/\n\"é\r\n1") = .error ⟨.unterminatedString, 3, 2⟩ := by
  have read : scan "a //b\r\n\n=\r" = .ok [⟨.identifier, "a", 1⟩, ⟨.assign, "=", 3⟩] := by
    decide +kernel
  have failed : scan "/\n\"é\r\n1" = .error ⟨.unterminatedString, 2, 2⟩ := by decide +kernel
  obtain ⟨before, after, split, failed'⟩ := (scan_crlf .standard _).2 _ failed
  have place : splitAt? "/\n\"é\r\n1".toList 2 = some ("/\n".toList, "\"é\r\n1".toList) := by
    decide
  rw [place] at split
  obtain ⟨rfl, rfl⟩ := Prod.mk.inj (Option.some.inj split)
  exact ⟨(scan_crlf .standard _).1 _ read, failed'⟩

end ScriptLex
