import ScriptLex.Proofs.Piece

/-! Reading a text piece by piece.

A reading takes a part of a text, with more behind it, apart into separators and pieces and collects
the tokens. Scanning is reading up to the end of the text or up to the first error. -/

set_option autoImplicit false

namespace ScriptLex

open ScriptLex.Text

/-- What scanning keeps of a token. -/
def Token.kept (token : Token) : List Token := if token.isIgnored then [] else [token]

instance decidableEqExcept {E A : Type} [DecidableEq E] [DecidableEq A] :
    DecidableEq (Except E A)
  | .ok a, .ok b => decidable_of_iff (a = b) ⟨congrArg _, Except.ok.inj⟩
  | .error a, .error b => decidable_of_iff (a = b) ⟨congrArg _, Except.error.inj⟩
  | .ok _, .error _ => isFalse nofun
  | .error _, .ok _ => isFalse nofun

namespace Scanner

variable {vocabulary : Vocabulary} {scanner after : Scanner}

/-- The scanner between two parts of a text. -/
def between (vocabulary : Vocabulary) (before rest : List Char) : Scanner :=
  ⟨vocabulary, Cursor.between before rest, false⟩

/-- The scanner between two parts of a text, with or without more to come from `next`. -/
def standing (vocabulary : Vocabulary) (before rest : List Char) (finished : Bool) : Scanner :=
  ⟨vocabulary, Cursor.between before rest, finished⟩

@[simp] theorem standing_position (vocabulary : Vocabulary) (before rest : List Char)
    (finished : Bool) :
    (standing vocabulary before rest finished).cursor.position = byteLength before := rfl

@[simp] theorem standing_line (vocabulary : Vocabulary) (before rest : List Char)
    (finished : Bool) :
    (standing vocabulary before rest finished).cursor.line = lineAfter before := rfl

theorem withVocabulary_eq_between (vocabulary : Vocabulary) (source : String) :
    withVocabulary vocabulary source = between vocabulary [] source.toList := by
  rw [withVocabulary, Cursor.ofSource_eq_between, between]

/-! ### One step -/

theorem skipSeparators_standing {gap rest : List Char} (before : List Char)
    (blank : ∀ c ∈ gap, isSeparator c = true) (stops : StopsAt isSeparator rest)
    (finished : Bool) :
    (standing vocabulary before (gap ++ rest) finished).skipSeparators =
      standing vocabulary (before ++ gap) rest finished := by
  simp only [skipSeparators, standing, Cursor.between_skipSeparators before blank stops]

theorem nextToken_standing_nil {gap : List Char} (before : List Char)
    (blank : ∀ c ∈ gap, isSeparator c = true) (finished : Bool) :
    (standing vocabulary before gap finished).nextToken =
      (none, standing vocabulary (before ++ gap) [] finished) := by
  have skip := @Cursor.between_skipSeparators gap [] before blank (stopsAt_nil _)
  rw [List.append_nil] at skip
  simp [nextToken, standing, skip]

theorem nextToken_standing_cons {gap rest : List Char} {c : Char} (before : List Char)
    (blank : ∀ c ∈ gap, isSeparator c = true) (solid : isSeparator c = false) (finished : Bool) :
    (standing vocabulary before (gap ++ c :: rest) finished).nextToken =
      match firstVerdict vocabulary Rule.all (Cursor.between (before ++ gap) (c :: rest)) with
      | (.declined, after) =>
        (some (.error (errorAt (Cursor.between (before ++ gap) (c :: rest))
          (.unexpectedCharacter c))), ⟨vocabulary, after, finished⟩)
      | (.token token, after) => (some (.ok token), ⟨vocabulary, after, finished⟩)
      | (.error error, after) => (some (.error error), ⟨vocabulary, after, finished⟩) := by
  have skip := @Cursor.between_skipSeparators gap (c :: rest) before blank (by simpa using solid)
  simp only [nextToken, standing, skip]
  rfl

theorem nextToken_gap {before gap rest : List Char} (blank : ∀ c ∈ gap, isSeparator c = true) :
    (between vocabulary before (gap ++ rest)).nextToken =
      (between vocabulary (before ++ gap) rest).nextToken := by
  obtain ⟨more, rest, rfl, blank', stops⟩ := exists_run isSeparator rest
  have both : ∀ c ∈ gap ++ more, isSeparator c = true := fun c member =>
    (List.mem_append.1 member).elim (blank c) (blank' c)
  have skip : (Cursor.between before (gap ++ (more ++ rest))).skipSeparators =
      (Cursor.between (before ++ gap) (more ++ rest)).skipSeparators := by
    rw [← List.append_assoc, Cursor.between_skipSeparators before both stops,
      Cursor.between_skipSeparators (before ++ gap) blank' stops, List.append_assoc]
  simp only [nextToken, between, skip]

theorem nextToken_end (before : List Char) :
    (between vocabulary before []).nextToken = (none, between vocabulary before []) := by
  have step := @nextToken_standing_nil vocabulary [] before (by simp) false
  rw [List.append_nil] at step
  exact step

/-- The piece behind the separators is what a scanner finds next, and it stops behind the piece. -/
theorem nextToken_standing_piece {gap run behind : List Char} {finding : Finding}
    (blank : ∀ c ∈ gap, isSeparator c = true) (start : StopsAt isSeparator (run ++ behind))
    (piece : Piece vocabulary run behind finding) (before : List Char) (finished : Bool) :
    (standing vocabulary before (gap ++ (run ++ behind)) finished).nextToken =
      (some (finding.result (before ++ gap)),
        standing vocabulary (before ++ gap ++ run) behind finished) := by
  have verdict := piece.firstVerdict (before ++ gap)
  obtain ⟨c, rest, text⟩ := List.exists_cons_of_ne_nil piece.text_ne_nil
  rw [text] at start verdict ⊢
  rw [nextToken_standing_cons before blank (by simpa using start), verdict]
  cases finding with
  | token kind lexeme => rfl
  | error cause =>
    cases cause with
    | unexpectedCharacter d =>
      obtain ⟨rfl, here⟩ := piece.of_unexpected
      rw [List.nil_append] at text
      obtain rfl : c = d := by simpa [text] using here
      rfl
    | unterminatedString => rfl
    | malformedNumber lexeme => rfl

theorem nextToken_piece {run after : List Char} {finding : Finding}
    (start : StopsAt isSeparator (run ++ after)) (piece : Piece vocabulary run after finding)
    (before : List Char) :
    (between vocabulary before (run ++ after)).nextToken =
      (some (finding.result before), between vocabulary (before ++ run) after) := by
  have step := @nextToken_standing_piece vocabulary [] run after finding (by simp) start piece
    before false
  rw [List.nil_append, List.append_nil] at step
  exact step

theorem next_of_token {token : Token} (unfinished : scanner.finished = false)
    (read : scanner.nextToken = (some (.ok token), after)) :
    scanner.next = if token.isIgnored then after.next else (some (.ok token), after) := by
  rw [next, if_neg (by simp [unfinished])]
  split <;> simp_all

theorem next_of_error {error : LexicalError} (unfinished : scanner.finished = false)
    (read : scanner.nextToken = (some (.error error), after)) :
    scanner.next = (some (.error error), { after with finished := true }) := by
  rw [next, if_neg (by simp [unfinished])]
  split <;> simp_all

theorem next_of_end (unfinished : scanner.finished = false)
    (read : scanner.nextToken = (none, after)) :
    scanner.next = (none, { after with finished := true }) := by
  rw [next, if_neg (by simp [unfinished])]
  split <;> simp_all

/-- Scanners that read the same next token go on alike. -/
theorem next_congr {other : Scanner} (unfinished : scanner.finished = false)
    (unfinished' : other.finished = false) (same : scanner.nextToken = other.nextToken) :
    scanner.next = other.next := by
  rcases read : other.nextToken with ⟨result, after⟩
  rw [read] at same
  match result with
  | none => rw [next_of_end unfinished same, next_of_end unfinished' read]
  | some (.error error) => rw [next_of_error unfinished same, next_of_error unfinished' read]
  | some (.ok token) => rw [next_of_token unfinished same, next_of_token unfinished' read]

theorem next_gap {before gap rest : List Char} (blank : ∀ c ∈ gap, isSeparator c = true) :
    (between vocabulary before (gap ++ rest)).next =
      (between vocabulary (before ++ gap) rest).next :=
  next_congr rfl rfl (nextToken_gap blank)

/-- The outcome of scanning with tokens in front of it. -/
def preceded (tokens : List Token) (outcome : Except LexicalError (List Token) × Scanner) :
    Except LexicalError (List Token) × Scanner :=
  (outcome.1.map (tokens ++ ·), outcome.2)

@[simp] theorem preceded_nil (outcome : Except LexicalError (List Token) × Scanner) :
    preceded [] outcome = outcome := by
  rcases outcome with ⟨_ | _, _⟩ <;> rfl

theorem preceded_append (first second : List Token)
    (outcome : Except LexicalError (List Token) × Scanner) :
    preceded (first ++ second) outcome = preceded first (preceded second outcome) := by
  rcases outcome with ⟨_ | _, _⟩ <;> simp [preceded, Except.map]

theorem drain_of_end (read : scanner.next = (none, after)) : scanner.drain = (.ok [], after) := by
  rw [drain]
  split <;> simp_all

theorem drain_of_error {error : LexicalError} (read : scanner.next = (some (.error error), after)) :
    scanner.drain = (.error error, after) := by
  rw [drain]
  split <;> simp_all

theorem drain_of_token {token : Token} (read : scanner.next = (some (.ok token), after)) :
    scanner.drain = preceded [token] after.drain := by
  rw [drain]
  split <;> simp_all [preceded]

theorem drain_congr {other : Scanner} (same : scanner.next = other.next) :
    scanner.drain = other.drain := by
  rcases read : other.next with ⟨result, after⟩
  rw [read] at same
  match result with
  | none => rw [drain_of_end same, drain_of_end read]
  | some (.error error) => rw [drain_of_error same, drain_of_error read]
  | some (.ok token) => rw [drain_of_token same, drain_of_token read]

/-! ### Whole readings -/

/-- `Reads vocabulary before text rest tokens`: between `before` and `rest`, the text reads as the
tokens. -/
inductive Reads (vocabulary : Vocabulary) :
    List Char → List Char → List Char → List Token → Prop where
  | gap {before gap rest : List Char} (blank : ∀ c ∈ gap, isSeparator c = true) :
      Reads vocabulary before gap rest []
  | piece {before gap run text rest lexeme : List Char} {kind : Kind} {tokens : List Token}
      (blank : ∀ c ∈ gap, isSeparator c = true)
      (start : StopsAt isSeparator (run ++ (text ++ rest)))
      (piece : Piece vocabulary run (text ++ rest) (.token kind lexeme))
      (more : Reads vocabulary (before ++ gap ++ run) text rest tokens) :
      Reads vocabulary before (gap ++ (run ++ text)) rest
        (Token.kept ⟨kind, String.ofList lexeme, lineAfter (before ++ gap)⟩ ++ tokens)

namespace Reads

variable {before gap run text rest lexeme : List Char} {kind : Kind} {tokens : List Token}

theorem of_gap (blank : ∀ c ∈ gap, isSeparator c = true)
    (reads : Reads vocabulary (before ++ gap) text rest tokens) :
    Reads vocabulary before (gap ++ text) rest tokens := by
  have both : ∀ {more : List Char}, (∀ c ∈ more, isSeparator c = true) →
      ∀ c ∈ gap ++ more, isSeparator c = true := fun blank' c member =>
    (List.mem_append.1 member).elim (blank c) (blank' c)
  cases reads with
  | gap blank' => exact .gap (both blank')
  | piece blank' start piece more =>
    rw [← List.append_assoc gap]
    rw [List.append_assoc before] at more ⊢
    exact .piece (both blank') start piece more

theorem of_ignored (start : StopsAt isSeparator (run ++ (text ++ rest)))
    (piece : Piece vocabulary run (text ++ rest) (.token .ignored lexeme))
    (more : Reads vocabulary (before ++ run) text rest tokens) :
    Reads vocabulary before (run ++ text) rest tokens := by
  have reads := @Reads.piece vocabulary before [] run text rest lexeme .ignored tokens (by simp)
    start piece (by simpa using more)
  exact reads

theorem of_token (start : StopsAt isSeparator (run ++ (text ++ rest)))
    (piece : Piece vocabulary run (text ++ rest) (.token kind lexeme))
    (significant : kind ≠ .ignored)
    (more : Reads vocabulary (before ++ run) text rest tokens) :
    Reads vocabulary before (run ++ text) rest
      (⟨kind, String.ofList lexeme, lineAfter before⟩ :: tokens) := by
  have reads := @Reads.piece vocabulary before [] run text rest lexeme kind tokens (by simp)
    start piece (by simpa using more)
  simpa [Token.kept, Token.isIgnored, significant] using reads

end Reads

theorem drain_gap {before gap rest : List Char} (blank : ∀ c ∈ gap, isSeparator c = true) :
    (between vocabulary before (gap ++ rest)).drain =
      (between vocabulary (before ++ gap) rest).drain := drain_congr (next_gap blank)

theorem drain_end (before : List Char) :
    (between vocabulary before []).drain =
      (.ok [], { between vocabulary before [] with finished := true }) :=
  drain_of_end (next_of_end rfl (nextToken_end before))

theorem drain_error {run after : List Char} {cause : LexicalCause}
    (start : StopsAt isSeparator (run ++ after)) (piece : Piece vocabulary run after (.error cause))
    (before : List Char) :
    (between vocabulary before (run ++ after)).drain =
      (.error ⟨cause, byteLength before, lineAfter before⟩,
        { between vocabulary (before ++ run) after with finished := true }) :=
  drain_of_error (next_of_error rfl (nextToken_piece start piece before))

theorem drain_piece {run after lexeme : List Char} {kind : Kind}
    (start : StopsAt isSeparator (run ++ after))
    (piece : Piece vocabulary run after (.token kind lexeme)) (before : List Char) :
    (between vocabulary before (run ++ after)).drain =
      preceded (Token.kept ⟨kind, String.ofList lexeme, lineAfter before⟩)
        (between vocabulary (before ++ run) after).drain := by
  have step := next_of_token rfl (nextToken_piece start piece before)
  rw [Token.kept]
  split
  case isTrue ignored =>
    rw [if_pos ignored] at step
    rw [drain_congr step, preceded_nil]
  case isFalse significant =>
    rw [if_neg significant] at step
    exact drain_of_token step

/-- What is read of a text goes before what scanning the rest gives. -/
theorem Reads.drain {before text rest : List Char} {tokens : List Token}
    (reads : Reads vocabulary before text rest tokens) :
    (between vocabulary before (text ++ rest)).drain =
      preceded tokens (between vocabulary (before ++ text) rest).drain := by
  induction reads with
  | gap blank => rw [preceded_nil, drain_gap blank]
  | @piece before gap run text rest lexeme kind tokens blank start piece more ih =>
    rw [List.append_assoc, drain_gap blank, List.append_assoc, drain_piece start piece, ih,
      preceded_append]
    simp only [List.append_assoc]

/-- Every text can be read up to its end or up to an error. -/
theorem exists_reads (vocabulary : Vocabulary) (before text : List Char) :
    ∃ left rest tokens, text = left ++ rest ∧ Reads vocabulary before left rest tokens ∧
      (rest = [] ∨ StopsAt isSeparator rest ∧
        ∃ run after cause, rest = run ++ after ∧ Piece vocabulary run after (.error cause)) := by
  obtain ⟨gap, rest, rfl, blank, stops⟩ := exists_run isSeparator text
  cases rest with
  | nil => exact ⟨gap, [], [], rfl, .gap blank, .inl rfl⟩
  | cons c rest =>
    obtain ⟨run, after, finding, split, piece⟩ := Piece.exists_of_cons vocabulary c rest
    rw [split] at stops ⊢
    cases finding with
    | error cause =>
      exact ⟨gap, run ++ after, [], rfl, .gap blank, .inr ⟨stops, run, after, cause, rfl, piece⟩⟩
    | token kind lexeme =>
      have shorter : after.length < (gap ++ c :: rest).length := by
        have nonempty := List.length_pos_iff.2 piece.run_ne_nil_of_token
        rw [split]
        simp only [List.length_append]
        omega
      obtain ⟨left, rest', tokens, rfl, reads, ends⟩ :=
        exists_reads vocabulary (before ++ gap ++ run) after
      exact ⟨gap ++ (run ++ left), rest', _, by simp, .piece blank stops piece reads, ends⟩
termination_by text.length

/-- `left` reads as the tokens, and the piece behind it is an error. -/
structure FailsAt (vocabulary : Vocabulary) (before left run after : List Char)
    (tokens : List Token) (cause : LexicalCause) : Prop where
  reads : Reads vocabulary before left (run ++ after) tokens
  start : StopsAt isSeparator (run ++ after)
  piece : Piece vocabulary run after (.error cause)

theorem FailsAt.drain {before left run after : List Char} {tokens : List Token}
    {cause : LexicalCause} (fails : FailsAt vocabulary before left run after tokens cause) :
    (between vocabulary before (left ++ (run ++ after))).drain =
      (.error ⟨cause, byteLength (before ++ left), lineAfter (before ++ left)⟩,
        { between vocabulary (before ++ left ++ run) after with finished := true }) := by
  rw [fails.reads.drain, drain_error fails.start fails.piece]
  rfl

theorem Reads.drain_end {before text : List Char} {tokens : List Token}
    (reads : Reads vocabulary before text [] tokens) :
    (between vocabulary before text).drain =
      (.ok tokens, { between vocabulary (before ++ text) [] with finished := true }) := by
  have drained := reads.drain
  rw [List.append_nil, Scanner.drain_end] at drained
  simpa [preceded, Except.map] using drained

/-- Scanning succeeds exactly with the tokens of a reading of the whole text. -/
theorem scan_eq_ok_iff_reads {before text : List Char} {tokens : List Token} :
    (between vocabulary before text).scan = .ok tokens ↔
      Reads vocabulary before text [] tokens := by
  refine ⟨fun scanned => ?_, fun reads => congrArg Prod.fst reads.drain_end⟩
  obtain ⟨left, rest, read, rfl, reads, rfl | ⟨start, run, after, cause, rfl, piece⟩⟩ :=
    exists_reads vocabulary before text
  · rw [List.append_nil, scan, reads.drain_end] at *
    obtain rfl : read = tokens := Except.ok.inj scanned
    exact reads
  · rw [scan, FailsAt.drain ⟨reads, start, piece⟩] at scanned
    cases scanned

theorem scan_eq_error_iff_failsAt {before text : List Char} {error : LexicalError} :
    (between vocabulary before text).scan = .error error ↔
      ∃ left run after tokens, text = left ++ (run ++ after) ∧
        FailsAt vocabulary before left run after tokens error.cause ∧
        error.offset = byteLength (before ++ left) ∧ error.line = lineAfter (before ++ left) := by
  constructor
  · intro scanned
    obtain ⟨left, rest, read, rfl, reads, rfl | ⟨start, run, after, cause, rfl, piece⟩⟩ :=
      exists_reads vocabulary before text
    · rw [List.append_nil, scan, reads.drain_end] at scanned
      cases scanned
    · rw [scan, FailsAt.drain ⟨reads, start, piece⟩] at scanned
      obtain rfl := Except.error.inj scanned
      exact ⟨left, run, after, read, rfl, ⟨reads, start, piece⟩, rfl, rfl⟩
  · rintro ⟨left, run, after, tokens, rfl, fails, offset, line⟩
    rw [scan, fails.drain, ← offset, ← line]

end Scanner

theorem scan_eq_between (source : String) :
    scan source = (Scanner.between .standard [] source.toList).scan := by
  rw [scan, Scanner.ofSource, Scanner.withVocabulary_eq_between]

end ScriptLex
