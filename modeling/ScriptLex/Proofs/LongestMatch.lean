import ScriptLex.Proofs.Acceptance
import ScriptLex.Proofs.Steps

/-! Every token takes the longest text that any token could take.

The rules are tried in a fixed order and look one character ahead; none compares how far the others
would reach. Still no lexeme and no comment begins where a token does and goes on behind its end. -/

set_option autoImplicit false

namespace ScriptLex

open ScriptLex.Text ScriptLex.Scanner

namespace Grammar

/-- The texts that tokens of each kind are read from, with what the token keeps of them: lexemes,
and line comments for the ignored kind. -/
inductive Stretch : List Char → Kind → List Char → Prop where
  | lexeme {run text : List Char} {kind : Kind} (lexeme : Lexeme run kind text) :
      Stretch run kind text
  | comment {body : List Char} (within : ∀ c ∈ body, c ≠ '\n') :
      Stretch ('/' :: '/' :: body ++ ['\n']) .ignored []
  | lastComment {body : List Char} (within : ∀ c ∈ body, c ≠ '\n') :
      Stretch ('/' :: '/' :: body) .ignored []

/-- No stretch begins with `run` and goes on into `after`. -/
def Longest (run after : List Char) : Prop :=
  ∀ longer : List Char, longer <+: run ++ after → run.length < longer.length →
    ∀ (kind : Kind) (text : List Char), ¬ Stretch longer kind text

/-- It is enough to look at stretches that begin with `run` and the next character. -/
theorem Longest.of_next {run after : List Char}
    (none : ∀ (c : Char) (more : List Char) (kind : Kind) (text : List Char),
      after.head? = some c → ¬ Stretch (run ++ c :: more) kind text) : Longest run after := by
  intro longer ⟨rest, whole⟩ further kind text
  rcases List.append_eq_append_iff.1 whole with ⟨front, rfl, -⟩ | ⟨front, rfl, rfl⟩
  · simp only [List.length_append] at further
    omega
  · cases front with
    | nil => simp at further
    | cons c more => exact none c more kind text rfl

/-! ### Behind a lexeme -/

theorem pair_cut {a b c : Char} {run more : List Char} (nonempty : run ≠ [])
    (pair : run ++ c :: more = [a, b]) : run = [a] ∧ c = b := by
  obtain ⟨d, rest, rfl⟩ := List.exists_cons_of_ne_nil nonempty
  cases rest with
  | nil => simp_all
  | cons e rest => simp at pair

/-- A lexeme that begins with a quote has another one. -/
theorem Lexeme.quote_mem {run text : List Char} {kind : Kind}
    (lexeme : Lexeme ('"' :: run) kind text) : '"' ∈ run := by
  generalize quoted : '"' :: run = whole at lexeme
  cases lexeme with
  | @symbol c _ listed =>
    obtain ⟨rfl, -⟩ := List.cons.inj quoted
    exact absurd rfl (Vocabulary.symbol?_standard_class
      (Vocabulary.symbol?_standard.2 listed)).2.2.2.2.2.2
  | string within =>
    rw [(List.cons.inj quoted).2]
    simp
  | number nonempty digits =>
    exact absurd (digits '"' (quoted ▸ List.mem_cons_self)) (by decide)
  | reserved listed =>
    have letters := (Vocabulary.word?_standard_letters (Vocabulary.word?_standard.2 listed)).2.1
    exact absurd (letters '"' (quoted ▸ List.mem_cons_self)) (by decide)
  | identifier nonempty letters =>
    exact absurd (letters '"' (quoted ▸ List.mem_cons_self)) (by decide)
  | _ => cases quoted

/-- What is apart from the text behind it is not the front of a comment there. -/
theorem Apart.no_comment {run after body more : List Char} {c : Char} (apart : Apart run after)
    (solid : Solid (run ++ after)) (nonempty : run ≠ []) (next : after.head? = some c)
    (comment : run ++ c :: more = '/' :: '/' :: body) : False := by
  obtain ⟨after, rfl⟩ := List.head?_eq_some_iff.1 next
  have starts : ['/', '/'] <+: run ++ c :: after := by
    obtain ⟨d, rest, rfl⟩ := List.exists_cons_of_ne_nil nonempty
    cases rest <;> simp_all
  exact solid.noComment starts

theorem Lexeme.longest {run after text : List Char} {kind : Kind} (lexeme : Lexeme run kind text)
    (apart : Apart run after) : Longest run after := by
  have nonempty : run ≠ [] := (lexeme.piece apart).run_ne_nil_of_token
  have solid := lexeme.solid apart
  apply Longest.of_next
  intro c more kind' text' next stretch
  have single (d : Char) : run ++ c :: more ≠ [d] := by
    obtain ⟨e, rest, rfl⟩ := List.exists_cons_of_ne_nil nonempty
    simp
  have noPair {d : Char} (sign : [d] ∈ [['<'], ['>'], ['='], ['!']]) :
      run ++ c :: more ≠ [d, '='] := by
    intro pair
    obtain ⟨rfl, rfl⟩ := pair_cut nonempty pair
    exact apart.equals sign next
  generalize whole : run ++ c :: more = longer at stretch
  cases stretch with
  | comment within => exact apart.no_comment solid nonempty next whole
  | lastComment within => exact apart.no_comment solid nonempty next whole
  | lexeme lexeme' =>
    cases lexeme' with
    | symbol | lessThan | greaterThan | divide => exact single _ whole
    | lessEqual | greaterEqual | equivalent | notEqual => exact noPair (by simp) whole
    | string within =>
      -- The quote that closes the shorter string would stand inside the longer one.
      obtain ⟨d, rest, rfl⟩ := List.exists_cons_of_ne_nil nonempty
      obtain rfl : d = '"' := (List.cons.inj whole).1
      have same : rest ++ c :: more = text' ++ ['"'] := (List.cons.inj whole).2
      have inside : rest ++ (c :: more).dropLast = text' := by
        rw [← List.dropLast_append_of_ne_nil (List.cons_ne_nil c more), same,
          List.dropLast_concat]
      have quote : '"' ∈ text' := inside ▸ List.mem_append_left _ lexeme.quote_mem
      exact (within '"' quote).1 rfl
    | number _ digits =>
      subst whole
      have inside := apart.digits (fun d member => digits d (by simp [member])) c next
      have here := digits c (by simp)
      simp [inside] at here
    | reserved listed =>
      subst whole
      have letters := (Vocabulary.word?_standard_letters (Vocabulary.word?_standard.2 listed)).2.1
      have inside := apart.letters (fun d member => letters d (by simp [member])) c next
      simp [letters c (by simp)] at inside
    | identifier _ letters =>
      subst whole
      have inside := apart.letters (fun d member => letters d (by simp [member])) c next
      simp [letters c (by simp)] at inside

/-! ### Behind a comment -/

theorem Apart.at_end (run : List Char) : Apart run [] where
  letters := by simp
  digits := by simp
  equals := by simp
  slash := by simp

theorem comment_longest {body : List Char} (within : ∀ c ∈ body, c ≠ '\n') (after : List Char) :
    Longest ('/' :: '/' :: body ++ ['\n']) after := by
  apply Longest.of_next
  intro c more kind text next stretch
  generalize whole : '/' :: '/' :: body ++ ['\n'] ++ c :: more = longer at stretch
  cases stretch with
  | lexeme lexeme =>
    subst whole
    exact (lexeme.solid (.at_end _)).noComment ⟨body ++ '\n' :: c :: more, by simp⟩
  | comment within' =>
    obtain ⟨-, rest⟩ := line_unique within within' (by simpa using whole)
    cases rest
  | @lastComment body' within' =>
    have same : body ++ '\n' :: c :: more = body' := by simpa using whole
    exact within' '\n' (same ▸ by simp) rfl

theorem longest_at_end (run : List Char) : Longest run [] :=
  Longest.of_next fun c more kind text next => by cases next

end Grammar

namespace Scanner

open ScriptLex.Grammar

/-- A piece of the standard vocabulary is the longest stretch where it begins. -/
theorem Piece.longest {run after text : List Char} {kind : Kind}
    (piece : Piece .standard run after (.token kind text))
    (start : StopsAt isSeparator (run ++ after)) :
    Stretch run kind text ∧ Longest run after := by
  rcases gap_or_lexeme piece with ⟨rfl, gap⟩ | ⟨-, lexeme, apart⟩
  · cases gap with
    | nil => exact absurd rfl piece.run_ne_nil_of_token
    | @separator c gap _ blank =>
      have solid : isSeparator c = false := by simpa using start
      rw [isSeparator_iff.2 blank] at solid
      cases solid
    | @comment body gap _ within more =>
      -- The grammar lets a gap go on behind its newline, but the piece ends there.
      have comment : Piece .standard ('/' :: '/' :: body ++ ['\n']) (gap ++ after)
          (.token .ignored []) := .comment rfl within
      obtain ⟨same, -, found⟩ := piece.unique comment (by simp)
      obtain ⟨-, rfl⟩ := Finding.token.inj found
      rw [same]
      exact ⟨.comment within, comment_longest within after⟩
    | lastComment within =>
      obtain ⟨-, -, found⟩ := piece.unique (.lastComment rfl within) rfl
      obtain ⟨-, rfl⟩ := Finding.token.inj found
      exact ⟨.lastComment within, longest_at_end _⟩
  · exact ⟨.lexeme lexeme, lexeme.longest apart⟩

/-- A token that a scanner reads next is a piece behind the separators in front of it. -/
theorem exists_piece_of_nextToken {vocabulary : Vocabulary} {before text : List Char}
    {finished : Bool} {token : Token} {after : Scanner}
    (read : (standing vocabulary before text finished).nextToken = (some (.ok token), after)) :
    ∃ gap run behind, text = gap ++ (run ++ behind) ∧ (∀ c ∈ gap, isSeparator c = true) ∧
      StopsAt isSeparator (run ++ behind) ∧
      Piece vocabulary run behind (.token token.kind token.lexeme.toList) ∧
      after = standing vocabulary (before ++ gap ++ run) behind finished := by
  obtain ⟨gap, rest, rfl, blank, stops⟩ := exists_run isSeparator text
  cases rest with
  | nil =>
    rw [List.append_nil, nextToken_standing_nil before blank finished] at read
    cases read
  | cons c rest =>
    obtain ⟨run, behind, finding, split, piece⟩ := Piece.exists_of_cons vocabulary c rest
    rw [split] at stops read ⊢
    rw [nextToken_standing_piece blank stops piece] at read
    cases finding with
    | token kind lexeme =>
      obtain ⟨rfl, rfl⟩ : ⟨kind, String.ofList lexeme, lineAfter (before ++ gap)⟩ = token ∧
          standing vocabulary (before ++ gap ++ run) behind finished = after := by
        simpa [Finding.result] using read
      exact ⟨gap, run, behind, rfl, blank, stops, by simpa using piece, rfl⟩
    | error cause => simp [Finding.result] at read

end Scanner

/-- Whatever steps a scanner has taken, a token that it reads next is read from a stretch of its
kind that begins behind the separators, and no longer stretch of any kind begins there. -/
theorem nextToken_longest (source : String) (steps : List Step) (token : Token) (after : Scanner)
    (read : ((ofSource source).after steps).nextToken = (some (.ok token), after)) :
    ∃ before run behind,
      splitAt? source.toList ((ofSource source).after steps).skipSeparators.cursor.position =
        some (before, run ++ behind) ∧
      splitAt? source.toList after.cursor.position = some (before ++ run, behind) ∧
      Grammar.Stretch run token.kind token.lexeme.toList ∧ Grammar.Longest run behind := by
  obtain ⟨passed, rest, finished, whole, reached⟩ := exists_standing .standard source steps
  rw [← ofSource] at reached
  rw [reached] at read ⊢
  obtain ⟨gap, run, behind, rfl, blank, start, piece, rfl⟩ := exists_piece_of_nextToken read
  have skip := Cursor.between_skipSeparators passed blank start
  refine ⟨passed ++ gap, run, behind, ?start, ?stop, piece.longest start⟩
  case start =>
    rw [Scanner.skipSeparators, standing, skip, whole, ← List.append_assoc]
    exact splitAt?_append (passed ++ gap) (run ++ behind)
  case stop =>
    rw [standing_position, whole]
    simpa using splitAt?_append (passed ++ gap ++ run) behind

-- The rest of this source fails later on, and `<=` might have been read as two tokens.
theorem nextToken_longest_comparison :
    ((ofSource "a <=1.5.2").after [.next]).nextToken =
        (some (.ok ⟨.lessEqual, "<=", 1⟩), (ofSource "a <=1.5.2").after [.next, .nextToken]) ∧
      ∃ before run behind,
        splitAt? "a <=1.5.2".toList
          ((ofSource "a <=1.5.2").after [.next]).skipSeparators.cursor.position =
            some (before, run ++ behind) ∧
        splitAt? "a <=1.5.2".toList
          ((ofSource "a <=1.5.2").after [.next, .nextToken]).cursor.position =
            some (before ++ run, behind) ∧
        Grammar.Stretch run .lessEqual "<=".toList ∧ Grammar.Longest run behind := by
  have read : ((ofSource "a <=1.5.2").after [.next]).nextToken =
      (some (.ok ⟨.lessEqual, "<=", 1⟩), (ofSource "a <=1.5.2").after [.next, .nextToken]) := by
    decide +kernel
  exact ⟨read, nextToken_longest _ _ _ _ read⟩

end ScriptLex
