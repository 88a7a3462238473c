import ScriptLex.Proofs.Grammar

/-! Scanning accepts exactly the texts that the grammar divides, each in one way. -/

set_option autoImplicit false

namespace ScriptLex.Grammar

open ScriptLex.Text ScriptLex.Scanner

/-- A gap of the grammar reads as nothing. -/
theorem Gap.reads {before gap text rest : List Char} {tokens : List Token}
    (division : Gap gap (text ++ rest))
    (reads : Reads .standard (before ++ gap) text rest tokens) :
    Reads .standard before (gap ++ text) rest tokens := by
  generalize whole : text ++ rest = after at division
  induction division generalizing before with
  | nil => simpa using reads
  | @separator c gap _ blank more ih =>
    have blank' : ∀ d ∈ [c], isSeparator d = true := by simpa using isSeparator_iff.2 blank
    have shifted : Reads .standard (before ++ [c] ++ gap) text rest tokens := by simpa using reads
    have joined := Reads.of_gap blank' (ih shifted whole)
    exact joined
  | @comment body gap _ within more ih =>
    have piece : Piece .standard ('/' :: '/' :: body ++ ['\n']) (gap ++ text ++ rest)
        (.token .ignored []) := .comment rfl within
    have reads' := Reads.of_ignored (stopsAt_cons.2 rfl) piece (ih (by simpa using reads) whole)
    simpa using reads'
  | @lastComment body within =>
    obtain ⟨rfl, rfl⟩ := List.append_eq_nil_iff.1 whole
    exact Reads.of_ignored (stopsAt_cons.2 rfl) (.lastComment rfl within) reads

theorem Spells.reads {before last : List Char} {parts : List Part} {tokens : List Token}
    (spells : Spells before parts last tokens)
    (few : newlines (before ++ layout parts last) < UInt32.size - 1) :
    Reads .standard before (layout parts last) [] tokens := by
  induction spells with
  | @nil before last gap =>
    have nothing : Reads .standard (before ++ last) [] [] [] := .gap (by simp)
    have reads := Gap.reads (by simpa using gap) nothing
    simpa [layout] using reads
  | @cons before last part parts token tokens gap lexeme apart line more ih =>
    rw [layout_cons] at few ⊢
    have solid := lexeme.solid apart
    have line' : token.line = lineAfter (before ++ part.gap) := by
      refine (toNat_eq_iff_eq_lineAfter ?_).1 line
      simp only [newlines_append] at few ⊢
      omega
    have more' := ih (by simpa using few)
    have reads := Reads.of_token (by simpa using solid.noSeparator)
      (by simpa using lexeme.piece apart) lexeme.kind_ne_ignored more'
    rw [String.ofList_toList, ← line'] at reads
    exact Gap.reads (by simpa using gap) reads

/-- A reading of the whole text divides it; a gap in front of it may join its first gap. -/
theorem Reads.spells {before text : List Char} {tokens : List Token}
    (reads : Reads .standard before text [] tokens) (front gap : List Char)
    (split : before = front ++ gap) (division : Gap gap text)
    (few : newlines (before ++ text) < UInt32.size - 1) :
    ∃ parts last, gap ++ text = layout parts last ∧ Spells front parts last tokens := by
  generalize ending : ([] : List Char) = rest at reads
  induction reads generalizing front gap with
  | @gap before blanks rest blank =>
    subst ending
    refine ⟨[], gap ++ blanks, by simp [layout], .nil (Gap.append ?_ ?_)⟩
    · simpa using division
    · exact Gap.of_separators blank []
  | @piece before blanks run text rest lexeme kind tokens blank start piece more ih =>
    subst ending split
    rw [List.append_nil] at piece
    have inner : Gap (gap ++ blanks) (run ++ text) :=
      Gap.append division (Gap.of_separators blank _)
    rcases gap_or_lexeme piece with ⟨rfl, comment⟩ | ⟨significant, spelled, apart⟩
    · -- A comment goes on with the gap that is under way.
      have few' : newlines (front ++ gap ++ blanks ++ run ++ text) < UInt32.size - 1 := by
        simpa using few
      obtain ⟨parts, last, same, spells⟩ :=
        ih front (gap ++ blanks ++ run) (by simp) (Gap.append inner comment) few' rfl
      exact ⟨parts, last, by simpa using same, by simpa [Token.kept, Token.isIgnored] using spells⟩
    · -- A lexeme ends it, and nothing of the next gap has been read.
      have few' : newlines (front ++ gap ++ blanks ++ run ++ text) < UInt32.size - 1 := by
        simpa using few
      obtain ⟨parts, last, same, spells⟩ :=
        ih (front ++ gap ++ blanks ++ run) [] (by simp) .nil few' rfl
      rw [List.nil_append] at same
      subst same
      have line : (lineAfter (front ++ (gap ++ blanks))).toNat =
          1 + newlines (front ++ (gap ++ blanks)) := by
        refine (toNat_eq_iff_eq_lineAfter ?_).2 rfl
        simp only [newlines_append] at few ⊢
        omega
      refine ⟨⟨gap ++ blanks, run⟩ :: parts, last, by simp [layout_cons], ?_⟩
      have kept := @Spells.cons front last ⟨gap ++ blanks, run⟩ parts
        ⟨kind, String.ofList lexeme, lineAfter (front ++ (gap ++ blanks))⟩ tokens inner
        (by simpa using spelled) apart line (by simpa using spells)
      simpa [Token.kept, Token.isIgnored, significant] using kept

/-! ### There is one division at most -/

theorem Gap.eq_nil_of_solid {gap after : List Char} (division : Gap gap after)
    (solid : Solid (gap ++ after)) : gap = [] := by
  cases division with
  | nil => rfl
  | separator blank more =>
    have other := stopsAt_cons.1 solid.noSeparator
    simp [isSeparator_iff.2 blank] at other
  | comment within more => exact absurd (by simp) solid.noComment
  | lastComment within => exact absurd (by simp) solid.noComment

theorem line_unique {body body' after after' : List Char} (within : ∀ c ∈ body, c ≠ '\n')
    (within' : ∀ c ∈ body', c ≠ '\n') (same : body ++ '\n' :: after = body' ++ '\n' :: after') :
    body = body' ∧ after = after' := by
  have line : ∀ c ∈ body, (c != '\n') = true := fun c member => by simpa using within c member
  have line' : ∀ c ∈ body', (c != '\n') = true := fun c member => by simpa using within' c member
  obtain ⟨rfl, rest⟩ := run_unique line (stopsAt_cons.2 rfl) line' (stopsAt_cons.2 rfl) same
  exact ⟨rfl, (List.cons.inj rest).2⟩

/-- Where a gap ends in front of something solid, it ends in one place. -/
theorem Gap.unique {gap gap' after after' : List Char} (division : Gap gap after)
    (division' : Gap gap' after') (solid : Solid after) (solid' : Solid after')
    (same : gap ++ after = gap' ++ after') : gap = gap' := by
  induction division generalizing gap' with
  | nil =>
    rw [List.nil_append] at same
    exact (division'.eq_nil_of_solid (same ▸ solid)).symm
  | @separator c gap after blank more ih =>
    cases division' with
    | nil => exact (Gap.separator blank more).eq_nil_of_solid (same ▸ solid')
    | separator blank' more' =>
      obtain ⟨rfl, rest⟩ := List.cons.inj same
      rw [ih more' solid rest]
    | comment within more' =>
      obtain ⟨rfl, -⟩ := List.cons.inj same
      simp at blank
    | lastComment within =>
      obtain ⟨rfl, -⟩ := List.cons.inj same
      simp at blank
  | @comment body gap after within more ih =>
    cases division' with
    | nil => exact (Gap.comment within more).eq_nil_of_solid (same ▸ solid')
    | separator blank more' =>
      obtain ⟨rfl, -⟩ := List.cons.inj same
      simp at blank
    | comment within' more' =>
      obtain ⟨rfl, rest⟩ := line_unique within within' (by simpa using same)
      rw [ih more' solid rest]
    | @lastComment body' lineFree =>
      have ends : body ++ '\n' :: (gap ++ after) = body' := by simpa using same
      exact absurd rfl (lineFree '\n' (ends ▸ by simp))
  | @lastComment body within =>
    cases division' with
    | nil => exact (Gap.lastComment within).eq_nil_of_solid (same ▸ solid')
    | separator blank more' =>
      obtain ⟨rfl, -⟩ := List.cons.inj same
      simp at blank
    | @comment body' gap' _ within' more' =>
      have ends : body = body' ++ '\n' :: (gap' ++ after') := by simpa using same
      exact absurd rfl (within '\n' (ends ▸ by simp))
    | lastComment within' => simpa using same

/-- A text that is all gap contains no lexeme. -/
theorem Gap.ne_lexeme {last gap run text after : List Char} {kind : Kind} (division : Gap last [])
    (division' : Gap gap (run ++ after)) (lexeme : Lexeme run kind text) (apart : Apart run after) :
    last ≠ gap ++ (run ++ after) := by
  intro same
  rw [← List.append_nil last] at same
  have gaps := division.unique division' solid_nil (lexeme.solid apart) same
  subst gaps
  have none : [] = run ++ after := List.append_cancel_left same
  exact (lexeme.piece apart).text_ne_nil none.symm

theorem Spells.unique {before before' last last' : List Char} {parts parts' : List Part}
    {tokens tokens' : List Token} (spells : Spells before parts last tokens)
    (spells' : Spells before' parts' last' tokens')
    (same : layout parts last = layout parts' last') : parts = parts' ∧ last = last' := by
  induction spells generalizing before' parts' tokens' with
  | @nil before last gap =>
    cases spells' with
    | nil gap' => exact ⟨rfl, same⟩
    | cons gap' lexeme' apart' =>
      rw [layout_cons] at same
      exact absurd same (gap.ne_lexeme gap' lexeme' apart')
  | @cons before last part parts token tokens gap lexeme apart line more ih =>
    cases spells' with
    | nil gap' =>
      rw [layout_cons] at same
      exact absurd same.symm (gap'.ne_lexeme gap lexeme apart)
    | @cons _ _ part' parts' token' tokens' gap' lexeme' apart' line' more' =>
      obtain ⟨gap₁, run₁⟩ := part
      obtain ⟨gap₂, run₂⟩ := part'
      rw [layout_cons, layout_cons] at same
      obtain rfl : gap₁ = gap₂ :=
        gap.unique gap' (lexeme.solid apart) (lexeme'.solid apart') same
      obtain ⟨rfl, rest, -⟩ := (lexeme.piece apart).unique (lexeme'.piece apart')
        (List.append_cancel_left same)
      obtain ⟨rfl, rfl⟩ := ih more' rest
      exact ⟨rfl, rfl⟩

/-- Scanning succeeds exactly where the grammar divides the text, with the tokens that the division
spells, and no text has two divisions. -/
theorem scan_eq_ok_iff_spells (source : String) (tokens : List Token)
    (few : newlines source.toList < UInt32.size - 1) :
    (scan source = .ok tokens ↔
      ∃ parts last, source.toList = layout parts last ∧ Spells [] parts last tokens) ∧
    ∀ parts last parts' last' tokens', source.toList = layout parts last →
      Spells [] parts last tokens → source.toList = layout parts' last' →
      Spells [] parts' last' tokens' → parts = parts' ∧ last = last' ∧ tokens = tokens' := by
  have complete : ∀ {parts last tokens}, source.toList = layout parts last →
      Spells [] parts last tokens → scan source = .ok tokens := by
    intro parts last tokens same spells
    have reads := spells.reads (by rwa [same] at few)
    rw [scan_eq_between, scan_eq_ok_iff_reads, same]
    exact reads
  refine ⟨⟨fun scanned => ?_, fun ⟨parts, last, same, spells⟩ => complete same spells⟩, ?_⟩
  · rw [scan_eq_between, scan_eq_ok_iff_reads] at scanned
    exact Reads.spells scanned [] [] rfl .nil few
  · intro parts last parts' last' tokens' same spells same' spells'
    obtain ⟨rfl, rfl⟩ := spells.unique spells' (same.symm.trans same')
    have scanned := complete same spells
    rw [complete same' spells'] at scanned
    exact ⟨rfl, rfl, (Except.ok.inj scanned).symm⟩

theorem divides_mixed_lines :
    newlines "if x<=.5//y\n\"s\"".toList < UInt32.size - 1 ∧
      ∃ parts last, "if x<=.5//y\n\"s\"".toList = layout parts last ∧ Spells [] parts last
        [⟨.ifWord, "if", 1⟩, ⟨.identifier, "x", 1⟩, ⟨.lessEqual, "<=", 1⟩, ⟨.number, ".5", 1⟩,
          ⟨.string, "s", 2⟩] :=
  ⟨by decide, (scan_eq_ok_iff_spells _ _ (by decide)).1.1 (by decide +kernel)⟩

end ScriptLex.Grammar
