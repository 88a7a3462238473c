import ScriptLex.Proofs.LineJoin
import ScriptLex.Proofs.Steps

/-! Scanning taken up where another scanner stands.

Of what a scanner has passed only two numbers count for what it reports later on, its bytes and its
lines. So a new scanner for the rest of the source reports the same, that many bytes and lines
further up, also behind errors. -/

set_option autoImplicit false

namespace ScriptLex.Scanner

open ScriptLex.Text

variable {vocabulary : Vocabulary} {base before text : List Char}

/-- The same report some bytes further on and some lines further down. -/
inductive ReportBelow (bytes lines : Nat) :
    Option (Except LexicalError Token) → Option (Except LexicalError Token) → Prop where
  | silent : ReportBelow bytes lines none none
  | token {token below : Token} (moved : Token.Below lines token below) :
      ReportBelow bytes lines (some (.ok token)) (some (.ok below))
  | error {error below : LexicalError} (moved : LexicalError.Below bytes lines error below) :
      ReportBelow bytes lines (some (.error error)) (some (.error below))

theorem Finding.reportBelow (finding : Finding)
    (few : newlines (base ++ before) < UInt32.size - 1) :
    ReportBelow (byteLength base) (newlines base) (some (finding.result before))
      (some (finding.result (base ++ before))) := by
  have lines := toNat_lineAfter_append few
  cases finding with
  | token kind lexeme => exact .token ⟨rfl, rfl, lines⟩
  | error cause =>
    refine .error ⟨rfl, ?_, lines⟩
    rw [byteLength_append, Nat.add_comm]

/-- In front of the same text two scanners report alike and move alike, whatever they have passed
before. -/
theorem Step.run_below {step : Step} (raw : step ≠ .next) (vocabulary : Vocabulary)
    (finished finished' : Bool) (few : newlines (base ++ (before ++ text)) < UInt32.size - 1) :
    ∃ passed behind report below, text = passed ++ behind ∧
      ReportBelow (byteLength base) (newlines base) report below ∧
      step.run (standing vocabulary before text finished) =
        (report, standing vocabulary (before ++ passed) behind finished) ∧
      step.run (standing vocabulary (base ++ before) text finished') =
        (below, standing vocabulary (base ++ (before ++ passed)) behind finished') := by
  obtain ⟨gap, rest, rfl, blank, stops⟩ := exists_run isSeparator text
  cases step with
  | next => exact absurd rfl raw
  | skipSeparators =>
    refine ⟨gap, rest, none, none, rfl, .silent, ?_, ?_⟩
    · rw [run, skipSeparators_standing before blank stops]
    · rw [run, skipSeparators_standing (base ++ before) blank stops, List.append_assoc]
  | nextToken =>
    cases rest with
    | nil =>
      refine ⟨gap, [], none, none, rfl, .silent, ?_, ?_⟩
      · rw [run, List.append_nil, nextToken_standing_nil before blank]
      · rw [run, List.append_nil, nextToken_standing_nil (base ++ before) blank,
          List.append_assoc]
    | cons c rest =>
      -- What is found does not depend on what is in front of it, only how it is reported.
      obtain ⟨run, behind, finding, split, piece⟩ := Piece.exists_of_cons vocabulary c rest
      rw [split] at stops few ⊢
      have few' : newlines (base ++ (before ++ gap)) < UInt32.size - 1 := by
        simp only [newlines_append] at few ⊢
        omega
      refine ⟨gap ++ run, behind, _, _, by simp, finding.reportBelow few', ?_, ?_⟩
      · rw [Step.run, nextToken_standing_piece blank stops piece, List.append_assoc]
      · rw [Step.run, nextToken_standing_piece blank stops piece]
        simp only [List.append_assoc]

theorem perform_below {steps : List Step} (raw : .next ∉ steps) (vocabulary : Vocabulary)
    (finished finished' : Bool) (few : newlines (base ++ (before ++ text)) < UInt32.size - 1) :
    List.Forall₂ (ReportBelow (byteLength base) (newlines base))
      (perform steps (standing vocabulary before text finished)).1
      (perform steps (standing vocabulary (base ++ before) text finished')).1 := by
  induction steps generalizing before text with
  | nil => exact .nil
  | cons step steps ih =>
    obtain ⟨other, raw⟩ := List.ne_and_not_mem_of_not_mem_cons raw
    obtain ⟨passed, behind, report, below, rfl, moved, here, there⟩ :=
      Step.run_below other.symm vocabulary finished finished' few
    rw [perform, perform, here, there]
    exact .cons moved (ih raw (by simpa using few))

/-- Whatever steps a scanner has taken, what it reports from then on, errors included, is what a new
scanner for the rest of the source reports, with the bytes and the lines passed added. -/
theorem scanning_resumes (vocabulary : Vocabulary) (source : String)
    (few : newlines source.toList < UInt32.size - 1) (steps further : List Step)
    (raw : .next ∉ further) :
    ∃ before rest,
      splitAt? source.toList ((withVocabulary vocabulary source).after steps).cursor.position =
        some (before, rest) ∧
      List.Forall₂
        (ReportBelow ((withVocabulary vocabulary source).after steps).cursor.position
          (((withVocabulary vocabulary source).after steps).cursor.line.toNat - 1))
        (perform further (withVocabulary vocabulary (String.ofList rest))).1
        (perform further ((withVocabulary vocabulary source).after steps)).1 := by
  obtain ⟨passed, behind, finished, whole, reached⟩ := exists_standing vocabulary source steps
  rw [whole] at few
  have fewPassed : newlines passed < UInt32.size - 1 := by
    rw [newlines_append] at few
    omega
  have lines : (lineAfter passed).toNat - 1 = newlines passed := by
    rw [toNat_lineAfter fewPassed, Nat.add_sub_cancel]
  have below := @perform_below passed [] behind further raw vocabulary false finished
    (by simpa using few)
  refine ⟨passed, behind, ?_, ?_⟩
  · rw [reached, whole]
    exact splitAt?_append passed behind
  · rw [reached, withVocabulary_eq_standing, String.toList_ofList, standing_position,
      standing_line, lines]
    simpa using below

/-- A scanner that has reported two errors, the second in the middle of digits. -/
def brokenScanner : Scanner :=
  (withVocabulary .standard "\"é\n1.2.3 // c\nx @").after [.nextToken, .nextToken]

theorem scanning_resumes_behind_errors :
    newlines "\"é\n1.2.3 // c\nx @".toList < UInt32.size - 1 ∧
      Step.next ∉ List.replicate 4 Step.nextToken ∧
      splitAt? "\"é\n1.2.3 // c\nx @".toList brokenScanner.cursor.position =
        some ("\"é\n1.2.".toList, "3 // c\nx @".toList) ∧
      (perform (List.replicate 4 .nextToken) brokenScanner).1 =
        [some (.ok ⟨.number, "3", 2⟩), some (.ok ⟨.ignored, "", 2⟩),
          some (.ok ⟨.identifier, "x", 3⟩), some (.error ⟨.unexpectedCharacter '@', 17, 3⟩)] ∧
      List.Forall₂ (ReportBelow 8 1)
        (perform (List.replicate 4 .nextToken) (withVocabulary .standard "3 // c\nx @")).1
        (perform (List.replicate 4 .nextToken) brokenScanner).1 := by
  have few : newlines "\"é\n1.2.3 // c\nx @".toList < UInt32.size - 1 := by decide
  have raw : Step.next ∉ List.replicate 4 Step.nextToken := by decide
  have place : brokenScanner.cursor.position = 8 ∧ brokenScanner.cursor.line.toNat - 1 = 1 := by
    decide +kernel
  have split : splitAt? "\"é\n1.2.3 // c\nx @".toList brokenScanner.cursor.position =
      some ("\"é\n1.2.".toList, "3 // c\nx @".toList) := by decide +kernel
  obtain ⟨before, rest, split', resumed⟩ :=
    scanning_resumes .standard _ few [.nextToken, .nextToken] _ raw
  obtain ⟨-, rfl⟩ := Prod.mk.inj (Option.some.inj (split.symm.trans split'))
  rw [← brokenScanner, place.1, place.2, String.ofList_toList] at resumed
  exact ⟨few, raw, split, by decide +kernel, resumed⟩

end ScriptLex.Scanner
