import ScriptLex.Proofs.Grammar
import ScriptLex.Proofs.Steps

/-! Every part of a source is taken by one call of `nextToken`.

What the calls take one after the other, with the separators in front of it, makes up the source up
to the position of the scanner. That holds with any vocabulary, and errors are no exception. -/

set_option autoImplicit false

namespace ScriptLex.Scanner

open ScriptLex.Text ScriptLex.Grammar

variable {vocabulary : Vocabulary}

/-- Consecutive calls of `nextToken` behind `before`. Each part is the separators that a call passes
and the text that it takes. -/
inductive Calls (vocabulary : Vocabulary) (behind : List Char) :
    List Char → List Part → List (Option (Except LexicalError Token)) → Prop where
  | nil {before : List Char} : Calls vocabulary behind before [] []
  | cons {before : List Char} {part : Part} {parts : List Part}
      {result : Option (Except LexicalError Token)}
      {results : List (Option (Except LexicalError Token))}
      (call : Call vocabulary before part.gap part.run (layout parts behind) result)
      (more : Calls vocabulary behind (before ++ part.gap ++ part.run) parts results) :
      Calls vocabulary behind before (part :: parts) (result :: results)

theorem layout_append (parts : List Part) (behind : List Char) :
    layout parts behind = layout parts [] ++ behind := by simp [layout]

/-- Nothing is left behind the call that reports the end of the text. -/
theorem Calls.behind_eq_nil {behind before : List Char} {parts : List Part}
    {results : List (Option (Except LexicalError Token))}
    (calls : Calls vocabulary behind before parts results) (ends : none ∈ results) :
    behind = [] := by
  induction calls with
  | nil => simp at ends
  | @cons before part parts result results call more ih =>
    rcases List.mem_cons.1 ends with rfl | later
    · have rest := call.of_none.2
      rw [layout_append] at rest
      exact (List.append_eq_nil_iff.1 rest).2
    · exact ih later

theorem exists_calls (n : Nat) (vocabulary : Vocabulary) (before text : List Char) (finished : Bool) :
    ∃ parts behind, text = layout parts behind ∧
      Calls vocabulary behind before parts
        (perform (List.replicate n .nextToken) (standing vocabulary before text finished)).1 ∧
      (perform (List.replicate n .nextToken) (standing vocabulary before text finished)).2 =
        standing vocabulary (before ++ layout parts []) behind finished := by
  induction n generalizing before text with
  | zero => exact ⟨[], text, by simp [layout], .nil, by simp [perform, layout]⟩
  | succ n ih =>
    obtain ⟨gap, taken, rest, result, rfl, call⟩ := exists_call vocabulary before text
    obtain ⟨parts, behind, rfl, calls, reached⟩ := ih (before ++ gap ++ taken) rest
    have step : Step.nextToken.run
        (standing vocabulary before (gap ++ (taken ++ layout parts behind)) finished) =
          (result, standing vocabulary (before ++ gap ++ taken) (layout parts behind) finished) :=
      call.nextToken finished
    refine ⟨⟨gap, taken⟩ :: parts, behind, by rw [layout_cons], ?_, ?_⟩
    · rw [List.replicate_succ, perform, step]
      exact .cons call calls
    · rw [List.replicate_succ, perform, step]
      simpa [layout_cons] using reached

/-- After any number of calls the source up to the position of the scanner is what the calls have
taken, and all of it once the end has been reported. -/
theorem calls_cover_source (vocabulary : Vocabulary) (source : String) (n : Nat) :
    ∃ parts behind,
      Calls vocabulary behind [] parts
        (perform (List.replicate n .nextToken) (withVocabulary vocabulary source)).1 ∧
      splitAt? source.toList
        (perform (List.replicate n .nextToken) (withVocabulary vocabulary source)).2.cursor.position =
          some (layout parts [], behind) ∧
      (none ∈ (perform (List.replicate n .nextToken) (withVocabulary vocabulary source)).1 →
        layout parts [] = source.toList) := by
  rw [withVocabulary_eq_standing]
  obtain ⟨parts, behind, whole, calls, reached⟩ :=
    exists_calls n vocabulary [] source.toList false
  refine ⟨parts, behind, calls, ?_, fun ends => ?_⟩
  · rw [reached, whole, layout_append]
    exact splitAt?_append (layout parts []) behind
  · rw [whole, calls.behind_eq_nil ends]

end ScriptLex.Scanner
