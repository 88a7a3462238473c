import ScriptLex.Proofs.Diagnosis
import ScriptLex.Proofs.LineEnding

/-! Diagnostics that look alike.

A diagnostic is printed without the bytes of its span, so two that differ in nothing else read the
same. The diagnostics of a lexical error are such a pair if the source has one line ending or the
other: the span of an open string takes in the carriage return, but its snippet does not. -/

set_option autoImplicit false

namespace ScriptLex

open ScriptLex.Diagnostic ScriptLex.Source ScriptLex.Text ScriptLex.Scanner

namespace Diagnostic

/-- Two diagnostics that differ in their messages and in the bytes of their spans at most. -/
structure Alike (diagnostic other : Diagnostic) : Prop where
  level : other.level = diagnostic.level
  code : other.code = diagnostic.code
  notes : other.notes = diagnostic.notes
  helps : other.helps = diagnostic.helps
  line : other.span.line = diagnostic.span.line
  column : other.span.column = diagnostic.span.column
  snippets : other.snippets = diagnostic.snippets

theorem exists_below (parts : List String) :
    ∃ rest, ∀ first, "\n".intercalate (first :: parts) = first ++ rest := by
  cases parts with
  | nil => exact ⟨"", by simp⟩
  | cons second others =>
    refine ⟨"\n" ++ "\n".intercalate (second :: others), fun first => ?_⟩
    rw [String.intercalate_cons_cons, String.append_assoc]

variable {diagnostic other : Diagnostic}

theorem Alike.location_eq (alike : diagnostic.Alike other) (placed : diagnostic.span.line ≠ 0)
    (origin : Option String) : other.location origin = diagnostic.location origin := by
  have somewhere : ∀ {span : Span}, span.line ≠ 0 → span ≠ Span.nowhere := by
    rintro span line rfl
    exact line rfl
  have placed' : other.span.line ≠ 0 := alike.line ▸ placed
  rw [location, location, if_neg (somewhere placed), if_neg (somewhere placed'), alike.line,
    alike.column]

/-- Below their first lines such diagnostics read the same. -/
theorem Alike.exists_render (alike : diagnostic.Alike other) (placed : diagnostic.span.line ≠ 0)
    (origin : Option String) : ∃ rest, diagnostic.render origin = diagnostic.headline ++ rest ∧
      other.render origin = other.headline ++ rest := by
  obtain ⟨rest, below⟩ := exists_below (diagnostic.location origin ++
    diagnostic.snippets.map Snippet.render ++ diagnostic.notes.map (remark .note) ++
      diagnostic.helps.map (remark .help))
  refine ⟨rest, below _, ?_⟩
  rw [render, parts, alike.location_eq placed, alike.snippets, alike.notes, alike.helps]
  exact below _

end Diagnostic

namespace LexicalCause

/-- At the end of a line, an open string takes in the carriage return. Other errors leave it to the
rest of the line. -/
theorem Offends.with_ending {cause : LexicalCause} {text tail behind ending : List Char}
    (offends : cause.Offends text) (leaves : cause.Leaves (tail ++ behind)) (plain : '\r' ∉ text)
    (tailFree : ∀ c ∈ tail, c ≠ '\n') (ends : ending = [] ∨ ending = ['\r']) :
    ∃ text' tail', text ++ (tail ++ ending) = text' ++ tail' ∧ cause.Offends text' ∧
      withoutReturn text' = text ∧
      ∀ behind', (∀ c ∈ behind'.head?, c = '\n') → cause.Leaves (tail' ++ behind') := by
  have same := withoutReturn_plain plain
  cases offends with
  | character foreign => exact ⟨_, _, rfl, .character foreign, same, fun _ _ => trivial⟩
  | number digits digits' => exact ⟨_, _, rfl, .number digits digits', same, fun _ _ => trivial⟩
  | @string body within =>
    obtain rfl := eq_nil_of_leaves leaves tailFree
    have within' : ∀ c ∈ body ++ ending, c ≠ '"' ∧ c ≠ '\n' := by
      intro c member
      rcases List.mem_append.1 member with inside | last
      · exact within c inside
      · exact isStringBody_iff.1 (isStringBody_of_ending ends c last)
    refine ⟨'"' :: (body ++ ending), [], by simp, .string within', ?_, fun behind' closes => ?_⟩
    · exact withoutReturn_ending plain ends
    · cases behind' with
      | nil => exact .inl rfl
      | cons c more => exact .inr (congrArg some (closes c rfl))

end LexicalCause

namespace LexicalError

/-- An error about `text`, with the line on which the text stands taken apart. -/
structure Stands (error : LexicalError) (source : String)
    (closed front text tail behind : List Char) : Prop where
  split : source.toList = closed ++ front ++ (text ++ (tail ++ behind))
  onLine : OnLine closed (front ++ (text ++ tail)) behind
  offset : error.offset = byteLength (closed ++ front)
  line : error.line = lineAfter (closed ++ front)
  offends : error.cause.Offends text
  leaves : error.cause.Leaves (tail ++ behind)

variable {error : LexicalError} {source : String} {closed front text tail behind : List Char}

theorem exists_stands (failed : scan source = .error error) :
    ∃ closed front text tail behind, error.Stands source closed front text tail behind := by
  obtain ⟨before, text, after, -, -, -, split, -, -, offset, line, offends, leaves⟩ :=
    exists_offends failed
  obtain ⟨closed, front, tail, behind, rfl, rfl, onLine⟩ :=
    exists_onLine offends.no_newline before after
  exact ⟨closed, front, text, tail, behind, split, onLine, offset, line, offends, leaves⟩

/-- The diagnostic of an error, with its one snippet. -/
theorem Stands.toDiagnostic_eq (stands : error.Stands source closed front text tail behind)
    (short : byteLength source.toList < UInt32.size - 1) :
    error.toDiagnostic source =
      { level := .error
        message := error.message
        span := ⟨byteLength (closed ++ front), byteLength (closed ++ front) + byteLength text,
          error.line, UInt32.ofNat front.length + 1⟩
        code := some error.code
        notes := error.remarks.filterMap Draft.note?
        helps := error.remarks.filterMap Draft.help?
        snippets := [⟨String.ofList (withoutReturn (front ++ (text ++ tail))), error.line.toNat,
          front.length + 1, front.length + 1 + (withoutReturn text).length,
          some error.label⟩] } := by
  have frontFree : ∀ c ∈ front, c ≠ '\n' := fun c member =>
    stands.onLine.within c (List.mem_append_left _ member)
  have tailFree : ∀ c ∈ tail, c ≠ '\n' := fun c member =>
    stands.onLine.within c (List.mem_append_right _ (List.mem_append_right _ member))
  have span := error.span_of_offends stands.split stands.offset stands.offends stands.leaves
  rw [placeAfter_onLine stands.onLine.opens frontFree, ← stands.line] at span
  have found := Snippet.ofSpan_onLine stands.onLine stands.split short
    (stands.offends.last stands.leaves tailFree)
  rw [← stands.line, ← span] at found
  rw [toDiagnostic_eq_of_ofSpan found, span]
  rfl

/-- Errors of one cause and line have diagnostics that look alike if the lines on which they stand
and the texts that they are about do. -/
theorem Stands.alike {error' : LexicalError} {source' : String}
    {closed' text' tail' behind' : List Char}
    (stands : error.Stands source closed front text tail behind)
    (stands' : error'.Stands source' closed' front text' tail' behind')
    (short : byteLength source.toList < UInt32.size - 1)
    (short' : byteLength source'.toList < UInt32.size - 1)
    (sameCause : error'.cause = error.cause) (sameLine : error'.line = error.line)
    (shown : withoutReturn (front ++ (text' ++ tail')) = withoutReturn (front ++ (text ++ tail)))
    (covered : withoutReturn text' = withoutReturn text) :
    (error.toDiagnostic source).Alike (error'.toDiagnostic source') := by
  rw [stands.toDiagnostic_eq short, stands'.toDiagnostic_eq short', sameLine, shown, covered]
  obtain ⟨cause, offset, line⟩ := error
  obtain ⟨cause', offset', line'⟩ := error'
  obtain rfl : cause' = cause := sameCause
  exact ⟨rfl, rfl, rfl, rfl, rfl, rfl, rfl⟩

theorem Stands.headline_eq (stands : error.Stands source closed front text tail behind)
    (short : byteLength source.toList < UInt32.size - 1) :
    (error.toDiagnostic source).headline =
      "error[" ++ error.code.text ++ "]: " ++ error.message := by
  rw [stands.toDiagnostic_eq short, ← String.toList_inj]
  simp [headline, Level.text]

theorem Stands.headline_unexpected (stands : error.Stands source closed front text tail behind)
    (short : byteLength source.toList < UInt32.size - 1) {c : Char}
    (unexpected : error.cause = .unexpectedCharacter c) :
    (error.toDiagnostic source).headline =
      "error[E1001]: Unexpected character '" ++ escaped c ++ "' at " ++ error.offset.repr := by
  have number : Code.unexpectedCharacter.text = "E1001" := by decide
  rw [stands.headline_eq short, code, message, wording, unexpected, number, ← String.toList_inj]
  simp

theorem Stands.placed (stands : error.Stands source closed front text tail behind)
    (short : byteLength source.toList < UInt32.size - 1) :
    (error.toDiagnostic source).span.line ≠ 0 := by
  have few := newlines_le_byteLength source.toList
  rw [stands.split, newlines_append, ← stands.split] at few
  rw [stands.toDiagnostic_eq short]
  simp only [stands.line]
  exact lineAfter_ne_zero (by omega)

/-- With carriage returns in its source an error stands as before, but for the carriage return at
the end of its line. -/
theorem Stands.crlf (stands : error.Stands source closed front text tail behind)
    (plain : '\r' ∉ text) : ∃ ending text' tail' behind', (ending = [] ∨ ending = ['\r']) ∧
      text ++ (tail ++ ending) = text' ++ tail' ∧ withoutReturn text' = text ∧
      Stands { error with offset := error.offset + newlines (closed ++ front) }
        (ScriptLex.crlf source) (withReturns closed) front text' tail' behind' := by
  have frontFree : ∀ c ∈ front, c ≠ '\n' := fun c member =>
    stands.onLine.within c (List.mem_append_left _ member)
  have restFree : ∀ c ∈ text ++ tail, c ≠ '\n' := fun c member =>
    stands.onLine.within c (List.mem_append_right _ member)
  obtain ⟨ending, behind', returned, ends, closes⟩ := exists_ending stands.onLine.closes
  obtain ⟨text', tail', parts, offends, same, leaves⟩ := stands.offends.with_ending stands.leaves
    plain (fun c member => restFree c (List.mem_append_right _ member)) ends
  have before : withReturns (closed ++ front) = withReturns closed ++ front := by
    rw [withReturns_append, withReturns_line frontFree]
  refine ⟨ending, text', tail', behind', ends, parts, same, ?_⟩
  constructor
  case split =>
    rw [ScriptLex.crlf, String.toList_ofList, stands.split, withReturns_append, before,
      ← List.append_assoc text, withReturns_append, withReturns_line restFree, returned]
    simp [← List.append_assoc, ← parts]
  case onLine =>
    refine ⟨getLast?_withReturns stands.onLine.opens, ?_, closes⟩
    rw [← parts, ← List.append_assoc text, ← List.append_assoc front]
    intro c member
    rcases List.mem_append.1 member with inside | last
    · exact stands.onLine.within c inside
    · exact (isStringBody_iff.1 (isStringBody_of_ending ends c last)).2
  case offset => rw [← before, byteLength_withReturns, ← stands.offset]
  case line => rw [← before, lineAfter_withReturns, ← stands.line]
  case offends => exact offends
  case leaves => exact leaves behind' closes

/-- The first errors of a source without carriage returns and of the source with them are of one
cause and line, and stand on lines that look alike. -/
theorem exists_stands_crlf (noReturn : '\r' ∉ source.toList) (failed : scan source = .error error) :
    ∃ offset closed closed' front text text' tail tail' behind behind',
      scan (ScriptLex.crlf source) = .error { error with offset } ∧
      error.Stands source closed front text tail behind ∧
      Stands { error with offset } (ScriptLex.crlf source) closed' front text' tail' behind' ∧
      withoutReturn (front ++ (text' ++ tail')) = withoutReturn (front ++ (text ++ tail)) ∧
      withoutReturn text' = withoutReturn text := by
  obtain ⟨closed, front, text, tail, behind, stands⟩ := exists_stands failed
  have lineReturn : '\r' ∉ front ++ (text ++ tail) := by
    intro member
    apply noReturn
    rw [stands.split, List.append_assoc, ← List.append_assoc text, ← List.append_assoc front]
    exact List.mem_append_right _ (List.mem_append_left _ member)
  have textReturn : '\r' ∉ text := fun member =>
    lineReturn (List.mem_append_right _ (List.mem_append_left _ member))
  obtain ⟨ending, text', tail', behind', ends, parts, covered, stands'⟩ := stands.crlf textReturn
  obtain ⟨before, after, place, failed'⟩ := scan_crlf_failing failed
  rw [stands.offset, stands.split, splitAt?_append] at place
  obtain ⟨rfl, -⟩ := Prod.mk.inj (Option.some.inj place)
  refine ⟨_, closed, withReturns closed, front, text, text', tail, tail', behind, behind', failed',
    stands, stands', ?_, covered.trans (withoutReturn_plain textReturn).symm⟩
  rw [← parts, ← List.append_assoc text, ← List.append_assoc front,
    withoutReturn_ending lineReturn ends, withoutReturn_plain lineReturn]

end LexicalError

/-- The diagnostic of a lexical error is the same with either line ending, but for the bytes of its
span, and so is its text, but for an offset that the message names. -/
theorem diagnostic_crlf (source : String) (error : LexicalError) (noReturn : '\r' ∉ source.toList)
    (short : byteLength source.toList < UInt32.size / 2) (failed : scan source = .error error) :
    ∃ error', scan (crlf source) = .error error' ∧ error'.cause = error.cause ∧
      (error.toDiagnostic source).Alike (error'.toDiagnostic (crlf source)) ∧
      ((∀ c, error.cause ≠ .unexpectedCharacter c) → ∀ origin,
        (error'.toDiagnostic (crlf source)).render origin =
          (error.toDiagnostic source).render origin) ∧
      (∀ c, error.cause = .unexpectedCharacter c → ∀ origin, ∃ rest,
        (error.toDiagnostic source).render origin =
          "error[E1001]: Unexpected character '" ++ escaped c ++ "' at " ++ error.offset.repr ++
            rest ∧
        (error'.toDiagnostic (crlf source)).render origin =
          "error[E1001]: Unexpected character '" ++ escaped c ++ "' at " ++ error'.offset.repr ++
            rest) := by
  obtain ⟨offset', closed, closed', front, text, text', tail, tail', behind, behind', failed',
    stands, stands', shown, covered⟩ := LexicalError.exists_stands_crlf noReturn failed
  have limit : UInt32.size = 4294967296 := rfl
  have short₁ : byteLength source.toList < UInt32.size - 1 := by omega
  have short₂ : byteLength (crlf source).toList < UInt32.size - 1 := by
    have few := newlines_le_byteLength source.toList
    rw [crlf, String.toList_ofList, byteLength_withReturns]
    omega
  have alike := stands.alike stands' short₁ short₂ rfl rfl shown covered
  have placed := stands.placed short₁
  refine ⟨_, failed', rfl, alike, ?same, ?named⟩
  case same =>
    intro other origin
    obtain ⟨rest, render, render'⟩ := alike.exists_render placed origin
    rw [render, render', stands.headline_eq short₁, stands'.headline_eq short₂]
    obtain ⟨cause, offset, line⟩ := error
    cases cause with
    | unexpectedCharacter c => exact absurd rfl (other c)
    | unterminatedString => rfl
    | malformedNumber lexeme => rfl
  case named =>
    intro c unexpected origin
    obtain ⟨rest, render, render'⟩ := alike.exists_render placed origin
    rw [stands.headline_unexpected short₁ unexpected] at render
    rw [stands'.headline_unexpected short₂ unexpected] at render'
    exact ⟨rest, render, render'⟩

theorem diagnostic_crlf_open_string :
    '\r' ∉ "a\n x = \"né\n1".toList ∧ byteLength "a\n x = \"né\n1".toList < UInt32.size / 2 ∧
      scan "a\n x = \"né\n1" = .error ⟨.unterminatedString, 7, 2⟩ ∧
      ∃ error', scan (crlf "a\n x = \"né\n1") = .error error' ∧
        error'.cause = .unterminatedString ∧
        ∀ origin, (error'.toDiagnostic (crlf "a\n x = \"né\n1")).render origin =
          (LexicalError.toDiagnostic ⟨.unterminatedString, 7, 2⟩ "a\n x = \"né\n1").render
            origin := by
  have noReturn : '\r' ∉ "a\n x = \"né\n1".toList := by decide
  have short : byteLength "a\n x = \"né\n1".toList < UInt32.size / 2 := by decide
  have failed : scan "a\n x = \"né\n1" = .error ⟨.unterminatedString, 7, 2⟩ := by decide +kernel
  obtain ⟨error', failed', cause, -, same, -⟩ := diagnostic_crlf _ _ noReturn short failed
  exact ⟨noReturn, short, failed, error', failed', cause, same fun _ => by simp⟩

end ScriptLex
