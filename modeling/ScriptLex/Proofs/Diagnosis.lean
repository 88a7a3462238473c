import ScriptLex.Proofs.FirstError
import ScriptLex.Proofs.Highlight
import ScriptLex.Scanner.Diagnosis

/-! What the diagnostic of a lexical error shows of the source. -/

set_option autoImplicit false

namespace ScriptLex

open ScriptLex.Diagnostic ScriptLex.Source ScriptLex.Text ScriptLex.Scanner

namespace LexicalCause

variable {cause : LexicalCause} {text : List Char}

theorem not_newline_of_isDigit {c : Char} (digit : isDigit c = true) : c ≠ '\n' := by
  rintro rfl
  cases digit

theorem Offends.no_newline (offends : cause.Offends text) : ∀ c ∈ text, c ≠ '\n' := by
  cases offends with
  | character foreign => simpa using foreign.separator.2.2
  | string within => simpa using fun c member => (within c member).2
  | number digits digits' =>
    intro c member
    simp only [List.mem_append, List.mem_cons, List.not_mem_nil, or_false] at member
    rcases member with (inside | rfl | inside) | rfl
    · exact not_newline_of_isDigit (digits c inside)
    · decide
    · exact not_newline_of_isDigit (digits' c inside)
    · decide

/-- Nothing is left of its line behind an open string. -/
theorem eq_nil_of_leaves {tail behind : List Char}
    (leaves : Leaves .unterminatedString (tail ++ behind)) (tailFree : ∀ c ∈ tail, c ≠ '\n') :
    tail = [] := by
  cases tail with
  | nil => rfl
  | cons c tail =>
    have newline : c = '\n' := by simpa [Leaves] using leaves
    exact absurd newline (tailFree c List.mem_cons_self)

/-- Only an open string can take in the carriage return of its line, and then it ends the line. -/
theorem Offends.last (offends : cause.Offends text) {tail behind : List Char}
    (leaves : cause.Leaves (tail ++ behind)) (tailFree : ∀ c ∈ tail, c ≠ '\n') :
    tail = [] ∨ text.getLast? ≠ some '\r' := by
  cases offends with
  | character foreign => exact .inr (by simpa using foreign.separator.2.1)
  | string within => exact .inl (eq_nil_of_leaves leaves tailFree)
  | number digits digits' =>
    right
    rw [List.getLast?_concat]
    decide

theorem Offends.withoutReturn_ne_nil (offends : cause.Offends text) : withoutReturn text ≠ [] := by
  cases offends with
  | character foreign => exact withoutReturn_cons_ne_nil foreign.separator.2.1 []
  | string within => exact withoutReturn_cons_ne_nil (by decide) _
  | number digits digits' =>
    rw [withoutReturn_append (by simp)]
    simp

end LexicalCause

namespace LexicalError

variable {source : String} {error : LexicalError} {before text after : List Char}

theorem stop_of_offends (offends : error.cause.Offends text) (leaves : error.cause.Leaves after) :
    error.stop (before ++ (text ++ after)) (byteLength before) =
      byteLength before + byteLength text := by
  obtain ⟨cause, offset, line⟩ := error
  cases offends with
  | character foreign => rfl
  | @string body within =>
    have run : ('"' :: body ++ after).takeWhile (· ≠ '\n') = '"' :: body := by
      apply takeWhile_run
      · simpa using fun c member => (within c member).2
      · intro c first
        rcases leaves with rfl | newline
        · cases first
        · obtain rfl : '\n' = c := Option.some.inj (newline.symm.trans first)
          rfl
    simp only [stop, splitAt?_append]
    rw [run]
  | number digits digits' => simp only [stop, String.toList_ofList]

/-- The span of an error covers the text that the error is about. -/
theorem span_of_offends (split : source.toList = before ++ (text ++ after))
    (offset : error.offset = byteLength before) (offends : error.cause.Offends text)
    (leaves : error.cause.Leaves after) :
    error.span source = ⟨byteLength before, byteLength before + byteLength text, error.line,
      (placeAfter before).2⟩ := by
  have length : byteLength source.toList =
      byteLength before + (byteLength text + byteLength after) := by
    rw [split, byteLength_append, byteLength_append]
  have inside : min error.offset (byteLength source.toList) = byteLength before := by
    rw [offset, length]
    omega
  have found := lineColumn_of_split split
  have stop : min (error.stop source.toList (byteLength before)) (byteLength source.toList) =
      byteLength before + byteLength text := by
    rw [length, split, stop_of_offends offends leaves]
    omega
  simp only [span, inside, found, stop]

/-- The diagnostic of an error, where there is a snippet of its span. -/
theorem toDiagnostic_eq_of_ofSpan {snippet : Snippet}
    (found : Snippet.ofSpan source (error.span source) = .ok snippet) :
    error.toDiagnostic source =
      { level := .error
        message := error.message
        span := error.span source
        code := some error.code
        notes := error.remarks.filterMap Draft.note?
        helps := error.remarks.filterMap Draft.help?
        snippets := [snippet.withLabel error.label] } := by
  unfold toDiagnostic
  simp only [found]
  obtain ⟨cause, offset, line⟩ := error
  cases cause <;> rfl

theorem toDiagnostic_of_ofSpan {snippet : Snippet}
    (found : Snippet.ofSpan source (error.span source) = .ok snippet) :
    (error.toDiagnostic source).span = error.span source ∧
      (error.toDiagnostic source).snippets = [snippet.withLabel error.label] := by
  rw [toDiagnostic_eq_of_ofSpan found]
  exact ⟨rfl, rfl⟩

theorem label_plain (error : LexicalError) :
    '^' ∉ error.label.toList ∧ '\n' ∉ error.label.toList := by
  obtain ⟨cause, offset, line⟩ := error
  cases cause <;> simp [label]

end LexicalError

/-- A diagnostic that shows `text` of a source: its span covers the text, the page says where it is,
and its one snippet has the text in its columns and the marks right below the text. -/
structure Diagnostic.PointsAt (diagnostic : Diagnostic) (source : String) (error : LexicalError)
    (origin : Option String) (text : List Char) (snippet : Snippet) (location rest : String) :
    Prop where
  start : diagnostic.span.start = error.offset
  place : lineColumn source error.offset = .ok (diagnostic.span.line, diagnostic.span.column)
  covers : diagnostic.span.text source = .ok (String.ofList text)
  only : diagnostic.snippets = [snippet]
  line : lineText source error.line = .ok snippet.line
  proper : 0 < snippet.startColumn
  nonempty : snippet.shown ≠ []
  shown : snippet.shown = withoutReturn text
  located : Locates diagnostic.span.line diagnostic.span.column origin location
  rendered : diagnostic.render origin = diagnostic.headline ++ "\n" ++ location ++ "\n" ++
    snippet.sourceRow ++ "\n" ++ snippet.markRow ++ rest
  rows : '\n' ∉ snippet.sourceRow.toList ∧ '\n' ∉ snippet.markRow.toList ∧
    ∀ c ∈ rest.toList.head?, c = '\n'
  gutters : (snippet.gutter snippet.lineNumber.repr).length = (snippet.gutter "").length
  above : (snippet.sourceRow.toList.drop snippet.columnsStart).take snippet.shown.length =
    snippet.shown
  marks : ∀ i, snippet.markRow.toList[i]? = some '^' ↔
    snippet.columnsStart ≤ i ∧ i < snippet.columnsStart + snippet.shown.length

/-- The diagnostic of the first error points at the text that the error is about: the character,
the number, or the open string up to the end of its line. -/
theorem diagnostic_points (source : String) (error : LexicalError) (origin : Option String)
    (short : byteLength source.toList < UInt32.size - 1) (failed : scan source = .error error) :
    ∃ before text after snippet location rest,
      source.toList = before ++ (text ++ after) ∧ error.offset = byteLength before ∧
      error.cause.Offends text ∧ error.cause.Leaves after ∧
      (error.toDiagnostic source).PointsAt source error origin text snippet location rest := by
  obtain ⟨before, text, after, -, -, -, split, -, -, offset, line, offends, leaves⟩ :=
    exists_offends failed
  obtain ⟨closed, front, tail, behind, rfl, rfl, onLine⟩ :=
    exists_onLine offends.no_newline before after
  have frontFree : ∀ c ∈ front, c ≠ '\n' := fun c member =>
    onLine.within c (List.mem_append_left _ member)
  have tailFree : ∀ c ∈ tail, c ≠ '\n' := fun c member =>
    onLine.within c (List.mem_append_right _ (List.mem_append_right _ member))
  have place := placeAfter_onLine onLine.opens frontFree
  have span := error.span_of_offends split offset offends leaves
  obtain ⟨snippet, found, lineFound, lineFree, startColumn, endColumn, shown⟩ :=
    Snippet.exists_ofSpan onLine split short offends.ne_nil (offends.last leaves tailFree)
  rw [place] at span
  rw [← line] at lineFound
  rw [← line, ← span] at found
  obtain ⟨spanned, only⟩ := error.toDiagnostic_of_ofSpan found
  have nowhere : (error.toDiagnostic source).span ≠ Span.nowhere := by
    have few := newlines_le_length source.toList
    have length_le := length_le_byteLength source.toList
    rw [split, newlines_append, ← split] at few
    intro none
    rw [spanned, span, line] at none
    exact lineAfter_ne_zero (by omega) (congrArg Span.line none)
  obtain ⟨location, rest, located, below, rendered⟩ := exists_render origin nowhere only
  refine ⟨closed ++ front, text, tail ++ behind, snippet.withLabel error.label, location, rest,
    split, offset, offends, leaves, ?_⟩
  have nonempty : snippet.shown ≠ [] := shown ▸ offends.withoutReturn_ne_nil
  have width : snippet.endColumn = snippet.startColumn + snippet.shown.length := by
    rw [startColumn, endColumn, shown]
  have proper : 0 < snippet.startColumn := startColumn ▸ Nat.succ_pos _
  obtain ⟨noSign, noNewline⟩ := error.label_plain
  have rows := (snippet.withLabel error.label).rows_no_newline lineFree
    (by simpa [Snippet.withLabel] using noNewline)
  have marks := (snippet.withLabel error.label).mark_iff nonempty width
    (by simpa [Snippet.withLabel] using noSign)
  refine ⟨?start, ?place, ?covers, only, lineFound, proper, nonempty, shown, located, rendered,
    ⟨rows.1, rows.2, below⟩, Snippet.gutters_aligned _, Snippet.sourceRow_shown _, marks⟩
  case start => rw [spanned, span, offset]
  case place => rw [spanned, span, offset, line, lineColumn_of_split split, place]
  case covers =>
    rw [spanned, span]
    exact text_of_split split _ _

theorem diagnostic_points_open_string :
    byteLength "a\r\n x = \"né\r\n1".toList < UInt32.size - 1 ∧
      scan "a\r\n x = \"né\r\n1" = .error ⟨.unterminatedString, 8, 2⟩ ∧
      ∃ before text after snippet location rest,
        "a\r\n x = \"né\r\n1".toList = before ++ (text ++ after) ∧ 8 = byteLength before ∧
        LexicalCause.unterminatedString.Offends text ∧
        LexicalCause.unterminatedString.Leaves after ∧
        (LexicalError.toDiagnostic ⟨.unterminatedString, 8, 2⟩ "a\r\n x = \"né\r\n1").PointsAt
          "a\r\n x = \"né\r\n1" ⟨.unterminatedString, 8, 2⟩ (some "main.sp") text snippet location
          rest := by
  have short : byteLength "a\r\n x = \"né\r\n1".toList < UInt32.size - 1 := by decide
  have failed : scan "a\r\n x = \"né\r\n1" = .error ⟨.unterminatedString, 8, 2⟩ := by
    decide +kernel
  exact ⟨short, failed, diagnostic_points _ _ (some "main.sp") short failed⟩

end ScriptLex
