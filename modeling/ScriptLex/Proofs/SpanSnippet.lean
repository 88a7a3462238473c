import ScriptLex.Proofs.Highlight

/-! What the snippet of a span marks.

A span may cover many lines, begin on the line break itself or be empty. Its snippet shows the line
on which the span begins, with the part of it that is covered in its columns. -/

set_option autoImplicit false

namespace ScriptLex.Diagnostic.Snippet

open ScriptLex.Source ScriptLex.Text

/-- Without a label the row of marks ends with the marks. -/
theorem markRow_of_unlabelled {snippet : Snippet} (unlabelled : snippet.label = none) :
    snippet.markRow = snippet.gutter "" ++
      String.ofList (List.replicate (snippet.startColumn - 1) ' ' ++
        List.replicate (max 1 (snippet.endColumn - snippet.startColumn)) '^') := by
  rw [markRow, marks, unlabelled, String.append_empty, Nat.max_comm]

/-- `snippet.MarksFirstLine source start covered closed line text tail behind`: a span of `covered`
begins at `start`, on the line `line ++ (text ++ tail)`, of which it covers `text`. The snippet
shows that line with `text` in its columns, but for a carriage return that ends the line. -/
structure MarksFirstLine (snippet : Snippet) (source : String) (start : Nat) (covered : String)
    (closed line text tail behind : List Char) : Prop where
  split : source.toList = closed ++ line ++ (text ++ (tail ++ behind))
  onLine : OnLine closed (line ++ (text ++ tail)) behind
  begins : start = byteLength (closed ++ line)
  covers : text = covered.toList.takeWhile (· ≠ '\n')
  number : snippet.lineNumber = newlines closed + 1
  shownLine : snippet.line = String.ofList (withoutReturn (line ++ (text ++ tail)))
  startColumn : snippet.startColumn = line.length + 1
  endColumn : snippet.endColumn = snippet.startColumn + snippet.shown.length
  shown : snippet.shown = if tail = [] then withoutReturn text else text
  rendered : snippet.render = snippet.sourceRow ++ "\n" ++ (snippet.gutter "" ++
    String.ofList (List.replicate (snippet.startColumn - 1) ' ' ++
      List.replicate (max 1 (snippet.endColumn - snippet.startColumn)) '^'))
  gutters : (snippet.gutter snippet.lineNumber.repr).length = (snippet.gutter "").length

theorem drop_take_visible (line text tail : List Char) :
    ((withoutReturn (line ++ (text ++ tail))).drop line.length).take (visible text tail).length =
      visible text tail := by
  by_cases nonempty : text ++ tail = []
  · obtain ⟨rfl, rfl⟩ := List.append_eq_nil_iff.1 nonempty
    rfl
  · obtain ⟨more, parts, -⟩ := visible_parts nonempty line
    rw [parts, List.drop_left, List.take_left]

/-- The snippet of a span marks what the span covers of the line on which it begins. -/
theorem ofSpan_marks_first_line (source : String) (start stop : Nat)
    (short : byteLength source.toList < UInt32.size - 1) (ordered : start ≤ stop)
    (opens : isBoundary source.toList start = true)
    (closes : isBoundary source.toList stop = true) :
    ∃ number column covered snippet closed line text tail behind,
      lineColumn source start = .ok (number, column) ∧
      Span.text ⟨start, stop, number, column⟩ source = .ok covered ∧
      ofSpan source ⟨start, stop, number, column⟩ = .ok snippet ∧
      lineText source number = .ok snippet.line ∧
      snippet.MarksFirstLine source start covered closed line text tail behind := by
  obtain ⟨before, covered, after, split, rfl, rfl⟩ := exists_slice ordered opens closes
  obtain ⟨text, rest, rfl, textFree, rest_stops⟩ := exists_run (· ≠ '\n') covered
  have run := takeWhile_run textFree rest_stops
  obtain ⟨closed, line, tail, behind, rfl, more, onLine⟩ :=
    exists_onLine (by simpa using textFree) before (rest ++ after)
  have lineFree : ∀ c ∈ line, c ≠ '\n' := fun c member =>
    onLine.within c (List.mem_append_left _ member)
  have parts : source.toList = closed ++ line ++ (text ++ (tail ++ behind)) := by
    rw [split, List.append_assoc text, more]
  have few : newlines source.toList < UInt32.size - 1 :=
    Nat.lt_of_le_of_lt (newlines_le_byteLength _) short
  have number : (lineAfter (closed ++ line)).toNat = newlines closed + 1 := by
    rw [lineAfter_onLine lineFree, toNat_lineAfter]
    rw [parts, newlines_append, newlines_append] at few
    omega
  have slice := slice?_append (closed ++ line) (text ++ rest) after
  rw [← split] at slice
  have place := lineColumn_of_split split
  rw [placeAfter_onLine onLine.opens lineFree] at place
  have shownLine := lineText_onLine onLine (by simpa using parts) few
  rw [← lineAfter_onLine lineFree] at shownLine
  have found := ofSpan_firstLine onLine parts short
    (by rw [slice, Option.getD_some, run])
  have seen := drop_take_visible line text tail
  refine ⟨_, _, _, _, closed, line, text, tail, behind, place, text_of_split split _ _, found,
    shownLine, ?_⟩
  constructor
  case split => exact parts
  case onLine => exact onLine
  case begins => rfl
  case covers => rw [String.toList_ofList, run]
  case number => exact number
  case shownLine => rfl
  case startColumn => rfl
  case endColumn => simp [shown, seen]
  case shown => simpa [shown, visible] using seen
  case rendered => rw [render_eq_rows, markRow_of_unlabelled rfl]
  case gutters => exact gutters_aligned _

-- The span begins on a wide character and runs over a line break to the end of the source.
theorem ofSpan_marks_first_line_return :
    byteLength "x\né\r\nb".toList < UInt32.size - 1 ∧ 2 ≤ 7 ∧
      isBoundary "x\né\r\nb".toList 2 = true ∧ isBoundary "x\né\r\nb".toList 7 = true ∧
      ofSpan "x\né\r\nb" ⟨2, 7, 2, 1⟩ = .ok ⟨"é", 2, 1, 2, none⟩ ∧
      ∃ number column covered snippet closed line text tail behind,
        lineColumn "x\né\r\nb" 2 = .ok (number, column) ∧
        Span.text ⟨2, 7, number, column⟩ "x\né\r\nb" = .ok covered ∧
        ofSpan "x\né\r\nb" ⟨2, 7, number, column⟩ = .ok snippet ∧
        lineText "x\né\r\nb" number = .ok snippet.line ∧
        snippet.MarksFirstLine "x\né\r\nb" 2 covered closed line text tail behind := by
  have short : byteLength "x\né\r\nb".toList < UInt32.size - 1 := by decide
  have opens : isBoundary "x\né\r\nb".toList 2 = true := rfl
  have closes : isBoundary "x\né\r\nb".toList 7 = true := rfl
  exact ⟨short, by decide, opens, closes, rfl,
    ofSpan_marks_first_line _ 2 7 short (by decide) opens closes⟩

end ScriptLex.Diagnostic.Snippet
