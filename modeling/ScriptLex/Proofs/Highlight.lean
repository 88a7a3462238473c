import ScriptLex.Proofs.Place
import ScriptLex.Diagnostic.Draft

/-! Snippets on the page: their gutters, and what the marks stand under. -/

set_option autoImplicit false

namespace ScriptLex.Diagnostic

open ScriptLex.Source ScriptLex.Text

namespace Snippet

variable (snippet : Snippet)

/-- The characters in the columns of a snippet. -/
def shown : List Char :=
  (snippet.line.toList.drop (snippet.startColumn - 1)).take
    (snippet.endColumn - snippet.startColumn)

def gutter (text : String) : String := rightAligned snippet.marginWidth text ++ " | "

def sourceRow : String := snippet.gutter snippet.lineNumber.repr ++ snippet.line

def markRow : String := snippet.gutter "" ++ snippet.marks

/-- Where the columns of the snippet begin in both rows. -/
def columnsStart : Nat := (snippet.gutter "").length + (snippet.startColumn - 1)

theorem render_eq_rows : snippet.render = snippet.sourceRow ++ "\n" ++ snippet.markRow := by
  simp only [render, sourceRow, markRow, gutter, String.append_assoc]

theorem length_gutter {text : String} (fits : text.length ≤ snippet.marginWidth) :
    (snippet.gutter text).length = snippet.marginWidth + 3 := by
  have bar : " | ".length = 3 := rfl
  rw [gutter, rightAligned, String.length_append, String.length_append, String.length_ofList,
    List.length_replicate, bar]
  omega

/-- Line numbers of any width leave the two rows side by side. -/
theorem gutters_aligned :
    (snippet.gutter snippet.lineNumber.repr).length = (snippet.gutter "").length := by
  have number : snippet.lineNumber.repr.length ≤ snippet.marginWidth := Nat.le_max_left _ _
  rw [length_gutter snippet number, length_gutter snippet (Nat.zero_le _)]

theorem not_mem_gutter {c : Char} {text : String} (other : c ≠ ' ' ∧ c ≠ '|')
    (free : c ∉ text.toList) : c ∉ (snippet.gutter text).toList := by
  simp [gutter, rightAligned, other, free]

end Snippet

/-- Where a character stands that is in one stretch of a text only. -/
theorem getElem?_stretch {A : Type} {a : A} {front behind : List A} (n : Nat) (noFront : a ∉ front)
    (noBehind : a ∉ behind) (i : Nat) :
    (front ++ (List.replicate n a ++ behind))[i]? = some a ↔
      front.length ≤ i ∧ i < front.length + n := by
  by_cases inFront : i < front.length
  · rw [List.getElem?_append_left inFront]
    constructor
    · exact fun here => absurd (List.mem_of_getElem? here) noFront
    · omega
  · rw [List.getElem?_append_right (by omega)]
    by_cases inside : i - front.length < n
    · rw [List.getElem?_append_left (by simpa using inside), List.getElem?_replicate_of_lt inside]
      constructor
      · omega
      · exact fun _ => rfl
    · rw [List.getElem?_append_right (by simpa using inside)]
      constructor
      · exact fun here => absurd (List.mem_of_getElem? here) noBehind
      · omega

namespace Snippet

variable (snippet : Snippet)

/-- The signs of the mark row are where the source row has the columns of the snippet. -/
theorem mark_iff (nonempty : snippet.shown ≠ [])
    (width : snippet.endColumn = snippet.startColumn + snippet.shown.length)
    (free : ∀ label ∈ snippet.label, '^' ∉ label.toList) (i : Nat) :
    snippet.markRow.toList[i]? = some '^' ↔
      snippet.columnsStart ≤ i ∧ i < snippet.columnsStart + snippet.shown.length := by
  have positive := List.length_pos_iff.2 nonempty
  have marked : max (snippet.endColumn - snippet.startColumn) 1 = snippet.shown.length := by omega
  obtain ⟨behind, noBehind, row⟩ : ∃ behind, '^' ∉ behind ∧ snippet.markRow.toList =
      (snippet.gutter "").toList ++ List.replicate (snippet.startColumn - 1) ' ' ++
        (List.replicate snippet.shown.length '^' ++ behind) := by
    cases label : snippet.label with
    | none => exact ⟨[], by simp, by simp [markRow, marks, label, marked]⟩
    | some text =>
      have noSign : '^' ∉ text.toList := free text label
      exact ⟨' ' :: text.toList, by simpa using noSign, by simp [markRow, marks, label, marked]⟩
  have noFront : '^' ∉ (snippet.gutter "").toList ++
      List.replicate (snippet.startColumn - 1) ' ' := by
    have noGutter := snippet.not_mem_gutter (show '^' ≠ ' ' ∧ '^' ≠ '|' by decide)
      (show '^' ∉ "".toList by simp)
    simp [noGutter]
  rw [row, getElem?_stretch _ noFront noBehind, List.length_append, List.length_replicate,
    String.length_toList, columnsStart]

theorem sourceRow_shown :
    (snippet.sourceRow.toList.drop snippet.columnsStart).take snippet.shown.length =
      snippet.shown := by
  have gutter : (snippet.gutter snippet.lineNumber.repr).toList.length =
      (snippet.gutter "").length := by
    rw [String.length_toList, snippet.gutters_aligned]
  rw [sourceRow, columnsStart, String.toList_append, ← gutter, List.drop_length_add_append, shown,
    List.take_eq_take_iff, List.length_take]
  omega

theorem rows_no_newline (line : '\n' ∉ snippet.line.toList)
    (free : ∀ label ∈ snippet.label, '\n' ∉ label.toList) :
    '\n' ∉ snippet.sourceRow.toList ∧ '\n' ∉ snippet.markRow.toList := by
  have number : '\n' ∉ snippet.lineNumber.repr.toList := by
    intro member
    cases isDigit_of_mem_repr '\n' member
  have other : '\n' ≠ ' ' ∧ '\n' ≠ '|' := by decide
  have gutter := snippet.not_mem_gutter other number
  have gutter' := snippet.not_mem_gutter other (show '\n' ∉ "".toList by simp)
  constructor
  · simp [sourceRow, gutter, line]
  · cases label : snippet.label with
    | none => simp [markRow, marks, label, gutter']
    | some text =>
      have noNewline : '\n' ∉ text.toList := free text label
      simp [markRow, marks, label, gutter', noNewline]

-- The marks end with the text, or where the line as it is shown does.
theorem endColumn_clipped (line text tail : List Char) :
    min (line.length + 1 + text.length)
        (max ((withoutReturn (line ++ (text ++ tail))).length + 1) (line.length + 1)) =
      line.length + 1 + (visible text tail).length := by
  by_cases nonempty : text ++ tail = []
  · obtain ⟨rfl, rfl⟩ := List.append_eq_nil_iff.1 nonempty
    have none : visible [] [] = [] := rfl
    rw [none, List.length_nil]
    omega
  · obtain ⟨more, parts, whole⟩ := visible_parts nonempty line
    have shorter : (visible text tail).length ≤ text.length := by
      rw [visible]
      split
      · exact length_withoutReturn_le text
      · exact Nat.le_refl _
    rw [parts]
    simp only [List.length_append]
    rcases whole with same | rfl
    · rw [same]
      omega
    · rw [List.length_nil]
      omega

section

variable {source : String} {closed line text tail behind : List Char}

/-- The snippet of a span has the columns of what the span covers on its first line. -/
theorem ofSpan_firstLine (onLine : OnLine closed (line ++ (text ++ tail)) behind)
    (split : source.toList = closed ++ line ++ (text ++ (tail ++ behind)))
    (short : byteLength source.toList < UInt32.size - 1) {stop : Nat}
    (covered : ((slice? source.toList (byteLength (closed ++ line)) stop).getD []).takeWhile
      (· ≠ '\n') = text) :
    ofSpan source ⟨byteLength (closed ++ line), stop, lineAfter (closed ++ line),
        UInt32.ofNat line.length + 1⟩ =
      .ok ⟨String.ofList (withoutReturn (line ++ (text ++ tail))),
        (lineAfter (closed ++ line)).toNat, line.length + 1,
        line.length + 1 + (visible text tail).length, none⟩ := by
  have lineFree : ∀ c ∈ line, c ≠ '\n' := fun c member =>
    onLine.within c (List.mem_append_left _ member)
  have few : newlines source.toList < UInt32.size - 1 :=
    Nat.lt_of_le_of_lt (newlines_le_byteLength _) short
  have column : (UInt32.ofNat line.length + 1).toNat = line.length + 1 := by
    have length_le := length_le_byteLength source.toList
    rw [split] at length_le
    simp only [List.length_append] at length_le
    rw [← split] at length_le
    exact toNat_ofNat_succ (by omega)
  have found := lineText_onLine onLine (by simpa using split) few
  rw [← lineAfter_onLine lineFree] at found
  simp only [ofSpan, found, column, bind, Except.bind, pure, Except.pure, covered,
    String.length_ofList]
  rw [Nat.max_eq_left (by omega), endColumn_clipped]

/-- The snippet of a text that stands within a line has the columns of the text, without the
carriage return that belongs to the line break. -/
theorem ofSpan_onLine (onLine : OnLine closed (line ++ (text ++ tail)) behind)
    (split : source.toList = closed ++ line ++ (text ++ (tail ++ behind)))
    (short : byteLength source.toList < UInt32.size - 1)
    (last : tail = [] ∨ text.getLast? ≠ some '\r') :
    ofSpan source ⟨byteLength (closed ++ line), byteLength (closed ++ line) + byteLength text,
        lineAfter (closed ++ line), UInt32.ofNat line.length + 1⟩ =
      .ok ⟨String.ofList (withoutReturn (line ++ (text ++ tail))),
        (lineAfter (closed ++ line)).toNat, line.length + 1,
        line.length + 1 + (withoutReturn text).length, none⟩ := by
  have textFree : ∀ c ∈ text, c ≠ '\n' := fun c member =>
    onLine.within c (List.mem_append_right _ (List.mem_append_left _ member))
  have slice := slice?_append (closed ++ line) text (tail ++ behind)
  rw [← split] at slice
  rw [← visible_of_last last]
  apply ofSpan_firstLine onLine split short
  have run := @takeWhile_run (· ≠ '\n') text [] (by simpa using textFree) (by simp)
  rw [List.append_nil] at run
  rw [slice, Option.getD_some, run]

/-- The snippet of a text that stands within a line shows the text, without the carriage return
that belongs to the line break. -/
theorem exists_ofSpan (onLine : OnLine closed (line ++ (text ++ tail)) behind)
    (split : source.toList = closed ++ line ++ (text ++ (tail ++ behind)))
    (short : byteLength source.toList < UInt32.size - 1) (nonempty : text ≠ [])
    (last : tail = [] ∨ text.getLast? ≠ some '\r') :
    ∃ snippet, ofSpan source ⟨byteLength (closed ++ line),
        byteLength (closed ++ line) + byteLength text, lineAfter (closed ++ line),
        UInt32.ofNat line.length + 1⟩ = .ok snippet ∧
      lineText source (lineAfter (closed ++ line)) = .ok snippet.line ∧
      '\n' ∉ snippet.line.toList ∧ snippet.startColumn = line.length + 1 ∧
      snippet.endColumn = line.length + 1 + (withoutReturn text).length ∧
      snippet.shown = withoutReturn text := by
  have lineFree : ∀ c ∈ line, c ≠ '\n' := fun c member =>
    onLine.within c (List.mem_append_left _ member)
  have few : newlines source.toList < UInt32.size - 1 :=
    Nat.lt_of_le_of_lt (newlines_le_byteLength _) short
  have found := lineText_onLine onLine (by simpa using split) few
  rw [← lineAfter_onLine lineFree] at found
  refine ⟨_, ofSpan_onLine onLine split short last, found, ?_, rfl, rfl, ?_⟩
  · rw [String.toList_ofList]
    exact fun member => onLine.within _ (of_mem_withoutReturn member) rfl
  · have whole := List.append_ne_nil_of_left_ne_nil nonempty tail
    obtain ⟨more, parts, -⟩ := visible_parts whole line
    rw [visible_of_last last] at parts
    simp [shown, parts]

end

end Snippet

/-- `Locates line column origin text`: the text says that something is at a line and column, of the
source that is the origin if that has a name. -/
inductive Locates (line column : UInt32) : Option String → String → Prop where
  | named (name : String) : Locates line column (some name)
      (" --> " ++ name ++ ":" ++ line.toNat.repr ++ ":" ++ column.toNat.repr)
  | unnamed : Locates line column none
      (" --> line " ++ line.toNat.repr ++ ", column " ++ column.toNat.repr)

/-- A diagnostic with one snippet has the two rows of the snippet right below the place. -/
theorem exists_render {diagnostic : Diagnostic} {snippet : Snippet} (origin : Option String)
    (somewhere : diagnostic.span ≠ Span.nowhere) (only : diagnostic.snippets = [snippet]) :
    ∃ location rest, Locates diagnostic.span.line diagnostic.span.column origin location ∧
      (∀ c ∈ rest.toList.head?, c = '\n') ∧
      diagnostic.render origin = diagnostic.headline ++ "\n" ++ location ++ "\n" ++
        snippet.sourceRow ++ "\n" ++ snippet.markRow ++ rest := by
  obtain ⟨location, place, located⟩ : ∃ location, diagnostic.location origin = [location] ∧
      Locates diagnostic.span.line diagnostic.span.column origin location := by
    rw [Diagnostic.location, if_neg somewhere]
    cases origin with
    | none => exact ⟨_, rfl, .unnamed⟩
    | some name => exact ⟨_, rfl, .named name⟩
  cases remarks : diagnostic.notes.map (remark .note) ++ diagnostic.helps.map (remark .help) with
  | nil =>
    refine ⟨location, "", located, by simp, ?_⟩
    rw [Diagnostic.render, parts, place, only, List.append_assoc, remarks]
    simp [Snippet.render_eq_rows, String.append_assoc]
  | cons first others =>
    refine ⟨location, "\n" ++ "\n".intercalate (first :: others), located, by simp, ?_⟩
    rw [Diagnostic.render, parts, place, only, List.append_assoc, remarks]
    simp [Snippet.render_eq_rows, String.append_assoc]

end ScriptLex.Diagnostic
