import ScriptLex.Proofs.Text
import ScriptLex.Source.Span

/-! The line in which a place stands, and its column there. -/

set_option autoImplicit false

namespace ScriptLex.Text

theorem length_le_byteLength (cs : List Char) : cs.length ≤ byteLength cs := by
  induction cs with
  | nil => simp
  | cons c cs ih =>
    have width : 0 < c.utf8Size := c.utf8Size_pos
    rw [List.length_cons, byteLength_cons]
    omega

theorem slice?_append (first second third : List Char) :
    slice? (first ++ (second ++ third)) (byteLength first) (byteLength first + byteLength second) =
      some second := by
  rw [slice?, splitAt?_append]
  simp [splitAt?_append]

theorem slice?_eq_some_iff {cs part : List Char} {start stop : Nat} :
    slice? cs start stop = some part ↔ ∃ before after, cs = before ++ (part ++ after) ∧
      byteLength before = start ∧ byteLength before + byteLength part = stop := by
  constructor
  · intro cut
    simp only [slice?, Option.bind_eq_bind, Option.bind_eq_some_iff] at cut
    obtain ⟨⟨before, rest⟩, split, cut⟩ := cut
    split at cut
    case isFalse => cases cut
    case isTrue ordered =>
      obtain ⟨⟨part', after⟩, split', same⟩ := Option.bind_eq_some_iff.1 cut
      obtain rfl : part' = part := Option.some.inj same
      obtain ⟨rfl, rfl⟩ := eq_append_of_splitAt? split
      obtain ⟨rfl, width⟩ : rest = part' ++ after ∧ _ := eq_append_of_splitAt? split'
      exact ⟨before, after, rfl, rfl, by omega⟩
  · rintro ⟨before, after, rfl, rfl, rfl⟩
    exact slice?_append before part after

/-- Between two boundaries stands a part of the text. -/
theorem exists_slice {cs : List Char} {start stop : Nat} (ordered : start ≤ stop)
    (opens : isBoundary cs start = true) (closes : isBoundary cs stop = true) :
    ∃ before covered after, cs = before ++ (covered ++ after) ∧ byteLength before = start ∧
      byteLength before + byteLength covered = stop := by
  obtain ⟨⟨before, rest⟩, split⟩ := Option.isSome_iff_exists.1 opens
  obtain ⟨⟨front, after⟩, split'⟩ := Option.isSome_iff_exists.1 closes
  obtain ⟨rfl, rfl⟩ := eq_append_of_splitAt? split
  obtain ⟨same, rfl⟩ := eq_append_of_splitAt? split'
  rcases List.append_eq_append_iff.1 same with ⟨covered, rfl, rfl⟩ | ⟨more, rfl, rfl⟩
  · exact ⟨before, covered, after, rfl, rfl, (byteLength_append _ _).symm⟩
  · rw [byteLength_append] at ordered
    cases more with
    | nil => exact ⟨front, [], rest, by simp, by simp, by simp⟩
    | cons c more =>
      have width : 0 < c.utf8Size := c.utf8Size_pos
      rw [byteLength_cons] at ordered
      omega

theorem newlines_le_length (cs : List Char) : newlines cs ≤ cs.length := List.count_le_length

theorem newlines_le_byteLength (cs : List Char) : newlines cs ≤ byteLength cs :=
  Nat.le_trans (newlines_le_length cs) (length_le_byteLength cs)

theorem withoutReturn_append {first second : List Char} (nonempty : second ≠ []) :
    withoutReturn (first ++ second) = first ++ withoutReturn second := by
  have last : (first ++ second).getLast? = second.getLast? := by
    rw [List.getLast?_append, List.getLast?_eq_some_getLast nonempty, Option.some_or]
  rw [withoutReturn, withoutReturn, last]
  split
  · exact List.dropLast_append_of_ne_nil nonempty
  · rfl

theorem withoutReturn_of_getLast?_ne {line : List Char} (other : line.getLast? ≠ some '\r') :
    withoutReturn line = line := if_neg other

theorem withoutReturn_plain {line : List Char} (plain : '\r' ∉ line) : withoutReturn line = line :=
  withoutReturn_of_getLast?_ne fun last => plain (List.mem_of_getLast? last)

theorem withoutReturn_ending {line ending : List Char} (plain : '\r' ∉ line)
    (ends : ending = [] ∨ ending = ['\r']) : withoutReturn (line ++ ending) = line := by
  rcases ends with rfl | rfl
  · rw [List.append_nil, withoutReturn_plain plain]
  · rw [withoutReturn_append (by simp)]
    simp [withoutReturn]

theorem length_withoutReturn_le (line : List Char) : (withoutReturn line).length ≤ line.length := by
  unfold withoutReturn
  split
  · rw [List.length_dropLast]
    omega
  · exact Nat.le_refl _

theorem of_mem_withoutReturn {line : List Char} {c : Char} (member : c ∈ withoutReturn line) :
    c ∈ line := by
  unfold withoutReturn at member
  split at member
  · exact List.dropLast_subset line member
  · exact member

theorem withoutReturn_cons_ne_nil {c : Char} (other : c ≠ '\r') (line : List Char) :
    withoutReturn (c :: line) ≠ [] := by
  cases line with
  | nil => simp [withoutReturn, other]
  | cons d line =>
    have split := @withoutReturn_append [c] (d :: line) (by simp)
    rw [List.singleton_append] at split
    simp [split]

/-- A part of a line as it is shown, with `tail` behind it on the line. -/
def visible (part tail : List Char) : List Char := if tail = [] then withoutReturn part else part

theorem visible_of_last {part tail : List Char} (last : tail = [] ∨ part.getLast? ≠ some '\r') :
    visible part tail = withoutReturn part := by
  unfold visible
  split
  case isTrue => rfl
  case isFalse more => exact (withoutReturn_of_getLast?_ne (last.resolve_left more)).symm

/-- A carriage return at the end of a line belongs to its last part. -/
theorem visible_parts {part tail : List Char} (nonempty : part ++ tail ≠ []) (line : List Char) :
    ∃ more, withoutReturn (line ++ (part ++ tail)) = line ++ (visible part tail ++ more) ∧
      (visible part tail = part ∨ more = []) := by
  rw [withoutReturn_append nonempty, visible]
  split
  case isTrue none =>
    subst none
    exact ⟨[], by simp, .inr rfl⟩
  case isFalse some => exact ⟨withoutReturn tail, by rw [withoutReturn_append some], .inl rfl⟩

/-- One line of a text, with whole lines in front of it and behind. -/
structure OnLine (closed line behind : List Char) : Prop where
  opens : ∀ c ∈ closed.getLast?, c = '\n'
  within : ∀ c ∈ line, c ≠ '\n'
  closes : ∀ c ∈ behind.head?, c = '\n'

/-- A text without a newline stands on one line, wherever it stands. -/
theorem exists_onLine {text : List Char} (within : ∀ c ∈ text, c ≠ '\n')
    (before after : List Char) : ∃ closed line tail behind,
      before = closed ++ line ∧ after = tail ++ behind ∧
        OnLine closed (line ++ (text ++ tail)) behind := by
  obtain ⟨line, closed, front, lineFree, opens⟩ := exists_run (· != '\n') before.reverse
  obtain ⟨tail, behind, rfl, tailFree, closes⟩ := exists_run (· != '\n') after
  refine ⟨closed.reverse, line.reverse, tail, behind, ?_, rfl, ?_, ?_, ?_⟩
  · rw [← List.reverse_append, ← front, List.reverse_reverse]
  · intro c last
    rw [List.getLast?_reverse] at last
    simpa using opens c last
  · intro c member
    rcases List.mem_append.1 member with inLine | inside
    · simpa using lineFree c (List.mem_reverse.1 inLine)
    · rcases List.mem_append.1 inside with inText | inTail
      · exact within c inText
      · simpa using tailFree c inTail
  · intro c first
    simpa using closes c first

theorem rawLines_line {line : List Char} (within : ∀ c ∈ line, c ≠ '\n') :
    rawLines line = [line] := by
  induction line with
  | nil => rfl
  | cons c line ih =>
    rw [rawLines, if_neg (within c List.mem_cons_self),
      ih fun d member => within d (List.mem_cons_of_mem c member)]

theorem rawLines_append_newline (first second : List Char) :
    rawLines (first ++ '\n' :: second) = rawLines first ++ rawLines second := by
  induction first with
  | nil => simp [rawLines]
  | cons c first ih =>
    rw [List.cons_append, rawLines, rawLines, ih]
    split
    · rfl
    · obtain ⟨line, lines, split⟩ := List.exists_cons_of_ne_nil (rawLines_ne_nil first)
      rw [split]
      rfl

theorem OnLine.rawLines_getElem? {closed line behind : List Char}
    (onLine : OnLine closed line behind) :
    (rawLines (closed ++ (line ++ behind)))[newlines closed]? = some line := by
  have open_line : ∃ lines, rawLines (line ++ behind) = line :: lines := by
    cases behind with
    | nil => exact ⟨[], by rw [List.append_nil, rawLines_line onLine.within]⟩
    | cons c behind =>
      obtain rfl : c = '\n' := onLine.closes c rfl
      exact ⟨rawLines behind, by rw [rawLines_append_newline, rawLines_line onLine.within]; rfl⟩
  obtain ⟨lines, split⟩ := open_line
  rcases List.eq_nil_or_concat closed with rfl | ⟨front, c, rfl⟩
  · simp [split]
  · obtain rfl : c = '\n' := onLine.opens c (by simp)
    have index : newlines (front ++ ['\n']) = (rawLines front).length := by
      rw [length_rawLines, newlines_append]
      rfl
    rw [List.concat_eq_append, List.append_assoc, List.singleton_append, rawLines_append_newline,
      index, split]
    simp

end ScriptLex.Text

namespace ScriptLex.Source

open ScriptLex.Text

variable {closed line behind : List Char}

theorem lineAfter_onLine (within : ∀ c ∈ line, c ≠ '\n') :
    lineAfter (closed ++ line) = lineAfter closed := by
  rw [lineAfter, lineAfter, newlines_append, newlines_eq_zero within, Nat.add_zero]

theorem placeAfter_onLine (opens : ∀ c ∈ closed.getLast?, c = '\n')
    (within : ∀ c ∈ line, c ≠ '\n') :
    placeAfter (closed ++ line) = (lineAfter (closed ++ line), UInt32.ofNat line.length + 1) := by
  have run : (line.reverse ++ closed.reverse).takeWhile (· ≠ '\n') = line.reverse := by
    apply takeWhile_run
    · simpa using within
    · intro c first
      rw [List.head?_reverse] at first
      simp [opens c first]
  rw [placeAfter, List.reverse_append, run, List.length_reverse]
  rfl

theorem text_of_split {source : String} {before text after : List Char}
    (split : source.toList = before ++ (text ++ after)) (line column : UInt32) :
    Span.text ⟨byteLength before, byteLength before + byteLength text, line, column⟩ source =
      .ok (String.ofList text) := by
  have length : byteLength source.toList =
      byteLength before + (byteLength text + byteLength after) := by
    rw [split, byteLength_append, byteLength_append]
  have width : byteLength before + byteLength text - byteLength before = byteLength text := by omega
  simp only [Span.text]
  rw [if_neg (by omega), if_neg (by omega), split, splitAt?_append, width]
  simp only [splitAt?_append]

theorem lineColumn_of_split {source : String} {before after : List Char}
    (split : source.toList = before ++ after) :
    lineColumn source (byteLength before) = .ok (placeAfter before) := by
  have inside : ¬byteLength source.toList < byteLength before := by
    rw [split, byteLength_append]
    omega
  rw [lineColumn, if_neg inside, split, splitAt?_append]

/-- The line on which a place stands is shown as it is, but for a carriage return at its end. -/
theorem lineText_onLine {source : String} (onLine : OnLine closed line behind)
    (split : source.toList = closed ++ (line ++ behind))
    (few : newlines source.toList < UInt32.size - 1) :
    lineText source (lineAfter closed) = .ok (String.ofList (withoutReturn line)) := by
  have within : newlines closed ≤ newlines source.toList := by
    rw [split, newlines_append]
    omega
  have number : (lineAfter closed).toNat = newlines closed + 1 := toNat_lineAfter (by omega)
  have nonzero : lineAfter closed ≠ 0 := lineAfter_ne_zero (by omega)
  have exists_line : ¬(lineAfter closed = 0 ∨
      (rawLines source.toList).length < (lineAfter closed).toNat) := by
    rw [not_or, number, length_rawLines]
    exact ⟨nonzero, by omega⟩
  simp only [lineText]
  rw [if_neg exists_line, number, Nat.add_sub_cancel, split, List.getD_eq_getElem?_getD,
    onLine.rawLines_getElem?]
  rfl

end ScriptLex.Source
