import ScriptLex.Proofs.Place

/-! Byte offsets against lines and columns.

An offset between two characters has one line and one column, and these lead back to it: over the
lines in front of the line, then over the characters in front of the column. Offsets further on have
later places. The lines themselves are the source cut at its newlines. -/

set_option autoImplicit false

namespace ScriptLex.Text

/-! ### Offsets within a character -/

/-- The offset falls between the bytes of one character. -/
def InsideCharacter (cs : List Char) (offset : Nat) : Prop :=
  ∃ before c after, cs = before ++ c :: after ∧ byteLength before < offset ∧
    offset < byteLength before + c.utf8Size

theorem InsideCharacter.cons {cs : List Char} {offset : Nat} (inside : InsideCharacter cs offset)
    (c : Char) : InsideCharacter (c :: cs) (c.utf8Size + offset) := by
  obtain ⟨before, d, after, rfl, first, last⟩ := inside
  refine ⟨c :: before, d, after, rfl, ?_, ?_⟩ <;> rw [byteLength_cons] <;> omega

theorem insideCharacter_of_splitAt?_none {cs : List Char} {offset : Nat}
    (none : splitAt? cs offset = none) (within : offset ≤ byteLength cs) :
    InsideCharacter cs offset := by
  fun_induction splitAt? cs offset with
  | case1 cs => cases none
  | case2 n => simp at within
  | case3 c cs n fits ih =>
    rw [byteLength_cons] at within
    have inside := (ih (Option.map_eq_none_iff.1 none) (by omega)).cons c
    rwa [Nat.add_sub_cancel' fits] at inside
  | case4 c cs n wide =>
    refine ⟨[], c, cs, rfl, ?_, ?_⟩ <;> rw [byteLength_nil] <;> omega

theorem InsideCharacter.splitAt?_eq_none {cs : List Char} {offset : Nat}
    (inside : InsideCharacter cs offset) : splitAt? cs offset = none := by
  obtain ⟨before, c, after, rfl, first, last⟩ := inside
  refine Option.eq_none_iff_forall_ne_some.2 fun ⟨front, rest⟩ split => ?_
  obtain ⟨same, rfl⟩ := eq_append_of_splitAt? split
  rcases List.append_eq_append_iff.1 same with ⟨more, rfl, parts⟩ | ⟨more, rfl, parts⟩
  · cases more with
    | nil => simp at first
    | cons d more =>
      obtain ⟨rfl, -⟩ := List.cons.inj parts
      simp only [byteLength_append, byteLength_cons] at last
      omega
  · rw [byteLength_append] at first
    omega

theorem InsideCharacter.le_byteLength {cs : List Char} {offset : Nat}
    (inside : InsideCharacter cs offset) : offset ≤ byteLength cs := by
  obtain ⟨before, c, after, rfl, -, last⟩ := inside
  rw [byteLength_append, byteLength_cons]
  omega

/-! ### The lines of a text -/

theorem rawLines_eq_splitOn (cs : List Char) : rawLines cs = cs.splitOn '\n' := by
  induction cs with
  | nil => rfl
  | cons c cs ih =>
    rw [rawLines, List.splitOn, List.splitOnP_cons_eq_if_modifyHead, ← List.splitOn, ← ih]
    simp only [beq_iff_eq]
    split
    · rfl
    · obtain ⟨line, lines, split⟩ := List.exists_cons_of_ne_nil (rawLines_ne_nil cs)
      rw [split]
      rfl

/-- Closed by a newline, a text is its lines, each with its newline. -/
theorem flatMap_rawLines (cs : List Char) :
    (rawLines cs).flatMap (· ++ ['\n']) = cs ++ ['\n'] := by
  induction cs with
  | nil => rfl
  | cons c cs ih =>
    rw [rawLines]
    split
    case isTrue newline => rw [List.flatMap_cons, ih, newline]; rfl
    case isFalse other =>
      obtain ⟨line, lines, split⟩ := List.exists_cons_of_ne_nil (rawLines_ne_nil cs)
      rw [split] at ih ⊢
      rw [List.flatMap_cons] at ih ⊢
      rw [List.cons_append, List.cons_append, ih, List.cons_append]

/-- The first lines of a text, each with its newline. -/
def leadingLines (cs : List Char) (n : Nat) : List Char :=
  ((rawLines cs).take n).flatMap (· ++ ['\n'])

theorem OnLine.leadingLines_eq {closed line behind : List Char}
    (onLine : OnLine closed line behind) :
    leadingLines (closed ++ (line ++ behind)) (newlines closed) = closed := by
  rcases List.eq_nil_or_concat closed with rfl | ⟨front, c, rfl⟩
  · rfl
  · obtain rfl : c = '\n' := onLine.opens c (by simp)
    have index : newlines (front ++ ['\n']) = (rawLines front).length := by
      rw [length_rawLines, newlines_append]
      rfl
    rw [leadingLines, List.concat_eq_append, List.append_assoc, List.singleton_append,
      rawLines_append_newline, index, List.take_left, flatMap_rawLines]

theorem exists_closed {cs : List Char} {n : Nat} (enough : n ≤ newlines cs) :
    ∃ closed rest, cs = closed ++ rest ∧ newlines closed = n ∧ ∀ c ∈ closed.getLast?, c = '\n' := by
  induction n with
  | zero => exact ⟨[], cs, rfl, rfl, by simp⟩
  | succ n ih =>
    obtain ⟨closed, rest, rfl, count, opens⟩ := ih (by omega)
    obtain ⟨line, after, rfl, within, rfl | ⟨after, rfl⟩⟩ := exists_line rest
    · rw [List.append_nil, newlines_append, newlines_eq_zero within, count] at enough
      omega
    · refine ⟨closed ++ (line ++ ['\n']), after, by simp, ?_, by simp⟩
      simp only [newlines_append, newlines_eq_zero within, count]
      rfl

/-- The line of a number stands in the text with that many whole lines in front of it. -/
theorem exists_onLine_of_getElem? {cs line : List Char} {n : Nat}
    (found : (rawLines cs)[n]? = some line) :
    ∃ closed behind, cs = closed ++ (line ++ behind) ∧ newlines closed = n ∧
      OnLine closed line behind := by
  have enough : n < (rawLines cs).length := (List.getElem?_eq_some_iff.1 found).1
  rw [length_rawLines] at enough
  obtain ⟨closed, rest, rfl, rfl, opens⟩ := exists_closed (Nat.le_of_lt_succ enough)
  obtain ⟨line', behind, rfl, within, closes⟩ := exists_line rest
  have onLine : OnLine closed line' behind := by
    refine ⟨opens, within, ?_⟩
    rcases closes with rfl | ⟨behind, rfl⟩ <;> simp
  obtain rfl : line' = line := Option.some.inj (onLine.rawLines_getElem?.symm.trans found)
  exact ⟨closed, behind, rfl, rfl, onLine⟩

theorem newline_not_mem_of_mem_rawLines {cs line : List Char} (member : line ∈ rawLines cs) :
    '\n' ∉ line := by
  obtain ⟨n, found⟩ := List.mem_iff_getElem?.1 member
  obtain ⟨closed, behind, -, -, onLine⟩ := exists_onLine_of_getElem? found
  exact fun newline => onLine.within '\n' newline rfl

/-- `PlaceOf cs offset line column`: over the lines in front of the line, and then over the
characters in front of the column, one gets to the offset. -/
structure PlaceOf (cs : List Char) (offset line column : Nat) : Prop where
  line_pos : 1 ≤ line
  line_le : line ≤ 1 + newlines cs
  column_pos : 1 ≤ column
  reaches : ∃ text, (rawLines cs)[line - 1]? = some text ∧ column - 1 ≤ text.length ∧
    offset = byteLength (leadingLines cs (line - 1)) + byteLength (text.take (column - 1))

theorem OnLine.placeOf {closed line tail behind : List Char}
    (onLine : OnLine closed (line ++ tail) behind) :
    PlaceOf (closed ++ (line ++ tail ++ behind)) (byteLength (closed ++ line))
      (newlines closed + 1) (line.length + 1) where
  line_pos := by omega
  line_le := by
    rw [newlines_append]
    omega
  column_pos := by omega
  reaches := by
    refine ⟨line ++ tail, onLine.rawLines_getElem?, by simp, ?_⟩
    rw [Nat.add_sub_cancel, onLine.leadingLines_eq, Nat.add_sub_cancel, List.take_left,
      byteLength_append]

theorem PlaceOf.exists_onLine {cs : List Char} {offset line column : Nat}
    (place : PlaceOf cs offset line column) :
    ∃ closed front tail behind, cs = closed ++ (front ++ tail ++ behind) ∧
      OnLine closed (front ++ tail) behind ∧ offset = byteLength (closed ++ front) ∧
      line = newlines closed + 1 ∧ column = front.length + 1 := by
  obtain ⟨text, found, fits, reached⟩ := place.reaches
  have first := place.line_pos
  have first' := place.column_pos
  obtain ⟨closed, behind, rfl, count, onLine⟩ := exists_onLine_of_getElem? found
  rw [← count, onLine.leadingLines_eq] at reached
  refine ⟨closed, text.take (column - 1), text.drop (column - 1), behind, ?_, ?_, ?_, ?_, ?_⟩
  · rw [List.take_append_drop]
  · rwa [List.take_append_drop]
  · rw [byteLength_append, reached]
  · omega
  · rw [List.length_take]
    omega

end ScriptLex.Text

namespace ScriptLex.Source

open ScriptLex.Text

variable {source : String} {offset : Nat}

theorem lineColumn_onLine {closed line tail behind : List Char}
    (onLine : OnLine closed (line ++ tail) behind)
    (split : source.toList = closed ++ (line ++ tail ++ behind))
    (short : byteLength source.toList < UInt32.size - 1) :
    ∃ number column, lineColumn source (byteLength (closed ++ line)) = .ok (number, column) ∧
      number.toNat = newlines closed + 1 ∧ column.toNat = line.length + 1 := by
  have within : ∀ c ∈ line, c ≠ '\n' := fun c member =>
    onLine.within c (List.mem_append_left tail member)
  have lines := newlines_le_byteLength closed
  have columns := length_le_byteLength line
  have parts : byteLength closed + byteLength line ≤ byteLength source.toList := by
    simp only [split, byteLength_append]
    omega
  have split' : source.toList = closed ++ line ++ (tail ++ behind) := by simpa using split
  refine ⟨lineAfter closed, UInt32.ofNat line.length + 1, ?_, toNat_lineAfter (by omega),
    toNat_ofNat_succ (by omega)⟩
  rw [lineColumn_of_split split', placeAfter_onLine onLine.opens within, lineAfter_onLine within]

theorem exists_placeOf {before after : List Char} (split : source.toList = before ++ after)
    (short : byteLength source.toList < UInt32.size - 1) :
    ∃ line column, lineColumn source (byteLength before) = .ok (line, column) ∧
      PlaceOf source.toList (byteLength before) line.toNat column.toNat := by
  obtain ⟨closed, line, tail, behind, rfl, rfl, onLine⟩ :=
    @exists_onLine [] (by simp) before after
  rw [List.nil_append] at onLine
  have split' : source.toList = closed ++ (line ++ tail ++ behind) := by simpa using split
  obtain ⟨number, column, found, number_eq, column_eq⟩ := lineColumn_onLine onLine split' short
  refine ⟨number, column, found, ?_⟩
  rw [number_eq, column_eq, split']
  exact onLine.placeOf

theorem exists_split_of_lineColumn {place : UInt32 × UInt32}
    (found : lineColumn source offset = .ok place) :
    ∃ before after, source.toList = before ++ after ∧ byteLength before = offset := by
  simp only [lineColumn] at found
  split at found
  · cases found
  · split at found
    case h_1 => cases found
    case h_2 before after split => exact ⟨before, after, eq_append_of_splitAt? split⟩

/-- Offsets and places determine each other. -/
theorem lineColumn_eq_ok_iff (short : byteLength source.toList < UInt32.size - 1)
    {line column : UInt32} : lineColumn source offset = .ok (line, column) ↔
      PlaceOf source.toList offset line.toNat column.toNat := by
  constructor
  · intro found
    obtain ⟨before, after, split, rfl⟩ := exists_split_of_lineColumn found
    obtain ⟨line', column', found', place⟩ := exists_placeOf split short
    obtain ⟨rfl, rfl⟩ := Prod.mk.inj (Except.ok.inj (found'.symm.trans found))
    exact place
  · intro place
    obtain ⟨closed, front, tail, behind, split, onLine, rfl, line_eq, column_eq⟩ :=
      place.exists_onLine
    obtain ⟨line', column', found, line_eq', column_eq'⟩ := lineColumn_onLine onLine split short
    obtain rfl : line' = line := UInt32.toNat_inj.1 (line_eq'.trans line_eq.symm)
    obtain rfl : column' = column := UInt32.toNat_inj.1 (column_eq'.trans column_eq.symm)
    exact found

theorem lineColumn_eq_error_iff {error : PlaceError} : lineColumn source offset = .error error ↔
    byteLength source.toList < offset ∧
        error = .outOfBounds (byteLength source.toList) offset offset ∨
      InsideCharacter source.toList offset ∧ error = .insideCharacter offset := by
  have within (inside : InsideCharacter source.toList offset) := inside.le_byteLength
  simp only [lineColumn]
  split
  case isTrue beyond =>
    have outside : ¬InsideCharacter source.toList offset := fun inside => by
      have := within inside
      omega
    simp [beyond, outside, eq_comm]
  case isFalse reached =>
    split
    case h_1 none =>
      have inside := insideCharacter_of_splitAt?_none none (Nat.not_lt.1 reached)
      simp [reached, inside, eq_comm]
    case h_2 before after split =>
      have outside : ¬InsideCharacter source.toList offset := fun inside => by
        rw [inside.splitAt?_eq_none] at split
        cases split
      simp [reached, outside]

/-- Further on in a text one comes to a later line, or to a later column of the same line. -/
theorem placeAfter_lt {before middle : List Char} (nonempty : middle ≠ [])
    (short : byteLength (before ++ middle) < UInt32.size - 1) :
    (placeAfter before).1 < (placeAfter (before ++ middle)).1 ∨
      (placeAfter before).1 = (placeAfter (before ++ middle)).1 ∧
        (placeAfter before).2 < (placeAfter (before ++ middle)).2 := by
  have lines := newlines_le_byteLength (before ++ middle)
  by_cases none : newlines middle = 0
  · have within : ∀ c ∈ middle, c ≠ '\n' := by
      rintro c member rfl
      exact List.count_eq_zero.1 none member
    obtain ⟨closed, line, tail, behind, rfl, -, onLine⟩ := exists_onLine within before []
    have opens := onLine.opens
    have here : ∀ c ∈ line, c ≠ '\n' := fun c member => onLine.within c (by simp [member])
    have there : ∀ c ∈ line ++ middle, c ≠ '\n' := fun c member =>
      (List.mem_append.1 member).elim (here c) (within c)
    have columns : UInt32.ofNat line.length + 1 < UInt32.ofNat (line ++ middle).length + 1 := by
      have fits := length_le_byteLength (closed ++ line ++ middle)
      have width := List.length_pos_iff.2 nonempty
      simp only [List.length_append] at fits ⊢
      rw [UInt32.lt_iff_toNat_lt, toNat_ofNat_succ (by omega), toNat_ofNat_succ (by omega)]
      omega
    rw [List.append_assoc, placeAfter_onLine opens here, placeAfter_onLine opens there,
      lineAfter_onLine here, lineAfter_onLine there]
    exact .inr ⟨rfl, columns⟩
  · rw [newlines_append] at lines
    refine .inl (UInt32.lt_iff_toNat_lt.2 ?_)
    change (lineAfter before).toNat < (lineAfter (before ++ middle)).toNat
    rw [toNat_lineAfter (by omega), toNat_lineAfter (by rw [newlines_append]; omega),
      newlines_append]
    omega

theorem lineColumn_lt {offset' : Nat} {line column line' column' : UInt32}
    (short : byteLength source.toList < UInt32.size - 1) (further : offset < offset')
    (found : lineColumn source offset = .ok (line, column))
    (found' : lineColumn source offset' = .ok (line', column')) :
    line < line' ∨ line = line' ∧ column < column' := by
  obtain ⟨before, after, split, rfl⟩ := exists_split_of_lineColumn found
  obtain ⟨before', after', split', rfl⟩ := exists_split_of_lineColumn found'
  have place := Except.ok.inj (found.symm.trans (lineColumn_of_split split))
  have place' := Except.ok.inj (found'.symm.trans (lineColumn_of_split split'))
  obtain ⟨middle, rfl⟩ : ∃ middle, before' = before ++ middle := by
    rcases List.append_eq_append_iff.1 (split.symm.trans split') with
      ⟨middle, same, -⟩ | ⟨middle, rfl, -⟩
    · exact ⟨middle, same⟩
    · rw [byteLength_append] at further
      omega
  have nonempty : middle ≠ [] := by
    rintro rfl
    simp at further
  have fits : byteLength (before ++ middle) < UInt32.size - 1 := by
    rw [split', byteLength_append] at short
    omega
  have later := placeAfter_lt nonempty fits
  rwa [← place, ← place'] at later

theorem lineText_of_le {line : UInt32} (first : 1 ≤ line.toNat)
    (last : line.toNat ≤ 1 + newlines source.toList) :
    ∃ raw, (rawLines source.toList)[line.toNat - 1]? = some raw ∧
      lineText source line = .ok (String.ofList (withoutReturn raw)) := by
  have within : line.toNat - 1 < (rawLines source.toList).length := by
    rw [length_rawLines]
    omega
  have nonzero : line ≠ 0 := by
    rintro rfl
    cases first
  have known : ¬(line = 0 ∨ (rawLines source.toList).length < line.toNat) := by
    rw [not_or]
    exact ⟨nonzero, by omega⟩
  refine ⟨_, List.getElem?_eq_getElem within, ?_⟩
  simp only [lineText]
  rw [if_neg known, List.getD_eq_getElem?_getD, List.getElem?_eq_getElem within]
  rfl

theorem lineText_of_not_le {line : UInt32}
    (unknown : ¬(1 ≤ line.toNat ∧ line.toNat ≤ 1 + newlines source.toList)) :
    lineText source line = .error (.noSuchLine line (1 + newlines source.toList)) := by
  have count : (rawLines source.toList).length = 1 + newlines source.toList := by
    rw [length_rawLines, Nat.add_comm]
  have none : line = 0 ∨ (rawLines source.toList).length < line.toNat := by
    rw [← UInt32.toNat_inj, UInt32.toNat_zero, count]
    omega
  simp only [lineText]
  rw [if_pos none, count]

/-- How offsets, places and lines of a source go together. -/
structure PlacesCorrespond (source : String) : Prop where
  place : ∀ (offset : Nat) (line column : UInt32), lineColumn source offset = .ok (line, column) ↔
    PlaceOf source.toList offset line.toNat column.toNat
  boundary : ∀ offset, isBoundary source.toList offset = true ↔
    ∃ place, lineColumn source offset = .ok place
  fails : ∀ (offset : Nat) (error : PlaceError), lineColumn source offset = .error error ↔
    byteLength source.toList < offset ∧
        error = .outOfBounds (byteLength source.toList) offset offset ∨
      InsideCharacter source.toList offset ∧ error = .insideCharacter offset
  ascends : ∀ (offset offset' : Nat) (line column line' column' : UInt32),
    lineColumn source offset = .ok (line, column) →
      lineColumn source offset' = .ok (line', column') → offset < offset' →
        line < line' ∨ line = line' ∧ column < column'
  shown : ∀ line : UInt32, 1 ≤ line.toNat → line.toNat ≤ 1 + newlines source.toList →
    ∃ raw, (rawLines source.toList)[line.toNat - 1]? = some raw ∧
      lineText source line = .ok (String.ofList (withoutReturn raw))
  unknown : ∀ line : UInt32, ¬(1 ≤ line.toNat ∧ line.toNat ≤ 1 + newlines source.toList) →
    lineText source line = .error (.noSuchLine line (1 + newlines source.toList))
  joined : ['\n'].intercalate (rawLines source.toList) = source.toList
  separate : ∀ line ∈ rawLines source.toList, '\n' ∉ line

theorem isBoundary_iff : isBoundary source.toList offset = true ↔
    ∃ place, lineColumn source offset = .ok place := by
  rw [isBoundary, Option.isSome_iff_exists]
  constructor
  · rintro ⟨⟨before, after⟩, split⟩
    obtain ⟨split', rfl⟩ := eq_append_of_splitAt? split
    exact ⟨_, lineColumn_of_split split'⟩
  · rintro ⟨place, found⟩
    obtain ⟨before, after, split, rfl⟩ := exists_split_of_lineColumn found
    exact ⟨(before, after), by rw [split, splitAt?_append]⟩

/-- Every offset between two characters has a place of its own, every other offset is refused for
what it is, and each line of the source can be shown, and no other. -/
theorem places_correspond (source : String)
    (short : byteLength source.toList < UInt32.size - 1) : PlacesCorrespond source where
  place _ _ _ := lineColumn_eq_ok_iff short
  boundary _ := isBoundary_iff
  fails _ _ := lineColumn_eq_error_iff
  ascends _ _ _ _ _ _ found found' further := lineColumn_lt short further found found'
  shown _ first last := lineText_of_le first last
  unknown _ unknown := lineText_of_not_le unknown
  joined := by
    rw [rawLines_eq_splitOn]
    exact List.intercalate_splitOn '\n'
  separate _ member := newline_not_mem_of_mem_rawLines member

/-- A source with wide characters, an empty line and carriage returns at two line ends. -/
def mixedLines : String := "é\r\n\n𝄞b\r"

theorem places_correspond_mixed :
    byteLength mixedLines.toList < UInt32.size - 1 ∧
      lineColumn mixedLines 9 = .ok (3, 2) ∧ PlaceOf mixedLines.toList 9 3 2 ∧
      lineColumn mixedLines 6 = .error (.insideCharacter 6) ∧
      InsideCharacter mixedLines.toList 6 ∧
      lineColumn mixedLines 12 = .error (.outOfBounds 11 12 12) ∧
      (∃ raw, (rawLines mixedLines.toList)[2]? = some raw ∧
        lineText mixedLines 3 = .ok (String.ofList (withoutReturn raw))) ∧
      lineText mixedLines 3 = .ok "𝄞b" ∧
      lineText mixedLines 4 = .error (.noSuchLine 4 3) := by
  have short : byteLength mixedLines.toList < UInt32.size - 1 := by decide
  have found : lineColumn mixedLines 9 = .ok (3, 2) := rfl
  have refused : lineColumn mixedLines 6 = .error (.insideCharacter 6) := rfl
  have correspond := places_correspond mixedLines short
  have inside : InsideCharacter mixedLines.toList 6 := by
    rcases (correspond.fails 6 _).1 refused with ⟨-, other⟩ | ⟨inside, -⟩
    · cases other
    · exact inside
  exact ⟨short, found, (correspond.place 9 3 2).1 found, refused, inside,
    (correspond.fails 12 _).2 (.inl ⟨by decide, rfl⟩),
    correspond.shown 3 (by decide) (by decide), rfl, correspond.unknown 4 (by decide)⟩

end ScriptLex.Source
