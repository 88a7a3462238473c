import ScriptLex.Json.Reading
import ScriptLex.Proofs.Reader
import Mathlib.Data.List.Forall2

/-! Reading back what is written as JSON.

A reader takes one value off a text and leaves what is behind it. The only value whose end does not
show in its own text is a number: the text behind it must not make it longer. `Written` states what
every written value has in common, and lists of values inherit it from their items. -/

set_option autoImplicit false

namespace ScriptLex.Json.Reading

open ScriptLex.Text

/-! ### Strings -/

theorem hexValue?_hexPair : ∀ n < 0x20, hexValue? ('0' :: '0' :: hexPair n) = some n := by
  decide

theorem joined?_unit {code : Nat} {c : Char} (whole : isHighSurrogate code = false)
    (named : charOfNumber? code = some c) (others : List Piece) :
    joined? (.unit code :: others) = (joined? others).map (c :: ·) := by
  rcases others with _ | ⟨_ | low, others⟩
  · simp [joined?, named]
  · simp only [joined?, named]
    cases joined? others <;> rfl
  · simp only [joined?, whole, named]
    cases joined? (.unit low :: others) <;> rfl

theorem pieces_plain {c : Char} (quote : c ≠ '"') (backslash : c ≠ '\\')
    (printable : 0x20 ≤ c.toNat) (cs : List Char) :
    pieces (c :: cs) = (pieces cs).map fun (others, rest) => (.char c :: others, rest) := by
  rw [pieces.eq_def]
  simp only [quote, backslash, Nat.not_lt.2 printable, if_false]
  cases pieces cs <;> rfl

theorem pieces_control {n : Nat} (control : n < 0x20) (cs : List Char) :
    pieces (['\\', 'u', '0', '0'] ++ hexPair n ++ cs) =
      (pieces cs).map fun (others, rest) => (.unit n :: others, rest) := by
  have code := hexValue?_hexPair n control
  simp only [hexPair] at code ⊢
  simp only [List.cons_append, List.nil_append, pieces, code]
  cases pieces cs <;> rfl

/-- Each quoted character is read as one piece, and that piece stands for the character whatever
comes next to it. -/
theorem exists_piece (c : Char) (cs : List Char) :
    ∃ piece, (pieces (quotedChar c ++ cs) =
        (pieces cs).map fun (others, rest) => (piece :: others, rest)) ∧
      ∀ others, joined? (piece :: others) = (joined? others).map (c :: ·) := by
  unfold quotedChar
  split
  case h_8 quote backslash _ _ _ _ _ =>
    split
    case isTrue control =>
      have whole : isHighSurrogate c.toNat = false := by
        simp only [isHighSurrogate, Bool.and_eq_false_iff, decide_eq_false_iff_not]
        omega
      exact ⟨.unit c.toNat, pieces_control control cs, joined?_unit whole (charOfNumber?_toNat c)⟩
    case isFalse printable =>
      exact ⟨.char c, pieces_plain quote backslash (Nat.not_lt.1 printable) cs, fun _ => rfl⟩
  -- What is left are the escapes of one letter.
  all_goals
    refine ⟨.char _, ?_, fun _ => rfl⟩
    cases found : pieces cs <;> simp [pieces, escape?, found]

theorem pieces_quote (cs : List Char) : pieces ('"' :: cs) = some ([], cs) := by
  rw [pieces.eq_def]
  rfl

theorem exists_pieces_quoted (cs behind : List Char) :
    ∃ found, pieces (cs.flatMap quotedChar ++ '"' :: behind) = some (found, behind) ∧
      joined? found = some cs := by
  induction cs with
  | nil => exact ⟨[], pieces_quote behind, rfl⟩
  | cons c cs ih =>
    obtain ⟨found, read, joined⟩ := ih
    obtain ⟨piece, first, stands⟩ := exists_piece c (cs.flatMap quotedChar ++ '"' :: behind)
    refine ⟨piece :: found, ?_, ?_⟩
    · rw [List.flatMap_cons, List.append_assoc, first, read]
      rfl
    · rw [stands, joined]
      rfl

theorem stringBody_quoted (text : String) (behind : List Char) :
    stringBody (text.toList.flatMap quotedChar ++ '"' :: behind) = some (some text, behind) := by
  obtain ⟨found, read, joined⟩ := exists_pieces_quoted text.toList behind
  simp [stringBody, read, joined]

theorem toList_quoted (text : String) :
    (quoted text).toList = '"' :: (text.toList.flatMap quotedChar ++ ['"']) := by
  simp [quoted]

/-! ### Numbers -/

/-- The characters that make a number longer. -/
def continues (c : Char) : Bool := isDigit c || c == '.' || c == 'e' || c == 'E'

theorem head?_toDigits {n : Nat} (positive : 0 < n) : (Nat.toDigits 10 n).head? ≠ some '0' := by
  induction n using Nat.strongRecOn with
  | ind n ih =>
    rcases Nat.lt_or_ge n 10 with small | large
    · rw [Nat.toDigits_of_lt_base small, List.head?_cons, ne_eq, Option.some.injEq,
        Nat.digitChar_eq_zero]
      omega
    · rw [Nat.toDigits_of_base_le (by decide) large,
        List.head?_append_of_ne_nil _ Nat.toDigits_ne_nil]
      exact ih (n / 10) (by omega) (by omega)

theorem isDigit_of_mem_toDigits {n : Nat} : ∀ c ∈ Nat.toDigits 10 n, isDigit c = true := by
  intro c member
  have digit := Nat.isDigit_of_mem_toDigits (by decide) (by decide) member
  simpa [isDigit, Char.isDigit, Char.le_def] using digit

theorem wholePart_toDigits (n : Nat) {behind : List Char} (stops : StopsAt continues behind) :
    wholePart (Nat.toDigits 10 n ++ behind) = some (Nat.toDigits 10 n, behind) := by
  have stops' : StopsAt isDigit behind := stops.mono fun c digit => by simp [continues, digit]
  have run : digits (Nat.toDigits 10 n ++ behind) = some (Nat.toDigits 10 n, behind) := by
    rw [digits, takeWhile_run isDigit_of_mem_toDigits stops',
      dropWhile_run isDigit_of_mem_toDigits stops', List.isEmpty_eq_false_iff.2 Nat.toDigits_ne_nil]
    rfl
  have short : ¬((Nat.toDigits 10 n).length > 1 ∧ (Nat.toDigits 10 n).head? = some '0') := by
    rintro ⟨long, zero⟩
    rcases Nat.eq_zero_or_pos n with rfl | positive
    · exact absurd long (by decide)
    · exact head?_toDigits positive zero
  simp only [wholePart, run, Option.bind_eq_bind, Option.bind_some, if_neg short]
  rfl

theorem fractionPart_stops {behind : List Char} (stops : StopsAt continues behind) :
    fractionPart behind = some ([], behind) := by
  unfold fractionPart
  split
  · exact absurd (stopsAt_cons.1 stops) (by decide)
  · rfl

theorem exponentPart_stops {behind : List Char} (stops : StopsAt continues behind) :
    exponentPart behind = some ([], behind) := by
  cases behind with
  | nil => rfl
  | cons c behind =>
    have other : ¬(c = 'e' ∨ c = 'E') := by
      rintro (rfl | rfl) <;> exact absurd (stopsAt_cons.1 stops) (by decide)
    rw [exponentPart.eq_def]
    exact if_neg other

theorem unsigned_toDigits (n : Nat) {behind : List Char} (stops : StopsAt continues behind) :
    unsigned (Nat.toDigits 10 n ++ behind) = some (Nat.toDigits 10 n, behind) := by
  simp [unsigned, wholePart_toDigits n stops, fractionPart_stops stops, exponentPart_stops stops]

theorem value_of_isDigit {c : Char} (digit : isDigit c = true) (depth : Nat) (cs : List Char) :
    value depth (c :: cs) =
      (unsigned (c :: cs)).map fun (literal, rest) => (.number literal, rest) := by
  have whole : number (c :: cs) = unsigned (c :: cs) := by
    unfold number
    split
    case h_1 minus =>
      obtain ⟨rfl, -⟩ := List.cons.inj minus
      exact absurd digit (by decide)
    case h_2 => rfl
  unfold value
  split
  case h_7 => rw [whole]
  all_goals exact absurd digit (by decide)

theorem value_toDigits (n depth : Nat) {behind : List Char} (stops : StopsAt continues behind) :
    value depth (Nat.toDigits 10 n ++ behind) = some (.number (Nat.toDigits 10 n), behind) := by
  have whole := unsigned_toDigits n stops
  obtain ⟨c, cs, written⟩ := List.exists_cons_of_ne_nil (@Nat.toDigits_ne_nil n 10)
  have member : c ∈ Nat.toDigits 10 n := by simp [written]
  rw [written, List.cons_append] at whole ⊢
  rw [value_of_isDigit (isDigit_of_mem_toDigits c member), whole]
  rfl

/-! ### Values in general -/

variable {α : Type} {reader : Reader α} {text gap tail : List Char} {a : α}

def Blank (gap : List Char) : Prop := ∀ c ∈ gap, isBlank c = true

theorem Blank.nil : Blank [] := by simp [Blank]

theorem skipBlank_append (blank : Blank gap) (front : StopsAt isBlank text) :
    skipBlank (gap ++ text) = text := dropWhile_run blank front

theorem continues_of_isBlank {c : Char} (blank : isBlank c = true) : continues c = false := by
  simp only [isBlank, Bool.or_eq_true, beq_iff_eq] at blank
  rcases blank with ((rfl | rfl) | rfl) | rfl <;> rfl

theorem Blank.stopsAt (blank : Blank gap) : StopsAt continues gap := fun c first =>
  continues_of_isBlank (blank c (List.mem_of_mem_head? first))

/-- `Written reader text a`: the text does not begin with a blank, and the reader takes all of it
for `a` if the text behind it does not make a number longer. -/
structure Written (reader : Reader α) (text : List Char) (a : α) : Prop where
  front : ∀ behind, StopsAt isBlank (text ++ behind)
  read : ∀ behind, StopsAt continues behind → reader (text ++ behind) = some (a, behind)

theorem written_string (depth : Nat) (text : String) :
    Written (value depth) (quoted text).toList (.string (some text)) where
  front behind := by
    rw [toList_quoted]
    exact stopsAt_cons.2 rfl
  read behind _ := by
    have body := stringBody_quoted text behind
    simp [toList_quoted, value, body]

theorem written_number (depth n : Nat) :
    Written (value depth) n.repr.toList (.number n.repr.toList) where
  front behind := by
    have digits : StopsAt isBlank (Nat.toDigits 10 n) := by
      intro c first
      have digit := isDigit_of_mem_toDigits c (List.mem_of_mem_head? first)
      cases blank : isBlank c with
      | false => rfl
      | true => simpa [continues, digit] using continues_of_isBlank blank
    rw [Nat.toList_repr]
    exact digits.of_ne_nil Nat.toDigits_ne_nil behind
  read behind stops := by
    rw [Nat.toList_repr]
    exact value_toDigits n depth stops

theorem Written.spaced (written : Written reader text a) (blank : Blank gap) (blank' : Blank tail)
    {behind : List Char} (front : StopsAt isBlank behind) (stops : StopsAt continues behind) :
    spaced reader (gap ++ (text ++ (tail ++ behind))) = some (a, behind) := by
  rw [Reading.spaced, skipBlank_append blank (written.front _),
    written.read _ (blank'.stopsAt.append stops)]
  simp [skipBlank_append blank' front]

/-- A value under its name. -/
def named (name : String) (gap text : List Char) : List Char :=
  (quoted name).toList ++ ':' :: (gap ++ text)

theorem Written.member {reader : Reader Json} {value : Json} (written : Written reader text value)
    (name : String) (blank : Blank gap) :
    Written (member reader) (named name gap text) (some name, value) where
  front behind := by
    rw [named, toList_quoted]
    exact stopsAt_cons.2 rfl
  read behind stops := by
    have body := stringBody_quoted name (':' :: (gap ++ (text ++ behind)))
    have colon : skipBlank (':' :: (gap ++ (text ++ behind))) = ':' :: (gap ++ (text ++ behind)) :=
      rfl
    have gap := skipBlank_append blank (written.front behind)
    simp [named, toList_quoted, Reading.member, body, colon, gap, written.read behind stops]

/-! ### Lists of values -/

variable {texts : List (List Char)} {close : Char} {depth : Nat}

/-- Texts with a comma between each two and the same blanks in front of each. -/
def listed (gap : List Char) (texts : List (List Char)) : List Char :=
  [','].intercalate (texts.map (gap ++ ·))

theorem listed_eq_intercalate (gap : List Char) (nonempty : texts ≠ []) :
    listed gap texts = gap ++ (',' :: gap).intercalate texts := by
  induction texts with
  | nil => exact absurd rfl nonempty
  | cons text texts ih =>
    cases texts with
    | nil => simp [listed]
    | cons text' texts =>
      have others := ih (by simp)
      simp_all [listed]

/-- A character that closes a list of values. -/
def Closes (c : Char) : Prop := c = ']' ∨ c = '}'

theorem Closes.stopsAt (closes : Closes close) (behind : List Char) :
    StopsAt isBlank (close :: behind) ∧ StopsAt continues (close :: behind) := by
  rcases closes with rfl | rfl <;> exact ⟨stopsAt_cons.2 rfl, stopsAt_cons.2 rfl⟩

theorem Closes.ne_comma (closes : Closes close) : close ≠ ',' := by
  rcases closes with rfl | rfl <;> decide

/-- An item with blanks around it, those in front the same for all. -/
def Spaced (reader : Reader α) (gap : List Char) (a : α) (spaced : List Char) : Prop :=
  ∃ text tail, Written reader text a ∧ Blank tail ∧ spaced = gap ++ (text ++ tail)

-- In front of a comma an item has no blanks behind it, only the last one has those of `tail`.
theorem joined_listed {values : List α} (gap : List Char) (blank : Blank tail)
    (items : List.Forall₂ (Written reader) texts values) (nonempty : texts ≠ []) :
    Reader.Joined ',' (Spaced reader gap) values (listed gap texts ++ tail) := by
  induction items with
  | nil => exact absurd rfl nonempty
  | @cons text a texts values item items ih =>
    cases items with
    | nil => exact .last ⟨text, tail, item, blank, by simp [listed]⟩
    | @cons text' a' texts values item' items =>
      have shape : listed gap (text :: text' :: texts) ++ tail =
          gap ++ (text ++ []) ++ ',' :: (listed gap (text' :: texts) ++ tail) := by
        simp [listed]
      rw [shape]
      exact .more ⟨text, [], item, Blank.nil, rfl⟩ (ih (by simp))

theorem separated_listed {values : List α} (blank : Blank gap) (blank' : Blank tail)
    (closes : Closes close) (items : List.Forall₂ (Written reader) texts values)
    (nonempty : texts ≠ []) (behind : List Char) :
    Reader.separated (spaced reader) ',' (listed gap texts ++ (tail ++ close :: behind)) =
      (values, close :: behind) := by
  rw [← List.append_assoc]
  refine (joined_listed gap blank' items nonempty).separated closes.ne_comma ?_
  rintro a _ c behind ⟨text, tail, item, back, rfl⟩ next
  have ends : StopsAt isBlank (c :: behind) ∧ StopsAt continues (c :: behind) := by
    rcases next with rfl | rfl
    · exact ⟨stopsAt_cons.2 rfl, stopsAt_cons.2 rfl⟩
    · exact closes.stopsAt behind
  rw [List.append_assoc, List.append_assoc]
  exact item.spaced blank back ends.1 ends.2

theorem bracketed_listed {values : List α} (blank : Blank gap) (blank' : Blank tail)
    (closes : Closes close) (items : List.Forall₂ (Written reader) texts values)
    (nonempty : texts ≠ []) (behind : List Char) :
    bracketed reader close (listed gap texts ++ (tail ++ close :: behind)) =
      some (values, behind) := by
  have closed : skipBlank (close :: behind) = close :: behind :=
    skipBlank_append Blank.nil (closes.stopsAt behind).1
  simp [bracketed, separated_listed blank blank' closes items nonempty, closed]

theorem written_array {values : List Json} (blank : Blank gap) (blank' : Blank tail)
    (items : List.Forall₂ (Written (value depth)) texts values) (nonempty : texts ≠ []) :
    Written (value (depth + 1)) ('[' :: (listed gap texts ++ (tail ++ [']']))) (.array values) where
  front _ := stopsAt_cons.2 rfl
  read behind _ := by
    have closed := bracketed_listed blank blank' (.inl rfl) items nonempty behind
    simp [value, closed]

theorem written_object {members : List (Option String × Json)} (blank : Blank gap)
    (blank' : Blank tail)
    (items : List.Forall₂ (Written (member (value depth))) texts members) (nonempty : texts ≠ []) :
    Written (value (depth + 1)) ('{' :: (listed gap texts ++ (tail ++ ['}'])))
      (.object members) where
  front _ := stopsAt_cons.2 rfl
  read behind _ := by
    have closed := bracketed_listed blank blank' (.inr rfl) items nonempty behind
    simp [value, closed]

theorem written_empty_array (depth : Nat) : Written (value (depth + 1)) ['[', ']'] (.array []) where
  front _ := stopsAt_cons.2 rfl
  read behind _ := by
    have none : value depth (']' :: behind) = none := by
      simp [value, number, unsigned, wholePart, digits, isDigit]
    have closed : skipBlank (']' :: behind) = ']' :: behind := rfl
    simp [value, bracketed, Reader.separated, Reading.spaced, closed, none]

/-- A text is read as the value that is written in it, blanks behind it aside. As many levels of
brackets as the text has characters are enough. -/
theorem read?_of_written {text : String} {front tail : List Char} {a : Json} {levels : Nat}
    (shape : text.toList = front ++ tail) (blank : Blank tail)
    (deep : levels ≤ text.toList.length)
    (written : ∀ depth, Written (value (depth + levels)) front a) : read? text = some a := by
  obtain ⟨depth, length⟩ := Nat.exists_eq_add_of_le' deep
  have whole := (written depth).spaced Blank.nil blank (stopsAt_nil isBlank) (stopsAt_nil continues)
  rw [List.append_nil, List.nil_append, ← shape, ← length] at whole
  simp [read?, whole]

end ScriptLex.Json.Reading
