import ScriptLex.Scanner.Rule

/-! Every rule that reads a token consumes text, and a rule that declines has not moved. Together
they are why scanning ends. -/

set_option autoImplicit false

namespace ScriptLex

theorem Cursor.advance_rest_length_lt {cursor : Cursor} {c : Char}
    (here : cursor.current? = some c) : cursor.advance.rest.length < cursor.rest.length := by
  rw [current?] at here
  cases text : cursor.rest with
  | nil => simp [text] at here
  | cons _ rest => simp [advance_rest_cons text]

theorem Cursor.advance_rest_length_le (cursor : Cursor) :
    cursor.advance.rest.length ≤ cursor.rest.length := by
  simp [advance_rest]

theorem Cursor.takeWhile_rest_length_le (p : Char → Bool) (cursor : Cursor) :
    (cursor.takeWhile p).2.rest.length ≤ cursor.rest.length := by
  have := takeWhile_rest_length p cursor
  omega

/-- A run is not empty if the character under the cursor belongs to it. -/
theorem Cursor.takeWhile_rest_length_lt {p : Char → Bool} {cursor : Cursor} {c : Char}
    (here : cursor.current? = some c) (holds : p c = true) :
    (cursor.takeWhile p).2.rest.length < cursor.rest.length := by
  have count := takeWhile_rest_length p cursor
  suffices 0 < (cursor.takeWhile p).1.length by omega
  rw [current?] at here
  rw [takeWhile]
  split
  case h_1 empty => simp [empty] at here
  case h_2 d rest text =>
    obtain rfl : d = c := by simpa [text] using here
    simp [holds]

/-- An empty run leaves the cursor where it was. -/
theorem Cursor.takeWhile_eq_self {p : Char → Bool} {cursor : Cursor}
    (empty : (cursor.takeWhile p).1 = []) : (cursor.takeWhile p).2 = cursor := by
  rw [takeWhile] at empty ⊢
  split
  case h_1 => rfl
  case h_2 c rest text =>
    rw [text] at empty
    split
    case isTrue holds => simp [holds] at empty
    case isFalse => rfl

namespace Scanner

/-- A rule makes progress if every token it reads takes some text. -/
def Rule.MakesProgress (rule : Rule) : Prop :=
  ∀ {vocabulary : Vocabulary} {cursor after : Cursor} {token : Token},
    rule vocabulary cursor = (.token token, after) → after.rest.length < cursor.rest.length

namespace Rule

theorem symbol_makesProgress : MakesProgress symbol := by
  intro vocabulary cursor after token read
  unfold symbol at read
  split at read
  case h_1 => simp at read
  case h_2 c here =>
    split at read
    case isTrue => simp at read
    case isFalse =>
      split at read
      case h_1 => simp at read
      case h_2 =>
        obtain ⟨-, rfl⟩ := Prod.mk.inj read
        exact Cursor.advance_rest_length_lt here

theorem comparison_makesProgress : MakesProgress comparison := by
  intro vocabulary cursor after token read
  unfold comparison at read
  split at read
  case h_1 => simp at read
  case h_2 c here =>
    dsimp only at read
    split at read
    case h_1 => simp at read
    case h_2 =>
      have first := Cursor.advance_rest_length_lt here
      split at read
      case isTrue =>
        obtain ⟨-, rfl⟩ := Prod.mk.inj read
        exact Nat.lt_of_le_of_lt (Cursor.advance_rest_length_le _) first
      case isFalse =>
        obtain ⟨-, rfl⟩ := Prod.mk.inj read
        exact first

theorem slash_makesProgress : MakesProgress slash := by
  intro vocabulary cursor after token read
  unfold slash at read
  split at read
  case isTrue here =>
    split at read
    case isTrue =>
      obtain ⟨-, rfl⟩ := Prod.mk.inj read
      exact Nat.lt_of_le_of_lt (Cursor.advance_rest_length_le _)
        (Cursor.takeWhile_rest_length_lt here (by decide))
    case isFalse =>
      obtain ⟨-, rfl⟩ := Prod.mk.inj read
      exact Cursor.advance_rest_length_lt here
  case isFalse => simp at read

theorem quoted_makesProgress : MakesProgress quoted := by
  intro vocabulary cursor after token read
  unfold quoted at read
  split at read
  case isTrue here =>
    dsimp only at read
    split at read
    case isTrue =>
      obtain ⟨-, rfl⟩ := Prod.mk.inj read
      exact Nat.lt_of_le_of_lt (Cursor.advance_rest_length_le _)
        (Nat.lt_of_le_of_lt (Cursor.takeWhile_rest_length_le _ _)
          (Cursor.advance_rest_length_lt here))
    case isFalse => simp at read
  case isFalse => simp at read

theorem number_makesProgress : MakesProgress number := by
  intro vocabulary cursor after token read
  unfold number at read
  split at read
  case isTrue start =>
    obtain ⟨c, here, starts⟩ := (Option.any_eq_true _ _).1 start
    dsimp only at read
    split at read
    case isTrue point =>
      split at read
      case isTrue => simp at read
      case isFalse =>
        obtain ⟨-, rfl⟩ := Prod.mk.inj read
        exact Nat.lt_of_le_of_lt (Cursor.takeWhile_rest_length_le _ _)
          (Nat.lt_of_lt_of_le (Cursor.advance_rest_length_lt point)
            (Cursor.takeWhile_rest_length_le _ _))
    case isFalse noPoint =>
      obtain ⟨-, rfl⟩ := Prod.mk.inj read
      cases digit : isDigit c with
      | true => exact Cursor.takeWhile_rest_length_lt here digit
      | false =>
        obtain rfl : c = '.' := by simpa [isNumberStart, digit] using starts
        refine absurd ?_ noPoint
        have text := here
        rw [Cursor.current?] at text
        rw [Cursor.takeWhile]
        split
        case h_1 empty => simp [empty] at text
        case h_2 d rest same =>
          obtain rfl : d = '.' := by simpa [same] using text
          simp [digit, here]
  case isFalse => simp at read

theorem word_makesProgress : MakesProgress word := by
  intro vocabulary cursor after token read
  unfold word at read
  dsimp only at read
  split at read
  case isTrue => simp at read
  case isFalse some =>
    obtain ⟨-, rfl⟩ := Prod.mk.inj read
    have count := Cursor.takeWhile_rest_length isLetter cursor
    have positive : 0 < (cursor.takeWhile isLetter).1.length :=
      List.length_pos_iff.2 (by simpa using some)
    omega

/-- A rule declines in place if it has not moved when it declines. -/
def DeclinesInPlace (rule : Rule) : Prop :=
  ∀ {vocabulary : Vocabulary} {cursor after : Cursor},
    rule vocabulary cursor = (.declined, after) → after = cursor

theorem symbol_declinesInPlace : DeclinesInPlace symbol := by
  intro vocabulary cursor after read
  unfold symbol at read
  split at read
  case h_1 => exact (Prod.mk.inj read).2.symm
  case h_2 =>
    split at read
    case isTrue => exact (Prod.mk.inj read).2.symm
    case isFalse =>
      split at read
      case h_1 => exact (Prod.mk.inj read).2.symm
      case h_2 => simp at read

theorem comparison_declinesInPlace : DeclinesInPlace comparison := by
  intro vocabulary cursor after read
  unfold comparison at read
  split at read
  case h_1 => exact (Prod.mk.inj read).2.symm
  case h_2 =>
    dsimp only at read
    split at read
    case h_1 => exact (Prod.mk.inj read).2.symm
    case h_2 => split at read <;> simp at read

theorem slash_declinesInPlace : DeclinesInPlace slash := by
  intro vocabulary cursor after read
  unfold slash at read
  split at read
  case isTrue => split at read <;> simp at read
  case isFalse => exact (Prod.mk.inj read).2.symm

theorem quoted_declinesInPlace : DeclinesInPlace quoted := by
  intro vocabulary cursor after read
  unfold quoted at read
  split at read
  case isTrue => dsimp only at read; split at read <;> simp at read
  case isFalse => exact (Prod.mk.inj read).2.symm

theorem number_declinesInPlace : DeclinesInPlace number := by
  intro vocabulary cursor after read
  unfold number at read
  split at read
  case isTrue =>
    dsimp only at read
    split at read
    case isTrue => split at read <;> simp at read
    case isFalse => simp at read
  case isFalse => exact (Prod.mk.inj read).2.symm

theorem word_declinesInPlace : DeclinesInPlace word := by
  intro vocabulary cursor after read
  unfold word at read
  dsimp only at read
  split at read
  case isTrue none =>
    obtain ⟨-, rfl⟩ := Prod.mk.inj read
    exact Cursor.takeWhile_eq_self (by simpa using none)
  case isFalse => simp at read

theorem all_declineInPlace : ∀ rule ∈ all, DeclinesInPlace rule := by
  intro rule member
  simp only [all, List.mem_cons, List.not_mem_nil, or_false] at member
  rcases member with rfl | rfl | rfl | rfl | rfl | rfl
  · exact symbol_declinesInPlace
  · exact comparison_declinesInPlace
  · exact slash_declinesInPlace
  · exact quoted_declinesInPlace
  · exact number_declinesInPlace
  · exact word_declinesInPlace

theorem all_makeProgress : ∀ rule ∈ all, MakesProgress rule := by
  intro rule member
  simp only [all, List.mem_cons, List.not_mem_nil, or_false] at member
  rcases member with rfl | rfl | rfl | rfl | rfl | rfl
  · exact symbol_makesProgress
  · exact comparison_makesProgress
  · exact slash_makesProgress
  · exact quoted_makesProgress
  · exact number_makesProgress
  · exact word_makesProgress

end Rule

end Scanner

end ScriptLex
