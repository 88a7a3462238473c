import ScriptLex.Scanner.CharClass

/-! The character classes have no character in common. -/

set_option autoImplicit false

namespace ScriptLex.Scanner

theorem isDigit_iff {c : Char} : isDigit c = true ↔ 48 ≤ c.toNat ∧ c.toNat ≤ 57 := by
  simp only [isDigit, Bool.and_eq_true, decide_eq_true_eq, Char.le_def, UInt32.le_iff_toNat_le]
  rfl

theorem isLetter_iff {c : Char} :
    isLetter c = true ↔ (97 ≤ c.toNat ∧ c.toNat ≤ 122) ∨ (65 ≤ c.toNat ∧ c.toNat ≤ 90) := by
  simp only [isLetter, Bool.or_eq_true, Bool.and_eq_true, decide_eq_true_eq, Char.le_def,
    UInt32.le_iff_toNat_le]
  rfl

theorem isNumberStart_iff {c : Char} : isNumberStart c = true ↔ isDigit c = true ∨ c = '.' := by
  simp [isNumberStart]

theorem isNumberStart_of_isLetter {c : Char} (letter : isLetter c = true) :
    isNumberStart c = false := by
  apply Bool.eq_false_iff.2
  intro start
  rw [isLetter_iff] at letter
  rcases isNumberStart_iff.1 start with digit | rfl
  · rw [isDigit_iff] at digit
    omega
  · simp at letter

/-- The characters, digits and letters apart, at which a rule other than that of symbols starts. -/
def signs : List Char := ['<', '>', '=', '!', '/', '"']

theorem not_mem_signs_of_isNumberStart {c : Char} (start : isNumberStart c = true) :
    c ∉ signs := by
  have none : signs.all (fun d => !isNumberStart d) = true := by decide
  intro member
  have other := List.all_eq_true.1 none c member
  simp [start] at other

theorem not_mem_signs_of_isLetter {c : Char} (letter : isLetter c = true) : c ∉ signs := by
  have none : signs.all (fun d => !isLetter d) = true := by decide
  intro member
  have other := List.all_eq_true.1 none c member
  simp [letter] at other

theorem isStringBody_iff {c : Char} : isStringBody c = true ↔ c ≠ '"' ∧ c ≠ '\n' := by
  simp [isStringBody]

theorem isSeparator_iff {c : Char} : isSeparator c = true ↔ c = ' ' ∨ c = '\r' ∨ c = '\n' := by
  simp [isSeparator, isBlank, or_assoc]

theorem isSeparator_of_class {c : Char} (other : isNumberStart c = true ∨ isLetter c = true) :
    isSeparator c = false := by
  apply Bool.eq_false_iff.2
  intro blank
  rcases isSeparator_iff.1 blank with rfl | rfl | rfl <;> revert other <;> decide

theorem isNumberStart_of_isSeparator {c : Char} (blank : isSeparator c = true) :
    isNumberStart c = false := by
  apply Bool.eq_false_iff.2
  intro start
  simp [isSeparator_of_class (.inl start)] at blank

theorem isLetter_of_isSeparator {c : Char} (blank : isSeparator c = true) :
    isLetter c = false := by
  apply Bool.eq_false_iff.2
  intro letter
  simp [isSeparator_of_class (.inr letter)] at blank

end ScriptLex.Scanner
