/-! Byte lengths and byte offsets of character sequences.

Offsets count the bytes of the UTF-8 form. An offset is usable only where one
character ends and the next begins; `splitAt?` refuses every other one. -/

set_option autoImplicit false

namespace ScriptLex.Text

def byteLength : List Char → Nat
  | [] => 0
  | c :: cs => c.utf8Size + byteLength cs

@[simp] theorem byteLength_nil : byteLength [] = 0 := rfl

@[simp] theorem byteLength_cons (c : Char) (cs : List Char) :
    byteLength (c :: cs) = c.utf8Size + byteLength cs := rfl

@[simp] theorem byteLength_append (as bs : List Char) :
    byteLength (as ++ bs) = byteLength as + byteLength bs := by
  induction as with
  | nil => simp
  | cons c as ih => simp [ih, Nat.add_assoc]

/-- The characters before and after a byte offset, if the offset stands between two characters. -/
def splitAt? : List Char → Nat → Option (List Char × List Char)
  | cs, 0 => some ([], cs)
  | [], _ + 1 => none
  | c :: cs, n + 1 =>
    if c.utf8Size ≤ n + 1 then
      (splitAt? cs (n + 1 - c.utf8Size)).map fun parts => (c :: parts.1, parts.2)
    else none

theorem splitAt?_zero (cs : List Char) : splitAt? cs 0 = some ([], cs) := by
  cases cs <;> rfl

/-- Splitting inverts concatenation. -/
theorem splitAt?_append (as bs : List Char) :
    splitAt? (as ++ bs) (byteLength as) = some (as, bs) := by
  induction as with
  | nil => simp [splitAt?_zero]
  | cons c as ih =>
    have positive : 0 < c.utf8Size := c.utf8Size_pos
    obtain ⟨n, width⟩ : ∃ n, c.utf8Size + byteLength as = n + 1 :=
      Nat.exists_eq_add_one.2 (by omega)
    have within : c.utf8Size ≤ n + 1 := by omega
    have left : n + 1 - c.utf8Size = byteLength as := by omega
    simp [width, splitAt?, within, left, ih]

/-- Whatever is split off is a decomposition of the text at that offset. -/
theorem eq_append_of_splitAt? {cs as bs : List Char} {n : Nat}
    (split : splitAt? cs n = some (as, bs)) : cs = as ++ bs ∧ byteLength as = n := by
  induction cs generalizing n as bs with
  | nil =>
    cases n with
    | zero => simp [splitAt?] at split; simp [split]
    | succ n => simp [splitAt?] at split
  | cons c cs ih =>
    cases n with
    | zero => simp [splitAt?] at split; simp [split]
    | succ n =>
      rw [splitAt?] at split
      split at split
      case isTrue within =>
        obtain ⟨⟨as', bs'⟩, inner, same⟩ := Option.map_eq_some_iff.1 split
        obtain ⟨rfl, rfl⟩ := Prod.mk.inj same
        obtain ⟨rfl, length⟩ := ih inner
        refine ⟨rfl, ?_⟩
        simp only [byteLength_cons]
        omega
      case isFalse => cases split

/-- An offset splits a text exactly where it is the length of a leading part. -/
theorem splitAt?_eq_some_iff {cs as bs : List Char} {n : Nat} :
    splitAt? cs n = some (as, bs) ↔ cs = as ++ bs ∧ byteLength as = n :=
  ⟨eq_append_of_splitAt?, fun h => h.1 ▸ h.2 ▸ splitAt?_append as bs⟩

/-- Whether a byte offset stands between two characters, or at either end. -/
def isBoundary (cs : List Char) (offset : Nat) : Bool := (splitAt? cs offset).isSome

def slice? (cs : List Char) (start stop : Nat) : Option (List Char) := do
  let (_, rest) ← splitAt? cs start
  if start ≤ stop then
    let (part, _) ← splitAt? rest (stop - start)
    return part
  else none

end ScriptLex.Text
