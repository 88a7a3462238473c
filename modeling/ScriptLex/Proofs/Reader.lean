import ScriptLex.Proofs.Text
import ScriptLex.Text.Reader

/-! Lists that a reader takes off a text item by item. -/

set_option autoImplicit false

namespace ScriptLex.Text.Reader

variable {α : Type} {reader : Reader α} {a : α} {cs rest last : List Char} {others : List α}

/-! ### Items one after the other -/

theorem many_none (refuses : reader cs = none) : many reader cs = ([], cs) := by
  rw [many, refuses]

theorem many_more (read : reader cs = some (a, rest)) (shorter : rest.length < cs.length)
    (more : many reader rest = (others, last)) : many reader cs = (a :: others, last) := by
  rw [many, read]
  simp only [dif_pos shorter, more]

/-! ### Items with marks between them -/

theorem separated_none {mark : Char} (refuses : reader cs = none) :
    separated reader mark cs = ([], cs) := by
  rw [separated, refuses]

theorem separated_last {c mark : Char} (read : reader cs = some (a, c :: rest)) (other : c ≠ mark) :
    separated reader mark cs = ([a], c :: rest) := by
  rw [separated, read]
  simp [other]

theorem separated_more {mark : Char} {b : α} (read : reader cs = some (a, mark :: rest))
    (shorter : rest.length < cs.length)
    (more : separated reader mark rest = (b :: others, last)) :
    separated reader mark cs = (a :: b :: others, last) := by
  rw [separated, read]
  simp [shorter, more]

/-- `Joined mark spells items text`: the items are spelled one after the other with a mark between
each two. -/
inductive Joined (mark : Char) (spells : α → List Char → Prop) : List α → List Char → Prop where
  | last {item : α} {text : List Char} (spelled : spells item text) :
      Joined mark spells [item] text
  | more {item : α} {items : List α} {text rest : List Char} (spelled : spells item text)
      (joined : Joined mark spells items rest) :
      Joined mark spells (item :: items) (text ++ mark :: rest)

theorem Joined.ne_nil {mark : Char} {spells : α → List Char → Prop} {items : List α}
    {text : List Char} (joined : Joined mark spells items text) : items ≠ [] := by
  cases joined with
  | last | more => exact List.cons_ne_nil _ _

/-- Every item is taken off if the reader takes it in front of a mark and in front of what closes
the list. -/
theorem Joined.separated {mark close : Char} {spells : α → List Char → Prop} {items : List α}
    {text behind : List Char} (joined : Joined mark spells items text) (other : close ≠ mark)
    (reads : ∀ {item text c} behind, spells item text → c = mark ∨ c = close →
      reader (text ++ c :: behind) = some (item, c :: behind)) :
    Reader.separated reader mark (text ++ close :: behind) = (items, close :: behind) := by
  induction joined with
  | last spelled => exact separated_last (reads behind spelled (.inr rfl)) other
  | @more item items text rest spelled joined ih =>
    obtain ⟨second, others, rfl⟩ := List.exists_cons_of_ne_nil joined.ne_nil
    rw [List.append_assoc, List.cons_append]
    refine separated_more (reads _ spelled (.inl rfl)) ?_ ih
    simp only [List.length_append, List.length_cons]
    omega

end ScriptLex.Text.Reader
