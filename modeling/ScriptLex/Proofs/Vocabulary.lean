import ScriptLex.Proofs.Rule

/-! Look-up in the standard vocabulary. -/

set_option autoImplicit false

namespace ScriptLex.Vocabulary

open ScriptLex.Scanner

theorem lookup_reverse_eq_some_iff {K : Type} [BEq K] [LawfulBEq K] {V : Type}
    {entries : List (K × V)} (distinct : (entries.map Prod.fst).Nodup) {key : K} {value : V} :
    entries.reverse.lookup key = some value ↔ (key, value) ∈ entries := by
  rw [List.lookup_eq_some_iff]
  constructor
  · rintro ⟨first, last, split, -⟩
    rw [← List.mem_reverse, split]
    simp
  · intro member
    obtain ⟨first, last, split⟩ := List.append_of_mem member
    refine ⟨last.reverse, first.reverse, by simp [split], fun entry later => ?_⟩
    -- A later entry for the same key would be a second one.
    rw [split, List.map_append, List.map_cons, List.nodup_append, List.nodup_cons] at distinct
    rw [bne_iff_ne]
    rintro rfl
    exact distinct.2.1.1 (List.mem_map.2 ⟨entry, List.mem_reverse.1 later, rfl⟩)

theorem symbol?_standard {c : Char} {kind : Kind} :
    standard.symbol? c = some kind ↔ (c, kind) ∈ standard.symbols :=
  lookup_reverse_eq_some_iff (by decide)

theorem word?_standard {word : String} {kind : Kind} :
    standard.word? word = some kind ↔ (word, kind) ∈ standard.words :=
  lookup_reverse_eq_some_iff (by decide)

theorem symbol?_standard_none {c : Char} :
    standard.symbol? c = none ↔ ∀ kind, (c, kind) ∉ standard.symbols := by
  simp only [Option.eq_none_iff_forall_ne_some, Ne, symbol?_standard]

theorem word?_standard_none {word : String} :
    standard.word? word = none ↔ ∀ kind, (word, kind) ∉ standard.words := by
  simp only [Option.eq_none_iff_forall_ne_some, Ne, word?_standard]

/-- The characters of the standard symbols belong to no other class. -/
theorem symbol?_standard_class {c : Char} {kind : Kind} (listed : standard.symbol? c = some kind) :
    isSeparator c = false ∧ isNumberStart c = false ∧ isLetter c = false ∧
      c ≠ '<' ∧ c ≠ '>' ∧ c ≠ '/' ∧ c ≠ '"' := by
  have all : ∀ entry ∈ standard.symbols, isSeparator entry.1 = false ∧
      isNumberStart entry.1 = false ∧ isLetter entry.1 = false ∧
      entry.1 ≠ '<' ∧ entry.1 ≠ '>' ∧ entry.1 ≠ '/' ∧ entry.1 ≠ '"' := by decide
  exact all (c, kind) (symbol?_standard.1 listed)

theorem symbol?_standard_eq_none {c : Char} (other : isNumberStart c = true ∨ isLetter c = true) :
    standard.symbol? c = none := by
  cases listed : standard.symbol? c with
  | none => rfl
  | some kind =>
    have classes := symbol?_standard_class listed
    simp [classes.2.1, classes.2.2.1] at other

theorem unlisted_standard {run : List Char}
    (other : ∀ c ∈ run, isNumberStart c = true ∨ isLetter c = true) :
    Unlisted standard run := fun c first =>
  symbol?_standard_eq_none (other c (List.mem_of_mem_head? first))

theorem word?_standard_letters {run : List Char} {kind : Kind}
    (listed : standard.word? (String.ofList run) = some kind) :
    run ≠ [] ∧ (∀ c ∈ run, isLetter c = true) ∧ kind ≠ .ignored := by
  have all : ∀ entry ∈ standard.words, entry.1.toList ≠ [] ∧
      entry.1.toList.all isLetter = true ∧ entry.2 ≠ .ignored := by decide
  simpa using all (String.ofList run, kind) (word?_standard.1 listed)

theorem symbol?_standard_ne_ignored {c : Char} : standard.symbol? c ≠ some .ignored := by
  have all : ∀ entry ∈ standard.symbols, entry.2 ≠ .ignored := by decide
  exact fun listed => all _ (symbol?_standard.1 listed) rfl

end ScriptLex.Vocabulary
