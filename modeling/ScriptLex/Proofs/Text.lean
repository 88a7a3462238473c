import ScriptLex.Text.Bytes
import ScriptLex.Text.Hex
import ScriptLex.Text.Lines

/-! Runs of characters, and how bytes and lines add up along a text. -/

set_option autoImplicit false

namespace ScriptLex.Text

/-- A text that does not go on with `p`: it is empty or its first character is another one. -/
def StopsAt (p : Char → Bool) (text : List Char) : Prop := ∀ c ∈ text.head?, p c = false

@[simp] theorem stopsAt_nil (p : Char → Bool) : StopsAt p [] := by simp [StopsAt]

@[simp] theorem stopsAt_cons {p : Char → Bool} {c : Char} {text : List Char} :
    StopsAt p (c :: text) ↔ p c = false := by simp [StopsAt]

theorem StopsAt.mono {p q : Char → Bool} {text : List Char} (stops : StopsAt p text)
    (weaker : ∀ c, q c = true → p c = true) : StopsAt q text := by
  intro c first
  have fails := stops c first
  cases holds : q c with
  | false => rfl
  | true => simp [weaker c holds] at fails

theorem StopsAt.or {p q : Char → Bool} {text : List Char} (first : StopsAt p text)
    (second : StopsAt q text) : StopsAt (fun c => p c || q c) text := by
  intro c member
  simp [first c member, second c member]

theorem StopsAt.append {p : Char → Bool} {first second : List Char} (stops : StopsAt p first)
    (stops' : StopsAt p second) : StopsAt p (first ++ second) := by
  cases first with
  | nil => exact stops'
  | cons c first => simpa using stops

theorem StopsAt.of_ne_nil {p : Char → Bool} {text : List Char} (stops : StopsAt p text)
    (nonempty : text ≠ []) (more : List Char) : StopsAt p (text ++ more) := by
  obtain ⟨c, text, rfl⟩ := List.exists_cons_of_ne_nil nonempty
  exact stops

theorem stopsAt_dropWhile (p : Char → Bool) (text : List Char) : StopsAt p (text.dropWhile p) := by
  intro c first
  have last := List.head?_dropWhile_not p text
  rw [Option.mem_def.1 first] at last
  exact last

theorem of_mem_takeWhile {p : Char → Bool} {text : List Char} :
    ∀ c ∈ text.takeWhile p, p c = true :=
  List.all_eq_true.1 List.all_takeWhile

theorem StopsAt.takeWhile {p : Char → Bool} {text : List Char} (stops : StopsAt p text) :
    text.takeWhile p = [] := by
  cases text with
  | nil => rfl
  | cons c text => exact List.takeWhile_cons_of_neg (by simpa using stops)

/-- A run that the rest of a text does not continue is what `takeWhile` finds. -/
theorem takeWhile_run {p : Char → Bool} {run after : List Char} (within : ∀ c ∈ run, p c = true)
    (stops : StopsAt p after) : (run ++ after).takeWhile p = run := by
  rw [List.takeWhile_append_of_pos within, stops.takeWhile, List.append_nil]

theorem dropWhile_run {p : Char → Bool} {run after : List Char} (within : ∀ c ∈ run, p c = true)
    (stops : StopsAt p after) : (run ++ after).dropWhile p = after := by
  have whole := @List.takeWhile_append_dropWhile _ p (run ++ after)
  rw [takeWhile_run within stops] at whole
  exact List.append_cancel_left whole

/-- Every text is a run followed by what does not continue it. -/
theorem exists_run (p : Char → Bool) (text : List Char) :
    ∃ run after, text = run ++ after ∧ (∀ c ∈ run, p c = true) ∧ StopsAt p after :=
  ⟨text.takeWhile p, text.dropWhile p, List.takeWhile_append_dropWhile.symm, of_mem_takeWhile,
    stopsAt_dropWhile p text⟩

/-- Every text is one line, with nothing behind it or a newline. -/
theorem exists_line (text : List Char) : ∃ body after, text = body ++ after ∧
    (∀ c ∈ body, c ≠ '\n') ∧ (after = [] ∨ ∃ more, after = '\n' :: more) := by
  obtain ⟨body, after, rfl, within, stops⟩ := exists_run (· != '\n') text
  have line : ∀ c ∈ body, c ≠ '\n' := fun c member => by simpa using within c member
  cases after with
  | nil => exact ⟨body, [], rfl, line, .inl rfl⟩
  | cons c more =>
    obtain rfl : c = '\n' := by simpa using stops
    exact ⟨body, '\n' :: more, rfl, line, .inr ⟨more, rfl⟩⟩

/-- The part in front of the first character outside `p` does not depend on how it is cut off. -/
theorem run_unique {p : Char → Bool} {run run' after after' : List Char}
    (within : ∀ c ∈ run, p c = true) (stops : StopsAt p after)
    (within' : ∀ c ∈ run', p c = true) (stops' : StopsAt p after')
    (same : run ++ after = run' ++ after') : run = run' ∧ after = after' := by
  have runs := takeWhile_run within stops
  rw [same, takeWhile_run within' stops'] at runs
  subst runs
  exact ⟨rfl, List.append_cancel_left same⟩

/-- A run that the rest of a text does not continue is the longest one. -/
theorem run_longest {p : Char → Bool} {run after front behind : List Char}
    (within : ∀ c ∈ run, p c = true) (stops : StopsAt p after) (within' : ∀ c ∈ front, p c = true)
    (same : run ++ after = front ++ behind) : ∃ more, run = front ++ more := by
  have whole := takeWhile_run within stops
  rw [same, List.takeWhile_append_of_pos within'] at whole
  exact ⟨_, whole.symm⟩

theorem isDigit_of_mem_repr {n : Nat} : ∀ c ∈ n.repr.toList, c.isDigit = true := fun c member =>
  Nat.isDigit_of_mem_toDigits (by decide) (by decide)
    (show c ∈ Nat.toDigits 10 n by simpa [Nat.repr] using member)

theorem charOfNumber?_toNat (c : Char) : charOfNumber? c.toNat = some c := by
  have valid : c.toNat.isValidChar := c.valid
  rw [charOfNumber?, if_pos valid, Char.ofNat_toNat]

theorem newlines_eq_zero {cs : List Char} (within : ∀ c ∈ cs, c ≠ '\n') : newlines cs = 0 :=
  List.count_eq_zero.2 fun member => within '\n' member rfl

theorem byteLength_pos {cs : List Char} (nonempty : cs ≠ []) : 0 < byteLength cs := by
  obtain ⟨c, cs, rfl⟩ := List.exists_cons_of_ne_nil nonempty
  have width : 0 < c.utf8Size := c.utf8Size_pos
  rw [byteLength_cons]
  omega

/-- The line that is reached after a text. -/
def lineAfter (before : List Char) : UInt32 := UInt32.ofNat (newlines before) + 1

@[simp] theorem lineAfter_nil : lineAfter [] = 1 := rfl

theorem toNat_ofNat_succ {n : Nat} (small : n < UInt32.size - 1) :
    (UInt32.ofNat n + 1).toNat = n + 1 := by
  have limit : UInt32.size = 4294967296 := rfl
  have word : (UInt32.ofNat n).toNat = n := UInt32.toNat_ofNat_of_lt' (by omega)
  rw [UInt32.toNat_add, word, UInt32.toNat_one]
  omega

/-- Line numbers do not wrap around in a text of fewer than 2³² - 1 newlines. -/
theorem toNat_lineAfter {before : List Char} (few : newlines before < UInt32.size - 1) :
    (lineAfter before).toNat = newlines before + 1 := toNat_ofNat_succ few

theorem lineAfter_ne_zero {before : List Char} (few : newlines before < UInt32.size - 1) :
    lineAfter before ≠ 0 := by
  intro zero
  have number := toNat_lineAfter few
  rw [zero] at number
  cases number

theorem toNat_eq_iff_eq_lineAfter {line : UInt32} {before : List Char}
    (few : newlines before < UInt32.size - 1) :
    line.toNat = 1 + newlines before ↔ line = lineAfter before := by
  rw [← UInt32.toNat_inj, toNat_lineAfter few, Nat.add_comm]

end ScriptLex.Text
