import ScriptLex.Proofs.ByteCursor
import ScriptLex.Proofs.CharClass

/-! Separators are skipped in one pass.

Skipping them is a loop of two moves, over blanks and over line breaks, that ends with the first
round without a line break. Nothing in it bounds the number of rounds, and blanks have no part in
the test. What a round does to the text in front settles both: it takes away as many newlines as it
counts, and it stays within what one move over separators goes over. -/

set_option autoImplicit false

namespace ScriptLex

open ScriptLex.Text ScriptLex.Scanner

/-! ### Loops -/

/-- `Repeats round start rounds stop`: doing `round` until it counts nothing leads from `start` to
`stop`, with `rounds` rounds before the last one. A round without a result leads nowhere. -/
inductive Repeats {S : Type} (round : S → Option (Nat × S)) : S → Nat → S → Prop where
  | last {start stop : S} (idle : round start = some (0, stop)) : Repeats round start 0 stop
  | again {start next stop : S} {count rounds : Nat}
      (counted : round start = some (count + 1, next)) (more : Repeats round next rounds stop) :
      Repeats round start (rounds + 1) stop

namespace Repeats

variable {S T : Type} {round : S → Option (Nat × S)} {round' : T → Option (Nat × T)}
variable {start stop stop' : S} {rounds rounds' : Nat}

theorem unique (loop : Repeats round start rounds stop)
    (loop' : Repeats round start rounds' stop') : rounds' = rounds ∧ stop' = stop := by
  induction loop generalizing rounds' with
  | last idle =>
    cases loop' with
    | last idle' => simpa [idle] using idle'.symm
    | again counted' => simp [idle] at counted'
  | again counted more ih =>
    cases loop' with
    | last idle' => simp [counted] at idle'
    | again counted' more' =>
      obtain ⟨-, rfl⟩ : _ ∧ _ = _ := by simpa [counted] using counted'
      obtain ⟨rfl, rfl⟩ := ih more'
      exact ⟨rfl, rfl⟩

theorem iff_of (loop : Repeats round start rounds stop) :
    Repeats round start rounds' stop' ↔ rounds' = rounds ∧ stop' = stop :=
  ⟨loop.unique, fun ⟨same, same'⟩ => same ▸ same' ▸ loop⟩

/-- Two loops keep step while each round of the one is a round of the other. -/
theorem map {view : S → T} {keeps : S → Prop}
    (along : ∀ s, keeps s → ∃ count next, round s = some (count, next) ∧ keeps next ∧
      round' (view s) = some (count, view next))
    (kept : keeps start) (loop : Repeats round start rounds stop) :
    Repeats round' (view start) rounds (view stop) := by
  induction loop with
  | @last start stop idle =>
    obtain ⟨count, next, here, -, there⟩ := along start kept
    obtain ⟨rfl, rfl⟩ : 0 = count ∧ stop = next := by simpa [here, eq_comm] using idle
    exact .last there
  | @again start next stop count rounds counted more ih =>
    obtain ⟨count', next', here, kept', there⟩ := along start kept
    obtain ⟨rfl, rfl⟩ : count + 1 = count' ∧ next = next' := by simpa [here, eq_comm] using counted
    exact .again there (ih kept')

end Repeats

/-! ### The rounds of skipping separators -/

/-- One round, with the number of line breaks in it. -/
def Cursor.separatorRound (cursor : Cursor) : Nat × Cursor :=
  let breaks := (cursor.takeWhile isBlank).2.takeWhile (· == '\n')
  (breaks.1.length, breaks.2)

/-- One round on the bytes of a source. -/
def ByteCursor.separatorRound? (cursor : ByteCursor) : Option (Nat × ByteCursor) :=
  (cursor.advanceWhile? isBlank).bind fun (_, lineEnd) => lineEnd.advanceWhile? (· == '\n')

namespace Cursor

/-- A round takes the newlines away that it counts. -/
theorem newlines_separatorRound (cursor : Cursor) :
    cursor.separatorRound.1 + newlines cursor.separatorRound.2.rest = newlines cursor.rest := by
  obtain ⟨blanks, rest, text, blank, noBlank⟩ := exists_run isBlank cursor.rest
  obtain ⟨breaks, rest, rfl, newline, noBreak⟩ := exists_run (· == '\n') rest
  have blankLine : newlines blanks = 0 := newlines_eq_zero fun c member => by
    rintro rfl
    exact absurd (blank _ member) (by decide)
  have breakLines : newlines breaks = breaks.length :=
    List.count_eq_length.2 fun c member => (beq_iff_eq.1 (newline c member)).symm
  rw [separatorRound, takeWhile_of_run text blank noBlank,
    takeWhile_of_run (past_rest _ _ _) newline noBreak, text]
  simp [blankLine, breakLines]

/-- The loop ends, and each round but the last takes a newline. -/
theorem exists_repeats (cursor : Cursor) : ∃ rounds,
    Repeats (some ∘ separatorRound) cursor rounds cursor.skipSeparators ∧
      rounds + newlines cursor.skipSeparators.rest ≤ newlines cursor.rest := by
  fun_induction skipSeparators cursor with
  | case1 cursor lineEnd breaks none =>
    have count := newlines_separatorRound cursor
    have idle : cursor.separatorRound = (0, breaks.2) := by
      rw [separatorRound, List.isEmpty_iff.1 none]
      rfl
    rw [idle] at count
    dsimp only at count
    exact ⟨0, .last (congrArg some idle), by omega⟩
  | case2 cursor lineEnd breaks met ih =>
    obtain ⟨rounds, more, few⟩ := ih
    have count := newlines_separatorRound cursor
    obtain ⟨n, length⟩ : ∃ n, breaks.1.length = n + 1 :=
      Nat.exists_eq_add_one.2 (List.length_pos_iff.2 (mt List.isEmpty_iff.2 met))
    have counted : cursor.separatorRound = (n + 1, breaks.2) := congrArg (·, breaks.2) length
    rw [counted] at count
    dsimp only at count
    exact ⟨rounds + 1, .again (congrArg some counted) more, by omega⟩

theorem skipSeparators_of_stopsAt {cursor : Cursor} (stops : StopsAt isSeparator cursor.rest) :
    cursor.skipSeparators = cursor := by
  rw [skipSeparators_eq_takeWhile, takeWhile_of_stopsAt stops]

end Cursor

/-- A cursor that stands somewhere in its source, as every one does that a scanner gets to
(`Scanner.exists_standing`). -/
def Cursor.Stands (cursor : Cursor) : Prop := ∃ before rest, cursor = between before rest

namespace ByteCursor

/-- On the bytes a round goes as far and counts as much. -/
theorem separatorRound?_of_stands {cursor : Cursor} (stands : cursor.Stands) :
    cursor.separatorRound.2.Stands ∧ cursor.onBytes.separatorRound? =
      some (cursor.separatorRound.1, cursor.separatorRound.2.onBytes) := by
  obtain ⟨before, rest, rfl⟩ := stands
  obtain ⟨blanks, rest, rfl, blank, noBlank⟩ := exists_run isBlank rest
  obtain ⟨breaks, rest, rfl, newline, noBreak⟩ := exists_run (· == '\n') rest
  have first := Cursor.between_takeWhile_run before blank noBlank
  have second := Cursor.between_takeWhile_run (before ++ blanks) newline noBreak
  rw [Cursor.separatorRound, first, second]
  refine ⟨⟨before ++ blanks ++ breaks, rest, rfl⟩, ?_⟩
  rw [separatorRound?, onBytes_advanceWhile?, Option.bind_some, first]
  dsimp only
  rw [onBytes_advanceWhile?, second]

/-- On the bytes the loop takes the same rounds, and none of them is refused. -/
theorem repeats_onBytes {cursor stop : Cursor} {rounds : Nat} (stands : cursor.Stands)
    (loop : Repeats (some ∘ Cursor.separatorRound) cursor rounds stop) :
    Repeats separatorRound? cursor.onBytes rounds stop.onBytes :=
  loop.map (fun _ here => ⟨_, _, rfl, separatorRound?_of_stands here⟩) stands

end ByteCursor

/-! ### One pass -/

theorem byteLength_of_separators {run : List Char} (blank : ∀ c ∈ run, isSeparator c = true) :
    byteLength run = run.length := by
  induction run with
  | nil => rfl
  | cons c run ih =>
    have width : c.utf8Size = 1 := by
      rcases isSeparator_iff.1 (blank c List.mem_cons_self) with rfl | rfl | rfl <;> rfl
    rw [byteLength_cons, width, ih fun d member => blank d (List.mem_cons_of_mem c member),
      List.length_cons, Nat.add_comm]

namespace Scanner

/-- What skipping separators does to a scanner in front of the separators `run`, with `rounds`
rounds of the loop before the last one. -/
structure OnePass (scanner : Scanner) (run : List Char) (rounds : Nat) : Prop where
  single : scanner.skipSeparators =
    { scanner with cursor := (scanner.cursor.takeWhile isSeparator).2 }
  text : scanner.cursor.rest = run ++ scanner.skipSeparators.cursor.rest
  separators : ∀ c ∈ run, c = ' ' ∨ c = '\r' ∨ c = '\n'
  longest : ∀ front behind, scanner.cursor.rest = front ++ behind →
    (∀ c ∈ front, c = ' ' ∨ c = '\r' ∨ c = '\n') → ∃ more, run = front ++ more
  position : scanner.skipSeparators.cursor.position = scanner.cursor.position + run.length
  line : scanner.skipSeparators.cursor.line =
    scanner.cursor.line + UInt32.ofNat (newlines run)
  lineNumber : scanner.cursor.line.toNat + newlines run < UInt32.size →
    scanner.skipSeparators.cursor.line.toNat = scanner.cursor.line.toNat + newlines run
  stops : scanner.skipSeparators.cursor.atEnd = true ∨
    ∃ c, scanner.skipSeparators.cursor.current? = some c ∧ isSeparator c = false
  again : scanner.skipSeparators.skipSeparators = scanner.skipSeparators
  -- The loop ends, there and nowhere else.
  loop : ∀ count stop, Repeats (some ∘ Cursor.separatorRound) scanner.cursor count stop ↔
    count = rounds ∧ stop = scanner.skipSeparators.cursor
  few : rounds ≤ newlines run
  -- The same on the bytes of the source, where a move can be refused.
  bytes : scanner.cursor.Stands → scanner.cursor.onBytes.advanceWhile? isSeparator =
      some (run.length, scanner.skipSeparators.cursor.onBytes) ∧
    ∀ count stop, Repeats ByteCursor.separatorRound? scanner.cursor.onBytes count stop ↔
      count = rounds ∧ stop = scanner.skipSeparators.cursor.onBytes

/-- From any state the loop over blanks and line breaks ends, and where it ends is where one move
over separators leads. -/
theorem separators_in_one_pass (scanner : Scanner) : ∃ run rounds, OnePass scanner run rounds := by
  obtain ⟨run, rest, text, blank, stops⟩ := exists_run isSeparator scanner.cursor.rest
  obtain ⟨rounds, loop, few⟩ := scanner.cursor.exists_repeats
  have move := Cursor.takeWhile_of_run text blank stops
  have skip : scanner.cursor.skipSeparators = scanner.cursor.past run rest := by
    rw [Cursor.skipSeparators_eq_takeWhile, move]
  have line : scanner.skipSeparators.cursor.line =
      scanner.cursor.line + UInt32.ofNat (newlines run) := congrArg Cursor.line skip
  refine ⟨run, rounds, ?_⟩
  constructor
  case single => rw [skipSeparators, Cursor.skipSeparators_eq_takeWhile]
  case text => rw [skipSeparators, skip, Cursor.past_rest, text]
  case separators => exact fun c member => isSeparator_iff.1 (blank c member)
  case longest =>
    intro front behind split within
    have shared : ∀ c ∈ front, isSeparator c = true := fun c member =>
      isSeparator_iff.2 (within c member)
    exact run_longest blank stops shared (text.symm.trans split)
  case position =>
    rw [← byteLength_of_separators blank]
    exact congrArg Cursor.position skip
  case line => exact line
  case lineNumber =>
    intro small
    rw [line, UInt32.toNat_add, UInt32.toNat_ofNat_of_lt' (by omega)]
    exact Nat.mod_eq_of_lt small
  case stops =>
    rw [skipSeparators, skip]
    cases rest with
    | nil => exact .inl rfl
    | cons c rest => exact .inr ⟨c, rfl, stopsAt_cons.1 stops⟩
  case again =>
    have still : StopsAt isSeparator scanner.cursor.skipSeparators.rest := by
      rw [skip]
      exact stops
    simp only [skipSeparators, Cursor.skipSeparators_of_stopsAt still]
  case loop => exact fun count stop => loop.iff_of
  case few =>
    rw [skip, Cursor.past_rest, text, newlines_append] at few
    omega
  case bytes =>
    intro stands
    refine ⟨?_, fun count stop => (ByteCursor.repeats_onBytes stands loop).iff_of⟩
    obtain ⟨before, rest', here⟩ := stands
    have passed := ByteCursor.onBytes_advanceWhile? isSeparator before rest'
    rw [← here, move, ← skip] at passed
    exact passed

example : (ofSource " \r\n \n\r x").skipSeparators.cursor =
    ⟨" \r\n \n\r x", ['x'], 7, 3⟩ := by decide +kernel

end Scanner

end ScriptLex
