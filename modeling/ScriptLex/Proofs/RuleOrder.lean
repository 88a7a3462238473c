import ScriptLex.Proofs.Steps
import ScriptLex.Proofs.Vocabulary

/-! The order in which the rules are tried.

A rule that declines leaves the scanner as it was. With the standard vocabulary the character under
the cursor and the one behind it settle which rule can accept, so that at most one does, and the
rules may be tried in any order. -/

set_option autoImplicit false

namespace ScriptLex.Scanner

/-- A rule accepts a text that it takes for a token or for an error. -/
def RuleName.Accepts (name : RuleName) (vocabulary : Vocabulary) (cursor : Cursor) : Prop :=
  (name.rule vocabulary cursor).1 ≠ .declined

/-- The only rule of the standard vocabulary that can accept a text, by its first character and by
whether an equals sign follows. -/
def onlyRule? (c : Char) (equals : Bool) : Option RuleName :=
  if (c = '=' ∨ c = '!') ∧ equals then some .comparison
  else if c = '<' ∨ c = '>' then some .comparison
  else if c = '/' then some .slash
  else if c = '"' then some .quoted
  else if isNumberStart c then some .number
  else if isLetter c then some .word
  else if (Vocabulary.standard.symbol? c).isSome then some .symbol
  else none

/-- `AcceptsOnly name cursor`: the text under the cursor is one for this rule alone. -/
def AcceptsOnly (name : RuleName) (cursor : Cursor) : Prop :=
  ∃ c, cursor.current? = some c ∧ onlyRule? c (cursor.nextIs '=') = some name

theorem AcceptsOnly.unique {name name' : RuleName} {cursor : Cursor}
    (only : AcceptsOnly name cursor) (only' : AcceptsOnly name' cursor) : name = name' := by
  obtain ⟨c, here, found⟩ := only
  obtain ⟨c', here', found'⟩ := only'
  obtain rfl : c = c' := Option.some.inj (here.symm.trans here')
  exact Option.some.inj (found.symm.trans found')

theorem onlyRule?_of_not_mem_signs {c : Char} (plain : c ∉ signs) (equals : Bool) :
    onlyRule? c equals =
      if isNumberStart c then some .number
      else if isLetter c then some .word
      else if (Vocabulary.standard.symbol? c).isSome then some .symbol
      else none := by
  simp only [signs, List.mem_cons, List.not_mem_nil, or_false, not_or] at plain
  simp [onlyRule?, plain]

namespace Rule

variable {cursor : Cursor}

theorem symbol_acceptsOnly (accepts : (symbol .standard cursor).1 ≠ .declined) :
    AcceptsOnly .symbol cursor := by
  unfold symbol at accepts
  split at accepts
  case h_1 => exact absurd rfl accepts
  case h_2 c here =>
    split at accepts
    case isTrue => exact absurd rfl accepts
    case isFalse alone =>
      split at accepts
      case h_1 => exact absurd rfl accepts
      case h_2 kind listed =>
        obtain ⟨-, noNumber, noLetter, other⟩ := Vocabulary.symbol?_standard_class listed
        refine ⟨c, here, ?_⟩
        simp only [Bool.and_eq_true, Bool.or_eq_true, beq_iff_eq] at alone
        simp [onlyRule?, alone, other, noNumber, noLetter, listed]

theorem comparison_acceptsOnly (accepts : (comparison .standard cursor).1 ≠ .declined) :
    AcceptsOnly .comparison cursor := by
  unfold comparison at accepts
  split at accepts
  case h_1 => exact absurd rfl accepts
  case h_2 c here =>
    refine ⟨c, here, ?_⟩
    dsimp only at accepts
    split at accepts
    case h_1 => exact absurd rfl accepts
    case h_2 kind known =>
      cases equals : cursor.nextIs '=' with
      | true =>
        rw [equals] at known
        rcases comparisonKind?_pair known with ⟨rfl, -⟩ | ⟨rfl, -⟩ | ⟨rfl, -⟩ | ⟨rfl, -⟩ <;> rfl
      | false =>
        rw [equals] at known
        rcases comparisonKind?_single known with ⟨rfl, -⟩ | ⟨rfl, -⟩ <;> rfl

theorem slash_acceptsOnly (accepts : (slash .standard cursor).1 ≠ .declined) :
    AcceptsOnly .slash cursor := by
  unfold slash at accepts
  split at accepts
  case isTrue here => exact ⟨'/', here, by simp [onlyRule?]⟩
  case isFalse => exact absurd rfl accepts

theorem quoted_acceptsOnly (accepts : (quoted .standard cursor).1 ≠ .declined) :
    AcceptsOnly .quoted cursor := by
  unfold quoted at accepts
  split at accepts
  case isTrue here => exact ⟨'"', here, by simp [onlyRule?]⟩
  case isFalse => exact absurd rfl accepts

theorem number_acceptsOnly (accepts : (number .standard cursor).1 ≠ .declined) :
    AcceptsOnly .number cursor := by
  unfold number at accepts
  split at accepts
  case isTrue start =>
    obtain ⟨c, here, starts⟩ := (Option.any_eq_true _ _).1 start
    refine ⟨c, here, ?_⟩
    rw [onlyRule?_of_not_mem_signs (not_mem_signs_of_isNumberStart starts), if_pos starts]
  case isFalse => exact absurd rfl accepts

theorem word_acceptsOnly (accepts : (word .standard cursor).1 ≠ .declined) :
    AcceptsOnly .word cursor := by
  have nonempty : (cursor.takeWhile isLetter).1 ≠ [] := by
    intro empty
    simp [word, empty] at accepts
  rw [Cursor.takeWhile] at nonempty
  split at nonempty
  case h_1 => exact absurd rfl nonempty
  case h_2 c rest here =>
    split at nonempty
    case isTrue letter =>
      refine ⟨c, by rw [Cursor.current?, here, List.head?_cons], ?_⟩
      rw [onlyRule?_of_not_mem_signs (not_mem_signs_of_isLetter letter),
        if_neg (by simp [isNumberStart_of_isLetter letter]), if_pos letter]
    case isFalse => exact absurd rfl nonempty

end Rule

theorem RuleName.Accepts.only {name : RuleName} {cursor : Cursor}
    (accepts : name.Accepts .standard cursor) : AcceptsOnly name cursor := by
  cases name with
  | symbol => exact Rule.symbol_acceptsOnly accepts
  | comparison => exact Rule.comparison_acceptsOnly accepts
  | slash => exact Rule.slash_acceptsOnly accepts
  | quoted => exact Rule.quoted_acceptsOnly accepts
  | number => exact Rule.number_acceptsOnly accepts
  | word => exact Rule.word_acceptsOnly accepts

/-! ### Any order -/

theorem RuleName.exists_of_mem {rule : Rule} (member : rule ∈ Rule.all) :
    ∃ name : RuleName, name.rule = rule := by
  rw [← RuleName.map_rule_all] at member
  obtain ⟨name, -, same⟩ := List.mem_map.1 member
  exact ⟨name, same⟩

/-- Rules none of which accepts decline together. -/
theorem firstVerdict_of_declines {vocabulary : Vocabulary} {rules : List Rule} {cursor : Cursor}
    (decline : ∀ rule ∈ rules, rule vocabulary cursor = (.declined, cursor)) :
    firstVerdict vocabulary rules cursor = (.declined, cursor) := by
  induction rules with
  | nil => rfl
  | cons rule rules ih =>
    obtain ⟨first, others⟩ := List.forall_mem_cons.1 decline
    rw [firstVerdict_declined first, ih others]

/-- Where one rule accepts and all others decline, its verdict counts wherever it is tried. -/
theorem firstVerdict_of_only {vocabulary : Vocabulary} {rules : List Rule} {rule : Rule}
    {cursor : Cursor} (member : rule ∈ rules) (accepts : (rule vocabulary cursor).1 ≠ .declined)
    (others : ∀ other ∈ rules, other vocabulary cursor = (.declined, cursor) ∨
      other vocabulary cursor = rule vocabulary cursor) :
    firstVerdict vocabulary rules cursor = rule vocabulary cursor := by
  induction rules with
  | nil => cases member
  | cons first rules ih =>
    obtain ⟨here, others⟩ := List.forall_mem_cons.1 others
    rcases here with declines | same
    · rw [firstVerdict_declined declines]
      rcases List.mem_cons.1 member with rfl | later
      · rw [declines] at accepts
        exact absurd rfl accepts
      · exact ih later others
    · rw [← same] at accepts ⊢
      exact firstVerdict_accepted rfl accepts

theorem RuleName.declines_of_not_accepts {name : RuleName} {vocabulary : Vocabulary}
    {cursor : Cursor} (refuses : ¬name.Accepts vocabulary cursor) :
    name.rule vocabulary cursor = (.declined, cursor) := by
  rcases answer : name.rule vocabulary cursor with ⟨verdict, after⟩
  obtain rfl : verdict = .declined := by simpa [Accepts, answer] using refuses
  rw [name.declinesInPlace answer]

theorem firstVerdict_perm {rules : List Rule} (perm : rules.Perm Rule.all) (cursor : Cursor) :
    firstVerdict .standard rules cursor = firstVerdict .standard Rule.all cursor := by
  by_cases accepted : ∃ name : RuleName, name.Accepts .standard cursor
  · obtain ⟨name, accepts⟩ := accepted
    have others : ∀ other ∈ Rule.all, other .standard cursor = (.declined, cursor) ∨
        other .standard cursor = name.rule .standard cursor := by
      intro other member
      obtain ⟨name', rfl⟩ := RuleName.exists_of_mem member
      by_cases accepts' : name'.Accepts .standard cursor
      · exact .inr (by rw [accepts'.only.unique accepts.only])
      · exact .inl (RuleName.declines_of_not_accepts accepts')
    have member : name.rule ∈ Rule.all := by cases name <;> simp [RuleName.rule, Rule.all]
    rw [firstVerdict_of_only member accepts others, firstVerdict_of_only
      (perm.mem_iff.2 member) accepts fun other member => others other (perm.mem_iff.1 member)]
  · have decline : ∀ rule ∈ Rule.all, rule .standard cursor = (.declined, cursor) := by
      intro rule member
      obtain ⟨name, rfl⟩ := RuleName.exists_of_mem member
      exact RuleName.declines_of_not_accepts fun accepts => accepted ⟨name, accepts⟩
    rw [firstVerdict_of_declines decline, firstVerdict_of_declines
      fun rule member => decline rule (perm.mem_iff.1 member)]

/-- A call of `nextToken` that tries these rules in this order. -/
def nextTokenBy (rules : List Rule) (scanner : Scanner) :
    Option (Except LexicalError Token) × Scanner :=
  let start := scanner.cursor.skipSeparators
  match start.current? with
  | none => (none, { scanner with cursor := start })
  | some c =>
    match firstVerdict scanner.vocabulary rules start with
    | (.declined, after) =>
      (some (.error (errorAt start (.unexpectedCharacter c))), { scanner with cursor := after })
    | (.token token, after) => (some (.ok token), { scanner with cursor := after })
    | (.error error, after) => (some (.error error), { scanner with cursor := after })

theorem nextTokenBy_all (scanner : Scanner) : scanner.nextTokenBy Rule.all = scanner.nextToken :=
  rfl

/-- Behind the separators a rule that declines leaves the scanner as it is, whatever the vocabulary.
With the standard vocabulary at most one rule accepts, and a call reports the same and ends in the
same state whatever the order in which the rules are tried. -/
theorem rule_order_immaterial (scanner : Scanner) :
    (∀ (name : RuleName) (after : Cursor),
      name.rule scanner.vocabulary scanner.skipSeparators.cursor = (.declined, after) →
        { scanner with cursor := after } = scanner.skipSeparators) ∧
    (scanner.vocabulary = .standard →
      (∀ name name' : RuleName,
        name.Accepts scanner.vocabulary scanner.skipSeparators.cursor →
        name'.Accepts scanner.vocabulary scanner.skipSeparators.cursor → name = name') ∧
      ∀ rules : List Rule, rules.Perm Rule.all →
        scanner.nextTokenBy rules = scanner.nextToken) := by
  refine ⟨fun name after declines => ?_, fun standard => ⟨fun name name' accepts accepts' => ?_,
    fun rules perm => ?_⟩⟩
  · rw [name.declinesInPlace declines]
    rfl
  · rw [standard] at accepts accepts'
    exact accepts.only.unique accepts'.only
  · rw [← nextTokenBy_all, nextTokenBy, nextTokenBy, standard, firstVerdict_perm perm]

/-- A scanner in front of two signs of which the first is a symbol by itself. -/
def pairScanner : Scanner := (ofSource "x !=.5").after [.next]

theorem rule_order_immaterial_pair :
    RuleName.symbol.rule pairScanner.vocabulary pairScanner.skipSeparators.cursor =
        (.declined, pairScanner.skipSeparators.cursor) ∧
      { pairScanner with cursor := pairScanner.skipSeparators.cursor } =
        pairScanner.skipSeparators ∧
      pairScanner.vocabulary = .standard ∧
      RuleName.comparison.Accepts pairScanner.vocabulary pairScanner.skipSeparators.cursor ∧
      (∀ name : RuleName,
        name.Accepts pairScanner.vocabulary pairScanner.skipSeparators.cursor →
          name = .comparison) ∧
      Rule.all.reverse.Perm Rule.all ∧
      pairScanner.nextTokenBy Rule.all.reverse =
        (some (.ok ⟨.notEqual, "!=", 1⟩), pairScanner.after [.nextToken]) := by
  have standard : pairScanner.vocabulary = .standard := by decide +kernel
  have declines : RuleName.symbol.rule pairScanner.vocabulary pairScanner.skipSeparators.cursor =
      (.declined, pairScanner.skipSeparators.cursor) := by
    decide +kernel
  have accepts : (RuleName.comparison.rule pairScanner.vocabulary
      pairScanner.skipSeparators.cursor).1 ≠ .declined := by
    decide +kernel
  have read : pairScanner.nextToken =
      (some (.ok ⟨.notEqual, "!=", 1⟩), pairScanner.after [.nextToken]) := by
    decide +kernel
  have reversed := Rule.all.reverse_perm
  obtain ⟨inPlace, alone, anyOrder⟩ :=
    (rule_order_immaterial pairScanner).imp_right fun rest => rest standard
  exact ⟨declines, inPlace .symbol _ declines, standard, accepts,
    fun name accepts' => alone name .comparison accepts' accepts, reversed,
    (anyOrder _ reversed).trans read⟩

end ScriptLex.Scanner
