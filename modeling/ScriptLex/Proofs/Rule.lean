import ScriptLex.Proofs.CharClass
import ScriptLex.Proofs.Cursor

/-! What each rule does with the text under the cursor. -/

set_option autoImplicit false

namespace ScriptLex.Scanner

open ScriptLex.Text

/-- No symbol of the vocabulary stands at the front of a text. -/
def Unlisted (vocabulary : Vocabulary) (text : List Char) : Prop :=
  ∀ c ∈ text.head?, vocabulary.symbol? c = none

theorem Unlisted.front {vocabulary : Vocabulary} {run after : List Char}
    (free : Unlisted vocabulary (run ++ after)) : Unlisted vocabulary run := by
  intro c first
  exact free c (by simp [Option.mem_def.1 first])

/-- Digits with one decimal point among them. -/
inductive Decimal : List Char → Prop where
  | intro {whole fraction : List Char} (digits : ∀ c ∈ whole, isDigit c = true)
      (digits' : ∀ c ∈ fraction, isDigit c = true) : Decimal (whole ++ '.' :: fraction)

theorem Decimal.ne_nil {run : List Char} (decimal : Decimal run) : run ≠ [] := by
  cases decimal
  simp

theorem Decimal.isNumberStart {run : List Char} (decimal : Decimal run) :
    ∀ c ∈ run, isNumberStart c = true := by
  obtain ⟨digits, digits'⟩ := decimal
  intro c member
  rw [isNumberStart_iff]
  rcases List.mem_append.1 member with whole | rest
  · exact .inl (digits c whole)
  · rcases List.mem_cons.1 rest with point | fraction
    · exact .inr point
    · exact .inl (digits' c fraction)

theorem Decimal.head {run : List Char} (decimal : Decimal run) :
    ∀ c ∈ run.head?, Scanner.isNumberStart c = true := fun c first =>
  decimal.isNumberStart c (List.mem_of_mem_head? first)

theorem stopsAt_isDigit {text : List Char} (stops : StopsAt isNumberStart text) :
    StopsAt isDigit text :=
  stops.mono fun c digit => by simp [isNumberStart, digit]

theorem stopsAt_isNumberStart {text : List Char} (stops : StopsAt isDigit text)
    (noPoint : text.head? ≠ some '.') : StopsAt isNumberStart text := by
  intro c first
  have other : c ≠ '.' := fun same => noPoint (same ▸ first)
  simp [isNumberStart, stops c first, other]

/-! ### How far a comment, a string and a number reach -/

theorem exists_body (text : List Char) : ∃ body after, text = body ++ after ∧
    (∀ c ∈ body, isStringBody c = true) ∧
      ((∃ more, after = '"' :: more) ∨ ∀ c ∈ after.head?, c = '\n') := by
  obtain ⟨body, after, rfl, within, stops⟩ := exists_run isStringBody text
  refine ⟨body, after, rfl, within, ?_⟩
  cases after with
  | nil => exact .inr (by simp)
  | cons c more =>
    have closes : c = '"' ∨ c = '\n' := by
      rw [stopsAt_cons, isStringBody] at stops
      simp only [Bool.and_eq_false_iff, bne_eq_false_iff_eq] at stops
      exact stops
    rcases closes with rfl | rfl
    · exact .inl ⟨more, rfl⟩
    · exact .inr (by simp)

theorem exists_digits {c : Char} {rest : List Char} (start : isNumberStart c = true) :
    ∃ run after, c :: rest = run ++ after ∧
      (run ≠ [] ∧ (∀ d ∈ run, isDigit d = true) ∧ StopsAt isNumberStart after ∨
        Decimal run ∧ StopsAt isDigit after) := by
  obtain ⟨whole, after, split, digits, stops⟩ := exists_run isDigit (c :: rest)
  by_cases point : after.head? = some '.'
  · obtain ⟨after, rfl⟩ : ∃ tail, after = '.' :: tail := List.head?_eq_some_iff.1 point
    obtain ⟨fraction, after, rfl, digits', stops'⟩ := exists_run isDigit after
    exact ⟨whole ++ '.' :: fraction, after, by simpa using split,
      .inr ⟨.intro digits digits', stops'⟩⟩
  · have nonempty : whole ≠ [] := by
      -- Without a digit at the front the first character is the point.
      rintro rfl
      obtain rfl : c :: rest = after := split
      rcases isNumberStart_iff.1 start with digit | rfl
      · simp [digit] at stops
      · exact point rfl
    exact ⟨whole, after, split, .inl ⟨nonempty, digits, stopsAt_isNumberStart stops point⟩⟩

theorem firstVerdict_declined {vocabulary : Vocabulary} {rule : Rule} {rules : List Rule}
    {cursor : Cursor} (declines : rule vocabulary cursor = (.declined, cursor)) :
    firstVerdict vocabulary (rule :: rules) cursor = firstVerdict vocabulary rules cursor := by
  rw [firstVerdict, declines]

theorem firstVerdict_accepted {vocabulary : Vocabulary} {rule : Rule} {rules : List Rule}
    {cursor after : Cursor} {verdict : Verdict}
    (accepts : rule vocabulary cursor = (verdict, after)) (accepted : verdict ≠ .declined) :
    firstVerdict vocabulary (rule :: rules) cursor = (verdict, after) := by
  rw [firstVerdict, accepts]
  split
  case h_1 same => exact absurd (Prod.mk.inj same).1 accepted
  case h_2 => rfl

namespace Rule

open Cursor

variable {vocabulary : Vocabulary} {before text : List Char}

theorem comparisonKind?_pair {c : Char} {kind : Kind} (known : comparisonKind? c true = some kind) :
    c = '<' ∧ kind = .lessEqual ∨ c = '>' ∧ kind = .greaterEqual ∨
      c = '=' ∧ kind = .equivalent ∨ c = '!' ∧ kind = .notEqual := by
  unfold comparisonKind? at known
  split at known <;> simp_all

theorem comparisonKind?_single {c : Char} {kind : Kind}
    (known : comparisonKind? c false = some kind) :
    c = '<' ∧ kind = .lessThan ∨ c = '>' ∧ kind = .greaterThan := by
  unfold comparisonKind? at known
  split at known <;> simp_all

theorem ne_of_comparisonKind?_none {c : Char} {withEquals : Bool}
    (none : comparisonKind? c withEquals = none) : c ≠ '<' ∧ c ≠ '>' := by
  constructor
  all_goals
    rintro rfl
    cases withEquals <;> cases none

theorem symbol_declines (free : Unlisted vocabulary text) :
    symbol vocabulary (between before text) = (.declined, between before text) := by
  cases text with
  | nil => rfl
  | cons c rest =>
    have none : vocabulary.symbol? c = none := free c rfl
    simp [symbol, none]

theorem symbol_leaves_pair {c : Char} (sign : c = '=' ∨ c = '!') :
    symbol vocabulary (between before (c :: '=' :: text)) =
      (.declined, between before (c :: '=' :: text)) := by
  simp [symbol, sign]

theorem comparison_declines
    (none : ∀ c ∈ text.head?, comparisonKind? c (text.tail.head? == some '=') = none) :
    comparison vocabulary (between before text) = (.declined, between before text) := by
  cases text with
  | nil => rfl
  | cons c rest =>
    have here := none c rfl
    simp only [List.tail_cons] at here
    simp [comparison, here]

theorem slash_declines (other : text.head? ≠ some '/') :
    slash vocabulary (between before text) = (.declined, between before text) := by
  rw [slash, between_current?, if_neg other]

theorem quoted_declines (other : text.head? ≠ some '"') :
    quoted vocabulary (between before text) = (.declined, between before text) := by
  rw [quoted, between_current?, if_neg other]

theorem number_declines (stops : StopsAt isNumberStart text) :
    number vocabulary (between before text) = (.declined, between before text) := by
  have none : ¬ text.head?.any isNumberStart = true := by
    cases text with
    | nil => simp
    | cons c rest => simpa using stops
  rw [number, between_current?, if_neg none]

theorem word_declines (stops : StopsAt isLetter text) :
    word vocabulary (between before text) = (.declined, between before text) := by
  have run := @between_takeWhile_run isLetter [] text before (by simp) stops
  rw [List.nil_append, List.append_nil] at run
  simp [word, run]

theorem symbol_accepts {c : Char} {kind : Kind} (listed : vocabulary.symbol? c = some kind)
    (alone : c = '=' ∨ c = '!' → text.head? ≠ some '=') :
    symbol vocabulary (between before (c :: text)) =
      (.token ⟨kind, String.ofList [c], lineAfter before⟩, between (before ++ [c]) text) := by
  have leave : ((c == '=' || c == '!') && text.head? == some '=') = false := by
    simp only [Bool.and_eq_false_imp, Bool.or_eq_true, beq_iff_eq, beq_eq_false_iff_ne]
    exact alone
  simp [symbol, leave, listed, tokenAt]

theorem comparison_accepts_pair {c : Char} {kind : Kind}
    (known : comparisonKind? c true = some kind) :
    comparison vocabulary (between before (c :: '=' :: text)) =
      (.token ⟨kind, String.ofList [c, '='], lineAfter before⟩,
        between (before ++ [c, '=']) text) := by
  simp [comparison, known, tokenAt]

theorem comparison_accepts_single {c : Char} {kind : Kind}
    (known : comparisonKind? c false = some kind) (alone : text.head? ≠ some '=') :
    comparison vocabulary (between before (c :: text)) =
      (.token ⟨kind, String.ofList [c], lineAfter before⟩, between (before ++ [c]) text) := by
  have none : (text.head? == some '=') = false := by simpa using alone
  simp [comparison, known, none, tokenAt]

theorem slash_accepts_division (alone : text.head? ≠ some '/') :
    slash vocabulary (between before ('/' :: text)) =
      (.token ⟨.divide, String.ofList ['/'], lineAfter before⟩,
        between (before ++ ['/']) text) := by
  simp [slash, alone, tokenAt]

theorem slash_accepts_comment {body : List Char} (within : ∀ c ∈ body, c ≠ '\n')
    (ends : ∀ c ∈ text.head?, c = '\n') :
    slash vocabulary (between before ('/' :: '/' :: body ++ text)) =
      (.token ⟨.ignored, "", lineAfter before⟩,
        (between (before ++ ('/' :: '/' :: body)) text).advance) := by
  have line : ∀ c ∈ '/' :: '/' :: body, (c != '\n') = true := by
    intro c member
    rcases List.mem_cons.1 member with rfl | member
    · rfl
    · rcases List.mem_cons.1 member with rfl | member
      · rfl
      · simpa using within c member
  have stops : StopsAt (· != '\n') text := fun c first => by simp [ends c first]
  have run := between_takeWhile_run before line stops
  simp only [List.cons_append] at run ⊢
  simp [slash, run, tokenAt]

theorem quoted_accepts {body : List Char} (within : ∀ c ∈ body, isStringBody c = true) :
    quoted vocabulary (between before ('"' :: body ++ '"' :: text)) =
      (.token ⟨.string, String.ofList body, lineAfter before⟩,
        between (before ++ ('"' :: body ++ ['"'])) text) := by
  have stops : StopsAt isStringBody ('"' :: text) := stopsAt_cons.2 rfl
  have run := between_takeWhile_run (before ++ ['"']) within stops
  simp [quoted, run, tokenAt]

theorem quoted_refuses {body : List Char} (within : ∀ c ∈ body, isStringBody c = true)
    (ends : ∀ c ∈ text.head?, c = '\n') :
    quoted vocabulary (between before ('"' :: body ++ text)) =
      (.error ⟨.unterminatedString, byteLength before, lineAfter before⟩,
        between (before ++ '"' :: body) text) := by
  have stops : StopsAt isStringBody text := fun c first => by rw [ends c first]; rfl
  have run := between_takeWhile_run (before ++ ['"']) within stops
  have noQuote : text.head? ≠ some '"' := fun first => by simpa using ends '"' first
  simp [quoted, run, noQuote, errorAt]

theorem number_accepts_whole {run : List Char} (nonempty : run ≠ [])
    (digits : ∀ c ∈ run, isDigit c = true) (stops : StopsAt isNumberStart text) :
    number vocabulary (between before (run ++ text)) =
      (.token ⟨.number, String.ofList run, lineAfter before⟩, between (before ++ run) text) := by
  have passed := between_takeWhile_run before digits (stopsAt_isDigit stops)
  have noPoint : text.head? ≠ some '.' := fun first => absurd (stops '.' first) (by decide)
  obtain ⟨c, run, rfl⟩ := List.exists_cons_of_ne_nil nonempty
  have start : isNumberStart c = true := by simp [isNumberStart, digits c List.mem_cons_self]
  simp only [List.cons_append] at passed ⊢
  simp [number, start, passed, noPoint, tokenAt]

/-- Up to its second point, or its end, a number with a decimal point is read alike. -/
theorem number_decimal {run : List Char} (decimal : Decimal run) (stops : StopsAt isDigit text) :
    number vocabulary (between before (run ++ text)) =
      if text.head? = some '.' then
        (.error ⟨.malformedNumber (String.ofList (run ++ ['.'])), byteLength before,
          lineAfter before⟩, (between (before ++ run) text).advance)
      else
        (.token ⟨.number, String.ofList run, lineAfter before⟩, between (before ++ run) text) := by
  obtain @⟨whole, fraction, digits, digits'⟩ := decimal
  have point : StopsAt isDigit ('.' :: (fraction ++ text)) := stopsAt_cons.2 rfl
  have first := between_takeWhile_run before digits point
  have second := between_takeWhile_run (before ++ whole ++ ['.']) digits' stops
  have start : (whole ++ '.' :: (fraction ++ text)).head?.any isNumberStart = true := by
    cases whole with
    | nil => rfl
    | cons c whole => simp [isNumberStart, digits c List.mem_cons_self]
  simp only [List.append_assoc, List.cons_append] at first second ⊢
  rw [number, between_current?, if_pos start]
  simp [first, second, tokenAt, errorAt]

theorem word_accepts {run : List Char} (nonempty : run ≠ [])
    (letters : ∀ c ∈ run, isLetter c = true) (stops : StopsAt isLetter text) :
    word vocabulary (between before (run ++ text)) =
      (.token ⟨(vocabulary.word? (String.ofList run)).getD .identifier, String.ofList run,
        lineAfter before⟩, between (before ++ run) text) := by
  simp [word, between_takeWhile_run before letters stops, nonempty, tokenAt]

theorem comparisonKind?_of_not_mem_signs {c : Char} (plain : c ∉ signs) (withEquals : Bool) :
    comparisonKind? c withEquals = none := by
  cases known : comparisonKind? c withEquals with
  | none => rfl
  | some kind =>
    cases withEquals with
    | true =>
      rcases comparisonKind?_pair known with ⟨rfl, -⟩ | ⟨rfl, -⟩ | ⟨rfl, -⟩ | ⟨rfl, -⟩ <;>
        simp [signs] at plain
    | false =>
      rcases comparisonKind?_single known with ⟨rfl, -⟩ | ⟨rfl, -⟩ <;> simp [signs] at plain

/-- A slash or a quote that is no symbol is left to the rules from `slash` on. -/
theorem all_from_slash {c : Char} (free : vocabulary.symbol? c = none)
    (none : ∀ withEquals, comparisonKind? c withEquals = none) :
    firstVerdict vocabulary all (between before (c :: text)) =
      firstVerdict vocabulary [slash, quoted, number, word] (between before (c :: text)) := by
  have unlisted : Unlisted vocabulary (c :: text) := by simpa [Unlisted] using free
  rw [all, firstVerdict_declined (symbol_declines unlisted),
    firstVerdict_declined (comparison_declines fun d first => by
      obtain rfl : c = d := by simpa using first
      exact none _)]

/-- A character that is no sign is left to the rules from `number` on. -/
theorem all_from_number {c : Char} (free : vocabulary.symbol? c = none) (plain : c ∉ signs) :
    firstVerdict vocabulary all (between before (c :: text)) =
      firstVerdict vocabulary [number, word] (between before (c :: text)) := by
  have noSlash : c ≠ '/' := fun same => plain (same ▸ by decide)
  have noQuote : c ≠ '"' := fun same => plain (same ▸ by decide)
  rw [all_from_slash free (comparisonKind?_of_not_mem_signs plain),
    firstVerdict_declined (slash_declines (by simpa using noSlash)),
    firstVerdict_declined (quoted_declines (by simpa using noQuote))]

end Rule

end ScriptLex.Scanner
