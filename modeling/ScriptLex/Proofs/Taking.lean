import ScriptLex.Proofs.Rule

/-! What each rule can take of a text, and which rule a text is left to.

Here nothing is said about the vocabulary: it decides which rule takes a text, and the kind of a
symbol or a word, but not what the rule leaves behind. -/

set_option autoImplicit false

namespace ScriptLex.Scanner

open ScriptLex.Text

/-- The names of the rules, in the order in which they are tried. -/
inductive RuleName where
  | symbol | comparison | slash | quoted | number | word
  deriving DecidableEq, Repr

namespace RuleName

def all : List RuleName := [symbol, comparison, slash, quoted, number, word]

def rule : RuleName → Rule
  | symbol => Rule.symbol
  | comparison => Rule.comparison
  | slash => Rule.slash
  | quoted => Rule.quoted
  | number => Rule.number
  | word => Rule.word

theorem map_rule_all : all.map rule = Rule.all := rfl

theorem declinesInPlace (name : RuleName) : name.rule.DeclinesInPlace :=
  Rule.all_declineInPlace name.rule (by cases name <;> simp [rule, Rule.all])

end RuleName

/-- The rule that a text is left to: the first that does not decline. -/
def reader? (vocabulary : Vocabulary) (cursor : Cursor) : Option RuleName :=
  RuleName.all.find? fun name => (name.rule vocabulary cursor).1 != .declined

theorem firstVerdict_eq_find? (vocabulary : Vocabulary) (cursor : Cursor)
    (names : List RuleName) :
    firstVerdict vocabulary (names.map RuleName.rule) cursor =
      match names.find? fun name => (name.rule vocabulary cursor).1 != .declined with
      | some name => name.rule vocabulary cursor
      | none => (.declined, cursor) := by
  induction names with
  | nil => rfl
  | cons name names ih =>
    rcases answer : name.rule vocabulary cursor with ⟨verdict, after⟩
    by_cases declined : verdict = .declined
    · subst declined
      obtain rfl := name.declinesInPlace answer
      rw [List.map_cons, firstVerdict_declined answer, ih,
        List.find?_cons_of_neg (by simp [answer])]
    · rw [List.map_cons, firstVerdict_accepted answer declined,
        List.find?_cons_of_pos (by simpa [answer] using declined)]
      exact answer.symm

theorem firstVerdict_of_reader? {vocabulary : Vocabulary} {cursor : Cursor} {name : RuleName}
    (reader : reader? vocabulary cursor = some name) :
    firstVerdict vocabulary Rule.all cursor = name.rule vocabulary cursor := by
  rw [← RuleName.map_rule_all, firstVerdict_eq_find?]
  rw [reader?] at reader
  rw [reader]

theorem firstVerdict_of_no_reader {vocabulary : Vocabulary} {cursor : Cursor}
    (none : reader? vocabulary cursor = none) :
    firstVerdict vocabulary Rule.all cursor = (.declined, cursor) := by
  rw [← RuleName.map_rule_all, firstVerdict_eq_find?]
  rw [reader?] at none
  rw [none]

/-- `Takes start name text behind result`: with `text` and then `behind` under the cursor `start`,
the rule can take `text` for `result`. -/
inductive Takes (start : Cursor) :
    RuleName → List Char → List Char → Except LexicalError Token → Prop where
  | lexeme {name : RuleName} {text behind : List Char} {kind : Kind}
      (verbatim : name ∈ [RuleName.symbol, .comparison, .number, .word]) (nonempty : text ≠ []) :
      Takes start name text behind (.ok (tokenAt start kind text))
  | division {behind : List Char} :
      Takes start .slash ['/'] behind (.ok (tokenAt start .divide ['/']))
  | comment {body behind : List Char} (within : ∀ c ∈ body, c ≠ '\n') :
      Takes start .slash ('/' :: '/' :: body ++ ['\n']) behind (.ok (tokenAt start .ignored []))
  | lastComment {body : List Char} (within : ∀ c ∈ body, c ≠ '\n') :
      Takes start .slash ('/' :: '/' :: body) [] (.ok (tokenAt start .ignored []))
  | string {body behind : List Char} (within : ∀ c ∈ body, c ≠ '"' ∧ c ≠ '\n') :
      Takes start .quoted ('"' :: body ++ ['"']) behind (.ok (tokenAt start .string body))
  | unclosed {body behind : List Char} (within : ∀ c ∈ body, c ≠ '"' ∧ c ≠ '\n')
      (ends : ∀ c ∈ behind.head?, c = '\n') :
      Takes start .quoted ('"' :: body) behind (.error (errorAt start .unterminatedString))
  | malformed {text behind : List Char} (nonempty : text ≠ []) :
      Takes start .number text behind
        (.error (errorAt start (.malformedNumber (String.ofList text))))

theorem Takes.ne_nil {start : Cursor} {name : RuleName} {text behind : List Char}
    {result : Except LexicalError Token} (takes : Takes start name text behind result) :
    text ≠ [] := by
  cases takes with
  | lexeme verbatim nonempty => exact nonempty
  | malformed nonempty => exact nonempty
  | _ => simp

def Verdict.ofResult : Except LexicalError Token → Verdict
  | .ok read => .token read
  | .error failure => .error failure

theorem Verdict.ofResult_ne_declined (result : Except LexicalError Token) :
    ofResult result ≠ .declined := by
  cases result <;> simp [ofResult]

theorem Verdict.ofResult_injective {result result' : Except LexicalError Token}
    (same : ofResult result = ofResult result') : result = result' := by
  cases result <;> cases result' <;> simp_all [ofResult]

/-- Behind `before`, the rule does take `text`, and stops where it ends. -/
structure Reading (vocabulary : Vocabulary) (before : List Char) (name : RuleName)
    (text behind : List Char) (result : Except LexicalError Token) : Prop where
  takes : Takes (Cursor.between before (text ++ behind)) name text behind result
  answers : name.rule vocabulary (Cursor.between before (text ++ behind)) =
    (.ofResult result, Cursor.between (before ++ text) behind)

/-- A rule declines in place or takes a text. -/
def DeclinesOrReads (vocabulary : Vocabulary) (before : List Char) (name : RuleName)
    (text : List Char) : Prop :=
  name.rule vocabulary (Cursor.between before text) = (.declined, Cursor.between before text) ∨
    ∃ taken behind result, text = taken ++ behind ∧
      Reading vocabulary before name taken behind result

namespace RuleName

variable {vocabulary : Vocabulary} {before : List Char}

theorem symbol_reads (text : List Char) : DeclinesOrReads vocabulary before symbol text := by
  cases text with
  | nil => exact .inl rfl
  | cons c rest =>
    cases listed : vocabulary.symbol? c with
    | none =>
      have free : Unlisted vocabulary (c :: rest) := by simpa [Unlisted] using listed
      exact .inl (Rule.symbol_declines free)
    | some kind =>
      by_cases pair : (c = '=' ∨ c = '!') ∧ rest.head? = some '='
      · obtain ⟨more, rfl⟩ : ∃ tail, rest = '=' :: tail := List.head?_eq_some_iff.1 pair.2
        exact .inl (Rule.symbol_leaves_pair pair.1)
      · have alone : c = '=' ∨ c = '!' → rest.head? ≠ some '=' := fun sign next => pair ⟨sign, next⟩
        exact .inr ⟨[c], rest, _, rfl, .lexeme (by simp) (by simp),
          Rule.symbol_accepts listed alone⟩

theorem comparison_reads (text : List Char) : DeclinesOrReads vocabulary before comparison text := by
  cases text with
  | nil => exact .inl rfl
  | cons c rest =>
    cases known : Rule.comparisonKind? c (rest.head? == some '=') with
    | none =>
      have unknown : ∀ d ∈ (c :: rest).head?,
          Rule.comparisonKind? d ((c :: rest).tail.head? == some '=') = none := by
        simpa using known
      exact .inl (@Rule.comparison_declines vocabulary before _ unknown)
    | some kind =>
      by_cases equals : rest.head? = some '='
      · obtain ⟨more, rfl⟩ : ∃ tail, rest = '=' :: tail := List.head?_eq_some_iff.1 equals
        have pair : Rule.comparisonKind? c true = some kind := by simpa using known
        exact .inr ⟨[c, '='], more, _, rfl, .lexeme (by simp) (by simp),
          @Rule.comparison_accepts_pair vocabulary before more _ _ pair⟩
      · have single : (rest.head? == some '=') = false := by simpa using equals
        exact .inr ⟨[c], rest, _, rfl, .lexeme (by simp) (by simp),
          @Rule.comparison_accepts_single vocabulary before rest _ _ (single ▸ known) equals⟩

theorem slash_reads (text : List Char) : DeclinesOrReads vocabulary before slash text := by
  by_cases first : text.head? = some '/'
  · obtain ⟨rest, rfl⟩ : ∃ tail, text = '/' :: tail := List.head?_eq_some_iff.1 first
    by_cases second : rest.head? = some '/'
    · obtain ⟨rest, rfl⟩ : ∃ tail, rest = '/' :: tail := List.head?_eq_some_iff.1 second
      obtain ⟨body, behind, rfl, within, rfl | ⟨behind, rfl⟩⟩ := exists_line rest
      · have accepts := @Rule.slash_accepts_comment vocabulary before [] _ within (by simp)
        exact .inr ⟨'/' :: '/' :: body, [], _, by simp, .lastComment within, accepts⟩
      · have accepts := @Rule.slash_accepts_comment vocabulary before ('\n' :: behind) _ within
          (by simp)
        rw [Cursor.between_advance] at accepts
        refine .inr ⟨'/' :: '/' :: body ++ ['\n'], behind, _, by simp, .comment within, ?_⟩
        simpa [rule, Verdict.ofResult, tokenAt] using accepts
    · exact .inr ⟨['/'], rest, _, rfl, .division,
        @Rule.slash_accepts_division vocabulary before rest second⟩
  · exact .inl (@Rule.slash_declines vocabulary before _ first)

theorem quoted_reads (text : List Char) : DeclinesOrReads vocabulary before quoted text := by
  by_cases first : text.head? = some '"'
  · obtain ⟨rest, rfl⟩ : ∃ tail, text = '"' :: tail := List.head?_eq_some_iff.1 first
    obtain ⟨body, behind, rfl, within, closes⟩ := exists_body rest
    have inside : ∀ c ∈ body, c ≠ '"' ∧ c ≠ '\n' := fun c member =>
      isStringBody_iff.1 (within c member)
    rcases closes with ⟨behind, rfl⟩ | ends
    · have accepts := @Rule.quoted_accepts vocabulary before behind _ within
      refine .inr ⟨'"' :: body ++ ['"'], behind, _, by simp, .string inside, ?_⟩
      simpa [rule, Verdict.ofResult, tokenAt] using accepts
    · exact .inr ⟨'"' :: body, behind, _, rfl, .unclosed inside ends,
        @Rule.quoted_refuses vocabulary before behind _ within ends⟩
  · exact .inl (@Rule.quoted_declines vocabulary before _ first)

theorem number_reads (text : List Char) : DeclinesOrReads vocabulary before number text := by
  by_cases start : StopsAt isNumberStart text
  · exact .inl (@Rule.number_declines vocabulary before _ start)
  · obtain ⟨c, rest, rfl⟩ : ∃ c rest, text = c :: rest :=
      List.exists_cons_of_ne_nil fun none => start (none ▸ stopsAt_nil _)
    obtain ⟨run, behind, split, digits⟩ := @exists_digits c rest (by simpa using start)
    rw [split]
    rcases digits with ⟨nonempty, digits, stops⟩ | ⟨decimal, stops⟩
    · exact .inr ⟨run, behind, _, rfl, .lexeme (by simp) nonempty,
        @Rule.number_accepts_whole vocabulary before behind _ nonempty digits stops⟩
    · have accepts := @Rule.number_decimal vocabulary before behind _ decimal stops
      by_cases second : behind.head? = some '.'
      · obtain ⟨behind, rfl⟩ : ∃ tail, behind = '.' :: tail := List.head?_eq_some_iff.1 second
        rw [if_pos second, Cursor.between_advance] at accepts
        refine .inr ⟨run ++ ['.'], behind, _, by simp, .malformed (by simp), ?_⟩
        simpa [rule, Verdict.ofResult, errorAt] using accepts
      · rw [if_neg second] at accepts
        exact .inr ⟨run, behind, _, rfl, .lexeme (by simp) decimal.ne_nil, accepts⟩

theorem word_reads (text : List Char) : DeclinesOrReads vocabulary before word text := by
  obtain ⟨run, behind, rfl, letters, stops⟩ := exists_run isLetter text
  by_cases none : run = []
  · subst none
    exact .inl (Rule.word_declines stops)
  · exact .inr ⟨run, behind, _, rfl, .lexeme (by simp) none, Rule.word_accepts none letters stops⟩

theorem reads (name : RuleName) (text : List Char) :
    DeclinesOrReads vocabulary before name text := by
  cases name with
  | symbol => exact symbol_reads text
  | comparison => exact comparison_reads text
  | slash => exact slash_reads text
  | quoted => exact quoted_reads text
  | number => exact number_reads text
  | word => exact word_reads text

/-- A rule that gives a result has taken some text for it. -/
theorem exists_takes {name : RuleName} {text : List Char} {stop : Cursor}
    (result : Except LexicalError Token)
    (answer : name.rule vocabulary (Cursor.between before text) = (.ofResult result, stop)) :
    ∃ taken behind, text = taken ++ behind ∧ stop = Cursor.between (before ++ taken) behind ∧
      Takes (Cursor.between before text) name taken behind result := by
  rcases name.reads text with declines | ⟨taken, behind, result', rfl, reading⟩
  · have declined := congrArg Prod.fst (declines.symm.trans answer)
    exact absurd declined.symm (Verdict.ofResult_ne_declined result)
  · obtain ⟨verdict, same⟩ := Prod.mk.inj (reading.answers.symm.trans answer)
    rw [← Verdict.ofResult_injective verdict]
    exact ⟨taken, behind, rfl, same.symm, reading.takes⟩

end RuleName

end ScriptLex.Scanner
