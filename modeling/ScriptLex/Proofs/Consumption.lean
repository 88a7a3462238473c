import ScriptLex.Proofs.Steps

/-! The three ways of taking the tokens of a scanner.

`nextToken` gives every token, `next` leaves out the ignored ones and is over for good behind its
last result, and `scan` collects what `next` has still to give. What `nextToken` would report up to
the end of the text or the first error decides what the other two do, at any point of a scanner's
life. -/

set_option autoImplicit false

namespace ScriptLex.Scanner

variable {scanner stop : Scanner} {tokens : List Token} {step : Step}
  {result last : Option (Except LexicalError Token)}

/-! ### Tokens and what comes behind them -/

def tokenResults (tokens : List Token) : List (Option (Except LexicalError Token)) :=
  tokens.map fun token => some (.ok token)

/-- The tokens without those that are ignored. -/
def significant (tokens : List Token) : List Token := tokens.filter fun token => !token.isIgnored

/-- What collecting the tokens comes to in front of a last result. Of an error nothing but itself
is left. -/
def outcome (tokens : List Token) :
    Option (Except LexicalError Token) → Except LexicalError (List Token)
  | some (.error error) => .error error
  | _ => .ok tokens

theorem outcome_cons (token : Token) (tokens : List Token)
    (last : Option (Except LexicalError Token)) :
    outcome (token :: tokens) last = (outcome tokens last).map (token :: ·) := by
  rcases last with _ | _ | _ <;> rfl

theorem eq_of_outcome {list : List Token} (collected : outcome tokens last = .ok list) :
    list = tokens := by
  rcases last with _ | _ | _
  · exact (Except.ok.inj collected).symm
  · cases collected
  · exact (Except.ok.inj collected).symm

/-- `Reports step scanner tokens last`: steps of one kind report the tokens and then `last`, which
is no token. -/
inductive Reports (step : Step) :
    Scanner → List Token → Option (Except LexicalError Token) → Prop where
  | ends {scanner stop : Scanner} {result : Option (Except LexicalError Token)}
      (run : step.run scanner = (result, stop)) (last : isLast result = true) :
      Reports step scanner [] result
  | token {scanner stop : Scanner} {token : Token} {tokens : List Token}
      {last : Option (Except LexicalError Token)}
      (run : step.run scanner = (some (.ok token), stop)) (more : Reports step stop tokens last) :
      Reports step scanner (token :: tokens) last

/-- The results of steps of one kind are those of the tokens and then `last`, which is no token. -/
structure Series (step : Step) (scanner : Scanner) (tokens : List Token)
    (last : Option (Except LexicalError Token)) : Prop where
  ends : isLast last = true
  results : (perform (List.replicate (tokens.length + 1) step) scanner).1 =
    tokenResults tokens ++ [last]

theorem reports_iff_series :
    Reports step scanner tokens last ↔ Series step scanner tokens last := by
  induction tokens generalizing scanner with
  | nil =>
    rcases run : step.run scanner with ⟨result, stop⟩
    constructor
    · rintro (@⟨_, stop', _, run', ends⟩ | _)
      obtain ⟨rfl, -⟩ := Prod.mk.inj (run.symm.trans run')
      exact ⟨ends, by simp [perform, run, tokenResults]⟩
    · rintro ⟨ends, results⟩
      obtain rfl : result = last := by simpa [perform, run, tokenResults] using results
      exact .ends run ends
  | cons token tokens ih =>
    rcases run : step.run scanner with ⟨result, stop⟩
    have first : (perform (List.replicate ((token :: tokens).length + 1) step) scanner).1 =
        result :: (perform (List.replicate (tokens.length + 1) step) stop).1 := by
      rw [List.length_cons, List.replicate_succ, perform, run]
    constructor
    · rintro (_ | ⟨run', more⟩)
      obtain ⟨rfl, rfl⟩ := Prod.mk.inj (run.symm.trans run')
      obtain ⟨ends, behind⟩ := ih.1 more
      exact ⟨ends, by rw [first, behind]; rfl⟩
    · rintro ⟨ends, results⟩
      obtain ⟨rfl, behind⟩ := List.cons.inj (first.symm.trans results)
      exact .token run (ih.2 ⟨ends, behind⟩)

/-- Calls of `nextToken` come to a last result. -/
theorem exists_reports (scanner : Scanner) :
    ∃ tokens last, Reports .nextToken scanner tokens last := by
  match read : scanner.nextToken with
  | (none, stop) => exact ⟨[], none, .ends read rfl⟩
  | (some (.error error), stop) => exact ⟨[], some (.error error), .ends read rfl⟩
  | (some (.ok token), stop) =>
    obtain ⟨tokens, last, more⟩ := exists_reports stop
    exact ⟨token :: tokens, last, .token read more⟩
termination_by scanner.cursor.rest.length
decreasing_by exact nextToken_rest_length_lt read

/-! ### Calls of `next` -/

theorem finished_of_next (call : scanner.next = (result, stop)) (last : isLast result = true) :
    stop.finished = true := by
  fun_induction next scanner with
  | case1 scanner finished =>
    obtain ⟨rfl, rfl⟩ := Prod.mk.inj call
    exact finished
  | case2 scanner _ token after read ignored ih => exact ih call
  | case3 scanner _ token after read significant =>
    obtain ⟨rfl, rfl⟩ := Prod.mk.inj call
    cases last
  | case4 scanner _ error after read =>
    obtain ⟨rfl, rfl⟩ := Prod.mk.inj call
    rfl
  | case5 scanner _ after read =>
    obtain ⟨rfl, rfl⟩ := Prod.mk.inj call
    rfl

theorem nextToken_finished (read : scanner.nextToken = (result, stop)) :
    stop.finished = scanner.finished := by
  have same : scanner.nextToken.2.finished = scanner.finished := by
    rw [nextToken]
    split
    · rfl
    · split <;> rfl
  rw [read] at same
  exact same

theorem Reports.next_congr {other : Scanner} (reports : Reports .next scanner tokens last)
    (same : other.next = scanner.next) : Reports .next other tokens last := by
  cases reports with
  | ends run ends => exact .ends (same.trans run) ends
  | token run more => exact .token (same.trans run) more

/-- What `next` reports is what `nextToken` reports, without the ignored tokens. -/
theorem Reports.next (reports : Reports .nextToken scanner tokens last)
    (unfinished : scanner.finished = false) : Reports .next scanner (significant tokens) last := by
  induction reports with
  | @ends scanner stop result read ends =>
    match result with
    | none => exact .ends (next_of_end unfinished read) rfl
    | some (.error error) => exact .ends (next_of_error unfinished read) rfl
  | @token scanner stop token tokens last read more ih =>
    have onward := ih ((nextToken_finished read).trans unfinished)
    have call := next_of_token unfinished read
    cases ignored : token.isIgnored with
    | false =>
      rw [ignored, if_neg (by simp)] at call
      rw [significant, List.filter_cons_of_pos (by simp [ignored])]
      exact .token call onward
    | true =>
      rw [ignored, if_pos rfl] at call
      rw [significant, List.filter_cons_of_neg (by simp [ignored])]
      exact onward.next_congr call

theorem isIgnored_of_next {token : Token} (call : scanner.next = (some (.ok token), stop)) :
    token.isIgnored = false := by
  fun_induction next scanner with
  | case1 => cases call
  | case2 scanner _ first after read ignored ih => exact ih call
  | case3 scanner _ first after read kept =>
    obtain ⟨same, -⟩ := Prod.mk.inj call
    obtain rfl : first = token := by simpa using same
    simpa using kept
  | case4 => cases call
  | case5 => cases call

theorem perform_next_succ (k : Nat) (call : scanner.next = (result, stop)) :
    perform (List.replicate (k + 1) .next) scanner =
      (result :: (perform (List.replicate k .next) stop).1,
        (perform (List.replicate k .next) stop).2) := by
  rw [List.replicate_succ, perform, Step.run, call]

theorem perform_next_of_finished (k : Nat) (finished : scanner.finished = true) :
    perform (List.replicate k .next) scanner = (List.replicate k none, scanner) := by
  induction k with
  | zero => rfl
  | succ k ih => rw [perform_next_succ k (next_of_finished finished), ih, List.replicate_succ]

theorem isIgnored_of_mem_perform (k : Nat) {token : Token}
    (member : some (.ok token) ∈ (perform (List.replicate k .next) scanner).1) :
    token.isIgnored = false := by
  induction k generalizing scanner with
  | zero => cases member
  | succ k ih =>
    rcases call : scanner.next with ⟨result, stop⟩
    rw [perform_next_succ k call] at member
    rcases List.mem_cons.1 member with rfl | later
    · exact isIgnored_of_next call
    · exact ih later

/-- Behind the last result there is nothing but the end. -/
theorem Reports.perform_next (reports : Reports .next scanner tokens last) (n : Nat) :
    (perform (List.replicate (tokens.length + 1 + n) .next) scanner).1 =
      tokenResults tokens ++ last :: List.replicate n none := by
  induction reports with
  | @ends scanner stop result call ends =>
    have done := perform_next_of_finished n (finished_of_next call ends)
    rw [List.length_nil, Nat.zero_add, Nat.add_comm, perform_next_succ n call, done]
    rfl
  | @token scanner stop token tokens last call more ih =>
    have length : (token :: tokens).length + 1 + n = tokens.length + 1 + n + 1 := by
      rw [List.length_cons]
      omega
    rw [length, perform_next_succ _ call, ih]
    rfl

/-! ### Collecting what is left -/

theorem Reports.scan (reports : Reports .next scanner tokens last) :
    scanner.scan = outcome tokens last := by
  induction reports with
  | @ends scanner stop result call ends =>
    match result with
    | none => rw [Scanner.scan, drain_of_end call]; rfl
    | some (.error error) => rw [Scanner.scan, drain_of_error call]; rfl
  | @token scanner stop token tokens last call more ih =>
    rw [outcome_cons, ← ih, Scanner.scan, drain_of_token call]
    rfl

theorem scan_of_finished (finished : scanner.finished = true) : scanner.scan = .ok [] := by
  rw [scan, drain_of_end (next_of_finished finished)]

/-- As long as only tokens have come, `next` goes on with the others. -/
theorem Reports.after_tokens (reports : Reports .next scanner tokens last) (k : Nat)
    (only : ∀ result ∈ (perform (List.replicate k .next) scanner).1, isLast result = false) :
    Reports .next (scanner.after (List.replicate k .next)) (tokens.drop k) last := by
  induction k generalizing scanner tokens with
  | zero => exact reports
  | succ k ih =>
    cases reports with
    | ends call ends =>
      rw [perform_next_succ k call] at only
      have more := only _ List.mem_cons_self
      rw [ends] at more
      cases more
    | token call more =>
      rw [perform_next_succ k call] at only
      have onward := ih more fun result later => only result (List.mem_cons_of_mem _ later)
      rw [after, perform_next_succ k call]
      exact onward

theorem finished_after_last (k : Nat)
    (ended : ∃ result ∈ (perform (List.replicate k .next) scanner).1, isLast result = true) :
    (scanner.after (List.replicate k .next)).finished = true := by
  induction k generalizing scanner with
  | zero =>
    obtain ⟨result, member, -⟩ := ended
    cases member
  | succ k ih =>
    rcases call : scanner.next with ⟨first, stop⟩
    obtain ⟨result, member, ends⟩ := ended
    rw [perform_next_succ k call] at member
    rw [after, perform_next_succ k call]
    rcases List.mem_cons.1 member with rfl | later
    · have finished := finished_of_next call ends
      rw [perform_next_of_finished k finished]
      exact finished
    · exact ih ⟨result, later, ends⟩

/-- How `next` and `scan` behave where `nextToken` would report the tokens and then `last`. -/
structure ConsumersAgree (scanner : Scanner) (tokens : List Token)
    (last : Option (Except LexicalError Token)) : Prop where
  pulled : ∀ n,
    (perform (List.replicate ((significant tokens).length + 1 + n) .next) scanner).1 =
      tokenResults (significant tokens) ++ last :: List.replicate n none
  scanned : scanner.scan = outcome (significant tokens) last
  resumed : ∀ k,
    (∀ result ∈ (perform (List.replicate k .next) scanner).1, isLast result = false) →
      (scanner.after (List.replicate k .next)).scan = outcome ((significant tokens).drop k) last
  spent : ∀ k,
    (∃ result ∈ (perform (List.replicate k .next) scanner).1, isLast result = true) →
      (scanner.after (List.replicate k .next)).scan = .ok []
  reported : ∀ k token, some (.ok token) ∈ (perform (List.replicate k .next) scanner).1 →
    token.kind ≠ .ignored
  listed : ∀ k list, (scanner.after (List.replicate k .next)).scan = .ok list →
    ∀ token ∈ list, token.kind ≠ .ignored

theorem kind_ne_ignored {token : Token} (kept : token.isIgnored = false) :
    token.kind ≠ .ignored := by
  simpa [Token.isIgnored] using kept

theorem Reports.consumersAgree (reports : Reports .nextToken scanner tokens last)
    (unfinished : scanner.finished = false) : ConsumersAgree scanner tokens last where
  pulled := (reports.next unfinished).perform_next
  scanned := (reports.next unfinished).scan
  resumed k only := ((reports.next unfinished).after_tokens k only).scan
  spent k ended := scan_of_finished (finished_after_last k ended)
  reported k token member := kind_ne_ignored (isIgnored_of_mem_perform k member)
  listed k list collected token member := by
    by_cases ended : ∃ result ∈ (perform (List.replicate k .next) scanner).1, isLast result = true
    · rw [scan_of_finished (finished_after_last k ended)] at collected
      obtain rfl := Except.ok.inj collected
      cases member
    · have only : ∀ result ∈ (perform (List.replicate k .next) scanner).1,
          isLast result = false := by simpa using ended
      rw [((reports.next unfinished).after_tokens k only).scan] at collected
      rw [eq_of_outcome collected] at member
      have kept := (List.mem_filter.1 (List.mem_of_mem_drop member)).2
      exact kind_ne_ignored (by simpa using kept)

/-- Calls of `nextToken` on a new scanner report some tokens and then the end of the text or an
error. Calls of `next` report the same without the ignored tokens, and scanning, also behind some
calls of `next`, gives the tokens that are left or the error. -/
theorem consumers_agree (vocabulary : Vocabulary) (source : String) :
    (∃ tokens last, Series .nextToken (withVocabulary vocabulary source) tokens last) ∧
    ∀ tokens last, Series .nextToken (withVocabulary vocabulary source) tokens last →
      ConsumersAgree (withVocabulary vocabulary source) tokens last := by
  constructor
  · obtain ⟨tokens, last, reports⟩ := exists_reports (withVocabulary vocabulary source)
    exact ⟨tokens, last, reports_iff_series.1 reports⟩
  · intro tokens last series
    exact (reports_iff_series.2 series).consumersAgree rfl

/-- A vocabulary with a symbol and a word that are left out as comments are. -/
def reticentVocabulary : Vocabulary := ⟨[('#', .ignored), (';', .semicolon)], [("skip", .ignored)]⟩

def reticentScanner : Scanner := withVocabulary reticentVocabulary "# a skip // c\n; # b skip@ d"

theorem consumers_agree_reticent :
    Series .nextToken reticentScanner
      [⟨.ignored, "#", 1⟩, ⟨.identifier, "a", 1⟩, ⟨.ignored, "skip", 1⟩, ⟨.ignored, "", 1⟩,
        ⟨.semicolon, ";", 2⟩, ⟨.ignored, "#", 2⟩, ⟨.identifier, "b", 2⟩, ⟨.ignored, "skip", 2⟩]
      (some (.error ⟨.unexpectedCharacter '@', 24, 2⟩)) ∧
    (perform (List.replicate 5 .next) reticentScanner).1 =
      [some (.ok ⟨.identifier, "a", 1⟩), some (.ok ⟨.semicolon, ";", 2⟩),
        some (.ok ⟨.identifier, "b", 2⟩), some (.error ⟨.unexpectedCharacter '@', 24, 2⟩), none] ∧
    (reticentScanner.after (List.replicate 2 .next)).scan =
      .error ⟨.unexpectedCharacter '@', 24, 2⟩ ∧
    (reticentScanner.after (List.replicate 4 .next)).scan = .ok [] := by
  have series : Series .nextToken reticentScanner
      [⟨.ignored, "#", 1⟩, ⟨.identifier, "a", 1⟩, ⟨.ignored, "skip", 1⟩, ⟨.ignored, "", 1⟩,
        ⟨.semicolon, ";", 2⟩, ⟨.ignored, "#", 2⟩, ⟨.identifier, "b", 2⟩, ⟨.ignored, "skip", 2⟩]
      (some (.error ⟨.unexpectedCharacter '@', 24, 2⟩)) := ⟨rfl, by decide +kernel⟩
  have agree := (consumers_agree reticentVocabulary _).2 _ _ series
  exact ⟨series, agree.pulled 1, agree.resumed 2 (by decide +kernel),
    agree.spent 4 (by decide +kernel)⟩

end ScriptLex.Scanner
