import ScriptLex.Scanner.Progress

/-! Scanners: a vocabulary, a cursor and whether scanning is over. -/

set_option autoImplicit false

namespace ScriptLex

-- Move over spaces, carriage returns and newlines, one stretch of a line at a time.
def Cursor.skipSeparators (cursor : Cursor) : Cursor :=
  let lineEnd := (cursor.takeWhile Scanner.isBlank).2
  let breaks := lineEnd.takeWhile (· == '\n')
  if _none : breaks.1.isEmpty then breaks.2 else breaks.2.skipSeparators
termination_by cursor.rest.length
decreasing_by
  have blanks := takeWhile_rest_length_le Scanner.isBlank cursor
  have count := takeWhile_rest_length (· == '\n') (cursor.takeWhile Scanner.isBlank).2
  have positive : 0 < breaks.1.length := List.length_pos_iff.2 (mt List.isEmpty_iff.2 _none)
  simp only [breaks, lineEnd] at positive ⊢
  omega

theorem Cursor.skipSeparators_rest_length_le (cursor : Cursor) :
    cursor.skipSeparators.rest.length ≤ cursor.rest.length := by
  fun_induction skipSeparators cursor with
  | case1 cursor lineEnd breaks _ =>
    exact Nat.le_trans (takeWhile_rest_length_le _ _) (takeWhile_rest_length_le _ _)
  | case2 cursor lineEnd breaks _ ih =>
    exact Nat.le_trans ih
      (Nat.le_trans (takeWhile_rest_length_le _ _) (takeWhile_rest_length_le _ _))

/-- What a scanner reads from. `finished` is set once the end of the text or an error has been
reported by `next`. -/
structure Scanner where
  vocabulary : Vocabulary
  cursor : Cursor
  finished : Bool
  deriving DecidableEq, Repr

namespace Scanner

def withVocabulary (vocabulary : Vocabulary) (source : String) : Scanner :=
  ⟨vocabulary, Cursor.ofSource source, false⟩

def ofSource (source : String) : Scanner := withVocabulary .standard source

def skipSeparators (scanner : Scanner) : Scanner :=
  { scanner with cursor := scanner.cursor.skipSeparators }

/-- The first verdict of the rules that is not a refusal. -/
def firstVerdict (vocabulary : Vocabulary) : List Rule → Cursor → Verdict × Cursor
  | [], cursor => (.declined, cursor)
  | rule :: rules, cursor =>
    match rule vocabulary cursor with
    | (.declined, after) => firstVerdict vocabulary rules after
    | accepted => accepted

theorem firstVerdict_rest_length_lt {vocabulary : Vocabulary} {rules : List Rule}
    {cursor after : Cursor} {token : Token}
    (progress : ∀ rule ∈ rules, rule.MakesProgress)
    (inPlace : ∀ rule ∈ rules, rule.DeclinesInPlace)
    (read : firstVerdict vocabulary rules cursor = (.token token, after)) :
    after.rest.length < cursor.rest.length := by
  induction rules with
  | nil => simp [firstVerdict] at read
  | cons rule rules ih =>
    rw [firstVerdict] at read
    split at read
    case h_1 declined verdict =>
      obtain rfl := inPlace rule List.mem_cons_self verdict
      exact ih (fun r member => progress r (List.mem_cons_of_mem _ member))
        (fun r member => inPlace r (List.mem_cons_of_mem _ member)) read
    case h_2 => exact progress rule List.mem_cons_self read

/-- Read one token, ignored ones included, after the separators before it. There is none at the end
of the text. A character that no rule accepts is an error, and the cursor stays on it. -/
def nextToken (scanner : Scanner) : Option (Except LexicalError Token) × Scanner :=
  let start := scanner.cursor.skipSeparators
  match start.current? with
  | none => (none, { scanner with cursor := start })
  | some c =>
    match firstVerdict scanner.vocabulary Rule.all start with
    | (.declined, after) =>
      (some (.error (errorAt start (.unexpectedCharacter c))), { scanner with cursor := after })
    | (.token token, after) => (some (.ok token), { scanner with cursor := after })
    | (.error error, after) => (some (.error error), { scanner with cursor := after })

/-- A token takes text away from what is still to be read. -/
theorem nextToken_rest_length_lt {scanner after : Scanner} {token : Token}
    (read : scanner.nextToken = (some (.ok token), after)) :
    after.cursor.rest.length < scanner.cursor.rest.length := by
  rw [nextToken] at read
  split at read
  case h_1 => simp at read
  case h_2 c here =>
    split at read
    case h_1 => simp at read
    case h_2 accepted verdict =>
      obtain ⟨-, rfl⟩ := Prod.mk.inj read
      exact Nat.lt_of_lt_of_le
        (firstVerdict_rest_length_lt Rule.all_makeProgress Rule.all_declineInPlace verdict)
        (Cursor.skipSeparators_rest_length_le _)
    case h_3 => simp at read

/-- The next token that is not ignored. After the end of the text or an error there is nothing
more. -/
def next (scanner : Scanner) : Option (Except LexicalError Token) × Scanner :=
  if scanner.finished then (none, scanner)
  else match _read : scanner.nextToken with
    | (some (.ok token), after) => if token.isIgnored then after.next else (some (.ok token), after)
    | (some (.error error), after) => (some (.error error), { after with finished := true })
    | (none, after) => (none, { after with finished := true })
termination_by scanner.cursor.rest.length
decreasing_by exact nextToken_rest_length_lt _read

theorem next_rest_length_lt {scanner after : Scanner} {token : Token}
    (read : scanner.next = (some (.ok token), after)) :
    after.cursor.rest.length < scanner.cursor.rest.length := by
  fun_induction next scanner with
  | case1 => simp at read
  | case2 scanner _ first between firstRead ignored ih =>
    exact Nat.lt_trans (ih read) (nextToken_rest_length_lt firstRead)
  | case3 scanner _ first between firstRead significant =>
    obtain ⟨-, rfl⟩ := Prod.mk.inj read
    exact nextToken_rest_length_lt firstRead
  | case4 => simp at read
  | case5 => simp at read

/-- Every token up to the end of the text, or the first error, with the scanner afterwards. -/
def drain (scanner : Scanner) : Except LexicalError (List Token) × Scanner :=
  match _read : scanner.next with
  | (none, after) => (.ok [], after)
  | (some (.error error), after) => (.error error, after)
  | (some (.ok token), after) =>
    let (tokens, last) := after.drain
    (tokens.map (token :: ·), last)
termination_by scanner.cursor.rest.length
decreasing_by exact next_rest_length_lt _read

/-- The tokens of the text that is still to be read, or the first error in it. -/
def scan (scanner : Scanner) : Except LexicalError (List Token) := scanner.drain.1

end Scanner

/-- The tokens of a source, or the first error in it. -/
def scan (source : String) : Except LexicalError (List Token) := (Scanner.ofSource source).scan

end ScriptLex
