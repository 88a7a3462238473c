import ScriptLex.Proofs.Decoding
import ScriptLex.Proofs.TomlSpelling

/-! Documents as texts: statements with blanks, comments and line breaks around them.

The statements of a document are read back whatever stands between them. -/

set_option autoImplicit false

namespace ScriptLex.Toml

open ScriptLex.Text
open ScriptLex.Source.Encoding (withoutMark withoutMark_eq_iff)

/-! ### Between statements -/

inductive IsBreak : List Char → Prop where
  | newline : IsBreak ['\n']
  | carriage : IsBreak ['\r', '\n']

/-- A comment without the line break that ends it, or none. -/
inductive Remark : List Char → Prop where
  | none : Remark []
  | comment {body : List Char} (printing : ∀ c ∈ body, isPrinting c = true) : Remark ('#' :: body)

/-- Blanks, empty lines and lines of comment. -/
inductive Trivia : List Char → Prop where
  | nil : Trivia []
  | blank {c : Char} {more : List Char} (blank : isBlank c = true) (trivia : Trivia more) :
      Trivia (c :: more)
  | line {remark ending more : List Char} (isRemark : Remark remark) (isBreak : IsBreak ending)
      (trivia : Trivia more) : Trivia (remark ++ (ending ++ more))

theorem isPrinting_ne {c : Char} (printing : isPrinting c = true) : c ≠ '\n' ∧ c ≠ '\r' := by
  constructor <;> rintro rfl <;> exact absurd printing (by decide)

theorem skipTrivia_break (inComment : Bool) {ending : List Char} (isBreak : IsBreak ending)
    (behind : List Char) : skipTrivia inComment (ending ++ behind) = skipTrivia false behind := by
  cases isBreak <;> exact skipTrivia.eq_def _ _

theorem skipTrivia_body {body : List Char} (printing : ∀ c ∈ body, isPrinting c = true)
    (behind : List Char) : skipTrivia true (body ++ behind) = skipTrivia true behind := by
  induction body with
  | nil => rfl
  | cons c body ih =>
    have first := printing c List.mem_cons_self
    obtain ⟨newline, carriage⟩ := isPrinting_ne first
    rw [List.cons_append, skipTrivia.eq_def]
    simp only [newline, carriage, first, if_true, if_false]
    exact ih fun d member => printing d (List.mem_cons_of_mem c member)

theorem skipTrivia_mark (behind : List Char) :
    skipTrivia false ('#' :: behind) = skipTrivia true behind := skipTrivia.eq_def _ _

theorem skipTrivia_line {remark ending : List Char} (isRemark : Remark remark)
    (isBreak : IsBreak ending) (behind : List Char) :
    skipTrivia false (remark ++ (ending ++ behind)) = skipTrivia false behind := by
  cases isRemark with
  | none => exact skipTrivia_break false isBreak behind
  | comment printing =>
    rw [List.cons_append, skipTrivia_mark, skipTrivia_body printing, skipTrivia_break true isBreak]

theorem skipTrivia_blank {c : Char} (blank : isBlank c = true) (behind : List Char) :
    skipTrivia false (c :: behind) = skipTrivia false behind := by
  obtain rfl | rfl := eq_of_isBlank blank <;> exact skipTrivia.eq_def _ _

theorem skipTrivia_append {gap : List Char} (trivia : Trivia gap) (behind : List Char) :
    skipTrivia false (gap ++ behind) = skipTrivia false behind := by
  induction trivia with
  | nil => rfl
  | blank blank trivia ih => rw [List.cons_append, skipTrivia_blank blank, ih]
  | line isRemark isBreak trivia ih =>
    rw [List.append_assoc, List.append_assoc, skipTrivia_line isRemark isBreak, ih]

theorem skipTrivia_remark {remark : List Char} (isRemark : Remark remark) :
    skipTrivia false remark = [] := by
  cases isRemark with
  | none => rfl
  | @comment body printing =>
    have skipped := skipTrivia_body printing []
    rw [List.append_nil] at skipped
    rw [skipTrivia_mark, skipped]
    rfl

/-- Where something else begins, nothing is skipped. -/
theorem skipTrivia_front {c : Char} (front : isNameFront c = true ∨ c = '[') (cs : List Char) :
    skipTrivia false (c :: cs) = c :: cs := by
  have other : c ≠ '\n' ∧ c ≠ '\r' ∧ isBlank c = false ∧ c ≠ '#' := by
    rcases front with front | rfl
    · exact ⟨ne_of_isNameFront front (by decide), ne_of_isNameFront front (by decide),
        isBlank_of_isNameFront front, ne_of_isNameFront front (by decide)⟩
    · decide
  rw [skipTrivia.eq_def]
  simp [other]

/-! ### The end of a line -/

/-- Blanks and a comment are left out in front of a line break or the end of the document. -/
theorem lineEnd?_append {tail remark behind : List Char} (blank : Blank tail)
    (isRemark : Remark remark) (ends : ∀ c ∈ behind.head?, c = '\n' ∨ c = '\r') :
    lineEnd? (tail ++ (remark ++ behind)) =
      if behind.isEmpty then some [] else newline? behind := by
  have stops : StopsAt isBlank behind := fun c first => by
    rcases ends c first with rfl | rfl <;> rfl
  have printed : StopsAt isPrinting behind := fun c first => by
    rcases ends c first with rfl | rfl <;> rfl
  cases isRemark with
  | none =>
    rw [List.nil_append, lineEnd?, skipBlank_append blank stops]
    cases behind with
    | nil => rfl
    | cons c behind =>
      rcases ends c rfl with rfl | rfl <;> rfl
  | @comment body printing =>
    rw [lineEnd?, List.cons_append, skipBlank_append blank (stopsAt_cons.2 rfl)]
    simp only [dropWhile_run printing printed]

theorem newline?_break {ending : List Char} (isBreak : IsBreak ending) (behind : List Char) :
    newline? (ending ++ behind) = some behind := by
  cases isBreak <;> rfl

theorem lineEnd?_break {tail remark ending : List Char} (blank : Blank tail)
    (isRemark : Remark remark) (isBreak : IsBreak ending) (behind : List Char) :
    lineEnd? (tail ++ (remark ++ (ending ++ behind))) = some behind := by
  rw [lineEnd?_append blank isRemark (by cases isBreak <;> simp), newline?_break isBreak]
  cases isBreak <;> rfl

theorem lineEnd?_last {tail remark : List Char} (blank : Blank tail) (isRemark : Remark remark) :
    lineEnd? (tail ++ remark) = some [] := by
  have ended : lineEnd? (tail ++ (remark ++ [])) = some [] := lineEnd?_append blank isRemark (by simp)
  rwa [List.append_nil] at ended

/-! ### Statements -/

/-- Entries and headers in single brackets. The blanks in front of them are no part of them. -/
inductive SpellsStatement : Statement → List Char → Prop where
  | entry {entry : Entry} {text : List Char} (spelled : SpellsEntry SpellsValue entry text)
      (front : StopsAt isBlank text) : SpellsStatement (.entry entry) text
  | header {path : List String} {key : String} {text : List Char}
      (spelled : SpellsKey (path ++ [key]) text) :
      SpellsStatement (.header path key) ('[' :: (text ++ [']']))

/-- What stands on the line of a statement in front of its end. -/
def statementBody : Reader Statement
  | '[' :: '[' :: cs => headerBody "]]" .element cs
  | '[' :: cs => headerBody "]" .header cs
  | cs => (entry (value depthLimit) cs).map fun (entry, rest) => (.entry entry, rest)

theorem statement_eq (cs : List Char) :
    statement cs = (do
      let (statement, rest) ← statementBody (skipTrivia false cs)
      return (statement, ← lineEnd? rest)) := by
  rw [statement]
  generalize skipTrivia false cs = front
  split
  case h_1 => rfl
  case h_2 single => rw [statementBody.eq_2 _ single]
  case h_3 double single => rw [statementBody.eq_3 _ double single]

theorem SpellsEntry.exists_front {spells : Value → List Char → Prop} {entry : Entry}
    {text : List Char} (spelled : SpellsEntry spells entry text) (front : StopsAt isBlank text) :
    ∃ c cs, text = c :: cs ∧ isNameFront c = true := by
  cases spelled with
  | mk keys =>
    obtain ⟨c, cs, rfl, blank | begins⟩ := keys.exists_front
    · rw [List.cons_append, stopsAt_cons, blank] at front
      cases front
    · exact ⟨c, _, rfl, begins⟩

theorem statementBody_entry {entry : Entry} {text behind : List Char}
    (spelled : SpellsEntry SpellsValue entry text) (front : StopsAt isBlank text)
    (stops : StopsAt isQuote behind) :
    statementBody (text ++ behind) = some (.entry entry, behind) := by
  have read := entry_spelled (reads_value 78) spelled stops
  obtain ⟨c, cs, rfl, begins⟩ := spelled.exists_front front
  have bracket : c ≠ '[' := ne_of_isNameFront begins (by decide)
  unfold statementBody
  split
  case h_1 same => exact absurd (List.cons.inj same).1 bracket
  case h_2 same => exact absurd (List.cons.inj same).1 bracket
  case h_3 =>
    rw [depthLimit, read]
    rfl

theorem statementBody_header {path : List String} {key : String} {text : List Char}
    (spelled : SpellsKey (path ++ [key]) text) (behind : List Char) :
    statementBody ('[' :: (text ++ ']' :: behind)) = some (.header path key, behind) := by
  have read := key_spelled spelled (.inr rfl) behind
  obtain ⟨c, cs, rfl, begins⟩ := spelled.exists_front
  have bracket : c ≠ '[' := by
    rintro rfl
    exact absurd begins (by decide)
  unfold statementBody
  split
  case h_1 same => exact absurd (List.cons.inj (List.cons.inj same).2).1 bracket
  case h_2 same =>
    obtain rfl := (List.cons.inj same).2
    rw [headerBody, read]
    simp [Reader.after?]
  case h_3 other => exact absurd rfl (other _)

theorem SpellsStatement.read {made : Statement} {text behind : List Char}
    (spelled : SpellsStatement made text) (stops : StopsAt isQuote behind) :
    statementBody (text ++ behind) = some (made, behind) := by
  cases spelled with
  | entry spelled front => exact statementBody_entry spelled front stops
  | header spelled =>
    have read := statementBody_header spelled behind
    rwa [List.cons_append, List.append_assoc]

theorem SpellsStatement.exists_front {made : Statement} {text : List Char}
    (spelled : SpellsStatement made text) :
    ∃ c cs, text = c :: cs ∧ (isNameFront c = true ∨ c = '[') := by
  cases spelled with
  | entry spelled front =>
    obtain ⟨c, cs, rfl, begins⟩ := spelled.exists_front front
    exact ⟨c, cs, rfl, .inl begins⟩
  | header spelled => exact ⟨'[', _, rfl, .inr rfl⟩

/-- A statement is read with the trivia in front of it and the end of its line. -/
theorem statement_spelled {made : Statement} {gap text behind rest : List Char}
    (trivia : Trivia gap) (spelled : SpellsStatement made text) (stops : StopsAt isQuote behind)
    (ends : lineEnd? behind = some rest) :
    statement (gap ++ (text ++ behind)) = some (made, rest) := by
  have skipped : skipTrivia false (gap ++ (text ++ behind)) = text ++ behind := by
    obtain ⟨c, cs, rfl, begins⟩ := spelled.exists_front
    rw [skipTrivia_append trivia]
    exact skipTrivia_front begins _
  rw [statement_eq, skipped, spelled.read stops]
  simp [ends]

theorem statement_trivia {text : List Char} (skipped : skipTrivia false text = []) :
    statement text = none := by
  have refused : statementBody [] = none := by
    show (entry (value depthLimit) []).map _ = none
    rw [entry_none rfl]
    rfl
  rw [statement_eq, skipped, refused]
  rfl

/-! ### Documents -/

/-- `Document statements text`: the text is made of the statements, each on a line of its own, with
trivia in front of them and behind the last. Only the last line may do without a line break. -/
inductive Document : List Statement → List Char → Prop where
  | done {gap remark : List Char} (trivia : Trivia gap) (isRemark : Remark remark) :
      Document [] (gap ++ remark)
  | last {made : Statement} {gap text tail remark : List Char} (trivia : Trivia gap)
      (spelled : SpellsStatement made text) (blank : Blank tail) (isRemark : Remark remark) :
      Document [made] (gap ++ (text ++ (tail ++ remark)))
  | line {made : Statement} {statements : List Statement}
      {gap text tail remark ending rest : List Char} (trivia : Trivia gap)
      (spelled : SpellsStatement made text) (blank : Blank tail) (isRemark : Remark remark)
      (isBreak : IsBreak ending) (document : Document statements rest) :
      Document (made :: statements) (gap ++ (text ++ (tail ++ (remark ++ (ending ++ rest)))))

theorem Remark.stopsAt {remark : List Char} (isRemark : Remark remark) : StopsAt isQuote remark := by
  cases isRemark with
  | none => exact stopsAt_nil _
  | comment => exact stopsAt_cons.2 rfl

theorem IsBreak.stopsAt {ending : List Char} (isBreak : IsBreak ending) (behind : List Char) :
    StopsAt isQuote (ending ++ behind) := by
  cases isBreak <;> exact stopsAt_cons.2 rfl

theorem SpellsStatement.length_pos {made : Statement} {text : List Char}
    (spelled : SpellsStatement made text) : 0 < text.length := by
  obtain ⟨c, cs, rfl, -⟩ := spelled.exists_front
  exact Nat.succ_pos _

/-- The statements of a document are read one after the other, and trivia are left. -/
theorem Document.exists_many {statements : List Statement} {text : List Char}
    (document : Document statements text) :
    ∃ rest, Reader.many statement text = (statements, rest) ∧ skipTrivia false rest = [] := by
  induction document with
  | @done gap remark trivia isRemark =>
    have skipped : skipTrivia false (gap ++ remark) = [] := by
      rw [skipTrivia_append trivia, skipTrivia_remark isRemark]
    exact ⟨_, Reader.many_none (statement_trivia skipped), skipped⟩
  | last trivia spelled blank isRemark =>
    have stops := (blank.stopsAt rfl rfl).append isRemark.stopsAt
    have read := statement_spelled trivia spelled stops (lineEnd?_last blank isRemark)
    refine ⟨[], Reader.many_more read ?_ (Reader.many_none (statement_trivia rfl)), rfl⟩
    have positive := spelled.length_pos
    simp only [List.length_append, List.length_nil]
    omega
  | @line _ _ _ _ _ _ _ rest trivia spelled blank isRemark isBreak _ ih =>
    obtain ⟨left, more, skipped⟩ := ih
    have stops := (blank.stopsAt rfl rfl).append (isRemark.stopsAt.append (isBreak.stopsAt rest))
    have read := statement_spelled trivia spelled stops (lineEnd?_break blank isRemark isBreak rest)
    refine ⟨left, Reader.many_more read ?_ more, skipped⟩
    have positive := spelled.length_pos
    simp only [List.length_append]
    omega

theorem statement_mark (cs : List Char) : statement ('\ufeff' :: cs) = none := by
  have refused : statementBody ('\ufeff' :: cs) = none := by
    show (entry (value depthLimit) ('\ufeff' :: cs)).map _ = none
    rw [entry_none rfl]
    rfl
  rw [statement_eq, skipTrivia.eq_def]
  exact congrArg (· >>= _) refused

/-- The byte order mark is no part of a document. -/
theorem Document.head?_ne {statements : List Statement} {text : List Char}
    (document : Document statements text) : text.head? ≠ some '\ufeff' := by
  -- Nothing could be read from there on, nor is a mark skipped.
  intro marked
  obtain ⟨cs, rfl⟩ := List.head?_eq_some_iff.1 marked
  obtain ⟨rest, read, skipped⟩ := document.exists_many
  rw [Reader.many_none (statement_mark cs)] at read
  obtain rfl := (Prod.mk.inj read).2
  rw [skipTrivia.eq_def] at skipped
  cases skipped

/-- Statements that can be written make up a document, each on a line. -/
theorem exists_document {statements : List Statement}
    (spelled : ∀ made ∈ statements, ∃ text, SpellsStatement made text) :
    ∃ cs, Document statements cs := by
  induction statements with
  | nil => exact ⟨_, .done .nil .none⟩
  | cons made statements ih =>
    obtain ⟨text, first⟩ := spelled made List.mem_cons_self
    obtain ⟨cs, document⟩ := ih fun made member => spelled made (List.mem_cons_of_mem _ member)
    exact ⟨_, .line .nil first Blank.nil .none .newline document⟩

/-- The table that statements make up. -/
def tableOf? (statements : List Statement) : Option Table := do
  let table ← Table.insertAll [] (sections statements).1
  (sections statements).2.foldlM Table.addSection table

theorem read?_eq (text : String) :
    read? text =
      if (skipTrivia false (Reader.many statement (withoutMark text.toList)).2).isEmpty then
        tableOf? (Reader.many statement (withoutMark text.toList)).1
      else none := rfl

/-- A document denotes what its statements make up, also behind a byte order mark. -/
theorem Document.read?_eq {statements : List Statement} {text : String} {cs : List Char}
    (document : Document statements cs) (shape : text.toList = cs ∨ text.toList = '\ufeff' :: cs) :
    read? text = tableOf? statements := by
  obtain ⟨rest, read, skipped⟩ := document.exists_many
  have unmarked : withoutMark text.toList = cs := by
    refine withoutMark_eq_iff.2 (shape.imp (fun plain => ⟨plain, ?_⟩) id)
    exact document.head?_ne
  rw [Toml.read?_eq, unmarked, read, skipped]
  rfl

end ScriptLex.Toml
