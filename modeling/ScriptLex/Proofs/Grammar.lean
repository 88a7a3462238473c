import ScriptLex.Proofs.Reading
import ScriptLex.Proofs.Vocabulary

/-! The lexical grammar as a division of a text into gaps and lexemes.

The grammar says which lexemes there are and which characters may not follow one. It does not say
how far a lexeme reaches, nor which rule is tried first. Scanning accepts a text exactly when the
grammar divides it, and then in one way only. -/

set_option autoImplicit false

namespace ScriptLex.Grammar

open ScriptLex.Text ScriptLex.Scanner

/-- Separators and line comments, with the text after them. Only the end of the text may stand in
for the newline of a comment. -/
inductive Gap : List Char → List Char → Prop where
  | nil {after : List Char} : Gap [] after
  | separator {c : Char} {gap after : List Char} (blank : c = ' ' ∨ c = '\r' ∨ c = '\n')
      (more : Gap gap after) : Gap (c :: gap) after
  | comment {body gap after : List Char} (within : ∀ c ∈ body, c ≠ '\n') (more : Gap gap after) :
      Gap ('/' :: '/' :: body ++ '\n' :: gap) after
  | lastComment {body : List Char} (within : ∀ c ∈ body, c ≠ '\n') : Gap ('/' :: '/' :: body) []

/-- The lexemes of each kind, with the text that a token keeps of them. -/
inductive Lexeme : List Char → Kind → List Char → Prop where
  | symbol {c : Char} {kind : Kind} (listed : (c, kind) ∈ Vocabulary.standard.symbols) :
      Lexeme [c] kind [c]
  | lessThan : Lexeme ['<'] .lessThan ['<']
  | greaterThan : Lexeme ['>'] .greaterThan ['>']
  | lessEqual : Lexeme ['<', '='] .lessEqual ['<', '=']
  | greaterEqual : Lexeme ['>', '='] .greaterEqual ['>', '=']
  | equivalent : Lexeme ['=', '='] .equivalent ['=', '=']
  | notEqual : Lexeme ['!', '='] .notEqual ['!', '=']
  | divide : Lexeme ['/'] .divide ['/']
  | string {body : List Char} (within : ∀ c ∈ body, c ≠ '"' ∧ c ≠ '\n') :
      Lexeme ('"' :: body ++ ['"']) .string body
  | number {run : List Char} (nonempty : run ≠ [])
      (digits : ∀ c ∈ run, isDigit c = true ∨ c = '.') (points : run.count '.' ≤ 1) :
      Lexeme run .number run
  | reserved {run : List Char} {kind : Kind}
      (listed : (String.ofList run, kind) ∈ Vocabulary.standard.words) : Lexeme run kind run
  | identifier {run : List Char} (nonempty : run ≠ []) (letters : ∀ c ∈ run, isLetter c = true)
      (free : ∀ kind, (String.ofList run, kind) ∉ Vocabulary.standard.words) :
      Lexeme run .identifier run

/-- The character after a lexeme does not continue it. -/
structure Apart (run after : List Char) : Prop where
  letters : (∀ c ∈ run, isLetter c = true) → ∀ c ∈ after.head?, isLetter c = false
  digits : (∀ c ∈ run, isDigit c = true ∨ c = '.') →
    ∀ c ∈ after.head?, isDigit c = false ∧ c ≠ '.'
  equals : run ∈ [['<'], ['>'], ['='], ['!']] → after.head? ≠ some '='
  slash : run = ['/'] → after.head? ≠ some '/'

/-- A lexeme behind a gap. -/
structure Part where
  gap : List Char
  run : List Char

/-- The text that parts and a last gap make up. -/
def layout (parts : List Part) (last : List Char) : List Char :=
  parts.flatMap (fun part => part.gap ++ part.run) ++ last

/-- The parts are gaps and lexemes that spell the tokens, in their order and on their lines. -/
inductive Spells : List Char → List Part → List Char → List Token → Prop where
  | nil {before last : List Char} (gap : Gap last []) : Spells before [] last []
  | cons {before last : List Char} {part : Part} {parts : List Part} {token : Token}
      {tokens : List Token} (gap : Gap part.gap (part.run ++ layout parts last))
      (lexeme : Lexeme part.run token.kind token.lexeme.toList)
      (apart : Apart part.run (layout parts last))
      (line : token.line.toNat = 1 + newlines (before ++ part.gap))
      (more : Spells (before ++ part.gap ++ part.run) parts last tokens) :
      Spells before (part :: parts) last (token :: tokens)

theorem layout_cons (part : Part) (parts : List Part) (last : List Char) :
    layout (part :: parts) last = part.gap ++ (part.run ++ layout parts last) := by
  simp [layout]

theorem Gap.append {first second after : List Char} (gap : Gap first (second ++ after))
    (gap' : Gap second after) : Gap (first ++ second) after := by
  generalize text : second ++ after = rest at gap
  induction gap with
  | nil => exact gap'
  | separator blank more ih => exact .separator blank (ih text)
  | comment within more ih =>
    rw [List.append_assoc, List.cons_append]
    exact .comment within (ih text)
  | lastComment within =>
    obtain ⟨rfl, rfl⟩ := List.append_eq_nil_iff.1 text
    rw [List.append_nil]
    exact .lastComment within

theorem Gap.of_separators {gap : List Char} (blank : ∀ c ∈ gap, isSeparator c = true)
    (after : List Char) : Gap gap after := by
  induction gap with
  | nil => exact .nil
  | cons c gap ih =>
    exact .separator (isSeparator_iff.1 (blank c List.mem_cons_self))
      (ih fun d member => blank d (List.mem_cons_of_mem c member))

/-! ### Pieces of the standard vocabulary -/

theorem stopsAt_isNumberStart_iff {after : List Char} :
    StopsAt isNumberStart after ↔ ∀ c ∈ after.head?, isDigit c = false ∧ c ≠ '.' := by
  simp [StopsAt, isNumberStart]

theorem Apart.of_sign {c : Char} {after : List Char} (noLetter : isLetter c = false)
    (noNumber : isNumberStart c = false)
    (equals : c = '<' ∨ c = '>' ∨ c = '=' ∨ c = '!' → after.head? ≠ some '=')
    (slash : c = '/' → after.head? ≠ some '/') : Apart [c] after where
  letters within := by simp [noLetter] at within
  digits within := by
    have start : isNumberStart c = true := isNumberStart_iff.2 (within c (by simp))
    simp [noNumber] at start
  equals member := equals (by simpa using member)
  slash same := slash (by simpa using same)

/-- A lexeme that has ended by itself may be followed by anything. -/
theorem Apart.of_closed {run : List Char} (long : 1 < run.length) {c : Char} (member : c ∈ run)
    (noLetter : isLetter c = false) (noNumber : isNumberStart c = false) (after : List Char) :
    Apart run after where
  letters within := by simp [within c member] at noLetter
  digits within := by simp [isNumberStart_iff.2 (within c member)] at noNumber
  equals member := by
    simp only [List.mem_cons, List.not_mem_nil, or_false] at member
    rcases member with rfl | rfl | rfl | rfl <;> simp at long
  slash same := by simp [same] at long

theorem Apart.of_plain {run after : List Char} (nonempty : run ≠ [])
    (plain : ∀ c ∈ run, c ∉ signs)
    (letters : (∀ c ∈ run, isLetter c = true) → StopsAt isLetter after)
    (digits : (∀ c ∈ run, isNumberStart c = true) → StopsAt isNumberStart after) :
    Apart run after where
  letters := letters
  digits within :=
    stopsAt_isNumberStart_iff.1 (digits fun c member => isNumberStart_iff.2 (within c member))
  equals member := by
    simp only [List.mem_cons, List.not_mem_nil, or_false] at member
    rcases member with rfl | rfl | rfl | rfl <;> simp [signs] at plain
  slash same := by
    subst same
    simp [signs] at plain

theorem Apart.of_number {run after : List Char} (nonempty : run ≠ [])
    (number : ∀ c ∈ run, isNumberStart c = true) (stops : StopsAt isNumberStart after) :
    Apart run after := by
  refine .of_plain nonempty (fun c member => not_mem_signs_of_isNumberStart (number c member))
    (fun letters => ?_) (fun _ => stops)
  obtain ⟨c, rest, rfl⟩ := List.exists_cons_of_ne_nil nonempty
  have none := isNumberStart_of_isLetter (letters c List.mem_cons_self)
  simp [number c List.mem_cons_self] at none

theorem Apart.of_word {run after : List Char} (nonempty : run ≠ [])
    (letters : ∀ c ∈ run, isLetter c = true) (stops : StopsAt isLetter after) :
    Apart run after := by
  refine .of_plain nonempty (fun c member => not_mem_signs_of_isLetter (letters c member))
    (fun _ => stops) (fun number => ?_)
  obtain ⟨c, rest, rfl⟩ := List.exists_cons_of_ne_nil nonempty
  have none := isNumberStart_of_isLetter (letters c List.mem_cons_self)
  simp [number c List.mem_cons_self] at none

theorem count_point_of_digits {digits : List Char} (within : ∀ c ∈ digits, isDigit c = true) :
    digits.count '.' = 0 :=
  List.count_eq_zero.2 fun member => absurd (within '.' member) (by decide)

/-- A piece that gives a token is a comment or a lexeme. -/
theorem gap_or_lexeme {run after lexeme : List Char} {kind : Kind}
    (piece : Piece .standard run after (.token kind lexeme)) :
    kind = .ignored ∧ Gap run after ∨
      kind ≠ .ignored ∧ Lexeme run kind lexeme ∧ Apart run after := by
  cases piece with
  | @symbol c _ _ listed alone =>
    obtain ⟨-, noNumber, noLetter, noLess, noGreater, noSlash, -⟩ :=
      Vocabulary.symbol?_standard_class listed
    refine .inr ⟨?_, .symbol (Vocabulary.symbol?_standard.1 listed),
      .of_sign noLetter noNumber ?_ ?_⟩
    · rintro rfl
      exact Vocabulary.symbol?_standard_ne_ignored listed
    · rintro (less | greater | sign)
      · exact absurd less noLess
      · exact absurd greater noGreater
      · exact alone sign
    · exact fun slash => absurd slash noSlash
  | @pair c _ _ known free =>
    have apart : Apart [c, '='] after :=
      .of_closed (by simp) (c := '=') (by simp) (by decide) (by decide) after
    rcases Rule.comparisonKind?_pair known with ⟨rfl, rfl⟩ | ⟨rfl, rfl⟩ | ⟨rfl, rfl⟩ | ⟨rfl, rfl⟩
    · exact .inr ⟨by simp, .lessEqual, apart⟩
    · exact .inr ⟨by simp, .greaterEqual, apart⟩
    · exact .inr ⟨by simp, .equivalent, apart⟩
    · exact .inr ⟨by simp, .notEqual, apart⟩
  | single known free alone =>
    rcases Rule.comparisonKind?_single known with ⟨rfl, rfl⟩ | ⟨rfl, rfl⟩
    · exact .inr ⟨by simp, .lessThan, .of_sign rfl rfl (fun _ => alone) (by simp)⟩
    · exact .inr ⟨by simp, .greaterThan, .of_sign rfl rfl (fun _ => alone) (by simp)⟩
  | divide free alone =>
    exact .inr ⟨by simp, .divide, .of_sign rfl rfl (by simp) (fun _ => alone)⟩
  | comment free within => exact .inl ⟨rfl, .comment within .nil⟩
  | lastComment free within => exact .inl ⟨rfl, .lastComment within⟩
  | quoted free within =>
    have inside : ∀ c ∈ lexeme, c ≠ '"' ∧ c ≠ '\n' := fun c member =>
      isStringBody_iff.1 (within c member)
    exact .inr ⟨by simp, .string inside,
      .of_closed (by simp) (c := '"') (by simp) (by decide) (by decide) after⟩
  | whole free nonempty digits stops =>
    have points := count_point_of_digits digits
    exact .inr ⟨by simp, .number nonempty (fun c member => .inl (digits c member)) (by omega),
      .of_number nonempty (fun c member => isNumberStart_iff.2 (.inl (digits c member))) stops⟩
  | decimal free decimal stops =>
    refine .inr ⟨by simp, .number decimal.ne_nil
      (fun c member => isNumberStart_iff.1 (decimal.isNumberStart c member)) ?_,
      .of_number decimal.ne_nil decimal.isNumberStart stops⟩
    cases decimal with
    | @intro whole fraction digits digits' =>
      have front := count_point_of_digits digits
      have back := count_point_of_digits digits'
      have split : (whole ++ '.' :: fraction).count '.' =
          whole.count '.' + (fraction.count '.' + 1) := by
        rw [List.count_append, List.count_cons_self]
      omega
  | word free nonempty letters stops =>
    refine .inr ⟨?_, ?_, .of_word nonempty letters stops⟩
    · cases listed : Vocabulary.standard.word? (String.ofList run) with
      | none => simp
      | some kind => simpa using (Vocabulary.word?_standard_letters listed).2.2
    · cases listed : Vocabulary.standard.word? (String.ofList run) with
      | none =>
        refine .identifier nonempty letters fun kind member => ?_
        rw [Vocabulary.word?_standard.2 member] at listed
        cases listed
      | some kind => exact .reserved (Vocabulary.word?_standard.1 listed)

/-- A run of digits with at most one point has its point inside or none. -/
theorem digits_or_decimal {run : List Char} (digits : ∀ c ∈ run, isDigit c = true ∨ c = '.')
    (points : run.count '.' ≤ 1) : (∀ c ∈ run, isDigit c = true) ∨ Decimal run := by
  by_cases member : '.' ∈ run
  · obtain ⟨whole, fraction, rfl⟩ := List.append_of_mem member
    rw [List.count_append, List.count_cons_self] at points
    have digit : ∀ c ∈ whole ++ '.' :: fraction, c ≠ '.' → isDigit c = true :=
      fun c inside other => (digits c inside).resolve_right other
    have noPoint : '.' ∉ whole := List.count_eq_zero.1 (by omega)
    have noPoint' : '.' ∉ fraction := List.count_eq_zero.1 (by omega)
    refine .inr (.intro (fun c inside => digit c (by simp [inside]) ?_)
      (fun c inside => digit c (by simp [inside]) ?_))
    · exact fun same => noPoint (same ▸ inside)
    · exact fun same => noPoint' (same ▸ inside)
  · refine .inl fun c inside => (digits c inside).resolve_right fun same => member (same ▸ inside)

/-- A lexeme that is not continued is read as one piece. -/
theorem Lexeme.piece {run text after : List Char} {kind : Kind} (lexeme : Lexeme run kind text)
    (apart : Apart run after) : Piece .standard run after (.token kind text) := by
  cases lexeme with
  | @symbol c kind listed =>
    refine .symbol (Vocabulary.symbol?_standard.2 listed) fun sign => apart.equals ?_
    rcases sign with rfl | rfl <;> simp
  | lessThan => exact .single rfl rfl (apart.equals (by simp))
  | greaterThan => exact .single rfl rfl (apart.equals (by simp))
  | lessEqual => exact .pair rfl (.inr (.inr rfl))
  | greaterEqual => exact .pair rfl (.inr (.inr rfl))
  | equivalent => exact .pair rfl (.inl rfl)
  | notEqual => exact .pair rfl (.inr (.inl rfl))
  | divide => exact .divide rfl (apart.slash rfl)
  | string within =>
    exact .quoted rfl fun c member => isStringBody_iff.2 (within c member)
  | number nonempty digits points =>
    have free : Unlisted .standard run :=
      Vocabulary.unlisted_standard fun c member => .inl (isNumberStart_iff.2 (digits c member))
    have stops : StopsAt isNumberStart after :=
      stopsAt_isNumberStart_iff.2 (apart.digits digits)
    rcases digits_or_decimal digits points with whole | decimal
    · exact .whole free nonempty whole stops
    · exact .decimal free decimal stops
  | reserved listed =>
    have known := Vocabulary.word?_standard.2 listed
    obtain ⟨nonempty, letters, -⟩ := Vocabulary.word?_standard_letters known
    have piece : Piece .standard run after _ :=
      .word (Vocabulary.unlisted_standard fun c member => .inr (letters c member)) nonempty letters
        (apart.letters letters)
    rwa [known] at piece
  | identifier nonempty letters free =>
    have unknown := Vocabulary.word?_standard_none.2 free
    have piece : Piece .standard run after _ :=
      .word (Vocabulary.unlisted_standard fun c member => .inr (letters c member)) nonempty letters
        (apart.letters letters)
    rwa [unknown] at piece

theorem Lexeme.kind_ne_ignored {run text : List Char} {kind : Kind}
    (lexeme : Lexeme run kind text) : kind ≠ .ignored := by
  cases lexeme with
  | symbol listed =>
    rintro rfl
    exact Vocabulary.symbol?_standard_ne_ignored (Vocabulary.symbol?_standard.2 listed)
  | reserved listed =>
    exact (Vocabulary.word?_standard_letters (Vocabulary.word?_standard.2 listed)).2.2
  | _ => simp

/-- No gap can begin where a lexeme does. -/
structure Solid (text : List Char) : Prop where
  noSeparator : StopsAt isSeparator text
  noComment : ¬ ['/', '/'] <+: text

theorem solid_nil : Solid [] := ⟨stopsAt_nil _, by simp⟩

theorem Solid.of_head {c : Char} (noSeparator : isSeparator c = false) (noSlash : c ≠ '/')
    (text : List Char) : Solid (c :: text) where
  noSeparator := stopsAt_cons.2 noSeparator
  noComment starts := noSlash (List.cons_prefix_cons.1 starts).1.symm

theorem Solid.of_class {run after : List Char} (nonempty : run ≠ [])
    (other : ∀ c ∈ run, isNumberStart c = true ∨ isLetter c = true) : Solid (run ++ after) := by
  obtain ⟨c, rest, rfl⟩ := List.exists_cons_of_ne_nil nonempty
  refine .of_head (isSeparator_of_class (other c List.mem_cons_self)) ?_ _
  rintro rfl
  exact absurd (other '/' List.mem_cons_self) (by decide)

theorem Lexeme.solid {run text after : List Char} {kind : Kind} (lexeme : Lexeme run kind text)
    (apart : Apart run after) : Solid (run ++ after) := by
  cases lexeme with
  | symbol listed =>
    have classes := Vocabulary.symbol?_standard_class (Vocabulary.symbol?_standard.2 listed)
    exact .of_head classes.1 classes.2.2.2.2.2.1 after
  | divide =>
    refine ⟨stopsAt_cons.2 rfl, fun starts => apart.slash rfl ?_⟩
    obtain ⟨more, same⟩ := starts
    obtain rfl : '/' :: more = after := by simpa using same
    rfl
  | number nonempty digits =>
    exact .of_class nonempty fun c member => .inl (isNumberStart_iff.2 (digits c member))
  | reserved listed =>
    obtain ⟨nonempty, letters, -⟩ :=
      Vocabulary.word?_standard_letters (Vocabulary.word?_standard.2 listed)
    exact .of_class nonempty fun c member => .inr (letters c member)
  | identifier nonempty letters => exact .of_class nonempty fun c member => .inr (letters c member)
  | _ => exact .of_head rfl (by decide) _

end ScriptLex.Grammar
