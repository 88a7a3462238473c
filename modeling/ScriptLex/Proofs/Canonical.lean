import ScriptLex.Proofs.Acceptance

/-! The token lists that scanning gives, and a canonical text for each.

A list is the result of a scan exactly if every token carries a text that its kind admits and the
lines do not go back. Its canonical text keeps the line breaks between the tokens and puts a blank in
front of each, so that no token touches the next. -/

set_option autoImplicit false

namespace ScriptLex

open ScriptLex.Text ScriptLex.Scanner ScriptLex.Grammar

/-- The text of a kind whose tokens are all written alike. -/
def Kind.spelling? : Kind → Option String
  | semicolon => some ";"
  | comma => some ","
  | assign => some "="
  | leftBrace => some "\x7b"
  | rightBrace => some "\x7d"
  | leftParen => some "("
  | rightParen => some ")"
  | multiply => some "*"
  | add => some "+"
  | subtract => some "-"
  | not => some "!"
  | and => some "&"
  | or => some "|"
  | divide => some "/"
  | lessThan => some "<"
  | lessEqual => some "<="
  | greaterThan => some ">"
  | greaterEqual => some ">="
  | equivalent => some "=="
  | notEqual => some "!="
  | trueWord => some "true"
  | falseWord => some "false"
  | nullWord => some "null"
  | ifWord => some "if"
  | elseWord => some "else"
  | forWord => some "for"
  | whileWord => some "while"
  | funWord => some "fun"
  | returnWord => some "return"
  | varWord => some "var"
  | printWord => some "print"
  | number | string | identifier | ignored => none

/-- The texts that tokens of a kind carry. An ignored token carries none. -/
def Kind.Admits : Kind → String → Prop
  | identifier, text =>
    text ≠ "" ∧ (∀ c ∈ text.toList, isLetter c = true) ∧ ∀ kind : Kind, kind.spelling? ≠ some text
  | number, text =>
    text ≠ "" ∧ (∀ c ∈ text.toList, isDigit c = true ∨ c = '.') ∧ text.toList.count '.' ≤ 1
  | string, text => ∀ c ∈ text.toList, c ≠ '"' ∧ c ≠ '\n'
  | kind, text => kind.spelling? = some text

/-- Tokens that can follow each other in a text: each has a text of its kind, and the lines, which
count from one, do not go back. -/
structure Orderly (tokens : List Token) : Prop where
  admitted : ∀ token ∈ tokens, token.kind.Admits token.lexeme
  counted : ∀ token ∈ tokens, 1 ≤ token.line
  ascending : tokens.Pairwise fun first second => first.line ≤ second.line

/-- A token as it is written. -/
def Token.written (token : Token) : List Char :=
  if token.kind = .string then '"' :: token.lexeme.toList ++ ['"'] else token.lexeme.toList

/-- So many line breaks and a blank. -/
def canonicalGap (lines : Nat) : List Char := List.replicate lines '\n' ++ [' ']

/-- Each token behind the line breaks that part it from the line before. -/
def canonicalParts (line : Nat) : List Token → List Part
  | [] => []
  | token :: tokens =>
    ⟨canonicalGap (token.line.toNat - line), token.written⟩ ::
      canonicalParts token.line.toNat tokens

def canonicalText (tokens : List Token) : String :=
  String.ofList (layout (canonicalParts 1 tokens) [])

/-! ### The texts of a kind are those of its lexemes -/

theorem Kind.spelling?_symbol {c : Char} {kind : Kind}
    (listed : (c, kind) ∈ Vocabulary.standard.symbols) :
    kind.spelling? = some (String.ofList [c]) := by
  have all : ∀ entry ∈ Vocabulary.standard.symbols,
      entry.2.spelling? = some (String.ofList [entry.1]) := by decide
  exact all (c, kind) listed

theorem Kind.spelling?_word {word : String} {kind : Kind}
    (listed : (word, kind) ∈ Vocabulary.standard.words) : kind.spelling? = some word := by
  have all : ∀ entry ∈ Vocabulary.standard.words, entry.2.spelling? = some entry.1 := by decide
  exact all (word, kind) listed

/-- Of the texts that stand for themselves the reserved words are those of letters. -/
theorem Kind.reserved_of_spelling? {kind : Kind} {text : String}
    (spelled : kind.spelling? = some text) (letters : ∀ c ∈ text.toList, isLetter c = true) :
    (text, kind) ∈ Vocabulary.standard.words := by
  have all : ∀ kind ∈ Kind.all, ∀ text ∈ kind.spelling?,
      text.toList.all isLetter = true → (text, kind) ∈ Vocabulary.standard.words := by decide
  exact all kind kind.mem_all text spelled (List.all_eq_true.2 letters)

theorem Kind.admits_of_spelling? {kind : Kind} {text : String}
    (spelled : kind.spelling? = some text) : kind.Admits text := by
  cases kind
  case number | string | identifier => cases spelled
  all_goals exact spelled

theorem Kind.lexeme_of_spelling? {kind : Kind} {text : String}
    (spelled : kind.spelling? = some text) : Lexeme text.toList kind text.toList := by
  cases kind
  case number | string | identifier | ignored => cases spelled
  all_goals obtain rfl := Option.some.inj spelled
  case divide => exact .divide
  case lessThan => exact .lessThan
  case lessEqual => exact .lessEqual
  case greaterThan => exact .greaterThan
  case greaterEqual => exact .greaterEqual
  case equivalent => exact .equivalent
  case notEqual => exact .notEqual
  case trueWord | falseWord | nullWord | ifWord | elseWord | forWord | whileWord | funWord |
      returnWord | varWord | printWord => exact .reserved (by decide)
  all_goals exact .symbol (by decide)

theorem Grammar.Lexeme.admits {run text : List Char} {kind : Kind} (lexeme : Lexeme run kind text) :
    kind.Admits (String.ofList text) := by
  cases lexeme with
  | symbol listed => exact Kind.admits_of_spelling? (Kind.spelling?_symbol listed)
  | reserved listed => exact Kind.admits_of_spelling? (Kind.spelling?_word listed)
  | string within => simpa [Kind.Admits] using within
  | number nonempty digits points => simpa [Kind.Admits, nonempty] using ⟨digits, points⟩
  | identifier nonempty letters free =>
    refine ⟨by simpa using nonempty, by simpa using letters, fun kind spelled => free kind ?_⟩
    exact Kind.reserved_of_spelling? spelled (by simpa using letters)
  | _ => rfl

theorem Token.written_plain {token : Token} (plain : token.kind ≠ .string) :
    token.written = token.lexeme.toList := if_neg plain

theorem Token.lexeme_of_admits {token : Token} (admits : token.kind.Admits token.lexeme) :
    Lexeme token.written token.kind token.lexeme.toList := by
  obtain ⟨kind, text, line⟩ := token
  cases kind
  case string => exact .string admits
  case number =>
    obtain ⟨nonempty, digits, points⟩ := admits
    rw [written_plain (by simp)]
    exact .number (by simpa using nonempty) digits points
  case identifier =>
    obtain ⟨nonempty, letters, free⟩ := admits
    rw [written_plain (by simp)]
    refine .identifier (by simpa using nonempty) letters fun kind listed => free kind ?_
    simpa using Kind.spelling?_word listed
  all_goals exact Kind.lexeme_of_spelling? admits

/-! ### The canonical text -/

theorem isSeparator_of_mem_canonicalGap {lines : Nat} {c : Char} (member : c ∈ canonicalGap lines) :
    isSeparator c = true := by
  rw [canonicalGap, List.mem_append, List.mem_replicate, List.mem_singleton] at member
  rcases member with ⟨-, rfl⟩ | rfl <;> rfl

theorem newlines_canonicalGap (lines : Nat) : newlines (canonicalGap lines) = lines := by
  rw [canonicalGap, newlines_append, newlines, List.count_replicate_self]
  rfl

namespace Grammar

theorem Lexeme.ne_newline {run text : List Char} {kind : Kind} (lexeme : Lexeme run kind text) :
    ∀ c ∈ run, c ≠ '\n' := by
  have other : ∀ {c : Char}, isSeparator c = false → c ≠ '\n' := by
    rintro c noSeparator rfl
    cases noSeparator
  cases lexeme with
  | symbol listed =>
    have classes := Vocabulary.symbol?_standard_class (Vocabulary.symbol?_standard.2 listed)
    simpa using other classes.1
  | string within =>
    intro c member
    simp only [List.cons_append, List.mem_cons, List.mem_append, List.not_mem_nil, or_false] at member
    rcases member with rfl | inside | rfl
    · decide
    · exact (within c inside).2
    · decide
  | number nonempty digits =>
    exact fun c member =>
      other (isSeparator_of_class (.inl (isNumberStart_iff.2 (digits c member))))
  | reserved listed =>
    have known := Vocabulary.word?_standard_letters (Vocabulary.word?_standard.2 listed)
    exact fun c member => other (isSeparator_of_class (.inr (known.2.1 c member)))
  | identifier nonempty letters =>
    exact fun c member => other (isSeparator_of_class (.inr (letters c member)))
  | _ => simp

/-- A separator continues no lexeme. -/
theorem Apart.of_separator {run after : List Char}
    (blank : ∀ c ∈ after.head?, isSeparator c = true) : Apart run after where
  letters _ c first := by
    rcases isSeparator_iff.1 (blank c first) with rfl | rfl | rfl <;> rfl
  digits _ c first := by
    rcases isSeparator_iff.1 (blank c first) with rfl | rfl | rfl <;> decide
  equals _ first := absurd (blank '=' first) (by decide)
  slash _ first := absurd (blank '/' first) (by decide)

/-- The tokens that a division spells have texts of their kinds, and their lines ascend. -/
theorem Spells.orderly {before last : List Char} {parts : List Part} {tokens : List Token}
    (spells : Spells before parts last tokens) :
    Orderly tokens ∧ ∀ token ∈ tokens, newlines before < token.line.toNat := by
  induction spells with
  | nil gap => exact ⟨⟨by simp, by simp, .nil⟩, by simp⟩
  | @cons before last part parts token tokens gap lexeme apart line more ih =>
    obtain ⟨orderly, below⟩ := ih
    have later : ∀ other ∈ tokens, token.line.toNat ≤ other.line.toNat := by
      intro other member
      have further := below other member
      simp only [newlines_append] at line further
      omega
    have here : newlines before < token.line.toNat := by
      rw [line, newlines_append]
      omega
    refine ⟨⟨?admitted, ?counted, ?ascending⟩, ?below⟩
    case admitted =>
      have admits := lexeme.admits
      rw [String.ofList_toList] at admits
      exact List.forall_mem_cons.2 ⟨admits, orderly.admitted⟩
    case counted =>
      refine List.forall_mem_cons.2 ⟨?_, orderly.counted⟩
      rw [UInt32.le_iff_toNat_le, UInt32.toNat_one]
      omega
    case ascending =>
      refine .cons (fun other member => ?_) orderly.ascending
      exact UInt32.le_iff_toNat_le.2 (later other member)
    case below =>
      refine List.forall_mem_cons.2 ⟨here, fun other member => ?_⟩
      exact Nat.lt_of_lt_of_le here (later other member)

end Grammar

theorem Orderly.of_cons {token : Token} {tokens : List Token} (orderly : Orderly (token :: tokens)) :
    token.kind.Admits token.lexeme ∧ Orderly tokens ∧
      ∀ later ∈ tokens, token.line.toNat ≤ later.line.toNat := by
  obtain ⟨admitted, counted, ascending⟩ := orderly
  obtain ⟨here, behind⟩ := List.pairwise_cons.1 ascending
  refine ⟨admitted token List.mem_cons_self, ⟨?_, ?_, behind⟩, fun later member => ?_⟩
  · exact fun later member => admitted later (List.mem_cons_of_mem token member)
  · exact fun later member => counted later (List.mem_cons_of_mem token member)
  · exact UInt32.le_iff_toNat_le.1 (here later member)

theorem head_canonicalParts (line : Nat) (tokens : List Token) :
    ∀ c ∈ (layout (canonicalParts line tokens) []).head?, isSeparator c = true := by
  cases tokens with
  | nil => simp [canonicalParts, layout]
  | cons token tokens =>
    intro c first
    obtain ⟨d, gap, split⟩ : ∃ d gap, canonicalGap (token.line.toNat - line) = d :: gap :=
      List.exists_cons_of_ne_nil (by simp [canonicalGap])
    rw [canonicalParts, layout_cons, split] at first
    obtain rfl : d = c := Option.some.inj first
    exact isSeparator_of_mem_canonicalGap (split ▸ List.mem_cons_self)

/-- The line breaks of a canonical text lead to the line of its last token. -/
theorem newlines_canonicalParts {line : Nat} {tokens : List Token} (orderly : Orderly tokens)
    (below : ∀ token ∈ tokens, line ≤ token.line.toNat) (small : line < UInt32.size) :
    newlines (layout (canonicalParts line tokens) []) + line < UInt32.size := by
  induction tokens generalizing line with
  | nil => simpa [canonicalParts, layout] using small
  | cons token tokens ih =>
    obtain ⟨admits, orderly, later⟩ := orderly.of_cons
    have here := below token List.mem_cons_self
    have behind := ih orderly later token.line.toNat_lt
    have flat : newlines token.written = 0 :=
      newlines_eq_zero (Token.lexeme_of_admits admits).ne_newline
    rw [canonicalParts, layout_cons, newlines_append, newlines_append, newlines_canonicalGap, flat]
    omega

/-- The canonical text spells its tokens. -/
theorem spells_canonicalParts {before : List Char} {line : Nat} {tokens : List Token}
    (orderly : Orderly tokens) (below : ∀ token ∈ tokens, line ≤ token.line.toNat)
    (reached : line = 1 + newlines before) : Spells before (canonicalParts line tokens) [] tokens := by
  induction tokens generalizing before line with
  | nil => exact .nil .nil
  | cons token tokens ih =>
    obtain ⟨admits, orderly, later⟩ := orderly.of_cons
    have lexeme := Token.lexeme_of_admits admits
    have here := below token List.mem_cons_self
    have line' : token.line.toNat =
        1 + newlines (before ++ canonicalGap (token.line.toNat - line)) := by
      rw [newlines_append, newlines_canonicalGap]
      omega
    refine .cons ?gap lexeme ?apart line' (ih orderly later ?reached)
    case gap => exact Gap.of_separators (fun c => isSeparator_of_mem_canonicalGap) _
    case apart => exact .of_separator (head_canonicalParts token.line.toNat tokens)
    case reached => rw [newlines_append, newlines_eq_zero lexeme.ne_newline, Nat.add_zero, ← line']

theorem newlines_canonicalText {tokens : List Token} (orderly : Orderly tokens) :
    newlines (canonicalText tokens).toList < UInt32.size - 1 := by
  have counted : ∀ token ∈ tokens, 1 ≤ token.line.toNat := fun token member =>
    UInt32.le_iff_toNat_le.1 (orderly.counted token member)
  have few := newlines_canonicalParts orderly counted (by decide)
  rw [canonicalText, String.toList_ofList]
  omega

theorem scan_canonicalText {tokens : List Token} (orderly : Orderly tokens) :
    scan (canonicalText tokens) = .ok tokens := by
  have counted : ∀ token ∈ tokens, 1 ≤ token.line.toNat := fun token member =>
    UInt32.le_iff_toNat_le.1 (orderly.counted token member)
  have spells : Spells [] (canonicalParts 1 tokens) [] tokens :=
    spells_canonicalParts orderly counted rfl
  have few := newlines_canonicalText orderly
  rw [canonicalText, String.toList_ofList] at few
  rw [scan_eq_between, scan_eq_ok_iff_reads, canonicalText, String.toList_ofList]
  exact spells.reads few

theorem orderly_of_scan {source : String} {tokens : List Token}
    (few : newlines source.toList < UInt32.size - 1) (scanned : scan source = .ok tokens) :
    Orderly tokens := by
  rw [scan_eq_between, scan_eq_ok_iff_reads] at scanned
  obtain ⟨parts, last, -, spells⟩ := Reads.spells scanned [] [] rfl .nil few
  exact spells.orderly.1

/-- Scanning gives exactly the orderly token lists, each of them for its canonical text at least. So
to scan the canonical text of what was scanned changes nothing. -/
theorem scan_image (tokens : List Token) :
    ((∃ source, newlines source.toList < UInt32.size - 1 ∧ scan source = .ok tokens) ↔
      Orderly tokens) ∧
    (Orderly tokens → newlines (canonicalText tokens).toList < UInt32.size - 1 ∧
      scan (canonicalText tokens) = .ok tokens) ∧
    (∀ source, newlines source.toList < UInt32.size - 1 → scan source = .ok tokens →
      scan (canonicalText tokens) = .ok tokens) := by
  refine ⟨⟨?image, fun orderly => ?covered⟩, fun orderly => ?canonical, ?again⟩
  case image =>
    rintro ⟨source, few, scanned⟩
    exact orderly_of_scan few scanned
  case covered => exact ⟨_, newlines_canonicalText orderly, scan_canonicalText orderly⟩
  case canonical => exact ⟨newlines_canonicalText orderly, scan_canonicalText orderly⟩
  case again =>
    intro source few scanned
    exact scan_canonicalText (orderly_of_scan few scanned)

/-- Tokens that would run together, or into a comment, without a blank between them. -/
def crowdedTokens : List Token :=
  [⟨.ifWord, "if", 1⟩, ⟨.identifier, "x", 1⟩, ⟨.lessThan, "<", 3⟩, ⟨.assign, "=", 3⟩,
    ⟨.number, ".", 3⟩, ⟨.divide, "/", 3⟩, ⟨.divide, "/", 3⟩, ⟨.string, "//é", 4⟩]

theorem scan_image_crowded :
    scan "if x//y\n\n< = ./ /\n\"//é\"" = .ok crowdedTokens ∧ Orderly crowdedTokens ∧
      canonicalText crowdedTokens = " if x\n\n < = . / /\n \"//é\"" ∧
      scan (canonicalText crowdedTokens) = .ok crowdedTokens := by
  have scanned : scan "if x//y\n\n< = ./ /\n\"//é\"" = .ok crowdedTokens := by decide +kernel
  have orderly : Orderly crowdedTokens :=
    (scan_image crowdedTokens).1.1 ⟨_, by decide, scanned⟩
  exact ⟨scanned, orderly, by decide, ((scan_image crowdedTokens).2.1 orderly).2⟩

end ScriptLex
