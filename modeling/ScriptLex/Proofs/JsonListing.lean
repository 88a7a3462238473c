import ScriptLex.Proofs.JsonReading
import ScriptLex.Proofs.TextListing

/-! Tokens as JSON, read back.

Both layouts of a token are the same members with different blanks between them, so one proof reads
them. A list of tokens is read through what is written of each, whatever the lexemes are. -/

set_option autoImplicit false

namespace ScriptLex

open ScriptLex.Text ScriptLex.Json ScriptLex.Json.Reading

/-- A layout that puts blanks around members and nothing else, the same ones in front of each. -/
structure Layout.Blanks (layout : Layout) (space : String) : Prop where
  colon : layout.colon = ":" ++ space
  comma : layout.comma = "," ++ layout.opening
  before : Blank layout.opening.toList
  between : Blank space.toList
  after : Blank layout.closing.toList

theorem Layout.blanks_compact : compact.Blanks "" where
  colon := rfl
  comma := rfl
  before := by simp [Blank, compact]
  between := by simp [Blank]
  after := by simp [Blank, compact]

theorem Layout.blanks_indented : indented.Blanks " " where
  colon := by decide
  comma := by decide
  before := by simp [Blank, indented, isBlank]
  between := by simp [Blank, isBlank]
  after := by simp [Blank, indented, isBlank]

namespace Token

/-- The JSON object that a token is written as. -/
def json (token : Token) : Json :=
  .object [(some "kind", .string (some token.kind.name)),
    (some "lexeme", .string (some token.lexeme)),
    (some "line", .number token.line.toNat.repr.toList)]

theorem lineOfJson?_toDigits (line : UInt32) :
    lineOfJson? (.number (Nat.toDigits 10 line.toNat)) = some line := by
  have digits : (Nat.toDigits 10 line.toNat).all Reading.isDigit = true :=
    List.all_eq_true.2 isDigit_of_mem_toDigits
  simp [lineOfJson?, digits, line.toNat_lt_size]

theorem ofJson?_json (token : Token) : ofJson? token.json = some token := by
  have kind : kindOfJson? (.string (some token.kind.name)) = some token.kind :=
    token.kind.ofName?_name
  have line := lineOfJson?_toDigits token.line
  simp [ofJson?, json, unique?, ofParts?, kind, lexemeOfJson?, line]

theorem toList_toJson {layout : Layout} {space : String} (blanks : layout.Blanks space)
    (token : Token) : (token.toJson layout).toList =
      '{' :: (listed layout.opening.toList
        [named "kind" space.toList (quoted token.kind.name).toList,
          named "lexeme" space.toList (quoted token.lexeme).toList,
          named "line" space.toList token.line.toNat.repr.toList] ++
        (layout.closing.toList ++ ['}'])) := by
  simp [toJson, listed, named, blanks.colon, blanks.comma]

theorem written_toJson {layout : Layout} {space : String} (blanks : layout.Blanks space)
    (depth : Nat) (token : Token) :
    Written (value (depth + 1)) (token.toJson layout).toList token.json := by
  rw [toList_toJson blanks]
  have kind := (written_string depth token.kind.name).member "kind" blanks.between
  have lexeme := (written_string depth token.lexeme).member "lexeme" blanks.between
  have line := (written_number depth token.line.toNat).member "line" blanks.between
  exact written_object blanks.before blanks.after (.cons kind (.cons lexeme (.cons line .nil)))
    (by simp)

end Token

/-! ### The listing -/

namespace Listing

theorem toList_json {tokens : List Token} (nonempty : tokens ≠ []) :
    (json tokens).toList =
      '[' :: (listed "\n  ".toList (tokens.map fun token => (token.toJson .indented).toList) ++
        ("\n".toList ++ [']'])) ++ "\n".toList := by
  rw [listed_eq_intercalate _ (by simpa using nonempty), json, if_neg (by simpa using nonempty)]
  simp [String.toList_intercalate, List.map_map, Function.comp_def]

theorem read?_json (tokens : List Token) :
    Json.read? (json tokens) = some (.array (tokens.map (·.json))) := by
  have newline : Blank "\n".toList := by simp [Blank, isBlank]
  rcases eq_or_ne tokens [] with rfl | nonempty
  case inl =>
    have shape : (json []).toList = ['[', ']'] ++ "\n".toList := rfl
    exact read?_of_written shape newline (by simp [shape]) written_empty_array
  case inr =>
    have shape := toList_json nonempty
    -- The brackets of the list and those of its items make two levels.
    have deep : 2 ≤ (json tokens).toList.length := by simp [shape]
    refine read?_of_written shape newline deep fun depth => ?_
    have blank : Blank "\n  ".toList := by simp [Blank, isBlank]
    have items : List.Forall₂ (Written (value (depth + 1)))
        (tokens.map fun token => (token.toJson .indented).toList) (tokens.map (·.json)) := by
      rw [List.forall₂_map_left_iff, List.forall₂_map_right_iff, List.forall₂_same]
      exact fun token _ => token.written_toJson Layout.blanks_indented depth
    exact written_array blank newline items (by simpa using nonempty)

end Listing

namespace Token

theorem mapM_ofJson? (tokens : List Token) :
    (tokens.map (·.json)).mapM ofJson? = some tokens := by
  induction tokens with
  | nil => rfl
  | cons token tokens ih => simp [ofJson?_json, ih]

theorem readList?_json (tokens : List Token) : readList? (Listing.json tokens) = some tokens := by
  rw [readList?, Listing.read?_json]
  exact mapM_ofJson? tokens

theorem read?_toJson {layout : Layout} {space : String} (blanks : layout.Blanks space)
    (token : Token) : read? (token.toJson layout) = some token := by
  have deep : 1 ≤ (token.toJson layout).toList.length := by simp [toList_toJson blanks]
  have whole := read?_of_written (List.append_nil _).symm Blank.nil deep fun depth =>
    token.written_toJson blanks depth
  rw [read?, whole]
  exact token.ofJson?_json

end Token

/-- A token can be read back from what it is written as in JSON, whatever its lexeme is. So can a
list of tokens from its listing, and the listings of two lists are the same only if the lists are. -/
theorem json_round_trip :
    (∀ token : Token, Token.read? (token.toJson .compact) = some token) ∧
    (∀ tokens, Token.readList? (Listing.render .json tokens) = some tokens) ∧
    Function.Injective (Listing.render .json) := by
  refine ⟨Token.read?_toJson Layout.blanks_compact, Token.readList?_json, ?_⟩
  intro tokens tokens' same
  have read := Token.readList?_json tokens
  rw [show Listing.json tokens = Listing.json tokens' from same, Token.readList?_json] at read
  exact (Option.some.inj read).symm

/-- A token that needs each way of escaping, and the last line there is. -/
def escapedToken : Token := ⟨.ignored, "\"\\\x01\n\x7fé/", 4294967295⟩

theorem json_round_trip_escaped :
    escapedToken.toJson .compact =
      "\x7b\"kind\":\"IGNORE\",\"lexeme\":\"\\\"\\\\\\u0001\\n\x7fé/\",\"line\":4294967295\x7d" ∧
    Token.read? (escapedToken.toJson .compact) = some escapedToken ∧
    Token.readList? (Listing.render .json [escapedToken, ⟨.string, "", 1⟩]) =
      some [escapedToken, ⟨.string, "", 1⟩] ∧
    Listing.render .json [escapedToken] ≠ Listing.render .json [] := by
  obtain ⟨read, readList, injective⟩ := json_round_trip
  exact ⟨by decide +kernel, read _, readList _, injective.ne (by simp)⟩

end ScriptLex
