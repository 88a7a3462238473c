import ScriptLex.Listing
import ScriptLex.Proofs.Canonical
import ScriptLex.Proofs.Place

/-! Listings as text, read back.

The line of a token is written without quotes, and one blank ends its kind. What scanning gives
holds no newline, so the lines of a listing are those of its tokens, and each line tells its token.
-/

set_option autoImplicit false

namespace ScriptLex

open ScriptLex.Text ScriptLex.Grammar

/-! ### One line -/

theorem Kind.ofName?_name (kind : Kind) : ofName? kind.name = some kind := by
  cases kind <;> decide

theorem Kind.name_injective {kind kind' : Kind} (same : kind.name = kind'.name) : kind = kind' := by
  have named := kind.ofName?_name
  rw [same, kind'.ofName?_name] at named
  exact (Option.some.inj named).symm

theorem Kind.name_plain (kind : Kind) : ∀ c ∈ kind.name.toList, c ≠ ' ' ∧ c ≠ '\n' := by
  have all : ∀ kind ∈ Kind.all, kind.name.toList.all (fun c => c != ' ' && c != '\n') = true := by
    decide
  simpa using all kind kind.mem_all

namespace Token

/-- What follows the kind of a token on its line. -/
def shownLexeme (token : Token) : List Char :=
  if token.lexeme.isEmpty then [] else ' ' :: token.lexeme.toList

theorem toList_display (token : Token) : token.display.toList =
    "[line ".toList ++ (token.line.toNat.repr.toList ++
      ("] ".toList ++ (token.kind.name.toList ++ token.shownLexeme))) := by
  unfold display shownLexeme
  split <;> simp

theorem shownLexeme_injective {token token' : Token}
    (same : token.shownLexeme = token'.shownLexeme) : token.lexeme = token'.lexeme := by
  unfold shownLexeme at same
  split at same <;> split at same
  case isTrue.isTrue empty empty' =>
    rw [String.isEmpty_iff.1 empty, String.isEmpty_iff.1 empty']
  case isFalse.isFalse => exact String.toList_inj.1 (List.cons.inj same).2
  all_goals cases same

theorem stopsAt_shownLexeme (token : Token) : StopsAt (· != ' ') token.shownLexeme := by
  unfold shownLexeme
  split
  · exact stopsAt_nil _
  · exact stopsAt_cons.2 rfl

/-- The line of a token tells all about it, whatever its lexeme is. -/
theorem display_injective {token token' : Token} (same : token.display = token'.display) :
    token = token' := by
  have text := congrArg String.toList same
  rw [toList_display, toList_display] at text
  have closed (rest : List Char) : StopsAt Char.isDigit ("] ".toList ++ rest) := stopsAt_cons.2 rfl
  obtain ⟨digits, text⟩ := run_unique isDigit_of_mem_repr (closed _) isDigit_of_mem_repr (closed _)
    (List.append_cancel_left text)
  have name (kind : Kind) : ∀ c ∈ kind.name.toList, (c != ' ') = true := fun c member =>
    bne_iff_ne.2 (kind.name_plain c member).1
  obtain ⟨kind, lexeme⟩ := run_unique (name _) token.stopsAt_shownLexeme
    (name _) token'.stopsAt_shownLexeme (List.append_cancel_left text)
  have line : token.line = token'.line := by
    have value := congrArg (Nat.ofDigitChars 10 · 0) digits
    exact UInt32.toNat_inj.1 (by simpa [Nat.repr] using value)
  have kind := Kind.name_injective (String.toList_inj.1 kind)
  have lexeme := shownLexeme_injective lexeme
  cases token
  cases token'
  simp_all

theorem lexeme_ne_newline {token : Token} (admits : token.kind.Admits token.lexeme) :
    ∀ c ∈ token.lexeme.toList, c ≠ '\n' := by
  intro c member
  refine (lexeme_of_admits admits).ne_newline c ?_
  unfold written
  split <;> simp [member]

theorem display_ne_newline {token : Token} (admits : token.kind.Admits token.lexeme) :
    ∀ c ∈ token.display.toList, c ≠ '\n' := by
  have shown : ∀ c ∈ token.shownLexeme, c ≠ '\n' := by
    unfold shownLexeme
    split
    · simp
    · exact List.forall_mem_cons.2 ⟨by decide, lexeme_ne_newline admits⟩
  have digits : ∀ c ∈ token.line.toNat.repr.toList, c ≠ '\n' := by
    rintro c member rfl
    cases isDigit_of_mem_repr '\n' member
  have name : ∀ c ∈ token.kind.name.toList, c ≠ '\n' := fun c member =>
    (token.kind.name_plain c member).2
  rw [toList_display]
  simp only [List.forall_mem_append]
  exact ⟨by simp, digits, by simp, name, shown⟩

end Token

/-! ### The listing -/

/-- Cut at its newlines, a listing gives back the lines of its tokens, with nothing after the
last. -/
theorem Listing.rawLines_text {tokens : List Token}
    (admitted : ∀ token ∈ tokens, token.kind.Admits token.lexeme) :
    rawLines (text tokens).toList = tokens.map (·.display.toList) ++ [[]] := by
  induction tokens with
  | nil => rfl
  | cons token tokens ih =>
    obtain ⟨admits, admitted⟩ := List.forall_mem_cons.1 admitted
    have split : (text (token :: tokens)).toList =
        token.display.toList ++ '\n' :: (text tokens).toList := by
      simp [text]
    rw [split, rawLines_append_newline, rawLines_line (Token.display_ne_newline admits),
      ih admitted]
    rfl

/-- The lists that scanning gives can be told from their listings as text, and such a listing has
one line for each token, which is the display of that token. -/
theorem text_listing_faithful {source source' : String} {tokens tokens' : List Token}
    (few : newlines source.toList < UInt32.size - 1)
    (few' : newlines source'.toList < UInt32.size - 1)
    (scanned : scan source = .ok tokens) (scanned' : scan source' = .ok tokens') :
    (Listing.render .text tokens = Listing.render .text tokens' → tokens = tokens') ∧
    rawLines (Listing.render .text tokens).toList = tokens.map (·.display.toList) ++ [[]] := by
  have lines := Listing.rawLines_text (orderly_of_scan few scanned).admitted
  have lines' := Listing.rawLines_text (orderly_of_scan few' scanned').admitted
  refine ⟨fun same => ?_, lines⟩
  rw [show Listing.text tokens = Listing.text tokens' from same, lines',
    List.append_cancel_right_eq] at lines
  refine ((List.map_inj_right fun token token' shown => ?_).1 lines).symm
  exact Token.display_injective (String.toList_inj.1 shown)

/-- Strings that show little of themselves: an empty one, a blank, and one that reads as a line. -/
def quotedTokens (first : String) : List Token :=
  [⟨.string, first, 1⟩, ⟨.string, "[line 2] COMMA ,", 2⟩]

theorem text_listing_faithful_quoted :
    scan "\"\"\n\"[line 2] COMMA ,\"" = .ok (quotedTokens "") ∧
    scan "\" \" // blank\n\"[line 2] COMMA ,\"" = .ok (quotedTokens " ") ∧
    Listing.render .text (quotedTokens "") ≠ Listing.render .text (quotedTokens " ") ∧
    rawLines (Listing.render .text (quotedTokens "")).toList =
      ["[line 1] STRING".toList, "[line 2] STRING [line 2] COMMA ,".toList, []] := by
  have scanned : scan "\"\"\n\"[line 2] COMMA ,\"" = .ok (quotedTokens "") := by decide +kernel
  have scanned' : scan "\" \" // blank\n\"[line 2] COMMA ,\"" = .ok (quotedTokens " ") := by
    decide +kernel
  have faithful := text_listing_faithful (by decide) (by decide) scanned scanned'
  exact ⟨scanned, scanned', fun same => absurd (faithful.1 same) (by decide), faithful.2⟩

end ScriptLex
