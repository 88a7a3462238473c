import ScriptLex.Proofs.LineColumn

/-! What a span covers.

A span is given out for its text only behind three checks, and behind them the cut through the source
is always possible. The span of an offset covers the one character that begins there, so that going
from the end of one such span to the next passes over the source character by character. -/

set_option autoImplicit false

namespace ScriptLex.Text

variable {cs : List Char} {offset : Nat}

/-- An offset in a text stands between two characters or within one. -/
theorem boundary_or_inside (within : offset ≤ byteLength cs) :
    isBoundary cs offset = true ∨ InsideCharacter cs offset := by
  cases split : splitAt? cs offset with
  | some parts => exact .inl (by rw [isBoundary, split]; rfl)
  | none => exact .inr (insideCharacter_of_splitAt?_none split within)

theorem InsideCharacter.not_boundary (inside : InsideCharacter cs offset) :
    isBoundary cs offset ≠ true := by
  rw [isBoundary, inside.splitAt?_eq_none]
  decide

end ScriptLex.Text

namespace ScriptLex.Source

open ScriptLex.Text

variable {source : String} {span : Span} {offset : Nat}

namespace Span

/-- `span.Refused source error`: what is wrong with a span, the first thing first. -/
inductive Refused (span : Span) (source : String) : PlaceError → Prop where
  | reversed (order : span.stop < span.start) : Refused span source (.reversed span.start span.stop)
  | beyond (order : span.start ≤ span.stop) (past : byteLength source.toList < span.stop) :
      Refused span source (.outOfBounds (byteLength source.toList) span.start span.stop)
  | opens (order : span.start ≤ span.stop) (within : span.stop ≤ byteLength source.toList)
      (inside : InsideCharacter source.toList span.start) :
      Refused span source (.insideCharacter span.start)
  | closes (order : span.start ≤ span.stop) (within : span.stop ≤ byteLength source.toList)
      (opens : isBoundary source.toList span.start = true)
      (inside : InsideCharacter source.toList span.stop) :
      Refused span source (.insideCharacter span.stop)

/-- A span that covers a part of the source. -/
structure Fits (span : Span) (source : String) : Prop where
  order : span.start ≤ span.stop
  within : span.stop ≤ byteLength source.toList
  opens : isBoundary source.toList span.start = true
  closes : isBoundary source.toList span.stop = true

theorem fits_or_refused (span : Span) (source : String) :
    span.Fits source ∨ ∃ error, span.Refused source error := by
  by_cases order : span.start ≤ span.stop
  · by_cases within : span.stop ≤ byteLength source.toList
    · rcases boundary_or_inside (Nat.le_trans order within) with opens | inside
      · rcases boundary_or_inside within with closes | inside
        · exact .inl ⟨order, within, opens, closes⟩
        · exact .inr ⟨_, .closes order within opens inside⟩
      · exact .inr ⟨_, .opens order within inside⟩
    · exact .inr ⟨_, .beyond order (Nat.lt_of_not_le within)⟩
  · exact .inr ⟨_, .reversed (Nat.lt_of_not_le order)⟩

/-- The checks leave nothing over that could go wrong with the cut. -/
theorem Fits.text (fits : span.Fits source) : ∃ before part after,
    source.toList = before ++ (part ++ after) ∧ byteLength before = span.start ∧
      byteLength before + byteLength part = span.stop ∧
      span.text source = .ok (String.ofList part) := by
  obtain ⟨before, part, after, split, start, stop⟩ :=
    exists_slice fits.order fits.opens fits.closes
  refine ⟨before, part, after, split, start, stop, ?_⟩
  have cut := text_of_split split span.line span.column
  rwa [stop, start] at cut

theorem Refused.text {error : PlaceError} (refused : span.Refused source error) :
    span.text source = .error error := by
  unfold Span.text
  cases refused with
  | reversed order => exact if_pos order
  | beyond order past =>
    dsimp only
    rw [if_neg (Nat.not_lt.2 order), if_pos past]
  | opens order within inside =>
    dsimp only
    rw [if_neg (Nat.not_lt.2 order), if_neg (Nat.not_lt.2 within), inside.splitAt?_eq_none]
  | closes order within opens inside =>
    obtain ⟨⟨before, rest⟩, split⟩ := Option.isSome_iff_exists.1 opens
    obtain ⟨whole, start⟩ := eq_append_of_splitAt? split
    -- A cut behind the start would be a cut of the whole source.
    have uncut : splitAt? rest (span.stop - span.start) = none := by
      refine Option.eq_none_iff_forall_ne_some.2 fun ⟨part, after⟩ split' => ?_
      obtain ⟨rfl, width⟩ := eq_append_of_splitAt? split'
      refine inside.not_boundary ?_
      have stop : byteLength (before ++ part) = span.stop := by
        rw [byteLength_append]
        omega
      rw [isBoundary, whole, ← List.append_assoc, ← stop, splitAt?_append]
      rfl
    dsimp only
    rw [if_neg (Nat.not_lt.2 order), if_neg (Nat.not_lt.2 within), split]
    simp only [uncut]

theorem text_eq_error_iff {error : PlaceError} :
    span.text source = .error error ↔ span.Refused source error := by
  refine ⟨fun failed => ?_, Refused.text⟩
  rcases span.fits_or_refused source with fits | ⟨error', refused⟩
  · obtain ⟨before, part, after, -, -, -, found⟩ := fits.text
    rw [failed] at found
    cases found
  · rw [refused.text] at failed
    exact Except.error.inj failed ▸ refused

theorem text_eq_ok_iff {part : String} : span.text source = .ok part ↔
    slice? source.toList span.start span.stop = some part.toList := by
  rw [slice?_eq_some_iff]
  constructor
  · intro found
    rcases span.fits_or_refused source with fits | ⟨error, refused⟩
    · obtain ⟨before, part', after, split, start, stop, found'⟩ := fits.text
      obtain rfl := Except.ok.inj (found'.symm.trans found)
      rw [String.toList_ofList]
      exact ⟨before, after, split, start, stop⟩
    · rw [refused.text] at found
      cases found
  · rintro ⟨before, after, split, start, stop⟩
    have cut := text_of_split split span.line span.column
    rwa [String.ofList_toList, stop, start] at cut

theorem exists_text_iff : (∃ part, span.text source = .ok part) ↔ span.Fits source := by
  constructor
  · rintro ⟨part, found⟩
    rcases span.fits_or_refused source with fits | ⟨error, refused⟩
    · exact fits
    · rw [refused.text] at found
      cases found
  · intro fits
    obtain ⟨before, part, after, -, -, -, found⟩ := fits.text
    exact ⟨_, found⟩

/-- The span of an offset covers the character that begins there, or nothing at the end. -/
theorem ofOffset_of_split {before after : List Char} (split : source.toList = before ++ after) :
    Span.ofOffset source (byteLength before) = .ok ⟨byteLength before,
      byteLength before + byteLength (after.take 1), (placeAfter before).1,
      (placeAfter before).2⟩ := by
  rw [Span.ofOffset, lineColumn_of_split split, split, splitAt?_append]
  cases after <;> rfl

theorem ofOffset_of_error {error : PlaceError} (failed : lineColumn source offset = .error error) :
    Span.ofOffset source offset = .error error := by
  rw [Span.ofOffset, failed]
  rfl

theorem exists_split_of_ofOffset (found : Span.ofOffset source offset = .ok span) :
    ∃ before after, source.toList = before ++ after ∧ byteLength before = offset ∧
      span = ⟨offset, offset + byteLength (after.take 1), (placeAfter before).1,
        (placeAfter before).2⟩ := by
  cases place : lineColumn source offset with
  | error error =>
    rw [ofOffset_of_error place] at found
    cases found
  | ok place' =>
    obtain ⟨before, after, split, rfl⟩ := exists_split_of_lineColumn place
    exact ⟨before, after, split, rfl, Except.ok.inj (found.symm.trans (ofOffset_of_split split))⟩

theorem text_ofOffset {before after : List Char} (split : source.toList = before ++ after)
    (line column : UInt32) :
    Span.text ⟨byteLength before, byteLength before + byteLength (after.take 1), line, column⟩
      source = .ok (String.ofList (after.take 1)) := by
  refine text_of_split (?_ : _ = before ++ (after.take 1 ++ after.drop 1)) line column
  rw [split, List.take_append_drop]

end Span

/-! ### From one span to the next -/

/-- `Walk source offset spans`: the spans of the characters from an offset on, each at the end of the
one before. Behind them comes an empty span. -/
inductive Walk (source : String) : Nat → List Span → Prop where
  | last {offset : Nat} {span : Span} (here : Span.ofOffset source offset = .ok span)
      (empty : span.isEmpty = true) : Walk source offset []
  | next {offset : Nat} {span : Span} {spans : List Span}
      (here : Span.ofOffset source offset = .ok span) (nonempty : span.isEmpty = false)
      (further : Walk source span.stop spans) : Walk source offset (span :: spans)

theorem Walk.unique {spans spans' : List Span} (walk : Walk source offset spans)
    (walk' : Walk source offset spans') : spans' = spans := by
  induction walk generalizing spans' with
  | last here empty =>
    cases walk' with
    | last => rfl
    | next here' nonempty =>
      obtain rfl := Except.ok.inj (here.symm.trans here')
      rw [empty] at nonempty
      cases nonempty
  | next here nonempty further ih =>
    cases walk' with
    | last here' empty =>
      obtain rfl := Except.ok.inj (here.symm.trans here')
      rw [empty] at nonempty
      cases nonempty
    | next here' nonempty' further' =>
      obtain rfl := Except.ok.inj (here.symm.trans here')
      rw [ih further']

/-- The spans of the characters of `text` with `before` in front of it. -/
def spansFrom (before : List Char) : List Char → List Span
  | [] => []
  | c :: text =>
    ⟨byteLength before, byteLength before + c.utf8Size, (placeAfter before).1,
      (placeAfter before).2⟩ :: spansFrom (before ++ [c]) text

theorem walk_spansFrom {before text : List Char} (split : source.toList = before ++ text) :
    Walk source (byteLength before) (spansFrom before text) := by
  induction text generalizing before with
  | nil => exact .last (Span.ofOffset_of_split split) (by simp [Span.isEmpty])
  | cons c text ih =>
    have nonempty : byteLength before ≠ byteLength before + byteLength ((c :: text).take 1) := by
      have width : 0 < c.utf8Size := c.utf8Size_pos
      rw [List.take_succ_cons, byteLength_cons]
      omega
    have further := @ih (before ++ [c]) (by simpa using split)
    rw [byteLength_append] at further
    exact .next (Span.ofOffset_of_split split) (beq_eq_false_iff_ne.2 nonempty) further

theorem getElem?_spansFrom (before text : List Char) (n : Nat) :
    (spansFrom before text)[n]? = text[n]?.map fun c =>
      ⟨byteLength (before ++ text.take n), byteLength (before ++ text.take n) + c.utf8Size,
        (placeAfter (before ++ text.take n)).1, (placeAfter (before ++ text.take n)).2⟩ := by
  induction text generalizing before n with
  | nil => rfl
  | cons c text ih =>
    cases n with
    | zero => simp [spansFrom]
    | succ n => simp [spansFrom, ih]

theorem length_spansFrom (before text : List Char) :
    (spansFrom before text).length = text.length := by
  induction text generalizing before with
  | nil => rfl
  | cons c text ih => rw [spansFrom, List.length_cons, ih, List.length_cons]

theorem text_spansFrom {before text : List Char} (split : source.toList = before ++ text) :
    (spansFrom before text).map (Span.text · source) = (text.map String.singleton).map .ok := by
  induction text generalizing before with
  | nil => rfl
  | cons c text ih =>
    have here := Span.text_ofOffset split (placeAfter before).1 (placeAfter before).2
    rw [spansFrom, List.map_cons, ih (by simpa using split)]
    exact congrArg (· :: _) here

theorem join_singletons (source : String) :
    String.join (source.toList.map String.singleton) = source := by
  have single : ∀ c : Char, (String.singleton c).toList = [c] := String.toList_singleton
  rw [← String.toList_inj, String.toList_join, List.flatMap_map]
  simp only [single, List.flatMap_singleton']

/-! ### What spans cover -/

/-- The text of a span is what is cut out of the source from its start to its end. There is none if
the span is refused, for the first thing that is wrong with it. -/
structure Span.CutsExactly (span : Span) (source : String) : Prop where
  succeeds : (∃ part, span.text source = .ok part) ↔ span.Fits source
  parts : ∀ part, span.text source = .ok part → ∃ before after,
    source = String.ofList before ++ part ++ String.ofList after ∧
      splitAt? source.toList span.start = some (before, part.toList ++ after) ∧
      splitAt? source.toList span.stop = some (before ++ part.toList, after)
  sliced : ∀ part, span.text source = .ok part ↔
    slice? source.toList span.start span.stop = some part.toList
  refused : ∀ error, span.text source = .error error ↔ span.Refused source error

/-- The spans of offsets cover the characters of the source, one each. -/
structure CoversCharacters (source : String) : Prop where
  succeeds : ∀ offset, (∃ span, Span.ofOffset source offset = .ok span) ↔
    ∃ place, lineColumn source offset = .ok place
  fails : ∀ offset error, Span.ofOffset source offset = .error error ↔
    lineColumn source offset = .error error
  covers : ∀ offset span, Span.ofOffset source offset = .ok span → ∃ before after,
    splitAt? source.toList offset = some (before, after) ∧ span.start = offset ∧
      lineColumn source offset = .ok (span.line, span.column) ∧
      (after = [] ∧ span.text source = .ok "" ∨
        ∃ c more, after = c :: more ∧ span.text source = .ok (String.singleton c))
  walked : ∃ spans texts, Walk source 0 spans ∧ (∀ spans', Walk source 0 spans' → spans' = spans) ∧
    spans.length = source.toList.length ∧
    (∀ n c, source.toList[n]? = some c → ∃ span, spans[n]? = some span ∧
      span.start = byteLength (source.toList.take n) ∧
      span.text source = .ok (String.singleton c)) ∧
    spans.map (Span.text · source) = texts.map .ok ∧ String.join texts = source

theorem Span.cutsExactly (span : Span) (source : String) : span.CutsExactly source where
  succeeds := exists_text_iff
  parts part found := by
    obtain ⟨before, after, split, start, stop⟩ := slice?_eq_some_iff.1 (text_eq_ok_iff.1 found)
    refine ⟨before, after, ?_, ?_, ?_⟩
    · rw [← String.toList_inj, split]
      simp
    · exact splitAt?_eq_some_iff.2 ⟨split, start⟩
    · exact splitAt?_eq_some_iff.2 ⟨by simpa using split, by rw [byteLength_append, stop]⟩
  sliced _ := text_eq_ok_iff
  refused _ := text_eq_error_iff

theorem ofOffset_eq_error_iff {error : PlaceError} :
    Span.ofOffset source offset = .error error ↔ lineColumn source offset = .error error := by
  refine ⟨fun failed => ?_, Span.ofOffset_of_error⟩
  cases place : lineColumn source offset with
  | error error' =>
    rw [Span.ofOffset_of_error place] at failed
    exact congrArg Except.error (Except.error.inj failed)
  | ok place' =>
    obtain ⟨before, after, split, rfl⟩ := exists_split_of_lineColumn place
    rw [Span.ofOffset_of_split split] at failed
    cases failed

theorem coversCharacters (source : String) : CoversCharacters source where
  succeeds offset := by
    constructor
    · rintro ⟨span, found⟩
      obtain ⟨before, after, split, rfl, -⟩ := Span.exists_split_of_ofOffset found
      exact ⟨_, lineColumn_of_split split⟩
    · rintro ⟨place, found⟩
      obtain ⟨before, after, split, rfl⟩ := exists_split_of_lineColumn found
      exact ⟨_, Span.ofOffset_of_split split⟩
  fails _ _ := ofOffset_eq_error_iff
  covers offset span found := by
    obtain ⟨before, after, split, rfl, rfl⟩ := Span.exists_split_of_ofOffset found
    have text := Span.text_ofOffset split (placeAfter before).1 (placeAfter before).2
    refine ⟨before, after, splitAt?_eq_some_iff.2 ⟨split, rfl⟩, rfl, lineColumn_of_split split, ?_⟩
    cases after with
    | nil => exact .inl ⟨rfl, text⟩
    | cons c more => exact .inr ⟨c, more, rfl, text⟩
  walked := by
    have walk : Walk source 0 (spansFrom [] source.toList) := walk_spansFrom (List.nil_append _).symm
    have texts := text_spansFrom (show source.toList = [] ++ source.toList from rfl)
    refine ⟨_, _, walk, fun _ walk' => walk.unique walk', length_spansFrom _ _, ?_, texts,
      join_singletons source⟩
    intro n c member
    have found := getElem?_spansFrom [] source.toList n
    rw [member] at found
    refine ⟨_, found, rfl, ?_⟩
    have text := congrArg (·[n]?) texts
    simpa [found, member] using text

/-- Spans cut out exactly what they cover, and those of offsets cover character after character. -/
theorem spans_cut_exactly (source : String) :
    (∀ span : Span, span.CutsExactly source) ∧ CoversCharacters source :=
  ⟨fun span => span.cutsExactly source, coversCharacters source⟩

-- The start falls within the wide character as well, but the end is what is looked at first.
example : Span.text ⟨1, 9, 1, 1⟩ "é#" = .error (.outOfBounds 3 1 9) ∧
    Span.text ⟨1, 3, 1, 1⟩ "é#" = .error (.insideCharacter 1) ∧
    Walk "é#" 0 [⟨0, 2, 1, 1⟩, ⟨2, 3, 1, 2⟩] :=
  ⟨rfl, rfl, .next rfl rfl (.next rfl rfl (.last rfl rfl))⟩

end ScriptLex.Source
