import ScriptLex.Proofs.Reader
import ScriptLex.Toml.Document
import Mathlib.Data.List.Forall2

/-! How strings, keys and values may be written in TOML.

Whatever is spelled by these rules is read back, with anything behind it that could not belong to
it: a quote behind an empty string would open a string of several lines. -/

set_option autoImplicit false

namespace ScriptLex.Toml

open ScriptLex.Text

/-- Blanks, perhaps none. -/
def Blank (gap : List Char) : Prop := ∀ c ∈ gap, isBlank c = true

theorem Blank.nil : Blank [] := by simp [Blank]

theorem skipBlank_append {gap text : List Char} (blank : Blank gap) (front : StopsAt isBlank text) :
    skipBlank (gap ++ text) = text := dropWhile_run blank front

theorem eq_of_isBlank {c : Char} (blank : isBlank c = true) : c = ' ' ∨ c = '\t' := by
  simpa [isBlank] using blank

/-- Blanks do not go on with characters that are none. -/
theorem Blank.stopsAt {p : Char → Bool} {gap : List Char} (blank : Blank gap)
    (space : p ' ' = false) (tab : p '\t' = false) : StopsAt p gap := by
  intro c first
  obtain rfl | rfl := eq_of_isBlank (blank c (List.mem_of_mem_head? first))
  · exact space
  · exact tab

/-! ### Strings -/

/-- The escapes of one letter and what they stand for. -/
def shortEscapes : List (Char × Char) :=
  [('b', '\x08'), ('t', '\t'), ('n', '\n'), ('f', '\x0c'), ('r', '\r'), ('"', '"'), ('\\', '\\')]

/-- The ways to write a character between double quotes. -/
inductive SpellsChar : Char → List Char → Prop where
  | plain {c : Char} (printing : isPrinting c = true) (quote : c ≠ '"') (backslash : c ≠ '\\') :
      SpellsChar c [c]
  | short {letter c : Char} (listed : (letter, c) ∈ shortEscapes) : SpellsChar c ['\\', letter]
  | four {digits : List Char} {c : Char} (width : digits.length = 4)
      (number : hexValue? digits = some c.toNat) : SpellsChar c ('\\' :: 'u' :: digits)
  | eight {digits : List Char} {c : Char} (width : digits.length = 8)
      (number : hexValue? digits = some c.toNat) : SpellsChar c ('\\' :: 'U' :: digits)

/-- Strings on one line. -/
inductive SpellsString : String → List Char → Prop where
  | basic {cs : List Char} {texts : List (List Char)} (spelled : List.Forall₂ SpellsChar cs texts) :
      SpellsString (String.ofList cs) ('"' :: (texts.flatten ++ ['"']))
  | literal {cs : List Char} (printing : ∀ c ∈ cs, isPrinting c = true)
      (quote : ∀ c ∈ cs, c ≠ '\x27') :
      SpellsString (String.ofList cs) ('\x27' :: (cs ++ ['\x27']))

def isQuote (c : Char) : Bool := c == '"' || c == '\x27'

theorem plainPiece_cons {quote c : Char} (printing : isPrinting c = true) (other : c ≠ quote)
    (behind : List Char) : plainPiece quote (c :: behind) = some ([c], behind) :=
  if_pos ⟨other, printing⟩

theorem plainPiece_quote (quote : Char) (behind : List Char) :
    plainPiece quote (quote :: behind) = none := if_neg fun both => both.1 rfl

theorem escape_short {letter c : Char} (listed : (letter, c) ∈ shortEscapes) (behind : List Char) :
    escape (letter :: behind) = some (c, behind) := by
  simp only [shortEscapes, List.mem_cons, Prod.mk.injEq, List.not_mem_nil, or_false] at listed
  rcases listed with ⟨rfl, rfl⟩ | ⟨rfl, rfl⟩ | ⟨rfl, rfl⟩ | ⟨rfl, rfl⟩ | ⟨rfl, rfl⟩ | ⟨rfl, rfl⟩ |
    ⟨rfl, rfl⟩ <;> rfl

theorem basicPiece_spelled {c : Char} {text : List Char} (spelled : SpellsChar c text)
    (behind : List Char) : basicPiece (text ++ behind) = some ([c], behind) := by
  cases spelled with
  | plain printing quote backslash =>
    rw [List.singleton_append, basicPiece.eq_def]
    split
    case h_1 same => exact absurd (List.cons.inj same).1 backslash
    case h_2 => exact plainPiece_cons printing quote behind
  | @short letter _ listed =>
    have read := escape_short listed behind
    show (escape (letter :: behind)).map _ = _
    rw [read]
    rfl
  | four width number =>
    simp [basicPiece, escape, ← width, number, charOfNumber?_toNat]
  | eight width number =>
    simp [basicPiece, escape, ← width, number, charOfNumber?_toNat]

section

variable {quote : Char} {piece : Reader (List Char)} {cs : List Char} {texts : List (List Char)}

/-- `Pieces piece cs texts`: each of the texts is one piece, which stands for its character. -/
def Pieces (piece : Reader (List Char)) : List Char → List (List Char) → Prop :=
  List.Forall₂ fun c text => ∀ behind, text ≠ [] ∧ piece (text ++ behind) = some ([c], behind)

theorem many_pieces (closes : ∀ behind, piece (quote :: behind) = none)
    (pieces : Pieces piece cs texts) (behind : List Char) :
    Reader.many piece (texts.flatten ++ quote :: behind) = (cs.map ([·]), quote :: behind) := by
  induction pieces with
  | nil => exact Reader.many_none (closes behind)
  | @cons c text cs texts read pieces ih =>
    obtain ⟨nonempty, read⟩ := read (texts.flatten ++ quote :: behind)
    rw [List.flatten_cons, List.append_assoc]
    refine Reader.many_more read ?_ ih
    have positive := List.length_pos_of_ne_nil nonempty
    simp only [List.length_append]
    omega

theorem flatten_singletons (cs : List Char) : (cs.map ([·])).flatten = cs := by
  rw [← List.flatMap_def, List.flatMap_singleton']

theorem singleLine_pieces (closes : ∀ behind, piece (quote :: behind) = none)
    (pieces : Pieces piece cs texts) (behind : List Char) :
    singleLine quote piece (texts.flatten ++ quote :: behind) = some (String.ofList cs, behind) := by
  simp only [singleLine, many_pieces closes pieces, if_pos, flatten_singletons]

/-- Only an empty string has two quotes in a row. -/
theorem flatten_ne_quotes (closes : ∀ behind, piece (quote :: behind) = none)
    (pieces : Pieces piece cs texts) {behind : List Char} (stops : StopsAt (· == quote) behind)
    (rest : List Char) : texts.flatten ++ quote :: behind ≠ quote :: quote :: rest := by
  intro same
  cases pieces with
  | nil =>
    obtain rfl := (List.cons.inj same).2
    exact absurd (stopsAt_cons.1 stops) (by simp)
  | @cons c text cs texts read pieces =>
    -- The first piece would be the closing quote.
    obtain ⟨-, read⟩ := read (texts.flatten ++ quote :: behind)
    rw [List.flatten_cons, List.append_assoc] at same
    rw [same, closes] at read
    cases read

end

theorem pieces_basic {cs : List Char} {texts : List (List Char)}
    (spelled : List.Forall₂ SpellsChar cs texts) : Pieces basicPiece cs texts :=
  spelled.imp fun _ _ spelled behind =>
    ⟨by cases spelled <;> exact List.cons_ne_nil _ _, basicPiece_spelled spelled behind⟩

theorem basicPiece_quote (behind : List Char) : basicPiece ('"' :: behind) = none :=
  plainPiece_quote '"' behind

theorem pieces_literal {cs : List Char} (printing : ∀ c ∈ cs, isPrinting c = true)
    (quote : ∀ c ∈ cs, c ≠ '\x27') : Pieces (plainPiece '\x27') cs (cs.map ([·])) := by
  rw [Pieces, List.forall₂_map_right_iff, List.forall₂_same]
  exact fun c member behind =>
    ⟨List.cons_ne_nil _ _, plainPiece_cons (printing c member) (quote c member) behind⟩

theorem simpleString_spelled {s : String} {text : List Char} (spelled : SpellsString s text)
    (behind : List Char) : simpleString (text ++ behind) = some (s, behind) := by
  cases spelled with
  | @basic cs texts spelled =>
    have read := singleLine_pieces basicPiece_quote (pieces_basic spelled) behind
    simpa [simpleString] using read
  | @literal cs printing quote =>
    have read := singleLine_pieces (plainPiece_quote '\x27') (pieces_literal printing quote) behind
    rw [flatten_singletons] at read
    simpa [simpleString] using read

theorem string_of_ne {cs : List Char} (basic : ∀ rest, cs ≠ '"' :: '"' :: '"' :: rest)
    (literal : ∀ rest, cs ≠ '\x27' :: '\x27' :: '\x27' :: rest) : string cs = simpleString cs := by
  unfold string
  split
  case h_1 => exact absurd rfl (basic _)
  case h_2 => exact absurd rfl (literal _)
  case h_3 => rfl

theorem string_spelled {s : String} {text behind : List Char} (spelled : SpellsString s text)
    (stops : StopsAt isQuote behind) : string (text ++ behind) = some (s, behind) := by
  rw [← simpleString_spelled spelled behind]
  cases spelled with
  | @basic cs texts spelled =>
    have stops' : StopsAt (· == '"') behind := stops.mono fun c same => by simp_all [isQuote]
    have apart := flatten_ne_quotes basicPiece_quote (pieces_basic spelled) stops'
    exact string_of_ne (by simpa using apart) (by simp)
  | @literal cs printing quote =>
    have stops' : StopsAt (· == '\x27') behind := stops.mono fun c same => by simp_all [isQuote]
    have apart := flatten_ne_quotes (plainPiece_quote '\x27') (pieces_literal printing quote) stops'
    rw [flatten_singletons] at apart
    exact string_of_ne (by simp) (by simpa using apart)

/-! ### Keys -/

/-- One name of a key, bare or between quotes. -/
inductive SpellsName : String → List Char → Prop where
  | bare {run : List Char} (nonempty : run ≠ []) (allowed : ∀ c ∈ run, isBareKey c = true) :
      SpellsName (String.ofList run) run
  | quoted {name : String} {text : List Char} (spelled : SpellsString name text) :
      SpellsName name text

/-- A name with blanks around it. -/
inductive SpellsPart : String → List Char → Prop where
  | mk {name : String} {gap text tail : List Char} (front : Blank gap)
      (spelled : SpellsName name text) (back : Blank tail) :
      SpellsPart name (gap ++ (text ++ tail))

/-- Names with dots between them, as many as a key may have. -/
structure SpellsKey (names : List String) (text : List Char) : Prop where
  joined : Reader.Joined '.' SpellsPart names text
  few : names.length ≤ depthLimit

/-- The characters that a name may begin with. -/
def isNameFront (c : Char) : Bool := isBareKey c || isQuote c

theorem SpellsName.exists_front {name : String} {text : List Char} (spelled : SpellsName name text) :
    ∃ c cs, text = c :: cs ∧ isNameFront c = true := by
  cases spelled with
  | bare nonempty allowed =>
    obtain ⟨c, cs, rfl⟩ := List.exists_cons_of_ne_nil nonempty
    exact ⟨c, cs, rfl, by simp [isNameFront, allowed c List.mem_cons_self]⟩
  | quoted spelled => cases spelled <;> exact ⟨_, _, rfl, rfl⟩

theorem ne_of_isNameFront {c d : Char} (front : isNameFront c = true)
    (other : isNameFront d = false) : c ≠ d := by
  rintro rfl
  rw [front] at other
  cases other

theorem isBlank_of_isNameFront {c : Char} (front : isNameFront c = true) : isBlank c = false := by
  have space : c ≠ ' ' := ne_of_isNameFront front (by decide)
  have tab : c ≠ '\t' := ne_of_isNameFront front (by decide)
  simp [isBlank, space, tab]

theorem bareKey_run {run behind : List Char} (nonempty : run ≠ [])
    (allowed : ∀ c ∈ run, isBareKey c = true) (stops : StopsAt isBareKey behind) :
    bareKey (run ++ behind) = some (String.ofList run, behind) := by
  simp [bareKey, takeWhile_run allowed stops, dropWhile_run allowed stops, nonempty]

theorem simpleString_bare {c : Char} (bare : isBareKey c = true) (cs : List Char) :
    simpleString (c :: cs) = none := by
  unfold simpleString
  split
  case h_1 same => rw [(List.cons.inj same).1] at bare; exact absurd bare (by decide)
  case h_2 same => rw [(List.cons.inj same).1] at bare; exact absurd bare (by decide)
  case h_3 => rfl

theorem name_spelled {name : String} {text behind : List Char} (spelled : SpellsName name text)
    (stops : StopsAt isBareKey behind) :
    Reader.orElse simpleString bareKey (text ++ behind) = some (name, behind) := by
  cases spelled with
  | bare nonempty allowed =>
    have read := bareKey_run nonempty allowed stops
    obtain ⟨c, cs, rfl⟩ := List.exists_cons_of_ne_nil nonempty
    rw [List.cons_append] at read ⊢
    rw [Reader.orElse, simpleString_bare (allowed c List.mem_cons_self), read]
    rfl
  | quoted spelled =>
    rw [Reader.orElse, simpleString_spelled spelled]
    rfl

/-- A name of a key and the blanks around it. -/
def keyPart : Reader String := fun cs => do
  let (name, rest) ← Reader.orElse simpleString bareKey (skipBlank cs)
  return (name, skipBlank rest)

theorem key_eq (cs : List Char) :
    key cs =
      if (Reader.separated keyPart '.' cs).1.isEmpty ∨
          depthLimit < (Reader.separated keyPart '.' cs).1.length then none
      else some (Reader.separated keyPart '.' cs) := rfl

theorem keyPart_spelled {name : String} {text : List Char} {c : Char}
    (spelled : SpellsPart name text) (blank : isBlank c = false) (bare : isBareKey c = false)
    (behind : List Char) : keyPart (text ++ c :: behind) = some (name, c :: behind) := by
  cases spelled with
  | @mk gap text tail front spelled back =>
    have stops : StopsAt isBareKey (tail ++ c :: behind) :=
      (back.stopsAt rfl rfl).append (stopsAt_cons.2 bare)
    have skipped : skipBlank (gap ++ (text ++ (tail ++ c :: behind))) =
        text ++ (tail ++ c :: behind) := by
      obtain ⟨d, cs, rfl, begins⟩ := spelled.exists_front
      exact skipBlank_append front (stopsAt_cons.2 (isBlank_of_isNameFront begins))
    simp only [List.append_assoc, keyPart, skipped, name_spelled spelled stops,
      Option.bind_eq_bind, Option.bind_some, skipBlank_append back (stopsAt_cons.2 blank)]
    rfl

/-- A key is read in front of the character that ends it. -/
theorem key_spelled {names : List String} {text : List Char} {close : Char}
    (spelled : SpellsKey names text) (ends : close = '=' ∨ close = ']') (behind : List Char) :
    key (text ++ close :: behind) = some (names, close :: behind) := by
  have other : close ≠ '.' := by rcases ends with rfl | rfl <;> decide
  have read : Reader.separated keyPart '.' (text ++ close :: behind) = (names, close :: behind) := by
    refine spelled.joined.separated other fun behind part next => ?_
    rcases next with rfl | rfl
    · exact keyPart_spelled part rfl rfl behind
    · rcases ends with rfl | rfl <;> exact keyPart_spelled part rfl rfl behind
  rw [key_eq, read]
  refine if_neg ?_
  rintro (none | many)
  · exact spelled.joined.ne_nil (List.isEmpty_iff.1 none)
  · exact absurd spelled.few (Nat.not_le.2 many)

theorem key_none {cs : List Char} (refuses : keyPart cs = none) : key cs = none := by
  rw [key_eq, Reader.separated_none refuses]
  rfl

theorem SpellsPart.exists_front {name : String} {text : List Char} (spelled : SpellsPart name text) :
    ∃ c cs, text = c :: cs ∧ (isBlank c = true ∨ isNameFront c = true) := by
  cases spelled with
  | @mk gap text tail front spelled back =>
    cases gap with
    | nil =>
      obtain ⟨c, cs, rfl, begins⟩ := spelled.exists_front
      exact ⟨c, cs ++ tail, rfl, .inr begins⟩
    | cons c gap => exact ⟨c, gap ++ (text ++ tail), rfl, .inl (front c List.mem_cons_self)⟩

theorem SpellsKey.exists_front {names : List String} {text : List Char}
    (spelled : SpellsKey names text) :
    ∃ c cs, text = c :: cs ∧ (isBlank c = true ∨ isNameFront c = true) := by
  cases spelled.joined with
  | last part => exact part.exists_front
  | @more _ _ text rest part joined =>
    obtain ⟨c, cs, rfl, begins⟩ := part.exists_front
    exact ⟨c, cs ++ '.' :: rest, rfl, begins⟩

/-- A name that needs no quotes. -/
structure Bare (name : String) : Prop where
  nonempty : name.toList ≠ []
  allowed : name.toList.all isBareKey = true

theorem Bare.spellsKey {name : String} (bare : Bare name) :
    StopsAt isBlank name.toList ∧ SpellsKey [name] name.toList := by
  have spelled := SpellsName.bare bare.nonempty (List.all_eq_true.1 bare.allowed)
  rw [String.ofList_toList] at spelled
  have joined : Reader.Joined '.' SpellsPart [name] ([] ++ (name.toList ++ [])) :=
    .last (.mk Blank.nil spelled Blank.nil)
  rw [List.nil_append, List.append_nil] at joined
  refine ⟨?_, joined, by simp [depthLimit]⟩
  obtain ⟨c, cs, same, begins⟩ := spelled.exists_front
  rw [same]
  exact stopsAt_cons.2 (isBlank_of_isNameFront begins)

/-! ### Values -/

inductive SpellsScalar : Value → List Char → Prop where
  | string {s : String} {text : List Char} (spelled : SpellsString s text) :
      SpellsScalar (.string s) text
  | true : SpellsScalar (.boolean true) "true".toList
  | false : SpellsScalar (.boolean false) "false".toList

/-- An entry, its value spelled by other rules. -/
inductive SpellsEntry (spells : Value → List Char → Prop) : Entry → List Char → Prop where
  | mk {path : List String} {key : String} {value : Value} {name gap text : List Char}
      (keys : SpellsKey (path ++ [key]) name) (blank : Blank gap) (spelled : spells value text) :
      SpellsEntry spells ⟨path, key, value⟩ (name ++ '=' :: (gap ++ text))

/-- An entry of a table in braces, with the blanks behind it. -/
inductive SpellsItem : Entry → List Char → Prop where
  | mk {entry : Entry} {text tail : List Char} (spelled : SpellsEntry SpellsScalar entry text)
      (back : Blank tail) : SpellsItem entry (text ++ tail)

/-- Scalars, and tables of them in braces. -/
inductive SpellsValue : Value → List Char → Prop where
  | scalar {value : Value} {text : List Char} (spelled : SpellsScalar value text) :
      SpellsValue value text
  | empty {gap : List Char} (blank : Blank gap) :
      SpellsValue (.table .inline []) ('\x7b' :: (gap ++ ['\x7d']))
  | table {entries : List Entry} {table : Table} {text : List Char}
      (items : Reader.Joined ',' SpellsItem entries text)
      (made : Table.insertAll [] entries = some table) :
      SpellsValue (.table .inline table) ('\x7b' :: (text ++ ['\x7d']))

/-- `Reads reader spells`: what is spelled is read in front of anything but a quote, and it does not
begin with a blank. -/
structure Reads (reader : Reader Value) (spells : Value → List Char → Prop) : Prop where
  front : ∀ {value text} behind, spells value text → StopsAt isBlank (text ++ behind)
  read : ∀ {value text behind}, spells value text → StopsAt isQuote behind →
    reader (text ++ behind) = some (value, behind)

theorem reads_scalar (depth : Nat) : Reads (value depth) SpellsScalar where
  front behind spelled := by
    cases spelled with
    | string spelled => cases spelled <;> exact stopsAt_cons.2 rfl
    | true | false => exact stopsAt_cons.2 rfl
  read spelled stops := by
    cases spelled with
    | string spelled =>
      have read := string_spelled spelled stops
      cases spelled with
      | basic | literal =>
        rw [List.cons_append] at read ⊢
        simp only [value, read]
        rfl
    | true | false =>
      simp [value, Reader.word, Reader.after?]

theorem entry_spelled {reader : Reader Value} {spells : Value → List Char → Prop} {made : Entry}
    {text behind : List Char} (reads : Reads reader spells) (spelled : SpellsEntry spells made text)
    (stops : StopsAt isQuote behind) : entry reader (text ++ behind) = some (made, behind) := by
  cases spelled with
  | @mk path key value name gap text keys blank spelled =>
    have named := key_spelled keys (.inl rfl) (gap ++ (text ++ behind))
    have skipped := skipBlank_append blank (reads.front behind spelled)
    simp [entry, named, mark, Reader.after?, skipped, reads.read spelled stops]

theorem entry_none {reader : Reader Value} {cs : List Char} (refuses : keyPart cs = none) :
    entry reader cs = none := by
  rw [entry, key_none refuses]
  rfl

/-- An entry in braces and the blanks behind it. -/
def inlineItem (value : Reader Value) : Reader Entry := fun cs => do
  let (entry, rest) ← entry value cs
  return (entry, skipBlank rest)

theorem inlineBody_eq (value : Reader Value) (cs : List Char) :
    inlineBody value cs = (do
      let rest ← mark '\x7d' (skipBlank (Reader.separated (inlineItem value) ',' cs).2)
      let table ← Table.insertAll [] (Reader.separated (inlineItem value) ',' cs).1
      return (.table .inline table, rest)) := rfl

theorem inlineItem_spelled {reader : Reader Value} {made : Entry} {text : List Char} {c : Char}
    (reads : Reads reader SpellsScalar) (spelled : SpellsItem made text)
    (next : c = ',' ∨ c = '\x7d') (behind : List Char) :
    inlineItem reader (text ++ c :: behind) = some (made, c :: behind) := by
  have apart : isQuote c = false ∧ isBlank c = false := by
    rcases next with rfl | rfl <;> exact ⟨rfl, rfl⟩
  cases spelled with
  | @mk text tail spelled back =>
    have stops : StopsAt isQuote (tail ++ c :: behind) :=
      (back.stopsAt rfl rfl).append (stopsAt_cons.2 apart.1)
    rw [List.append_assoc, inlineItem, entry_spelled reads spelled stops]
    show some (made, skipBlank _) = _
    rw [skipBlank_append back (stopsAt_cons.2 apart.2)]

theorem inlineItem_brace {reader : Reader Value} {gap : List Char} (blank : Blank gap)
    (behind : List Char) : inlineItem reader (gap ++ '\x7d' :: behind) = none := by
  have skipped : skipBlank (gap ++ '\x7d' :: behind) = '\x7d' :: behind :=
    skipBlank_append blank (stopsAt_cons.2 rfl)
  have refused : keyPart (gap ++ '\x7d' :: behind) = none := by
    rw [keyPart, skipped]
    rfl
  rw [inlineItem, entry_none refused]
  rfl

theorem reads_value (depth : Nat) : Reads (value (depth + 1)) SpellsValue where
  front behind spelled := by
    cases spelled with
    | scalar spelled => exact (reads_scalar depth).front behind spelled
    | empty | table => exact stopsAt_cons.2 rfl
  read {value text behind} spelled stops := by
    cases spelled with
    | scalar spelled => exact (reads_scalar (depth + 1)).read spelled stops
    | @empty gap blank =>
      have none : Reader.separated (inlineItem (Toml.value depth)) ',' (gap ++ '\x7d' :: behind) =
          ([], gap ++ '\x7d' :: behind) :=
        Reader.separated_none (inlineItem_brace blank behind)
      have skipped : skipBlank (gap ++ '\x7d' :: behind) = '\x7d' :: behind :=
        skipBlank_append blank (stopsAt_cons.2 rfl)
      rw [List.cons_append, List.append_assoc, List.singleton_append, Toml.value]
      simp [inlineBody_eq, none, skipped, mark, Reader.after?, Table.insertAll]
    | @table entries table text items made =>
      have read : Reader.separated (inlineItem (Toml.value depth)) ',' (text ++ '\x7d' :: behind) =
          (entries, '\x7d' :: behind) :=
        items.separated (by decide) fun behind item next =>
          inlineItem_spelled (reads_scalar depth) item next behind
      have skipped : skipBlank ('\x7d' :: behind) = '\x7d' :: behind := rfl
      rw [List.cons_append, List.append_assoc, List.singleton_append, Toml.value]
      simp [inlineBody_eq, read, skipped, mark, Reader.after?, made]

end ScriptLex.Toml
