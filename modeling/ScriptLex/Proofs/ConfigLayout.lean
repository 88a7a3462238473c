import ScriptLex.Proofs.ConfigParse
import ScriptLex.Proofs.TomlTable

/-! Configurations as texts.

The same settings may stand in any order, with any blanks, comments and line breaks around them,
and those for the output in a table of any form. -/

set_option autoImplicit false

namespace ScriptLex.Config

open ScriptLex.Source (Encoding)
open ScriptLex.Toml (Value Table Form Entry Statement Document SpellsScalar SpellsStatement Bare)
open ScriptLex.Toml.Table (Holds Lays Gives keys)

/-! ### Documents -/

/-- `Writes text own grouped?`: the text is a document that gives values under keys of their own and
perhaps others under `output`, in some order, layout and form. -/
def Writes (text : String) (own : List (String × Value))
    (grouped? : Option (List (String × Value))) : Prop :=
  ∃ statements cs, Lays "output" own grouped? statements ∧ Document statements cs ∧
    (text.toList = cs ∨ text.toList = '\ufeff' :: cs)

/-- No key is given twice. -/
structure Once (own : List (String × Value)) (grouped? : Option (List (String × Value))) :
    Prop where
  once : (keys own).Nodup
  apart : "output" ∉ keys own
  groupedOnce : ∀ pairs, grouped? = some pairs → (keys pairs).Nodup

/-- What may be settled, and what is left open. -/
structure Choice where
  verbose? : Option Bool
  color? : Option Bool
  output? : Option (Option Format × Option Encoding)

/-- Up to two values under their keys. -/
def twoOf (key key' : String) (value? value'? : Option Value) : List (String × Value) :=
  (value?.map (key, ·)).toList ++ (value'?.map (key', ·)).toList

namespace Choice

def own (choice : Choice) : List (String × Value) :=
  twoOf "verbose" "color" (choice.verbose?.map .boolean) (choice.color?.map .boolean)

def grouped? (choice : Choice) : Option (List (String × Value)) :=
  choice.output?.map fun (format?, encoding?) =>
    twoOf "format" "encoding" (format?.map writeFormat) (encoding?.map writeEncoding)

/-- The configuration with defaults for what is left open. -/
def config (choice : Choice) : Config where
  verbose := choice.verbose?.getD false
  color := choice.color?.getD true
  output := {
    format := (choice.output?.bind Prod.fst).getD .text
    encoding := (choice.output?.bind Prod.snd).getD .utf8 }

end Choice

section

variable {text text' : String} {own : List (String × Value)}
  {grouped? : Option (List (String × Value))} {key key' : String} {value? value'? : Option Value}
  {table table' : Table}

theorem Writes.exists_table (writes : Writes text own grouped?) (once : Once own grouped?) :
    ∃ table, Toml.read? text = some table ∧ Gives "output" own grouped? table := by
  obtain ⟨statements, cs, lays, document, shape⟩ := writes
  rw [document.read?_eq shape]
  exact lays.exists_table once.once once.apart once.groupedOnce

theorem sameSettings_of_gives (once : Once own grouped?) (gives : Gives "output" own grouped? table)
    (gives' : Gives "output" own grouped? table') : SameSettings table table' where
  others key other := Option.ext fun value =>
    (gives.get?_eq_some_iff other).trans (gives'.get?_eq_some_iff other).symm
  output := by
    cases grouped? with
    | none =>
      rw [gives.get?_eq_none once.apart, gives'.get?_eq_none once.apart]
      exact .same
    | some grouped =>
      obtain ⟨form, inner, found, holds⟩ := gives.exists_inner
      obtain ⟨form', inner', found', holds'⟩ := gives'.exists_inner
      rw [found, found']
      exact .tables fun key => Option.ext fun value =>
        (holds key value).trans (holds' key value).symm

theorem mem_twoOf {pair : String × Value} :
    pair ∈ twoOf key key' value? value'? ↔
      pair.1 = key ∧ value? = some pair.2 ∨ pair.1 = key' ∧ value'? = some pair.2 := by
  obtain ⟨name, value⟩ := pair
  rw [twoOf, List.mem_append]
  cases value? <;> cases value'? <;> simp [eq_comm]

theorem nodup_twoOf (apart : key ≠ key') : (keys (twoOf key key' value? value'?)).Nodup := by
  cases value? <;> cases value'? <;> simp [keys, twoOf, apart]

theorem eq_of_mem_twoOf {found? : Option Value} (apart : key ≠ key')
    (found : ∀ value, found? = some value ↔ (key, value) ∈ twoOf key key' value? value'?) :
    found? = value? :=
  Option.ext fun value => by simp [found, mem_twoOf, apart]

theorem eq_of_mem_twoOf' {found? : Option Value} (apart : key' ≠ key)
    (found : ∀ value, found? = some value ↔ (key', value) ∈ twoOf key key' value? value'?) :
    found? = value'? :=
  Option.ext fun value => by simp [found, mem_twoOf, apart]

theorem eq_none_of_mem_twoOf {found? : Option Value} {other : String}
    (apart : other ∉ [key, key'])
    (found : ∀ value, found? = some value ↔ (other, value) ∈ twoOf key key' value? value'?) :
    found? = none := by
  rw [List.mem_pair, not_or] at apart
  exact Option.ext fun value => by simp [found, mem_twoOf, apart]

theorem Choice.once (choice : Choice) : Once choice.own choice.grouped? where
  once := nodup_twoOf (by decide)
  apart member := by
    obtain ⟨pair, among, isOutput⟩ := List.mem_map.1 member
    rcases mem_twoOf.1 among with ⟨isVerbose, -⟩ | ⟨isColor, -⟩
    · exact absurd (isOutput.symm.trans isVerbose) (by decide)
    · exact absurd (isOutput.symm.trans isColor) (by decide)
  groupedOnce pairs isSome := by
    obtain ⟨output, -, rfl⟩ := Option.map_eq_some_iff.1 isSome
    exact nodup_twoOf (by decide)

theorem given_map {α : Type} (write : α → Value) (default : α) (setting? : Option α) :
    Given write default (setting?.map write) (setting?.getD default) := by
  cases setting? with
  | none => exact .absent
  | some setting => exact .written setting

theorem Choice.knownKeys {choice : Choice}
    (gives : Gives "output" choice.own choice.grouped? table) : KnownKeys table where
  top := known_iff.2 fun key unknown => by
    have other : key ∉ ["verbose", "color"] ∧ key ≠ "output" := by
      simpa [and_assoc] using unknown
    exact eq_none_of_mem_twoOf other.1 fun value => gives.get?_eq_some_iff other.2
  output form inner output := by
    cases choice with
    | mk verbose? color? output? =>
      cases output? with
      | none =>
        have none := gives.get?_eq_none (Choice.once _).apart
        rw [output] at none
        cases none
      | some both =>
        obtain ⟨form', inner', found, holds⟩ := gives.exists_inner
        rw [output] at found
        obtain ⟨rfl, rfl⟩ := Value.table.inj (Option.some.inj found)
        exact known_iff.2 fun key unknown => eq_none_of_mem_twoOf unknown (holds key)

theorem Choice.accepted {choice : Choice}
    (gives : Gives "output" choice.own choice.grouped? table) : Accepted table choice.config where
  verbose := by
    rw [eq_of_mem_twoOf (by decide) fun value => gives.get?_eq_some_iff (by decide)]
    exact given_map _ _ _
  color := by
    rw [eq_of_mem_twoOf' (by decide) fun value => gives.get?_eq_some_iff (by decide)]
    exact given_map _ _ _
  output := by
    cases choice with
    | mk verbose? color? output? =>
      cases output? with
      | none =>
        rw [gives.get?_eq_none (Choice.once _).apart]
        exact .absent
      | some both =>
        obtain ⟨form, inner, found, holds⟩ := gives.exists_inner
        rw [found]
        refine .written ?_ ?_
        · rw [eq_of_mem_twoOf (by decide) (holds "format")]
          exact given_map _ _ _
        · rw [eq_of_mem_twoOf' (by decide) (holds "encoding")]
          exact given_map _ _ _

/-- Whatever the order and the layout, a document settles what is chosen. -/
theorem parse_writes {choice : Choice} (writes : Writes text choice.own choice.grouped?) :
    parse text = .ok choice.config := by
  obtain ⟨table, read, gives⟩ := writes.exists_table choice.once
  rw [parse, read]
  exact ofTable_eq_ok_iff.2 ((Choice.accepted gives).describes (Choice.knownKeys gives))

example : (parse "# loud\noutput.encoding = 'latin-1'\r\n  verbose=true").toOption =
    some { verbose := true, output := { encoding := .latin1 } } := by decide +kernel

/-! What may be chosen can also be written. -/

theorem exists_boolean (setting? : Option Bool) (value : Value)
    (given : setting?.map Value.boolean = some value) : ∃ text, SpellsScalar value text := by
  obtain ⟨setting, -, rfl⟩ := Option.map_eq_some_iff.1 given
  cases setting
  · exact ⟨_, .false⟩
  · exact ⟨_, .true⟩

theorem exists_string (name : String)
    (printing : name.toList.all Toml.isPrinting = true) (quote : '\x27' ∉ name.toList) :
    ∃ text, SpellsScalar (.string name) text := by
  have spelled := Toml.SpellsString.literal (List.all_eq_true.1 printing)
    fun c member same => quote (same ▸ member)
  rw [String.ofList_toList] at spelled
  exact ⟨_, .string spelled⟩

theorem exists_format_text (format? : Option Format) (value : Value)
    (given : format?.map writeFormat = some value) : ∃ text, SpellsScalar value text := by
  obtain ⟨format, -, rfl⟩ := Option.map_eq_some_iff.1 given
  cases format <;> exact exists_string _ rfl (by decide)

theorem exists_encoding_text (encoding? : Option Encoding) (value : Value)
    (given : encoding?.map writeEncoding = some value) : ∃ text, SpellsScalar value text := by
  obtain ⟨encoding, -, rfl⟩ := Option.map_eq_some_iff.1 given
  cases encoding <;> exact exists_string _ rfl (by decide)

theorem exists_spelled_twoOf (bare : Bare key) (bare' : Bare key')
    (first : ∀ value, value? = some value → ∃ text, SpellsScalar value text)
    (second : ∀ value, value'? = some value → ∃ text, SpellsScalar value text) :
    ∀ made ∈ ((twoOf key key' value? value'?).map Entry.plain).map Statement.entry,
      ∃ text, SpellsStatement made text := by
  intro made member
  obtain ⟨entry, isPlain, rfl⟩ := List.mem_map.1 member
  obtain ⟨⟨name, value⟩, among, rfl⟩ := List.mem_map.1 isPlain
  rcases mem_twoOf.1 among with ⟨rfl, given⟩ | ⟨rfl, given⟩
  · exact Entry.exists_spelled_plain bare (first value given)
  · exact Entry.exists_spelled_plain bare' (second value given)

theorem Choice.exists_own (choice : Choice) :
    ∀ made ∈ (choice.own.map Entry.plain).map Statement.entry, ∃ text, SpellsStatement made text :=
  exists_spelled_twoOf ⟨by decide, rfl⟩ ⟨by decide, rfl⟩ (exists_boolean _) (exists_boolean _)

/-- Every choice can be written, the output settings below a header of their own. -/
theorem exists_writes (choice : Choice) : ∃ text, Writes text choice.own choice.grouped? := by
  have exists_text : ∀ {statements}, Lays "output" choice.own choice.grouped? statements →
      (∀ made ∈ statements, ∃ text, SpellsStatement made text) →
      ∃ text, Writes text choice.own choice.grouped? := fun lays spelled => by
    obtain ⟨cs, document⟩ := Toml.exists_document spelled
    exact ⟨String.ofList cs, _, cs, lays, document, .inl String.toList_ofList⟩
  have own := choice.exists_own
  obtain ⟨verbose?, color?, _ | both⟩ := choice
  · exact exists_text (.absent (List.Perm.refl _)) own
  · refine exists_text (.header (List.Perm.refl _) (List.Perm.refl _)) fun made member => ?_
    rcases List.mem_append.1 member with isOwn | rest
    · exact own made isOwn
    rcases List.mem_cons.1 rest with rfl | grouped
    · have bare : Bare "output" := ⟨by decide, rfl⟩
      exact ⟨_, .header bare.spellsKey.2⟩
    · exact exists_spelled_twoOf ⟨by decide, rfl⟩ ⟨by decide, rfl⟩ (exists_format_text _)
        (exists_encoding_text _) made grouped

/-! ### Strictness -/

/-- What a text comes to as a configuration. -/
structure StrictAndUnordered : Prop where
  /-- A text that is no TOML is refused. -/
  notToml : ∀ text, Toml.read? text = none → ∃ error, parse text = .error error ∧ IsRefusal error
  /-- So is one with anything in it that is not known. -/
  unfit : ∀ text table, Toml.read? text = some table → Unfit table →
    ∃ error, parse text = .error error ∧ IsRefusal error
  /-- All others are accepted, provided that the output settings have their types. -/
  accepted : ∀ text table, Toml.read? text = some table → ¬Unfit table → Suitable table →
    ∃ config, parse text = .ok config ∧ Accepted table config
  /-- Of a table only what it holds counts. -/
  unordered : ∀ text text' table table', Toml.read? text = some table →
    Toml.read? text' = some table' → SameSettings table table' →
    ∀ config, parse text = .ok config ↔ parse text' = .ok config
  /-- Of a text only the values count, not how they are laid out. -/
  laidOut : ∀ text text' own grouped?, Once own grouped? → Writes text own grouped? →
    Writes text' own grouped? → ∀ config, parse text = .ok config ↔ parse text' = .ok config
  /-- A text settles what is chosen in it. -/
  chosen : ∀ text (choice : Choice), Writes text choice.own choice.grouped? →
    parse text = .ok choice.config
  /-- Whatever is chosen, there is such a text. -/
  written : ∀ choice : Choice, ∃ text, Writes text choice.own choice.grouped?

theorem strict_and_unordered : StrictAndUnordered where
  notToml text unread := exists_refusal fun table config read => by
    rw [unread] at read
    cases read
  unfit text table read unfit := exists_refusal fun table' config read' describes => by
    obtain rfl := Option.some.inj (read.symm.trans read')
    exact describes.not_unfit unfit
  accepted text table read fit suitable := by
    obtain ⟨config, accepted⟩ := exists_accepted fit suitable
    refine ⟨config, ?_, accepted⟩
    rw [parse, read]
    exact ofTable_eq_ok_iff.2 (accepted.describes (knownKeys_of_not_unfit fit))
  unordered text text' table table' read read' same config :=
    parse_eq_ok_iff_of_same read read' same
  laidOut text text' own grouped? once writes writes' config := by
    obtain ⟨table, read, gives⟩ := writes.exists_table once
    obtain ⟨table', read', gives'⟩ := writes'.exists_table once
    exact parse_eq_ok_iff_of_same read read' (sameSettings_of_gives once gives gives')
  chosen text choice writes := parse_writes writes
  written := exists_writes

end

end ScriptLex.Config
