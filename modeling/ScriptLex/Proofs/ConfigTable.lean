import ScriptLex.Config.Basic

/-! The configuration that a table describes.

Each setting is either written in the table or has its default, and nothing else is written
there. -/

set_option autoImplicit false

namespace ScriptLex.Config

open ScriptLex.Toml (Value Table Form)

/-- `Settles read default value setting`: `value` is read as `setting`, which is the default if
there is no value. -/
inductive Settles {α : Type} (read : Value → Option α) (default : α) : Option Value → α → Prop where
  | absent : Settles read default none default
  | present {value : Value} {setting : α} (reads : read value = some setting) :
      Settles read default (some value) setting

/-- The keys of a table are among the known ones. -/
def Known (table : Table) (known : List String) : Prop := ∀ entry ∈ table, entry.1 ∈ known

/-- `GivesOutput value format encoding`: what a value gives for the two output settings, by name or
in their order. -/
inductive GivesOutput : Value → Option Value → Option Value → Prop where
  | named {form : Form} {table : Table} (known : Known table ["format", "encoding"]) :
      GivesOutput (.table form table) (table.get? "format") (table.get? "encoding")
  | listed {items : List Value} : GivesOutput (.array items) items[0]? items[1]?
  | blocks {elements : List Table} :
      GivesOutput (.tables elements) (elements.map (Value.table .header))[0]?
        (elements.map (Value.table .header))[1]?

structure DescribesOutput (format encoding : Option Value) (output : Output) : Prop where
  format : Settles format? .text format output.format
  encoding : Settles encoding? .utf8 encoding output.encoding

/-- The output settings as a whole have a default as well. -/
inductive SettlesOutput : Option Value → Output → Prop where
  | absent : SettlesOutput none ⟨.text, .utf8⟩
  | present {value : Value} {format encoding : Option Value} {output : Output}
      (gives : GivesOutput value format encoding)
      (describes : DescribesOutput format encoding output) :
      SettlesOutput (some value) output

/-- What a configuration has to do with the table it is read from. -/
structure Describes (table : Table) (config : Config) : Prop where
  known : Known table ["verbose", "color", "output"]
  verbose : Settles boolean? false (table.get? "verbose") config.verbose
  color : Settles boolean? true (table.get? "color") config.color
  output : SettlesOutput (table.get? "output") config.output

theorem bind_eq_ok_iff {α β : Type} {first : Except ConfigError α} {next : α → Except ConfigError β}
    {b : β} : (first >>= next) = .ok b ↔ ∃ a, first = .ok a ∧ next a = .ok b := by
  cases first with
  | error e => exact ⟨fun same => (by cases same), fun ⟨_, same, _⟩ => (by cases same)⟩
  | ok a => exact ⟨fun same => ⟨a, rfl, same⟩, fun ⟨_, rfl, same⟩ => same⟩

theorem setting_eq_ok_iff {α : Type} {key : String} {read : Value → Option α} {default setting : α}
    {value : Option Value} :
    Config.setting key read default value = .ok setting ↔ Settles read default value setting := by
  cases value with
  | none =>
    constructor
    · rintro ⟨⟩
      exact .absent
    · rintro ⟨⟩
      rfl
  | some value =>
    rw [Config.setting]
    cases reads : read value with
    | none =>
      constructor
      · rintro ⟨⟩
      · rintro (_ | reads')
        rw [reads] at reads'
        cases reads'
    | some found =>
      constructor
      · rintro ⟨⟩
        exact .present reads
      · rintro (_ | reads')
        rw [reads] at reads'
        exact congrArg Except.ok (Option.some.inj reads')

theorem checkKeys_eq_ok_iff {table : Table} {known : List String} {done : Unit} :
    checkKeys table known = .ok done ↔ Known table known := by
  unfold checkKeys
  split
  case h_1 key value found =>
    have member := List.mem_of_find?_eq_some found
    have unknown := List.find?_some found
    refine ⟨fun same => (by cases same), fun all => ?_⟩
    have among := all _ member
    simp [among] at unknown
  case h_2 none =>
    refine ⟨fun _ entry member => ?_, fun _ => rfl⟩
    have among := List.find?_eq_none.1 none entry member
    simpa using among

theorem outputOf_eq_ok_iff {format encoding : Option Value} {output : Output} :
    outputOf format encoding = .ok output ↔ DescribesOutput format encoding output := by
  rw [outputOf, bind_eq_ok_iff]
  simp only [bind_eq_ok_iff, setting_eq_ok_iff]
  constructor
  · rintro ⟨first, settles, second, settles', ⟨⟩⟩
    exact ⟨settles, settles'⟩
  · rintro ⟨settles, settles'⟩
    exact ⟨_, settles, _, settles', rfl⟩

theorem outputOfValue_eq_ok_iff {value : Value} {output : Output} :
    outputOfValue value = .ok output ↔
      ∃ format encoding, GivesOutput value format encoding ∧
        DescribesOutput format encoding output := by
  unfold outputOfValue
  split
  case h_1 form table =>
    simp only [bind_eq_ok_iff, checkKeys_eq_ok_iff, outputOf_eq_ok_iff]
    constructor
    · rintro ⟨-, known, describes⟩
      exact ⟨_, _, .named known, describes⟩
    · rintro ⟨_, _, ⟨known⟩, describes⟩
      exact ⟨(), known, describes⟩
  case h_2 items =>
    rw [outputOf_eq_ok_iff]
    exact ⟨fun describes => ⟨_, _, .listed, describes⟩, fun ⟨_, _, .listed, describes⟩ => describes⟩
  case h_3 elements =>
    simp only [outputOf_eq_ok_iff]
    exact ⟨fun describes => ⟨_, _, .blocks, describes⟩, fun ⟨_, _, .blocks, describes⟩ => describes⟩
  case h_4 untabled unlisted unblocked =>
    constructor
    · rintro ⟨⟩
    · rintro ⟨_, _, gives, -⟩
      cases gives with
      | named => exact absurd rfl (untabled _ _)
      | listed => exact absurd rfl (unlisted _)
      | blocks => exact absurd rfl (unblocked _)

theorem ofTable_eq_ok_iff {table : Table} {config : Config} :
    ofTable table = .ok config ↔ Describes table config := by
  rw [ofTable, bind_eq_ok_iff]
  simp only [bind_eq_ok_iff, setting_eq_ok_iff, checkKeys_eq_ok_iff]
  constructor
  · rintro ⟨-, known, verbose, settles, color, settles', made⟩
    cases given : table.get? "output" with
    | none =>
      rw [given] at made
      obtain ⟨⟩ := made
      exact ⟨known, settles, settles', given ▸ .absent⟩
    | some value =>
      rw [given] at made
      simp only [bind_eq_ok_iff, outputOfValue_eq_ok_iff] at made
      obtain ⟨output, ⟨format, encoding, gives, describes⟩, ⟨⟩⟩ := made
      exact ⟨known, settles, settles', given ▸ .present gives describes⟩
  · rintro ⟨known, settles, settles', settled⟩
    refine ⟨(), known, _, settles, _, settles', ?_⟩
    cases given : table.get? "output" with
    | none =>
      rw [given] at settled
      obtain ⟨verbose, color, output⟩ := config
      cases settled
      rfl
    | some value =>
      rw [given] at settled
      cases settled with
      | present gives describes =>
        exact bind_eq_ok_iff.2 ⟨_, outputOfValue_eq_ok_iff.2 ⟨_, _, gives, describes⟩, rfl⟩

end ScriptLex.Config
