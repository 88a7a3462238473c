import ScriptLex.Proofs.ConfigTable
import Mathlib.Tactic.ByContra

/-! Which tables are configurations, and what they settle.

A table with anything in it that is not known is refused. Where the output settings are in a table
and the names are strings, all others are accepted, with a default for what is not written. Neither
the order of the entries nor the form of the tables counts. -/

set_option autoImplicit false

namespace ScriptLex.Config

open ScriptLex.Source (Encoding)
open ScriptLex.Toml (Value Table Form)

/-! ### What is refused -/

/-- What a configuration must not hold. -/
inductive Unfit (table : Table) : Prop where
  | key {key : String} {value : Value} (member : (key, value) ∈ table)
      (unknown : key ∉ ["verbose", "color", "output"])
  | outputKey {form : Form} {inner : Table} {key : String} {value : Value}
      (output : table.get? "output" = some (.table form inner)) (member : (key, value) ∈ inner)
      (unknown : key ∉ ["format", "encoding"])
  | flag {key : String} {value : Value} (isFlag : key = "verbose" ∨ key = "color")
      (given : table.get? key = some value) (other : ∀ setting, value ≠ .boolean setting)
  | format {form : Form} {inner : Table} {name : String}
      (output : table.get? "output" = some (.table form inner))
      (given : inner.get? "format" = some (.string name)) (unknown : name ∉ ["text", "json"])
  | encoding {form : Form} {inner : Table} {name : String}
      (output : table.get? "output" = some (.table form inner))
      (given : inner.get? "encoding" = some (.string name))
      (unknown : name ∉ ["utf-8", "latin-1"])

/-- What is said of a text that is no configuration. -/
def IsRefusal (error : ConfigError) : Prop :=
  ∃ reason, error.message = "Failed to parse configuration: " ++ reason

/-- `OnlyRefuses result`: every error is about what the text holds. -/
def OnlyRefuses {α : Type} (result : Except ConfigError α) : Prop :=
  ∀ error, result = .error error → IsRefusal error

section

variable {table : Table} {config : Config} {name : String}

theorem isRefusal_notToml : IsRefusal .notToml := ⟨"not a TOML document", rfl⟩

theorem isRefusal_unknownKey (key : String) : IsRefusal (.unknownKey key) :=
  ⟨"unknown key " ++ key, by rw [← String.append_assoc]; rfl⟩

theorem isRefusal_unsuitableValue (key : String) : IsRefusal (.unsuitableValue key) :=
  ⟨"unsuitable value for " ++ key, by rw [← String.append_assoc]; rfl⟩

theorem onlyRefuses_ok {α : Type} (a : α) : OnlyRefuses (.ok a) := by
  rintro error ⟨⟩

theorem onlyRefuses_error {α : Type} {error : ConfigError} (refusal : IsRefusal error) :
    OnlyRefuses (.error error : Except ConfigError α) := by
  rintro _ ⟨⟩
  exact refusal

theorem OnlyRefuses.bind {α β : Type} {first : Except ConfigError α}
    {next : α → Except ConfigError β} (refuses : OnlyRefuses first)
    (refuses' : ∀ a, OnlyRefuses (next a)) : OnlyRefuses (first >>= next) := by
  cases first with
  | error error => exact onlyRefuses_error (refuses error rfl)
  | ok a => exact refuses' a

theorem onlyRefuses_setting {α : Type} (key : String) (read : Value → Option α) (default : α)
    (value? : Option Value) : OnlyRefuses (Config.setting key read default value?) := by
  unfold Config.setting
  split
  · exact onlyRefuses_ok default
  · split
    · exact onlyRefuses_ok _
    · exact onlyRefuses_error (isRefusal_unsuitableValue key)

theorem onlyRefuses_checkKeys (table : Table) (known : List String) :
    OnlyRefuses (checkKeys table known) := by
  unfold checkKeys
  split
  · exact onlyRefuses_error (isRefusal_unknownKey _)
  · exact onlyRefuses_ok ()

theorem onlyRefuses_outputOf (format encoding : Option Value) :
    OnlyRefuses (outputOf format encoding) :=
  (onlyRefuses_setting _ _ _ _).bind fun _ =>
    (onlyRefuses_setting _ _ _ _).bind fun _ => onlyRefuses_ok _

theorem onlyRefuses_outputOfValue (value : Value) : OnlyRefuses (outputOfValue value) := by
  unfold outputOfValue
  split
  · exact (onlyRefuses_checkKeys _ _).bind fun _ => onlyRefuses_outputOf _ _
  · exact onlyRefuses_outputOf _ _
  · exact onlyRefuses_outputOf _ _
  · exact onlyRefuses_error (isRefusal_unsuitableValue "output")

theorem onlyRefuses_parse (text : String) : OnlyRefuses (parse text) := by
  unfold parse
  split
  · exact onlyRefuses_error isRefusal_notToml
  · refine (onlyRefuses_checkKeys _ _).bind fun _ => (onlyRefuses_setting _ _ _ _).bind fun _ =>
      (onlyRefuses_setting _ _ _ _).bind fun _ => ?_
    dsimp only
    split
    · exact onlyRefuses_ok _
    · exact (onlyRefuses_outputOfValue _).bind fun _ => onlyRefuses_ok _

/-- A text that describes no configuration is refused. -/
theorem exists_refusal {text : String}
    (none : ∀ table config, Toml.read? text = some table → ¬Describes table config) :
    ∃ error, parse text = .error error ∧ IsRefusal error := by
  cases parsed : parse text with
  | error error => exact ⟨error, rfl, onlyRefuses_parse text error parsed⟩
  | ok config =>
    unfold parse at parsed
    split at parsed
    case h_1 => cases parsed
    case h_2 table read => exact absurd (ofTable_eq_ok_iff.1 parsed) (none table config read)

theorem of_boolean? {value : Value} {setting : Bool} (reads : boolean? value = some setting) :
    value = .boolean setting := by
  unfold boolean? at reads
  split at reads
  case h_1 => exact congrArg Value.boolean (Option.some.inj reads)
  case h_2 => cases reads

theorem mem_names_of_find? {α : Type} {all : List α} {nameOf : α → String} {a : α}
    (found : all.find? (nameOf · == name) = some a) : name ∈ all.map nameOf := by
  obtain rfl : nameOf a = name := by simpa using List.find?_some found
  exact List.mem_map_of_mem (List.mem_of_find?_eq_some found)

theorem of_format? {format : Format} (reads : format? (.string name) = some format) :
    name ∈ ["text", "json"] :=
  mem_names_of_find? (show [Format.text, .json].find? (·.name == name) = some format from reads)

theorem of_encoding? {encoding : Encoding} (reads : encoding? (.string name) = some encoding) :
    name ∈ ["utf-8", "latin-1"] :=
  mem_names_of_find? (show [Encoding.utf8, .latin1].find? (·.name == name) = some encoding from reads)

theorem Settles.exists_read {α : Type} {read : Value → Option α} {default setting : α}
    {value? : Option Value} (settles : Settles read default value? setting) {value : Value}
    (given : value? = some value) : ∃ setting, read value = some setting := by
  cases settles with
  | absent => cases given
  | present reads =>
    obtain rfl := Option.some.inj given
    exact ⟨_, reads⟩

theorem Describes.output_named (describes : Describes table config) {form : Form} {inner : Table}
    (output : table.get? "output" = some (.table form inner)) :
    Known inner ["format", "encoding"] ∧
      DescribesOutput (inner.get? "format") (inner.get? "encoding") config.output := by
  have settles := describes.output
  rw [output] at settles
  cases settles with
  | present gives describes =>
    cases gives with
    | named known => exact ⟨known, describes⟩

theorem Describes.not_unfit (describes : Describes table config) : ¬Unfit table := by
  intro unfit
  cases unfit with
  | key member unknown => exact unknown (describes.known _ member)
  | outputKey output member unknown => exact unknown ((describes.output_named output).1 _ member)
  | @flag key value isFlag given other =>
    have reads : ∃ setting, boolean? value = some setting := by
      rcases isFlag with rfl | rfl
      · exact describes.verbose.exists_read given
      · exact describes.color.exists_read given
    obtain ⟨setting, reads⟩ := reads
    exact other setting (of_boolean? reads)
  | format output given unknown =>
    obtain ⟨setting, reads⟩ := (describes.output_named output).2.format.exists_read given
    exact unknown (of_format? reads)
  | encoding output given unknown =>
    obtain ⟨setting, reads⟩ := (describes.output_named output).2.encoding.exists_read given
    exact unknown (of_encoding? reads)

end

/-! ### What is accepted -/

/-- `Given write default value? setting`: the setting is what is written, or its default if nothing
is. -/
inductive Given {α : Type} (write : α → Value) (default : α) : Option Value → α → Prop where
  | absent : Given write default none default
  | written (setting : α) : Given write default (some (write setting)) setting

def writeFormat (format : Format) : Value := .string format.name

def writeEncoding (encoding : Encoding) : Value := .string encoding.name

inductive GivenOutput : Option Value → Output → Prop where
  | absent : GivenOutput none ⟨.text, .utf8⟩
  | written {form : Form} {inner : Table} {output : Output}
      (format : Given writeFormat .text (inner.get? "format") output.format)
      (encoding : Given writeEncoding .utf8 (inner.get? "encoding") output.encoding) :
      GivenOutput (some (.table form inner)) output

/-- Each field of the configuration is what the table gives for it, or its default. -/
structure Accepted (table : Table) (config : Config) : Prop where
  verbose : Given .boolean false (table.get? "verbose") config.verbose
  color : Given .boolean true (table.get? "color") config.color
  output : GivenOutput (table.get? "output") config.output

/-- The output settings are in a table, and those that are there are strings. -/
structure Suitable (table : Table) : Prop where
  output : ∀ value, table.get? "output" = some value → ∃ form inner, value = .table form inner
  names : ∀ (form : Form) (inner : Table) (key : String) (value : Value),
    table.get? "output" = some (.table form inner) → key = "format" ∨ key = "encoding" →
    inner.get? key = some value → ∃ name, value = .string name

/-- All keys are known, in the table and in that of the output settings. -/
structure KnownKeys (table : Table) : Prop where
  top : Known table ["verbose", "color", "output"]
  output : ∀ form inner, table.get? "output" = some (.table form inner) →
    Known inner ["format", "encoding"]

section

variable {α : Type} {write : α → Value} {table inner : Table} {config : Config} {form : Form}

theorem Given.settles {read : Value → Option α} {default setting : α} {value? : Option Value}
    (given : Given write default value? setting)
    (reads : ∀ setting, read (write setting) = some setting) :
    Settles read default value? setting := by
  cases given with
  | absent => exact .absent
  | written => exact .present (reads setting)

theorem format?_write (format : Format) : format? (writeFormat format) = some format := by
  cases format <;> rfl

theorem encoding?_write (encoding : Encoding) :
    encoding? (writeEncoding encoding) = some encoding := by
  cases encoding <;> rfl

theorem Accepted.describes (accepted : Accepted table config) (known : KnownKeys table) :
    Describes table config where
  known := known.top
  verbose := accepted.verbose.settles fun _ => rfl
  color := accepted.color.settles fun _ => rfl
  output := by
    obtain ⟨verbose, color, output⟩ := config
    obtain ⟨-, -, output⟩ := accepted
    cases found : table.get? "output" with
    | none =>
      rw [found] at output
      cases output
      exact .absent
    | some value =>
      rw [found] at output
      cases output with
      | written format encoding =>
        refine .present (.named (known.output _ _ found)) ?_
        exact ⟨format.settles format?_write, encoding.settles encoding?_write⟩

theorem knownKeys_of_not_unfit (fit : ¬Unfit table) : KnownKeys table where
  top entry member := by
    by_contra unknown
    exact fit (.key member unknown)
  output form inner output entry member := by
    by_contra unknown
    exact fit (.outputKey output member unknown)

theorem exists_given {value? : Option Value}
    (writes : ∀ value, value? = some value → ∃ setting, value = write setting) (default : α) :
    ∃ setting, Given write default value? setting := by
  cases value? with
  | none => exact ⟨default, .absent⟩
  | some value =>
    obtain ⟨setting, rfl⟩ := writes value rfl
    exact ⟨setting, .written setting⟩

theorem exists_flag (fit : ¬Unfit table) {key : String} (isFlag : key = "verbose" ∨ key = "color")
    (value : Value) (given : table.get? key = some value) : ∃ setting, value = .boolean setting := by
  by_contra none
  exact fit (.flag isFlag given fun setting same => none ⟨setting, same⟩)

theorem exists_written (all : List α) {nameOf : α → String} {value : Value}
    (isName : ∃ name, value = .string name)
    (known : ∀ name, value = .string name → name ∈ all.map nameOf) :
    ∃ setting, value = .string (nameOf setting) := by
  obtain ⟨name, rfl⟩ := isName
  obtain ⟨setting, -, rfl⟩ := List.mem_map.1 (known name rfl)
  exact ⟨setting, rfl⟩

theorem exists_format (fit : ¬Unfit table) (suitable : Suitable table)
    (output : table.get? "output" = some (.table form inner)) (value : Value)
    (given : inner.get? "format" = some value) : ∃ setting, value = writeFormat setting := by
  have isName := suitable.names form inner "format" value output (.inl rfl) given
  refine exists_written [.text, .json] isName fun name same => ?_
  by_contra unknown
  exact fit (.format output (same ▸ given) unknown)

theorem exists_encoding (fit : ¬Unfit table) (suitable : Suitable table)
    (output : table.get? "output" = some (.table form inner)) (value : Value)
    (given : inner.get? "encoding" = some value) :
    ∃ setting, value = writeEncoding setting := by
  have isName := suitable.names form inner "encoding" value output (.inr rfl) given
  refine exists_written [.utf8, .latin1] isName fun name same => ?_
  by_contra unknown
  exact fit (.encoding output (same ▸ given) unknown)

theorem exists_accepted (fit : ¬Unfit table) (suitable : Suitable table) :
    ∃ config, Accepted table config := by
  obtain ⟨verbose, isVerbose⟩ := exists_given (exists_flag fit (.inl rfl)) false
  obtain ⟨color, isColor⟩ := exists_given (exists_flag fit (.inr rfl)) true
  have exists_output : ∃ output, GivenOutput (table.get? "output") output := by
    cases found : table.get? "output" with
    | none => exact ⟨_, .absent⟩
    | some value =>
      obtain ⟨form, inner, rfl⟩ := suitable.output value found
      obtain ⟨format, isFormat⟩ := exists_given (exists_format fit suitable found) .text
      obtain ⟨encoding, isEncoding⟩ := exists_given (exists_encoding fit suitable found) .utf8
      exact ⟨⟨format, encoding⟩, .written isFormat isEncoding⟩
  obtain ⟨output, isOutput⟩ := exists_output
  exact ⟨⟨verbose, color, output⟩, isVerbose, isColor, isOutput⟩

end

/-! ### Order and form -/

/-- The same output settings, or none in both. The form of their table does not count. -/
inductive SameOutput : Option Value → Option Value → Prop where
  | same {value? : Option Value} : SameOutput value? value?
  | tables {form form' : Form} {inner inner' : Table}
      (same : ∀ key, inner.get? key = inner'.get? key) :
      SameOutput (some (.table form inner)) (some (.table form' inner'))

/-- The tables hold the same under every key. -/
structure SameSettings (table table' : Table) : Prop where
  others : ∀ key, key ≠ "output" → table.get? key = table'.get? key
  output : SameOutput (table.get? "output") (table'.get? "output")

section

variable {table table' : Table} {config : Config}

theorem SameOutput.symm {value? value'? : Option Value} (same : SameOutput value? value'?) :
    SameOutput value'? value? := by
  cases same with
  | same => exact .same
  | tables same => exact .tables fun key => (same key).symm

theorem SameSettings.symm (same : SameSettings table table') : SameSettings table' table where
  others key other := (same.others key other).symm
  output := same.output.symm

theorem known_iff {known : List String} :
    Known table known ↔ ∀ key, key ∉ known → table.get? key = none := by
  simp only [Known, Table.get?, List.lookup_eq_none_iff]
  constructor
  · intro all key unknown entry member
    rw [bne_iff_ne]
    rintro rfl
    exact unknown (all entry member)
  · intro none entry member
    by_contra unknown
    have other := none entry.1 unknown entry member
    simp at other

theorem Known.congr {known : List String} (all : Known table known)
    (same : ∀ key, key ∉ known → table.get? key = table'.get? key) : Known table' known := by
  rw [known_iff] at all ⊢
  exact fun key unknown => (same key unknown).symm.trans (all key unknown)

theorem SettlesOutput.congr {value? value'? : Option Value} {output : Output}
    (settles : SettlesOutput value? output) (same : SameOutput value? value'?) :
    SettlesOutput value'? output := by
  cases same with
  | same => exact settles
  | @tables form form' inner inner' same =>
    cases settles with
    | present gives describes =>
      cases gives with
      | named known =>
        rw [same "format", same "encoding"] at describes
        exact .present (.named (known.congr fun key _ => same key)) describes

theorem Describes.congr (describes : Describes table config) (same : SameSettings table table') :
    Describes table' config where
  known := describes.known.congr fun key unknown =>
    same.others key fun isOutput => unknown (by simp [isOutput])
  verbose := same.others "verbose" (by decide) ▸ describes.verbose
  color := same.others "color" (by decide) ▸ describes.color
  output := describes.output.congr same.output

theorem parse_eq_ok_iff_of_same {text text' : String} (read : Toml.read? text = some table)
    (read' : Toml.read? text' = some table') (same : SameSettings table table') :
    parse text = .ok config ↔ parse text' = .ok config := by
  simp only [parse, read, read', ofTable_eq_ok_iff]
  exact ⟨fun describes => describes.congr same, fun describes => describes.congr same.symm⟩

end

end ScriptLex.Config
