import ScriptLex.Proofs.Stages

/-! What the logging options of a run can change.

A run consults its settings at three places: the encoding when it decodes the source, the format
when it prints the tokens, and the rest where the log is attached to an outcome that is there already.
So whether and how a run logs shows in its log only. -/

set_option autoImplicit false

namespace ScriptLex

open ScriptLex.Source ScriptLex.CommandLine

theorem Outcome.logged_log (outcome : Outcome) (settings : Settings) (events : List Event) :
    (outcome.logged settings events).log =
      if settings.verbose then events.map Event.display else outcome.log := by
  unfold Outcome.logged
  split <;> rfl

namespace Program

variable {files : Files} {environment : Environment} {arguments : List String} {path : String}
  {settings settings' : Settings}

/-- `Prepared files environment arguments path settings`: the command line is usable and names the
file `path`, and with the configuration that is loaded for it the settings are `settings`. -/
inductive Prepared (files : Files) (environment : Environment) (arguments : List String) :
    String → Settings → Prop where
  | intro {taken : Arguments} {config : Config}
      (usable : parse arguments environment.lookup = .run taken)
      (loaded : Config.load files environment.directories taken.config = .ok config) :
      Prepared files environment arguments taken.file (Settings.merge taken config)

theorem Prepared.run_eq (prepared : Prepared files environment arguments path settings) :
    run files environment arguments = list files settings path := by
  obtain ⟨usable, loaded⟩ := prepared
  rw [run, usable]
  exact runWith_of_loaded loaded

/-- What is shown of a run depends on the encoding and the format, not on the other settings. -/
theorem exists_list_shows (format : settings.format = settings'.format)
    (encoding : settings.encoding = settings'.encoding) (files : Files) (path : String) :
    ∃ exitCode output errors, (list files settings path).Shows exitCode output errors ∧
      (list files settings' path).Shows exitCode output errors := by
  rcases result : (tokensOf files settings.encoding path).2 with failure | tokens
  · have result' : (tokensOf files settings'.encoding path).2 = .error failure :=
      encoding ▸ result
    exact ⟨_, _, _, list_of_error result, list_of_error result'⟩
  · have result' : (tokensOf files settings'.encoding path).2 = .ok tokens := encoding ▸ result
    have shows := list_of_ok result
    rw [format] at shows
    exact ⟨_, _, _, shows, list_of_ok result'⟩

/-- A run that logs begins its log with its settings. -/
theorem list_log (files : Files) (settings : Settings) (path : String) :
    (list files settings path).log =
      if settings.verbose then
        (Event.starting settings :: (tokensOf files settings.encoding path).1).map Event.display
      else [] := by
  unfold list
  rcases tokensOf files settings.encoding path with ⟨events, failure | tokens⟩
  · exact Outcome.logged_log (failed failure) settings _
  · exact Outcome.logged_log (printed (Listing.render settings.format tokens)) settings _

theorem list_log_eq_nil_iff (files : Files) (settings : Settings) (path : String) :
    (list files settings path).log = [] ↔ settings.verbose = false := by
  rw [list_log]
  cases settings.verbose <;> simp

/-- Two runs about the same file whose settings agree on format and encoding end alike, however
their logging options differ and wherever these come from. A run writes no log exactly if its settings do
not ask for one. -/
theorem run_logging_irrelevant (files : Files) (environment environment' : Environment)
    (arguments arguments' : List String) (path : String) (settings settings' : Settings)
    (prepared : Prepared files environment arguments path settings)
    (prepared' : Prepared files environment' arguments' path settings')
    (format : settings.format = settings'.format)
    (encoding : settings.encoding = settings'.encoding) :
    (run files environment arguments).exitCode = (run files environment' arguments').exitCode ∧
    (run files environment arguments).output = (run files environment' arguments').output ∧
    (run files environment arguments).errors = (run files environment' arguments').errors ∧
    ((run files environment arguments).log = [] ↔ settings.verbose = false) := by
  obtain ⟨exitCode, output, errors, shows, shows'⟩ :=
    exists_list_shows format encoding files path
  rw [prepared.run_eq, prepared'.run_eq]
  refine ⟨?exitCode, ?output, ?errors, list_log_eq_nil_iff files settings path⟩
  case exitCode => rw [shows.exitCode, shows'.exitCode]
  case output => rw [shows.output, shows'.output]
  case errors => rw [shows.errors, shows'.errors]

/-- A source with an open string, and a configuration that asks for a log without color. -/
def loudFiles : Files := fun path =>
  if path = "main.sp" then some (.file [0x78, 0x20, 0x22, 0x61])
  else if path = "loud.toml" then
    some (.file ("verbose = true\ncolor = false\n".toUTF8.toList))
  else none

/-- An environment that refuses color. -/
def plainEnvironment : Environment where
  lookup name := if name = noColorVariable then some "true" else none
  directories := ⟨.ok "/work", none⟩

theorem run_logging_irrelevant_loud :
    Prepared loudFiles bareEnvironment ["-c", "loud.toml", "main.sp"] "main.sp"
        ⟨true, false, .text, .utf8⟩ ∧
      Prepared loudFiles plainEnvironment ["main.sp"] "main.sp" ⟨false, false, .text, .utf8⟩ ∧
      (run loudFiles bareEnvironment ["-c", "loud.toml", "main.sp"]).errors =
        (run loudFiles plainEnvironment ["main.sp"]).errors ∧
      (run loudFiles bareEnvironment ["-c", "loud.toml", "main.sp"]).log ≠ [] ∧
      (run loudFiles plainEnvironment ["main.sp"]).log = [] := by
  have loaded : Config.load loudFiles bareEnvironment.directories (some "loud.toml") =
      .ok ⟨true, false, {}⟩ := by decide +kernel
  have loaded' : Config.load loudFiles plainEnvironment.directories none = .ok {} := rfl
  have usable : parse ["-c", "loud.toml", "main.sp"] bareEnvironment.lookup =
      .run { file := "main.sp", config := some "loud.toml" } := rfl
  have usable' : parse ["main.sp"] plainEnvironment.lookup =
      .run { file := "main.sp", noColor := true } := rfl
  have prepared : Prepared loudFiles bareEnvironment ["-c", "loud.toml", "main.sp"] "main.sp"
      ⟨true, false, .text, .utf8⟩ := .intro usable loaded
  have prepared' : Prepared loudFiles plainEnvironment ["main.sp"] "main.sp"
      ⟨false, false, .text, .utf8⟩ := .intro usable' loaded'
  have loud := run_logging_irrelevant _ _ _ _ _ _ _ _ prepared prepared' rfl rfl
  have quiet := run_logging_irrelevant _ _ _ _ _ _ _ _ prepared' prepared rfl rfl
  obtain ⟨-, -, errors, logs⟩ := loud
  exact ⟨prepared, prepared', errors, fun none => absurd (logs.1 none) (by simp),
    quiet.2.2.2.2 rfl⟩

end Program

end ScriptLex
