import ScriptLex.Program
import ScriptLex.Proofs.Reading

/-! The stages of a run, and how it ends by the first of them that fails.

A run loads its configuration, looks for the source, reads it, decodes it and scans it. Each stage
can fail, whatever the later ones would do, and nothing is printed before the last has succeeded.
Where no configuration is named, one is looked for from the working directory, and a run that does
not know that directory fails before it looks for anything. -/

set_option autoImplicit false

namespace ScriptLex

open ScriptLex.Source ScriptLex.CommandLine

theorem Report.render_single (diagnostic : Diagnostic) (origin : Option String) :
    (Report.empty.add diagnostic).render origin = diagnostic.render origin := by
  simp [Report.render, Report.add, Report.empty]

/-- What is seen of a run apart from its log. -/
structure Outcome.Shows (outcome : Outcome) (exitCode : UInt8) (output errors : String) : Prop where
  exitCode : outcome.exitCode = exitCode
  output : outcome.output = output
  errors : outcome.errors = errors

theorem Outcome.Shows.logged {outcome : Outcome} {exitCode : UInt8} {output errors : String}
    (shows : outcome.Shows exitCode output errors) (settings : Settings) (events : List Event) :
    (outcome.logged settings events).Shows exitCode output errors := by
  unfold Outcome.logged
  split
  · exact ⟨shows.exitCode, shows.output, shows.errors⟩
  · exact shows

namespace Config

variable {files : Files} {directories : Directories} {named : Option String} {reason : String}
  {failure : Failure}

theorem locate_eq_error_iff : locate files directories named = .error reason ↔
    named = none ∧ directories.working = .error reason := by
  cases named with
  | some path => simp [locate]
  | none => cases known : directories.working <;> simp [locate, candidates, known, Except.map]

theorem load_of_unknown (unknown : directories.working = .error reason) :
    load files directories none = .error (.io reason) := by
  rw [load, locate_eq_error_iff.2 ⟨rfl, unknown⟩]

theorem load_of_nowhere (located : locate files directories named = .ok none) :
    load files directories named = .ok {} := by
  rw [load, located]

theorem load_of_located {path : String}
    (located : locate files directories named = .ok (some path)) :
    load files directories named = (readFile files path).mapError .ofConfigError := by
  rw [load, located]

end Config

namespace Program

variable {files : Files} {environment : Environment} {arguments : Arguments}

/-- `Ends files environment arguments exitCode output errors`: how a run of the arguments ends, by
the first of its stages that fails. -/
inductive Ends (files : Files) (environment : Environment) (arguments : Arguments) :
    UInt8 → String → String → Prop where
  | adrift {reason : String} (unnamed : arguments.config = none)
      (unknown : environment.directories.working = .error reason) :
      Ends files environment arguments 74 "" ("error: " ++ ("IO error: " ++ reason) ++ "\n")
  | unconfigured {error : ConfigError}
      (refused : Config.load files environment.directories arguments.config =
        .error (.ofConfigError error)) :
      Ends files environment arguments 78 ""
        ("error: " ++ ("Configuration error: " ++ error.message) ++ "\n")
  | missing {config : Config}
      (loaded : Config.load files environment.directories arguments.config = .ok config)
      (absent : files arguments.file = none) :
      Ends files environment arguments 66 ""
        ("error: " ++ ("File " ++ arguments.file ++ " not found") ++ "\n")
  | directory {config : Config}
      (loaded : Config.load files environment.directories arguments.config = .ok config)
      (found : files arguments.file = some .directory) :
      Ends files environment arguments 74 ""
        ("error: " ++ ("Unable to read file " ++ arguments.file ++ ": " ++
          "Is a directory (os error 21)") ++ "\n")
  | unreadable {config : Config} {reason : String}
      (loaded : Config.load files environment.directories arguments.config = .ok config)
      (found : files arguments.file = some (.unreadable reason)) :
      Ends files environment arguments 74 ""
        ("error: " ++ ("Unable to read file " ++ arguments.file ++ ": " ++ reason) ++ "\n")
  | undecodable {config : Config} {bytes : List UInt8} {malformed : Text.Utf8.Malformed}
      (loaded : Config.load files environment.directories arguments.config = .ok config)
      (found : files arguments.file = some (.file bytes))
      (refused : (Settings.merge arguments config).encoding.decode bytes = .error malformed) :
      Ends files environment arguments 74 ""
        ("error: " ++ ("File " ++ arguments.file ++ " is not valid UTF-8: " ++
          malformed.message) ++ "\n")
  | rejected {config : Config} {bytes : List UInt8} {source : String} {error : LexicalError}
      (loaded : Config.load files environment.directories arguments.config = .ok config)
      (found : files arguments.file = some (.file bytes))
      (decoded : (Settings.merge arguments config).encoding.decode bytes = .ok source)
      (refused : scan source = .error error) :
      Ends files environment arguments 65 ""
        ((error.toDiagnostic source).render (some arguments.file) ++ "\n")
  | listed {config : Config} {bytes : List UInt8} {source : String} {tokens : List Token}
      (loaded : Config.load files environment.directories arguments.config = .ok config)
      (found : files arguments.file = some (.file bytes))
      (decoded : (Settings.merge arguments config).encoding.decode bytes = .ok source)
      (scanned : scan source = .ok tokens) :
      Ends files environment arguments 0
        (Listing.render (Settings.merge arguments config).format tokens) ""

/-! ### One stage after the other -/

section

variable {settings : Settings} {encoding : Encoding} {path source : String} {failure : Failure}
  {bytes : List UInt8}

theorem scanSource_result (path source : String) :
    (scanSource path source).2 = (scan source).mapError (lexicalFailure path source) := by
  have same : scan source = (Scanner.ofSource source).drain.1 := rfl
  rw [same, scanSource]
  rcases (Scanner.ofSource source).drain with ⟨_ | _, last⟩ <;> rfl

theorem tokensOf_of_unread (unread : readSource files path = .error failure) :
    (tokensOf files encoding path).2 = .error failure := by
  simp [tokensOf, unread]

theorem tokensOf_of_undecoded (read : readSource files path = .ok bytes)
    (undecoded : decodeSource encoding path bytes = .error failure) :
    (tokensOf files encoding path).2 = .error failure := by
  simp [tokensOf, read, undecoded]

theorem tokensOf_of_decoded (read : readSource files path = .ok bytes)
    (decoded : decodeSource encoding path bytes = .ok source) :
    (tokensOf files encoding path).2 =
      (scan source).mapError (lexicalFailure path source) := by
  simp [tokensOf, read, decoded, scanSource_result]

theorem readSource_of_absent (absent : files path = none) :
    readSource files path = .error (.fileNotFound path) := by
  rw [readSource, absent]

theorem readSource_of_found {node : Node} (found : files path = some node) :
    readSource files path = node.contents.mapError (.unreadable path) := by
  rw [readSource, found]

theorem lexicalFailure_report (path source : String) (error : LexicalError) :
    (lexicalFailure path source error).report =
      (error.toDiagnostic source).render (some path) ++ "\n" := by
  rw [lexicalFailure, Failure.report, Report.render_single]

/-- A failure is all that is shown of a run without tokens. -/
theorem list_of_error (unlisted : (tokensOf files settings.encoding path).2 = .error failure) :
    (list files settings path).Shows failure.exitCode "" failure.report := by
  unfold list
  generalize tokensOf files settings.encoding path = listing at unlisted
  obtain ⟨events, result⟩ := listing
  obtain rfl : result = .error failure := unlisted
  exact Outcome.Shows.logged ⟨rfl, rfl, rfl⟩ _ _

theorem list_of_ok {tokens : List Token}
    (listed : (tokensOf files settings.encoding path).2 = .ok tokens) :
    (list files settings path).Shows 0 (Listing.render settings.format tokens) "" := by
  unfold list
  generalize tokensOf files settings.encoding path = listing at listed
  obtain ⟨events, result⟩ := listing
  obtain rfl : result = .ok tokens := listed
  exact Outcome.Shows.logged ⟨rfl, rfl, rfl⟩ _ _

end

/-! ### All stages -/

theorem runWith_of_loaded {config : Config}
    (loaded : Config.load files environment.directories arguments.config = .ok config) :
    runWith files environment arguments =
      list files (Settings.merge arguments config) arguments.file := by
  rw [runWith, loaded]

/-- A run shows what its first failing stage determines. -/
theorem Ends.runWith {exitCode : UInt8} {output errors : String}
    (ends : Ends files environment arguments exitCode output errors) :
    (Program.runWith files environment arguments).Shows exitCode output errors := by
  cases ends with
  | adrift unnamed unknown =>
    rw [Program.runWith, unnamed, Config.load_of_unknown unknown]
    exact ⟨rfl, rfl, rfl⟩
  | unconfigured refused =>
    rw [Program.runWith, refused]
    exact ⟨rfl, rfl, rfl⟩
  | missing loaded absent =>
    rw [runWith_of_loaded loaded]
    exact list_of_error (tokensOf_of_unread (readSource_of_absent absent))
  | directory loaded found | unreadable loaded found =>
    rw [runWith_of_loaded loaded]
    exact list_of_error (tokensOf_of_unread (readSource_of_found found))
  | undecodable loaded found refused =>
    rw [runWith_of_loaded loaded]
    exact list_of_error (tokensOf_of_undecoded (readSource_of_found found)
      (by rw [decodeSource, refused]; rfl))
  | rejected loaded found decoded refused =>
    have result := tokensOf_of_decoded (readSource_of_found found)
      (by rw [decodeSource, decoded]; rfl)
    rw [refused] at result
    rw [runWith_of_loaded loaded, ← lexicalFailure_report]
    exact list_of_error result
  | listed loaded found decoded scanned =>
    have result := tokensOf_of_decoded (readSource_of_found found)
      (by rw [decodeSource, decoded]; rfl)
    rw [scanned] at result
    rw [runWith_of_loaded loaded]
    exact list_of_ok result

def bareEnvironment : Environment := ⟨fun _ => none, ⟨.ok "/work", none⟩⟩

/-- What is left to search where the working directory was removed. -/
def adriftDirectories (user : Option String) : Config.Directories :=
  ⟨.error "No such file or directory (os error 2)", user⟩

end Program

end ScriptLex
