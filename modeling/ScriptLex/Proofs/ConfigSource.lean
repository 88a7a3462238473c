import ScriptLex.Proofs.ConfigTable
import ScriptLex.Proofs.Stages
import ScriptLex.Proofs.Utf8

/-! Which file a configuration comes from.

The file is settled by looking which candidates exist, before any of them is read. What is wrong
with it then is an error, and what a later candidate holds is never looked at. Where the working
directory is not known, there are no candidates, and that is an error too. -/

set_option autoImplicit false

namespace ScriptLex

open ScriptLex.Text ScriptLex.CommandLine

/-- `Joined name directory path`: the path leads to what has the name in the directory. One slash
stands between the two, be it the last of the directory's own. -/
inductive Joined (name : String) : String → String → Prop where
  | closed (front : String) : Joined name (front ++ "/") (front ++ "/" ++ name)
  | bare {directory : String} (nonempty : directory ≠ "")
      (last : directory.toList.getLast? ≠ some '/') :
      Joined name directory (directory ++ "/" ++ name)
  | here : Joined name "" name

theorem joined_iff {name directory path : String} (relative : name.toList.head? ≠ some '/') :
    Joined name directory path ↔ path = joinPath directory name := by
  constructor
  · intro joined
    cases joined with
    | closed front => exact (joinPath_closed relative front).symm
    | bare nonempty last =>
      cases ends : directory.toList.getLast? with
      | none => exact absurd (by simpa using ends) nonempty
      | some c =>
        have other : c ≠ '/' := fun same => last (same ▸ ends)
        exact (joinPath_bare relative (by simpa [ends] using other)).symm
    | here => rw [joinPath_here relative]
  · rintro rfl
    cases ends : directory.toList.getLast? with
    | none =>
      obtain rfl : directory = "" := by simpa using ends
      rw [joinPath_here relative]
      exact .here
    | some c =>
      by_cases slash : c = '/'
      · obtain ⟨front, parts⟩ := List.getLast?_eq_some_iff.1 ends
        obtain rfl : directory = String.ofList front ++ "/" := by
          rw [← String.toList_inj, parts, slash]
          simp
        rw [joinPath_closed relative]
        exact .closed _
      · rw [joinPath_bare relative (by simpa [ends] using slash)]
        refine .bare ?_ fun same => slash (Option.some.inj (ends.symm.trans same))
        rintro rfl
        cases ends

namespace Config

open Toml (Table)

/-- The path of the configuration in the working directory. -/
def Directories.WorkingFile (directories : Directories) (path : String) : Prop :=
  ∃ working, directories.working = .ok working ∧ Joined "spartie.toml" working path

/-- The path of the user's own configuration. -/
def Directories.UserFile (directories : Directories) (path : String) : Prop :=
  ∃ user inner, directories.user = some user ∧ Joined "spartie" user inner ∧
    Joined "spartie.toml" inner path

/-- What a configuration comes from: a file, no file at all, or nothing, where it is not known where
to look for one. -/
inductive Origin where
  | file (path : String)
  | defaults
  | unknown (reason : String)

/-- `Decides files directories named passed origin`: the configuration comes from `origin`, and the
files `passed` were looked for in vain before. -/
inductive Decides (files : Files) (directories : Directories) :
    Option String → List String → Origin → Prop where
  | named {path : String} : Decides files directories (some path) [] (.file path)
  | unknown {reason : String} (lost : directories.working = .error reason) :
      Decides files directories none [] (.unknown reason)
  | working {path : String} (place : directories.WorkingFile path) (found : files path ≠ none) :
      Decides files directories none [] (.file path)
  | user {path own : String} (place : directories.WorkingFile path) (absent : files path = none)
      (isOwn : directories.UserFile own) (found : files own ≠ none) :
      Decides files directories none [path] (.file own)
  | userless {path : String} (place : directories.WorkingFile path) (absent : files path = none)
      (nobody : directories.user = none) : Decides files directories none [path] .defaults
  | defaults {path own : String} (place : directories.WorkingFile path)
      (absent : files path = none) (isOwn : directories.UserFile own) (missing : files own = none) :
      Decides files directories none [path, own] .defaults

/-- `Written files path config`: the file holds a document that describes the configuration. -/
def Written (files : Files) (path : String) (config : Config) : Prop :=
  ∃ cs table, files path = some (.file (Utf8.encode cs)) ∧
    Toml.read? (String.ofList cs) = some table ∧ Describes table config

/-- `Broken files path error`: what is wrong with the file where a configuration should be. -/
inductive Broken (files : Files) (path : String) : ConfigError → Prop where
  | missing (absent : files path = none) : Broken files path (.notFound path)
  | directory (found : files path = some .directory) :
      Broken files path (.unreadable path "Is a directory (os error 21)")
  | unreadable {reason : String} (found : files path = some (.unreadable reason)) :
      Broken files path (.unreadable path reason)
  | notUtf8 {bytes : List UInt8} (found : files path = some (.file bytes))
      (undecodable : ∀ cs, bytes ≠ Utf8.encode cs) :
      Broken files path (.unreadable path "stream did not contain valid UTF-8")
  | notToml {cs : List Char} (found : files path = some (.file (Utf8.encode cs)))
      (unread : Toml.read? (String.ofList cs) = none) : Broken files path .notToml
  | unsuitable {cs : List Char} {table : Table} {error : ConfigError}
      (found : files path = some (.file (Utf8.encode cs)))
      (read : Toml.read? (String.ofList cs) = some table) (refused : ofTable table = .error error) :
      Broken files path error

section

variable {files files' : Files} {directories : Directories} {named : Option String}
  {passed passed' : List String} {origin origin' : Origin} {path path' reason : String}
  {config : Config} {error : ConfigError}

/-! ### The file that decides -/

theorem fileName_relative : fileName.toList.head? ≠ some '/' := by decide

theorem Directories.workingFile_iff : directories.WorkingFile path ↔
    ∃ working, directories.working = .ok working ∧ path = joinPath working fileName := by
  simp only [WorkingFile, ← joined_iff fileName_relative]
  rfl

theorem Directories.userFile_iff : directories.UserFile path ↔
    ∃ user, directories.user = some user ∧
      path = joinPath (joinPath user "spartie") fileName := by
  constructor
  · rintro ⟨user, inner, isUser, below, place⟩
    obtain rfl := (joined_iff (by decide)).1 below
    exact ⟨user, isUser, (joined_iff fileName_relative).1 place⟩
  · rintro ⟨user, isUser, place⟩
    exact ⟨user, _, isUser, (joined_iff (by decide)).2 rfl, (joined_iff fileName_relative).2 place⟩

theorem Directories.WorkingFile.unique (place : directories.WorkingFile path)
    (place' : directories.WorkingFile path') : path' = path := by
  obtain ⟨working, known, rfl⟩ := workingFile_iff.1 place
  obtain ⟨working', known', rfl⟩ := workingFile_iff.1 place'
  cases known'.symm.trans known
  rfl

theorem Directories.UserFile.unique (isOwn : directories.UserFile path)
    (isOwn' : directories.UserFile path') : path' = path := by
  obtain ⟨user, isUser, rfl⟩ := userFile_iff.1 isOwn
  obtain ⟨user', isUser', rfl⟩ := userFile_iff.1 isOwn'
  cases isUser'.symm.trans isUser
  rfl

theorem Directories.WorkingFile.not_lost (place : directories.WorkingFile path) :
    directories.working ≠ .error reason := by
  obtain ⟨working, known, -⟩ := place
  rw [known]
  nofun

theorem Directories.UserFile.not_userless (isOwn : directories.UserFile path) :
    directories.user ≠ none := by
  obtain ⟨user, -, isUser, -⟩ := isOwn
  rw [isUser]
  nofun

theorem candidates_of_user {own : String} (place : directories.WorkingFile path)
    (isOwn : directories.UserFile own) : candidates directories = .ok [path, own] := by
  obtain ⟨working, known, rfl⟩ := Directories.workingFile_iff.1 place
  obtain ⟨user, isUser, rfl⟩ := Directories.userFile_iff.1 isOwn
  rw [candidates, known, isUser]
  rfl

theorem candidates_of_userless (place : directories.WorkingFile path)
    (nobody : directories.user = none) : candidates directories = .ok [path] := by
  obtain ⟨working, known, rfl⟩ := Directories.workingFile_iff.1 place
  rw [candidates, known, nobody]
  rfl

theorem exists_decides (files : Files) (directories : Directories) (named : Option String) :
    ∃ passed origin, Decides files directories named passed origin := by
  cases named with
  | some path => exact ⟨_, _, .named⟩
  | none =>
    cases known : directories.working with
    | error reason => exact ⟨_, _, .unknown known⟩
    | ok working =>
      have place := Directories.workingFile_iff.2 ⟨working, known, rfl⟩
      by_cases absent : files (joinPath working fileName) = none
      · cases isUser : directories.user with
        | none => exact ⟨_, _, .userless place absent isUser⟩
        | some user =>
          have isOwn := Directories.userFile_iff.2 ⟨user, isUser, rfl⟩
          by_cases missing : files (joinPath (joinPath user "spartie") fileName) = none
          · exact ⟨_, _, .defaults place absent isOwn missing⟩
          · exact ⟨_, _, .user place absent isOwn missing⟩
      · exact ⟨_, _, .working place absent⟩

theorem Decides.unique (decides : Decides files directories named passed origin)
    (decides' : Decides files directories named passed' origin') :
    passed' = passed ∧ origin' = origin := by
  cases decides with
  | named =>
    cases decides'
    exact ⟨rfl, rfl⟩
  | unknown lost =>
    cases decides' with
    | unknown lost' =>
      cases lost'.symm.trans lost
      exact ⟨rfl, rfl⟩
    | working place | user place | userless place | defaults place =>
      exact absurd lost place.not_lost
  | working place found =>
    cases decides' with
    | unknown lost => exact absurd lost place.not_lost
    | working place' =>
      obtain rfl := place.unique place'
      exact ⟨rfl, rfl⟩
    | user place' absent | userless place' absent | defaults place' absent =>
      obtain rfl := place.unique place'
      exact absurd absent found
  | user place absent isOwn found =>
    cases decides' with
    | unknown lost => exact absurd lost place.not_lost
    | working place' found' =>
      obtain rfl := place.unique place'
      exact absurd absent found'
    | user place' _ isOwn' =>
      obtain rfl := place.unique place'
      obtain rfl := isOwn.unique isOwn'
      exact ⟨rfl, rfl⟩
    | userless _ _ nobody => exact absurd nobody isOwn.not_userless
    | defaults _ _ isOwn' missing =>
      obtain rfl := isOwn.unique isOwn'
      exact absurd missing found
  | userless place absent nobody =>
    cases decides' with
    | unknown lost => exact absurd lost place.not_lost
    | working place' found =>
      obtain rfl := place.unique place'
      exact absurd absent found
    | user _ _ isOwn | defaults _ _ isOwn => exact absurd nobody isOwn.not_userless
    | userless place' =>
      obtain rfl := place.unique place'
      exact ⟨rfl, rfl⟩
  | defaults place absent isOwn missing =>
    cases decides' with
    | unknown lost => exact absurd lost place.not_lost
    | working place' found =>
      obtain rfl := place.unique place'
      exact absurd absent found
    | user _ _ isOwn' found =>
      obtain rfl := isOwn.unique isOwn'
      exact absurd missing found
    | userless _ _ nobody => exact absurd nobody isOwn.not_userless
    | defaults place' _ isOwn' =>
      obtain rfl := place.unique place'
      obtain rfl := isOwn.unique isOwn'
      exact ⟨rfl, rfl⟩

/-- The choice stands wherever the same file is found and the same ones are missing. -/
theorem Decides.congr (decides : Decides files directories named passed origin)
    (chosen : ∀ path, origin = .file path → files' path = files path)
    (absent : ∀ path ∈ passed, files' path = none) :
    Decides files' directories named passed origin := by
  cases decides with
  | named => exact .named
  | unknown lost => exact .unknown lost
  | working place found => exact .working place (chosen _ rfl ▸ found)
  | user place _ isOwn found =>
    exact .user place (absent _ List.mem_cons_self) isOwn (chosen _ rfl ▸ found)
  | userless place _ nobody => exact .userless place (absent _ List.mem_cons_self) nobody
  | defaults place _ isOwn =>
    exact .defaults place (absent _ List.mem_cons_self) isOwn (absent _ (by simp))

theorem Decides.load_unknown (decides : Decides files directories named passed (.unknown reason)) :
    load files directories named = .error (.io reason) := by
  cases decides with
  | unknown lost => exact load_of_unknown lost

theorem locate_of_candidates {paths : List String} (searched : candidates directories = .ok paths) :
    locate files directories none = .ok (paths.find? fun path => (files path).isSome) := by
  rw [locate, searched]
  rfl

theorem Decides.load_file (decides : Decides files directories named passed (.file path)) :
    load files directories named = (readFile files path).mapError .ofConfigError := by
  apply load_of_located
  cases decides with
  | named => rfl
  | working place found =>
    have first : ∀ others, (path :: others).find? (fun path => (files path).isSome) = some path :=
      fun others => List.find?_cons_of_pos (Option.isSome_iff_ne_none.2 found)
    cases isUser : directories.user with
    | none => rw [locate_of_candidates (candidates_of_userless place isUser), first]
    | some user =>
      have isOwn := Directories.userFile_iff.2 ⟨user, isUser, rfl⟩
      rw [locate_of_candidates (candidates_of_user place isOwn), first]
  | user place absent isOwn found =>
    refine (locate_of_candidates (candidates_of_user place isOwn)).trans (congrArg Except.ok ?_)
    rw [List.find?_cons_of_neg (by simp [absent])]
    exact List.find?_cons_of_pos (Option.isSome_iff_ne_none.2 found)

theorem Decides.load_defaults (decides : Decides files directories named passed .defaults) :
    load files directories named = .ok {} := by
  apply load_of_nowhere
  cases decides with
  | userless place absent nobody =>
    rw [locate_of_candidates (candidates_of_userless place nobody)]
    simp [absent]
  | defaults place absent isOwn missing =>
    rw [locate_of_candidates (candidates_of_user place isOwn)]
    simp [absent, missing]

/-! ### What it holds -/

theorem readFile_congr (same : files' path = files path) :
    readFile files' path = readFile files path := by
  rw [readFile, readFile, same]

theorem readFile_of_encode {cs : List Char} (found : files path = some (.file (Utf8.encode cs))) :
    readFile files path = parse (String.ofList cs) := by
  rw [readFile, found]
  simp only [Node.contents, Utf8.decode_eq_ok_iff.2 rfl]

theorem Broken.readFile (broken : Broken files path error) :
    Config.readFile files path = .error error := by
  cases broken with
  | missing absent => rw [Config.readFile, absent]
  | directory found => rw [Config.readFile, found]; rfl
  | unreadable found => rw [Config.readFile, found]; rfl
  | @notUtf8 bytes found undecodable =>
    rw [Config.readFile, found]
    cases decoded : Utf8.decode bytes with
    | ok cs => exact absurd (Utf8.decode_eq_ok_iff.1 decoded) (undecodable cs)
    | error malformed => simp only [Node.contents, decoded]
  | notToml found unread => rw [readFile_of_encode found, parse, unread]
  | unsuitable found read refused => rw [readFile_of_encode found, parse, read]; exact refused

theorem Written.readFile (written : Written files path config) :
    Config.readFile files path = .ok config := by
  obtain ⟨cs, table, found, read, describes⟩ := written
  rw [readFile_of_encode found, parse, read]
  exact ofTable_eq_ok_iff.2 describes

/-- A file holds a configuration or is broken. -/
theorem written_or_broken (files : Files) (path : String) :
    (∃ config, Written files path config) ∨ ∃ error, Broken files path error := by
  cases found : files path with
  | none => exact .inr ⟨_, .missing found⟩
  | some node =>
    cases node with
    | directory => exact .inr ⟨_, .directory found⟩
    | unreadable reason => exact .inr ⟨_, .unreadable found⟩
    | file bytes =>
      cases decoded : Utf8.decode bytes with
      | error malformed =>
        refine .inr ⟨_, .notUtf8 found fun cs encoded => ?_⟩
        rw [Utf8.decode_eq_ok_iff.2 encoded] at decoded
        cases decoded
      | ok cs =>
        rw [Utf8.decode_eq_ok_iff.1 decoded] at found
        cases read : Toml.read? (String.ofList cs) with
        | none => exact .inr ⟨_, .notToml found read⟩
        | some table =>
          cases made : ofTable table with
          | error error => exact .inr ⟨_, .unsuitable found read made⟩
          | ok config => exact .inl ⟨config, cs, table, found, read, ofTable_eq_ok_iff.1 made⟩

theorem readFile_eq_ok_iff : readFile files path = .ok config ↔ Written files path config := by
  refine ⟨fun loaded => ?_, Written.readFile⟩
  rcases written_or_broken files path with ⟨config', written⟩ | ⟨error, broken⟩
  · rw [written.readFile] at loaded
    exact Except.ok.inj loaded ▸ written
  · rw [broken.readFile] at loaded
    cases loaded

theorem readFile_eq_error_iff : readFile files path = .error error ↔ Broken files path error := by
  refine ⟨fun refused => ?_, Broken.readFile⟩
  rcases written_or_broken files path with ⟨config, written⟩ | ⟨error', broken⟩
  · rw [written.readFile] at refused
    cases refused
  · rw [broken.readFile] at refused
    exact Except.error.inj refused ▸ broken

end

/-- What is known of a configuration once it is settled what it comes from. -/
structure ComesFrom (files : Files) (directories : Directories) (named : Option String)
    (passed : List String) (origin : Origin) : Prop where
  decides : Decides files directories named passed origin
  only : ∀ passed' origin', Decides files directories named passed' origin' →
    passed' = passed ∧ origin' = origin
  unknown : ∀ reason, origin = .unknown reason →
    load files directories named = .error (.io reason)
  defaults : origin = .defaults →
    load files directories named = .ok ⟨false, true, ⟨.text, .utf8⟩⟩
  loaded : ∀ path, origin = .file path → ∀ config,
    load files directories named = .ok config ↔ Written files path config
  refused : ∀ path, origin = .file path → ∀ failure,
    load files directories named = .error failure ↔
      ∃ error, Broken files path error ∧ failure = .ofConfigError error
  isolated : ∀ files', (∀ path, origin = .file path → files' path = files path) →
    (∀ path ∈ passed, files' path = none) →
    load files' directories named = load files directories named

theorem Decides.comesFrom {files : Files} {directories : Directories} {named : Option String}
    {passed : List String} {origin : Origin}
    (decides : Decides files directories named passed origin) :
    ComesFrom files directories named passed origin where
  decides := decides
  only _ _ := decides.unique
  unknown := by
    rintro reason rfl
    exact decides.load_unknown
  defaults := by
    rintro rfl
    exact decides.load_defaults
  loaded := by
    rintro path rfl config
    rw [decides.load_file, ← readFile_eq_ok_iff]
    cases readFile files path with
    | error error => exact ⟨nofun, nofun⟩
    | ok config' => constructor <;> rintro ⟨⟩ <;> rfl
  refused := by
    rintro path rfl failure
    simp only [decides.load_file, ← readFile_eq_error_iff]
    cases readFile files path with
    | ok config => exact ⟨nofun, nofun⟩
    | error error =>
      constructor
      · rintro ⟨⟩
        exact ⟨error, rfl, rfl⟩
      · rintro ⟨error', ⟨⟩, rfl⟩
        rfl
  isolated := by
    intro files' chosen absent
    have decides' := decides.congr chosen absent
    cases origin with
    | unknown reason => rw [decides.load_unknown, decides'.load_unknown]
    | defaults => rw [decides.load_defaults, decides'.load_defaults]
    | file path => rw [decides.load_file, decides'.load_file, readFile_congr (chosen path rfl)]

end Config

namespace Program

open Config

/-- One source decides on the configuration, whatever the others hold, and a run ends with its
error if it is broken. Where nothing is named and the working directory is not known, none is looked
for, and a run ends with that. -/
theorem one_source_decides (files : Files) (environment : Environment) (named : Option String) :
    ∃ passed origin, ComesFrom files environment.directories named passed origin ∧
      (∀ arguments taken path error, parse arguments environment.lookup = .run taken →
        taken.config = named → origin = .file path → Broken files path error →
        (run files environment arguments).Shows 78 ""
          ("error: " ++ ("Configuration error: " ++ error.message) ++ "\n")) ∧
      ∀ arguments taken reason, parse arguments environment.lookup = .run taken →
        taken.config = named → origin = .unknown reason →
        (run files environment arguments).Shows 74 ""
          ("error: " ++ ("IO error: " ++ reason) ++ "\n") := by
  obtain ⟨passed, origin, decides⟩ := exists_decides files environment.directories named
  refine ⟨passed, origin, decides.comesFrom, ?broken, ?unknown⟩
  case broken =>
    rintro arguments taken path error usable rfl rfl broken
    have refused := decides.load_file
    rw [broken.readFile] at refused
    rw [run, usable]
    exact (Ends.unconfigured refused).runWith
  case unknown =>
    rintro arguments taken reason usable named rfl
    rw [run, usable]
    cases decides with
    | unknown lost => exact (Ends.adrift named lost).runWith

-- Whatever a later candidate holds, the first one decides even if it is broken.
example (node : Node) :
    load (fun path => some (if path = "/work/spartie.toml" then .directory else node))
      ⟨.ok "/work", some "/home"⟩ none =
        .error (.ofConfigError (.unreadable "/work/spartie.toml" "Is a directory (os error 21)")) :=
  rfl

/-- A configuration of the user's own, and no other file. -/
def ownFile : Files := fun path =>
  if path = "/home/spartie/spartie.toml" then some (.file "verbose = true\n".toUTF8.toList)
  else none

-- No file is in the way of the user's own, and without that none in the way of the defaults.
theorem load_adrift :
    readFile ownFile "/home/spartie/spartie.toml" = .ok ⟨true, true, {}⟩ ∧
      (∀ path, path ≠ "/home/spartie/spartie.toml" → ownFile path = none) ∧
      load ownFile (adriftDirectories (some "/home")) none =
        .error (.io "No such file or directory (os error 2)") ∧
      load (fun _ => none) (adriftDirectories none) none ≠ .ok {} := by
  refine ⟨by decide +kernel, fun path other => if_neg other, rfl, ?_⟩
  decide

end Program

end ScriptLex
