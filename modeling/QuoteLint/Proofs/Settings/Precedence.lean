import QuoteLint.Config
import QuoteLint.Proofs.Settings.Layers

/-! Where each part of a configuration comes from: the command line, the settings file of the
project, that of the user, or the defaults. A settings file that the command line names stands for
both others. -/

namespace QuoteLint

namespace SettingsFile

variable (tree : FileTree)

def contents? (path : Path) : Option SettingsFile := (tree.readText? path).bind parse?

def said (path : Option Path) : SettingsFile := (path.bind (contents? tree)).getD empty

/-- The file of the first directory that has one, from `start` upwards. -/
def IsNearestProject (start path : Path) : Prop :=
  ∃ nearer directory farther, start.ancestors = nearer ++ directory :: farther ∧
    path = directory.join projectFileName ∧ tree.isFile path = true ∧
    ∀ passed ∈ nearer, tree.isFile (passed.join projectFileName) = false

theorem findProject?_eq_some_iff (start path : Path) :
    findProject? tree start = some path ↔ IsNearestProject tree start path := by
  rw [findProject?, List.find?_map, Option.map_eq_some_iff]
  constructor
  · rintro ⟨directory, found, rfl⟩
    obtain ⟨present, nearer, farther, cut, passed⟩ := List.find?_eq_some_iff_append.mp found
    exact ⟨nearer, directory, farther, cut, rfl, present, by simpa using passed⟩
  · rintro ⟨nearer, directory, farther, cut, rfl, present, passed⟩
    refine ⟨directory, List.find?_eq_some_iff_append.mpr ⟨present, nearer, farther, cut, ?_⟩, rfl⟩
    simpa using passed

theorem findProject?_eq_none_iff (start : Path) :
    findProject? tree start = none ↔
      ∀ directory ∈ start.ancestors, tree.isFile (directory.join projectFileName) = false := by
  simp [findProject?]

theorem exists_of_isFile {path : Path} (present : tree.isFile path = true) :
    tree.exists? path = true := by
  unfold FileTree.isFile at present
  unfold FileTree.exists?
  cases found : tree.find? path with
  | none => simp [found] at present
  | some node => rfl

theorem contents?_of_missing {path : Path} (missing : tree.exists? path = false) :
    contents? tree path = none := by
  have nowhere : tree.find? path = none := by simpa [FileTree.exists?] using missing
  simp [contents?, FileTree.readText?, FileTree.readText, nowhere, Except.toOption]

theorem load_eq_ok {path : Path} {file : Option SettingsFile} (loaded : load tree path = .ok file) :
    file = contents? tree path ∧ (tree.exists? path = true → file.isSome = true) := by
  unfold load at loaded
  split at loaded
  · next present =>
      split at loaded
      · cases loaded
      · next content text =>
          split at loaded
          · cases loaded
          · next said parsed =>
              cases loaded
              exact ⟨by rw [contents?, text, Option.bind_some, parsed], fun _ => rfl⟩
  · next missing =>
      cases loaded
      exact ⟨(contents?_of_missing tree (Bool.eq_false_of_not_eq_true missing)).symm,
        fun present => absurd present missing⟩

end SettingsFile

theorem of_bind_eq_ok {ε α β : Type} {first : Except ε α} {next : α → Except ε β} {result : β}
    (done : (first >>= next) = .ok result) :
    ∃ value, first = .ok value ∧ next value = .ok result := by
  cases first with
  | error fault => cases done
  | ok value => exact ⟨value, rfl, done⟩

namespace Config

open SettingsFile (contents? said IsNearestProject projectFileName)

section Files

variable {tree : FileTree}

theorem mergeFrom_eq_ok {base file : SettingsFile} {path : Option Path}
    (merged : mergeFrom tree base path = .ok file) :
    file = base.merge (said tree path) ∧
      ∀ known, path = some known → tree.exists? known = true →
        (contents? tree known).isSome = true := by
  cases path with
  | none =>
      cases merged
      exact ⟨rfl, nofun⟩
  | some known =>
      rw [mergeFrom] at merged
      obtain ⟨upper, loaded, laid⟩ := of_bind_eq_ok merged
      obtain ⟨rfl, readable⟩ := SettingsFile.load_eq_ok tree loaded
      refine ⟨?_, ?_⟩
      · rw [said, Option.bind_some]
        cases held : contents? tree known with
        | none =>
            rw [held] at laid
            cases laid
            exact base.merge_empty.symm
        | some upper =>
            rw [held] at laid
            cases laid
            rfl
      · intro path same
        cases same
        exact readable

theorem loadFiles_named {path start : Path} {user project : Option Path} {file : SettingsFile}
    (loaded : loadFiles tree (some path) start user = .ok (file, project)) :
    project = some path ∧ contents? tree path = some file := by
  rw [loadFiles] at loaded
  obtain ⟨upper, read, rest⟩ := of_bind_eq_ok loaded
  obtain ⟨rfl, -⟩ := SettingsFile.load_eq_ok tree read
  cases held : contents? tree path with
  | none =>
      rw [held] at rest
      cases rest
  | some upper =>
      rw [held] at rest
      cases rest
      exact ⟨rfl, rfl⟩

theorem loadFiles_discovered {start : Path} {user project : Option Path} {file : SettingsFile}
    (loaded : loadFiles tree none start user = .ok (file, project)) :
    project = SettingsFile.findProject? tree start ∧
      file = SettingsFile.merged [said tree user, said tree project] ∧
      ∀ path, user = some path ∨ project = some path → tree.exists? path = true →
        (contents? tree path).isSome = true := by
  rw [loadFiles] at loaded
  obtain ⟨lower, below, rest⟩ := of_bind_eq_ok loaded
  obtain ⟨whole, above, last⟩ := of_bind_eq_ok rest
  cases last
  obtain ⟨rfl, userRead⟩ := mergeFrom_eq_ok below
  obtain ⟨rfl, projectRead⟩ := mergeFrom_eq_ok above
  refine ⟨rfl, rfl, ?_⟩
  intro path named
  rcases named with known | found
  · exact userRead path known
  · exact projectRead path found

theorem resolve_eq_ok {arguments : Arguments} {start : Path} {user : Option Path} {config : Config}
    (resolved : resolve tree arguments start user = .ok config) :
    ∃ file, loadFiles tree arguments.config start user = .ok (file, config.projectFile) ∧
      config.rules.severity = file.severity ∧
      config.rules.disabled = arguments.disabledRules.foldl SettingsFile.addNew file.disabledRules ∧
      config.extensions =
        (arguments.extensions.or file.extensions).elim default.extensions normalizeExtensions := by
  rw [resolve] at resolved
  obtain ⟨⟨file, project⟩, loaded, last⟩ := of_bind_eq_ok resolved
  cases last
  refine ⟨file, loaded, rfl, rfl, ?_⟩
  cases arguments.extensions with
  | some given => rfl
  | none => cases written : file.extensions <;> simp [ofFiles, written]

theorem contents?_eq_said {path : Path} (readable : (contents? tree path).isSome = true) :
    contents? tree path = some (said tree (some path)) := by
  obtain ⟨file, held⟩ := Option.isSome_iff_exists.mp readable
  simp [said, held]

end Files

section Parts

variable (config : Config) (tree : FileTree) (arguments : Arguments)

/-- The parts of a configuration for which the settings files were searched. -/
structure IsDiscovered (start : Path) (user : Option Path) : Prop where
  nearest : ∀ path, config.projectFile = some path ↔ IsNearestProject tree start path
  missing : config.projectFile = none ↔
    ∀ directory ∈ start.ancestors, tree.isFile (directory.join projectFileName) = false
  project_read : ∀ path, config.projectFile = some path →
    contents? tree path = some (said tree config.projectFile)
  user_read : ∀ path, user = some path → tree.exists? path = true →
    contents? tree path = some (said tree user)
  severity : ∀ id, config.rules.severity.find? id =
    ((said tree config.projectFile).severity.find? id).or ((said tree user).severity.find? id)
  once : config.rules.disabled.Nodup
  /-- Each id stands where it came first. -/
  disabled : config.rules.disabled =
    ((said tree user).disabledRules ++ (said tree config.projectFile).disabledRules ++
      arguments.disabledRules).eraseDups
  extensions : config.extensions =
    ((arguments.extensions.or (said tree config.projectFile).extensions).or
      (said tree user).extensions).elim default.extensions normalizeExtensions

/-- The parts of a configuration for which the command line names the settings file. -/
structure IsNamed (path : Path) : Prop where
  file : config.projectFile = some path
  read : contents? tree path = some (said tree (some path))
  severity : config.rules.severity = (said tree (some path)).severity
  /-- The list of the file is kept with its repetitions. -/
  disabled : config.rules.disabled = (said tree (some path)).disabledRules ++
    (arguments.disabledRules.removeAll (said tree (some path)).disabledRules).eraseDups
  extensions : config.extensions =
    (arguments.extensions.or (said tree (some path)).extensions).elim default.extensions
      normalizeExtensions

end Parts

/-- The command line goes before the project's file, that before the user's, and that before the
defaults; ids to switch off add up. With a named file there is only that file below the command
line. -/
theorem configuration_precedence (tree : FileTree) (arguments : Arguments) (start : Path)
    (user : Option Path) (config : Config)
    (resolved : resolve tree arguments start user = .ok config) :
    (arguments.config = none → config.IsDiscovered tree arguments start user) ∧
      ∀ path, arguments.config = some path → config.IsNamed tree arguments path := by
  obtain ⟨file, loaded, severity, disabled, extensions⟩ := resolve_eq_ok resolved
  constructor
  · intro unnamed
    rw [unnamed] at loaded
    obtain ⟨project, rfl, readable⟩ := loadFiles_discovered loaded
    refine
      { nearest := ?_
        missing := ?_
        project_read := ?_
        user_read := ?_
        severity := ?_
        once := ?_
        disabled := ?_
        extensions := ?_ }
    · intro path
      rw [project, SettingsFile.findProject?_eq_some_iff]
    · rw [project, SettingsFile.findProject?_eq_none_iff]
    · intro path found
      obtain ⟨-, -, -, -, -, present, -⟩ :=
        (SettingsFile.findProject?_eq_some_iff tree start path).mp (project ▸ found)
      rw [found]
      exact contents?_eq_said (readable path (.inr found)
        (SettingsFile.exists_of_isFile tree present))
    · intro path known present
      rw [known]
      exact contents?_eq_said (readable path (.inl known) present)
    · intro id
      rw [severity, SettingsFile.merged_severity]
      exact SettingsFile.findSome?_pair _ _ _
    · rw [disabled, SettingsFile.merged_disabledRules]
      exact SettingsFile.nodup_foldl_addNew (SettingsFile.nodup_eraseDups _) _
    · rw [disabled, SettingsFile.merged_disabledRules, SettingsFile.foldl_addNew_eraseDups]
      simp
    · have given : (SettingsFile.merged [said tree user, said tree config.projectFile]).extensions =
          (said tree config.projectFile).extensions.or (said tree user).extensions := by
        rw [SettingsFile.merged_extensions]
        exact SettingsFile.findSome?_pair _ _ _
      rw [extensions, given, Option.or_assoc]
  · intro path named
    rw [named] at loaded
    obtain ⟨project, held⟩ := loadFiles_named loaded
    obtain rfl : said tree (some path) = file := by simp [said, held]
    rw [SettingsFile.foldl_addNew] at disabled
    exact ⟨project, held, severity, disabled, extensions⟩

def layeredTree : FileTree where
  root := .ofEntries
    [("user", .ofText "disabled_rules=['A','A']\nextensions=['.Y']\nseverity.B='info'"),
      ("work", .ofEntries
        [(".tmpl-lint.toml", .ofText "disabled_rules=['B']\nseverity.B='error'"),
          ("sub", .ofEntries [])])]
  current := []

def layeredArguments (named : Option Path) : Arguments :=
  ⟨["."], .text, false, false, ["C", "A"], named, none, "info"⟩

theorem configuration_precedence_of_three_layers :
    (∃ config, resolve layeredTree (layeredArguments none) "/work/sub" (some (.ofText "/user")) =
      .ok config ∧
      config.projectFile = some (.ofText "/work/.tmpl-lint.toml") ∧
      config.rules.severity.find? "B" = some .error ∧ config.rules.disabled = ["A", "B", "C"] ∧
      config.extensions = ["y"]) ∧
    ∃ config, resolve layeredTree (layeredArguments (some (.ofText "/user"))) "/work/sub" none =
      .ok config ∧
      config.projectFile = some (.ofText "/user") ∧ config.rules.severity.find? "B" = some .info ∧
      config.rules.disabled = ["A", "A", "C"] ∧ config.extensions = ["y"] := by
  have succeeds (outcome : Except ConfigError Config) (good : outcome.isOk = true) :
      ∃ config, outcome = .ok config := by
    cases outcome with
    | error fault => cases good
    | ok config => exact ⟨config, rfl⟩
  constructor
  · obtain ⟨config, resolved⟩ := succeeds
      (resolve layeredTree (layeredArguments none) "/work/sub" (some (.ofText "/user")))
        (by decide +kernel)
    have parts := (configuration_precedence _ _ _ _ config resolved).1 rfl
    have project : config.projectFile = some (.ofText "/work/.tmpl-lint.toml") :=
      (parts.nearest _).mpr ⟨["/work/sub"], "/work", ["/"], by decide +kernel⟩
    refine ⟨config, resolved, project, ?_⟩
    rw [parts.severity, parts.disabled, parts.extensions, project]
    decide +kernel
  · obtain ⟨config, resolved⟩ := succeeds
      (resolve layeredTree (layeredArguments (some (.ofText "/user"))) "/work/sub" none)
        (by decide +kernel)
    have parts := (configuration_precedence _ _ _ _ config resolved).2 _ rfl
    refine ⟨config, resolved, parts.file, ?_⟩
    rw [parts.severity, parts.disabled, parts.extensions]
    decide +kernel

end Config

end QuoteLint
