import QuoteLint.Proofs.Files.Lookup
import QuoteLint.Proofs.Settings.Precedence

/-! When there is no configuration, and what the user is told then. A settings file that the command
line names must be there and good, and nothing else is looked at; of the files that are searched
for, those that are there must be good. -/

namespace QuoteLint

def FailsWith {α : Type} (outcome : Except ConfigError α) (message : String) : Prop :=
  ∃ error, outcome = .error error ∧ error.message = message

section FailsWith

variable {α β : Type}

theorem failsWith_error_iff (error : ConfigError) (message : String) :
    FailsWith (.error error : Except ConfigError α) message ↔ error.message = message := by
  simp [FailsWith]

theorem not_failsWith_ok (value : α) (message : String) : ¬ FailsWith (.ok value) message := by
  simp [FailsWith]

theorem failsWith_bind_iff (first : Except ConfigError α) (next : α → Except ConfigError β)
    (message : String) :
    FailsWith (first >>= next) message ↔
      FailsWith first message ∨ ∃ value, first = .ok value ∧ FailsWith (next value) message := by
  cases first with
  | error fault => simp [FailsWith, bind, Except.bind]
  | ok value => simp [FailsWith, bind, Except.bind]

theorem failsWith_bind_of_total (first : Except ConfigError α) (next : α → Except ConfigError β)
    (message : String) (total : ∀ value, ¬ FailsWith (next value) message) :
    FailsWith (first >>= next) message ↔ FailsWith first message := by
  rw [failsWith_bind_iff, or_iff_left]
  rintro ⟨value, -, fails⟩
  exact total value fails

theorem exists_ok_of_not_failsWith {outcome : Except ConfigError α}
    (never : ∀ message, ¬ FailsWith outcome message) : ∃ value, outcome = .ok value := by
  cases outcome with
  | error fault => exact absurd ⟨fault, rfl, rfl⟩ (never fault.message)
  | ok value => exact ⟨value, rfl⟩

end FailsWith

namespace SettingsFile

/-- The file at a path is there and cannot be used, and the text says why. -/
inductive IsRefused (tree : FileTree) (path : Path) : String → Prop
  | unreadable (present : tree.exists? path = true) (unread : tree.readText? path = none) :
      IsRefused tree path ("Failed to read config file: " ++ path.display)
  | malformed (content : String) (read : tree.readText? path = some content)
      (unparsed : parse? content = none) :
        IsRefused tree path ("Failed to parse config file: " ++ path.display)

section Load

variable {tree : FileTree} {path : Path}

theorem exists_of_readText? {content : String} (read : tree.readText? path = some content) :
    tree.exists? path = true := by
  rw [FileTree.readText?_eq_some_iff] at read
  rw [FileTree.exists?, read]
  rfl

theorem IsRefused.present {message : String} (refused : IsRefused tree path message) :
    tree.exists? path = true := by
  cases refused with
  | unreadable present unread => exact present
  | malformed content read unparsed => exact exists_of_readText? read

theorem load_fails_iff (message : String) :
    FailsWith (load tree path) message ↔ IsRefused tree path message := by
  unfold load
  split
  · next present =>
      split
      · next unread =>
          rw [failsWith_error_iff]
          constructor
          · rintro rfl
            exact .unreadable present unread
          · intro refused
            cases refused with
            | unreadable => rfl
            | malformed content read => simp [unread] at read
      · next content read =>
          split
          · next unparsed =>
              rw [failsWith_error_iff]
              constructor
              · rintro rfl
                exact .malformed content read unparsed
              · intro refused
                cases refused with
                | unreadable present unread => simp [read] at unread
                | malformed => rfl
          · next file parsed =>
              refine iff_of_false (not_failsWith_ok _ message) ?_
              intro refused
              cases refused with
              | unreadable present unread => simp [read] at unread
              | malformed other same unparsed =>
                  obtain rfl : content = other := by simpa [read] using same
                  simp [parsed] at unparsed
  · next missing =>
      exact iff_of_false (not_failsWith_ok _ message) fun refused => missing refused.present

theorem load_missing (missing : tree.exists? path = false) : load tree path = .ok none := by
  simp [load, missing]

theorem load_congr {other : FileTree} (presence : other.exists? path = tree.exists? path)
    (text : other.readText? path = tree.readText? path) : load other path = load tree path := by
  rw [load, load, presence, text]

end Load

end SettingsFile

namespace Config

open SettingsFile (IsRefused IsNearestProject projectFileName)

section Failure

variable {tree : FileTree} {start : Path} {user : Option Path}

theorem mergeFrom_fails_iff (base : SettingsFile) (path : Option Path) (message : String) :
    FailsWith (mergeFrom tree base path) message ↔
      ∃ known, path = some known ∧ IsRefused tree known message := by
  cases path with
  | none => exact iff_of_false (not_failsWith_ok _ message) nofun
  | some known =>
      rw [mergeFrom, failsWith_bind_of_total, SettingsFile.load_fails_iff]
      · simp
      · intro file
        cases file with
        | none => exact not_failsWith_ok _ message
        | some file => exact not_failsWith_ok _ message

theorem mergeFrom_missing {base : SettingsFile} {path : Path}
    (missing : tree.exists? path = false) : mergeFrom tree base (some path) = .ok base := by
  rw [mergeFrom, SettingsFile.load_missing missing]
  rfl

theorem loadFiles_named_fails_iff (path : Path) (message : String) :
    FailsWith (loadFiles tree (some path) start user) message ↔
      (tree.exists? path = false ∧ message = "Config file not found: " ++ path.display) ∨
        IsRefused tree path message := by
  rw [loadFiles, failsWith_bind_iff, SettingsFile.load_fails_iff, or_comm]
  apply or_congr_left
  constructor
  · rintro ⟨file, loaded, fails⟩
    cases file with
    | some file => exact absurd fails (not_failsWith_ok _ message)
    | none =>
        obtain ⟨-, readable⟩ := SettingsFile.load_eq_ok tree loaded
        refine ⟨by simpa using readable, ?_⟩
        exact ((failsWith_error_iff _ message).mp fails).symm
  · rintro ⟨missing, rfl⟩
    exact ⟨none, SettingsFile.load_missing missing, .notFound path, rfl, rfl⟩

theorem loadFiles_discovered_fails_iff (message : String) :
    FailsWith (loadFiles tree none start user) message ↔
      (∃ path, user = some path ∧ IsRefused tree path message) ∨
        (∀ path, user = some path → ∀ earlier, ¬ IsRefused tree path earlier) ∧
          ∃ path, IsNearestProject tree start path ∧ IsRefused tree path message := by
  rw [loadFiles, failsWith_bind_iff, mergeFrom_fails_iff]
  apply or_congr_right
  have project (lower : SettingsFile) :
      FailsWith (do
        let project := SettingsFile.findProject? tree start
        return (← mergeFrom tree lower project, project)) message ↔
      ∃ path, IsNearestProject tree start path ∧ IsRefused tree path message := by
    rw [failsWith_bind_of_total]
    · simp only [mergeFrom_fails_iff, SettingsFile.findProject?_eq_some_iff]
    · exact fun whole => not_failsWith_ok _ message
  constructor
  · rintro ⟨lower, below, fails⟩
    refine ⟨?_, (project lower).mp fails⟩
    intro path known earlier refused
    obtain ⟨error, failed, -⟩ :=
      (mergeFrom_fails_iff .empty user earlier).mpr ⟨path, known, refused⟩
    simp [below] at failed
  · rintro ⟨good, fails⟩
    have below : ∃ lower, mergeFrom tree .empty user = .ok lower := by
      apply exists_ok_of_not_failsWith
      intro earlier failed
      obtain ⟨path, known, refused⟩ := (mergeFrom_fails_iff .empty user earlier).mp failed
      exact good path known earlier refused
    obtain ⟨lower, below⟩ := below
    exact ⟨lower, below, (project lower).mpr fails⟩

theorem resolve_fails_iff (arguments : Arguments) (message : String) :
    FailsWith (resolve tree arguments start user) message ↔
      FailsWith (loadFiles tree arguments.config start user) message := by
  rw [resolve, failsWith_bind_of_total]
  rintro ⟨file, project⟩
  exact not_failsWith_ok _ message

theorem resolve_named_congr {other : FileTree} {arguments : Arguments} {path : Path}
    (elsewhere : Path) (stranger : Option Path) (named : arguments.config = some path)
    (presence : other.exists? path = tree.exists? path)
    (text : other.readText? path = tree.readText? path) :
    resolve other arguments elsewhere stranger = resolve tree arguments start user := by
  have loaded : loadFiles other (some path) elsewhere stranger =
      loadFiles tree (some path) start user := by
    rw [loadFiles, loadFiles, SettingsFile.load_congr presence text]
  rw [resolve, resolve, named, loaded]

theorem resolve_missing_user (arguments : Arguments)
    (missing : ∀ path, user = some path → tree.exists? path = false) :
    resolve tree arguments start user = resolve tree arguments start none := by
  cases user with
  | none => rfl
  | some path =>
      have lower : mergeFrom tree .empty (some path) = mergeFrom tree .empty none :=
        mergeFrom_missing (missing path rfl)
      have loaded : loadFiles tree arguments.config start (some path) =
          loadFiles tree arguments.config start none := by
        cases arguments.config with
        | some named => rfl
        | none => rw [loadFiles, loadFiles, lower]
      rw [resolve, resolve, loaded]

end Failure

/-- With a named file, all depends on that file alone: it must be there, be text and be well formed.
Without one, the user's file and then the project's must be good if they are there, and the first
that is not is told of. -/
theorem failure_names_first_bad_file (tree : FileTree) (arguments : Arguments) (start : Path)
    (user : Option Path) :
    (∀ path, arguments.config = some path →
      (∀ message, FailsWith (resolve tree arguments start user) message ↔
        (tree.exists? path = false ∧ message = "Config file not found: " ++ path.display) ∨
          IsRefused tree path message) ∧
      ∀ (other : FileTree) (elsewhere : Path) (stranger : Option Path),
        other.exists? path = tree.exists? path → other.readText? path = tree.readText? path →
          resolve other arguments elsewhere stranger = resolve tree arguments start user) ∧
    (arguments.config = none →
      (∀ message, FailsWith (resolve tree arguments start user) message ↔
        (∃ path, user = some path ∧ IsRefused tree path message) ∨
          (∀ path, user = some path → ∀ earlier, ¬ IsRefused tree path earlier) ∧
            ∃ path, IsNearestProject tree start path ∧ IsRefused tree path message) ∧
      ((∀ path, user = some path → tree.exists? path = false) →
        resolve tree arguments start user = resolve tree arguments start none ∧
          ((∀ directory ∈ start.ancestors, tree.isFile (directory.join projectFileName) = false) →
            ∃ config, resolve tree arguments start user = .ok config))) := by
  constructor
  · intro path named
    refine ⟨?_, fun other elsewhere stranger => resolve_named_congr elsewhere stranger named⟩
    intro message
    rw [resolve_fails_iff, named, loadFiles_named_fails_iff]
  · intro unnamed
    have fails (message : String) : FailsWith (resolve tree arguments start user) message ↔ _ :=
      (resolve_fails_iff arguments message).trans (unnamed ▸ loadFiles_discovered_fails_iff message)
    refine ⟨fails, fun missing => ⟨resolve_missing_user arguments missing, fun bare => ?_⟩⟩
    apply exists_ok_of_not_failsWith
    intro message failed
    rcases (fails message).mp failed with ⟨path, known, refused⟩ | ⟨-, path, nearest, -⟩
    · have present := refused.present
      simp [missing path known] at present
    · obtain ⟨nearer, directory, farther, cut, rfl, present, -⟩ := nearest
      have passed := bare directory (by simp [cut])
      simp [present] at passed

def brokenTree : FileTree where
  root := .ofEntries
    [("user", .ofText "x"),
      ("work", .ofEntries [(".tmpl-lint.toml", .ofBytes ⟨#[0xff]⟩)]),
      ("good", .ofText "disabled_rules=['A']")]
  current := []

def mendedTree : FileTree where
  root := .ofEntries [("good", .ofText "disabled_rules=['A']")]
  current := []

def bareArguments (named : Option Path) : Arguments :=
  ⟨["."], .text, false, false, [], named, none, "info"⟩

theorem failure_names_user_then_project_file :
    FailsWith (resolve brokenTree (bareArguments none) "/work" (some (.ofText "/user")))
      "Failed to parse config file: /user" ∧
    FailsWith (resolve brokenTree (bareArguments none) "/work" (some (.ofText "/none")))
      "Failed to read config file: /work/.tmpl-lint.toml" ∧
    FailsWith (resolve brokenTree (bareArguments (some (.ofText "/none"))) "/work"
      (some (.ofText "/user")))
      "Config file not found: /none" ∧
    resolve mendedTree (bareArguments (some (.ofText "/good"))) "/" none =
      resolve brokenTree (bareArguments (some (.ofText "/good"))) "/work"
        (some (.ofText "/user")) := by
  have project : IsNearestProject brokenTree "/work" "/work/.tmpl-lint.toml" :=
    ⟨[], "/work", ["/"], by decide +kernel⟩
  refine ⟨?_, ?_, ?_, ?_⟩
  · have searched :=
      (failure_names_first_bad_file brokenTree (bareArguments none) "/work"
      (some (.ofText "/user"))).2 rfl
    exact (searched.1 _).mpr (.inl ⟨_, rfl, .malformed "x" (by decide +kernel) (by decide +kernel)⟩)
  · have searched :=
      (failure_names_first_bad_file brokenTree (bareArguments none) "/work"
      (some (.ofText "/none"))).2 rfl
    refine (searched.1 _).mpr (.inr ⟨?_, _, project,
      .unreadable (by decide +kernel) (by decide +kernel)⟩)
    rintro path ⟨⟩ earlier refused
    exact absurd refused.present (by decide +kernel)
  · have named :=
      (failure_names_first_bad_file brokenTree (bareArguments (some (.ofText "/none"))) "/work"
      (some (.ofText "/user"))).1 _ rfl
    exact (named.1 _).mpr (.inl ⟨by decide +kernel, rfl⟩)
  · have named :=
      (failure_names_first_bad_file brokenTree (bareArguments (some (.ofText "/good"))) "/work"
      (some (.ofText "/user"))).1 _ rfl
    exact named.2 mendedTree "/" none (by decide +kernel) (by decide +kernel)

end Config

end QuoteLint
