import QuoteLint.Linter
import QuoteLint.Proofs.Files.Rewriting
import QuoteLint.Proofs.Files.Unicode
import QuoteLint.Proofs.Report.RoundTrip

/-! A run of the linter, from the files that it finds to its report and its exit status. A file that
cannot be read makes the run a failure, and has no other effect: the rest is reported as if that
file were not there. -/

namespace QuoteLint

def Diagnostic.IsFailing (denyWarnings : Bool) (diagnostic : Diagnostic) : Prop :=
  diagnostic.severity = .error ∨ diagnostic.severity = .warning ∧ denyWarnings = true

theorem LintResult.countAt_pos_iff (result : LintResult) (severity : Severity) :
    0 < result.countAt severity ↔
      ∃ diagnostic ∈ result.diagnostics, diagnostic.severity = severity := by
  simp [countAt, List.countP_pos_iff]

theorem isFailing_iff (denyWarnings : Bool) (report : FileReport) :
    isFailing denyWarnings report = true ↔
      ∃ diagnostic ∈ report.result.diagnostics, diagnostic.IsFailing denyWarnings := by
  simp only [isFailing, LintResult.hasErrors, Bool.or_eq_true, Bool.and_eq_true, decide_eq_true_eq,
    LintResult.countAt_pos_iff]
  constructor
  · rintro (⟨diagnostic, member, error⟩ | ⟨denied, diagnostic, member, warning⟩)
    · exact ⟨diagnostic, member, .inl error⟩
    · exact ⟨diagnostic, member, .inr ⟨warning, denied⟩⟩
  · rintro ⟨diagnostic, member, error | ⟨warning, denied⟩⟩
    · exact .inl ⟨diagnostic, member, error⟩
    · exact .inr ⟨denied, diagnostic, member, warning⟩

theorem exitStatus_eq_findings_iff (reports : List FileReport) (denyWarnings : Bool) :
    exitStatus reports denyWarnings = .findings ↔
      ∃ report ∈ reports, ∃ diagnostic ∈ report.result.diagnostics,
        diagnostic.IsFailing denyWarnings := by
  simp [exitStatus, isFailing_iff]

theorem exitStatus_eq_clean_iff (reports : List FileReport) (denyWarnings : Bool) :
    exitStatus reports denyWarnings = .clean ↔
      ∀ report ∈ reports, ∀ diagnostic ∈ report.result.diagnostics,
        ¬ diagnostic.IsFailing denyWarnings := by
  simp [exitStatus, isFailing_iff]

theorem exitStatus_ne_failure (reports : List FileReport) (denyWarnings : Bool) :
    exitStatus reports denyWarnings ≠ .failure := by
  unfold exitStatus
  split <;> nofun

theorem ExitStatus.code_inj (a b : ExitStatus) : a.code = b.code ↔ a = b := by
  cases a <;> cases b <;> decide

namespace Linter

section Reports

variable (tree : FileTree) (registry : Registry) (settings : RuleSettings)

theorem lintFile_toOption (path : Path) :
    (lintFile tree registry settings path).toOption =
      (tree.readText? path).map fun content => ⟨path, lint registry settings content⟩ := by
  unfold lintFile FileTree.readText?
  cases tree.readText path <;> rfl

theorem reportsOf_cons (path : Path) (rest : List Path) :
    reportsOf tree registry settings (path :: rest) =
      match tree.readText? path with
      | some content => ⟨path, lint registry settings content⟩ ::
          reportsOf tree registry settings rest
      | none => reportsOf tree registry settings rest := by
  rw [reportsOf, List.filterMap_cons, lintFile_toOption]
  cases tree.readText? path <;> rfl

theorem reportsOf_paths (files : List Path) :
    (reportsOf tree registry settings files).map (·.path) = files.filter tree.isReadable := by
  induction files with
  | nil => rfl
  | cons path rest ih =>
      have readable := tree.readText?_isSome path
      rw [reportsOf_cons]
      cases read : tree.readText? path with
      | none =>
          rw [read] at readable
          rw [List.filter_cons_of_neg (by simp [← readable])]
          exact ih
      | some content =>
          rw [read] at readable
          rw [List.filter_cons_of_pos (by simp [← readable])]
          exact congrArg (path :: ·) ih

theorem mem_reportsOf (files : List Path) (report : FileReport) :
    report ∈ reportsOf tree registry settings files ↔
      report.path ∈ files ∧ ∃ content, tree.readText? report.path = some content ∧
        report.result = lint registry settings content := by
  rcases report with ⟨path, result⟩
  simp only [reportsOf, List.mem_filterMap, lintFile_toOption, Option.map_eq_some_iff,
    FileReport.mk.injEq]
  constructor
  · rintro ⟨other, member, content, read, rfl, rfl⟩
    exact ⟨member, content, read, rfl⟩
  · rintro ⟨member, content, read, rfl⟩
    exact ⟨path, member, content, read, rfl, rfl⟩

theorem reportsOf_withContents (contents : Except String ByteArray) (place : Location)
    (files : List Path) (broken : FileTree.IsNoText contents) :
    reportsOf (tree.withContents contents place) registry settings files =
      (reportsOf tree registry settings files).filter fun report =>
        tree.place? report.path ≠ some place := by
  induction files with
  | nil => rfl
  | cons path rest ih =>
      rw [reportsOf_cons, reportsOf_cons, tree.readText?_withContents contents place path broken]
      cases tree.readText? path with
      | none =>
          rw [ite_self]
          exact ih
      | some content =>
          by_cases there : tree.place? path = some place
          · rw [if_pos there, List.filter_cons_of_neg (by simp [there])]
            exact ih
          · rw [if_neg there, List.filter_cons_of_pos (by simp [there])]
            exact congrArg _ ih

def unreadIn (files : List Path) : List Path := files.filter (!tree.isReadable ·)

theorem failuresOf_eq (files : List Path) :
    failuresOf tree registry settings files = Int32.ofNat (unreadIn tree files).length := by
  rw [failuresOf, ← Int32.zero_add (Int32.ofNat _)]
  -- the count goes on from any number of failures before
  generalize (0 : Int32) = before
  induction files generalizing before with
  | nil => simp [unreadIn]
  | cons path rest ih =>
      have readable := tree.readText?_isSome path
      rw [List.foldl_cons, ih, unreadIn, unreadIn, List.filter_cons, ← readable, lintFile,
        FileTree.readText?]
      cases tree.readText path with
      | ok content => rfl
      | error cause =>
          have counted : before + 1 + Int32.ofNat (rest.filter (!tree.isReadable ·)).length =
              before + Int32.ofNat ((rest.filter (!tree.isReadable ·)).length + 1) := by
            rw [Nat.add_comm, Int32.ofNat_add, Int32.add_assoc]
            rfl
          exact counted

end Reports

theorem zero_lt_ofNat_iff {count : Nat} (few : count < 0x80000000) :
    0 < Int32.ofNat count ↔ 0 < count := by
  rw [Int32.lt_iff_toInt_lt, Int32.toInt_ofNat_of_lt few]
  exact Int.natCast_pos

section Run

variable {tree : FileTree} {config : Config}

theorem run_uncollected {course : Watch.Course} {error : FileError}
    (uncollected : collectFiles tree config.paths config.extensions = .error error) :
    (run tree config course).output = "" ∧ (run tree config course).status = .failure := by
  unfold run firstPass
  rw [uncollected]
  exact ⟨rfl, rfl⟩

theorem write_fault (format : ReportFormat) {reports : List FileReport}
    (texts : ∀ report ∈ reports, report.path.IsText) :
    (Report.write format reports).fault = none := by
  cases format with
  | text => rfl
  | json => rw [Report.write_json texts]

theorem firstPass_collected {files : List Path}
    (collected : collectFiles tree config.paths config.extensions = .ok files)
    (texts : ∀ file ∈ files, file.IsText) :
    ∃ pass, firstPass tree config = .ok pass ∧
      pass.reports = reportsOf tree config.rules.buildRegistry.1 config.rules files ∧
      pass.failed = Int32.ofNat (unreadIn tree files).length ∧
      Report.write config.format pass.reports = ⟨pass.output, none⟩ := by
  have named : ∀ report ∈ reportsOf tree config.rules.buildRegistry.1 config.rules files,
      report.path.IsText := by
    intro report member
    exact texts report.path ((mem_reportsOf _ _ _ files report).mp member).1
  have unbroken := write_fault config.format named
  cases written : Report.write config.format
      (reportsOf tree config.rules.buildRegistry.1 config.rules files) with
  | mk output fault =>
      rw [written] at unbroken
      subst unbroken
      simp only [firstPass, collected, written,
        ← failuresOf_eq tree config.rules.buildRegistry.1 config.rules]
      exact ⟨_, rfl, rfl, rfl, written⟩

theorem conclude_eq (pass : Pass) (denyWarnings : Bool) (seen : Watch.Trace) :
    (pass.conclude denyWarnings seen).output = pass.output ++ seen.output ∧
      (pass.conclude denyWarnings seen).status =
        if 0 < pass.failed then .failure else exitStatus pass.reports denyWarnings := by
  unfold Pass.conclude
  split <;> exact ⟨rfl, rfl⟩

theorem run_collected (course : Watch.Course) {files : List Path} (once : config.watch = false)
    (collected : collectFiles tree config.paths config.extensions = .ok files)
    (texts : ∀ file ∈ files, file.IsText) :
    Report.write config.format (reportsOf tree config.rules.buildRegistry.1 config.rules files) =
        ⟨(run tree config course).output, none⟩ ∧
      (run tree config course).status =
        if 0 < Int32.ofNat (unreadIn tree files).length then .failure
        else exitStatus (reportsOf tree config.rules.buildRegistry.1 config.rules files)
          config.denyWarnings := by
  rcases firstPass_collected collected texts with ⟨pass, passed, reports, failed, written⟩
  have whole : run tree config course = pass.conclude config.denyWarnings .nothing := by
    simp [run, passed, once]
  rcases conclude_eq pass config.denyWarnings .nothing with ⟨output, status⟩
  rw [whole, output, status, Watch.Trace.nothing, String.append_empty, ← reports, ← failed]
  exact ⟨written, rfl⟩

end Run

/-- What the exit code of a run tells of the files that were found and of the reports on them. -/
structure Told (tree : FileTree) (config : Config) (files : List Path) (reports : List FileReport)
    (code : Nat) : Prop where
  failure : code = 2 ↔ ∃ path ∈ files, tree.isReadable path = false
  findings : code = 1 ↔ (∀ path ∈ files, tree.isReadable path = true) ∧
    ∃ report ∈ reports, ∃ diagnostic ∈ report.result.diagnostics,
      diagnostic.IsFailing config.denyWarnings
  clean : code = 0 ↔ (∀ path ∈ files, tree.isReadable path = true) ∧
    ∀ report ∈ reports, ∀ diagnostic ∈ report.result.diagnostics,
      ¬ diagnostic.IsFailing config.denyWarnings

/-- What a run leaves behind, against the files that were found for it. -/
structure Accounted (tree : FileTree) (config : Config) (course : Watch.Course) (files : List Path)
    (reports : List FileReport) : Prop where
  output : Report.write config.format reports = ⟨(run tree config course).output, none⟩
  paths : reports.map (·.path) = files.filter tree.isReadable
  results : ∀ report ∈ reports, ∃ content, tree.reached? report.path = some (.ofText content) ∧
    report.result = lint config.rules.buildRegistry.1 config.rules content
  status : (unreadIn tree files).length < 0x80000000 →
    Told tree config files reports (run tree config course).status.code
  /-- One file turns into something that is no text, or can no longer be opened. The same files are
  found, and the reports on the others stay. -/
  isolated : ∀ contents place, FileTree.IsNoText contents →
    collectFiles (tree.withContents contents place) config.paths config.extensions = .ok files ∧
      Report.write config.format (reports.filter fun report =>
        tree.place? report.path ≠ some place) =
        ⟨(run (tree.withContents contents place) config course).output, none⟩

section Accounted

variable {tree : FileTree} {config : Config} {files : List Path}

theorem unread_pos_iff :
    0 < (unreadIn tree files).length ↔ ¬ ∀ path ∈ files, tree.isReadable path = true := by
  simp [unreadIn, List.length_pos_iff_exists_mem]

theorem told_of_status {reports : List FileReport} {status : ExitStatus}
    (unread : ¬ (∀ path ∈ files, tree.isReadable path = true) → status = .failure)
    (read : (∀ path ∈ files, tree.isReadable path = true) →
      status = exitStatus reports config.denyWarnings) :
    Told tree config files reports status.code := by
  by_cases readable : ∀ path ∈ files, tree.isReadable path = true
  · have none_unread : ¬ ∃ path ∈ files, tree.isReadable path = false := by
      simpa using readable
    rw [read readable]
    refine ⟨?_, ?_, ?_⟩
    · refine iff_of_false ?_ none_unread
      exact mt (ExitStatus.code_inj _ .failure).mp (exitStatus_ne_failure _ _)
    · rw [and_iff_right readable, ← exitStatus_eq_findings_iff]
      exact ExitStatus.code_inj _ .findings
    · rw [and_iff_right readable, ← exitStatus_eq_clean_iff]
      exact ExitStatus.code_inj _ .clean
  · have some_unread : ∃ path ∈ files, tree.isReadable path = false := by
      simpa using readable
    rw [unread readable]
    refine ⟨iff_of_true rfl some_unread, ?_, ?_⟩
    · exact iff_of_false (by decide) fun told => readable told.1
    · exact iff_of_false (by decide) fun told => readable told.1

theorem accounted_run (course : Watch.Course) (once : config.watch = false)
    (collected : collectFiles tree config.paths config.extensions = .ok files)
    (texts : ∀ file ∈ files, file.IsText) :
    Accounted tree config course files
      (reportsOf tree config.rules.buildRegistry.1 config.rules files) where
  output := (run_collected course once collected texts).1
  paths := reportsOf_paths tree _ _ files
  results := by
    intro report member
    rcases (mem_reportsOf tree _ _ files report).mp member with ⟨-, content, read, result⟩
    exact ⟨content, tree.reached?_of_readText? report.path read, result⟩
  status := by
    intro few
    have decided := (run_collected course once collected texts).2
    have counted : 0 < Int32.ofNat (unreadIn tree files).length ↔ _ :=
      (zero_lt_ofNat_iff few).trans unread_pos_iff
    apply told_of_status
    · intro unread
      rw [decided, if_pos (counted.mpr unread)]
    · intro readable
      rw [decided, if_neg (mt counted.mp (not_not_intro readable))]
  isolated := by
    intro contents place broken
    have found : collectFiles (tree.withContents contents place) config.paths config.extensions =
        .ok files := by
      rw [collectFiles_withContents, collected]
    refine ⟨found, ?_⟩
    rw [← reportsOf_withContents _ _ _ _ _ _ broken]
    exact (run_collected course once found texts).1

end Accounted

/-- If the files cannot be found, nothing is written and the run is a failure. Else the readable
files are reported in their order, each by its own text, and the status tells the worst that
happened. -/
theorem run_accounts_for_every_file (tree : FileTree) (config : Config) (course : Watch.Course)
    (unicode : tree.root.HasUnicodeNames) (once : config.watch = false) :
    (∀ error, collectFiles tree config.paths config.extensions = .error error →
      (run tree config course).output = "" ∧ (run tree config course).status.code = 2) ∧
    ∀ files, collectFiles tree config.paths config.extensions = .ok files →
      ∃ reports, Accounted tree config course files reports := by
  constructor
  · intro error uncollected
    rcases run_uncollected uncollected with ⟨silent, failed⟩
    exact ⟨silent, by rw [failed]; rfl⟩
  · intro files collected
    have texts := FileTree.isText_of_collectFiles unicode collected
    exact ⟨_, accounted_run course once collected texts⟩

/-- A file that is no text and one that cannot be opened, between two that are texts. -/
def mixedTree : FileTree where
  root := .ofEntries
    [("a.yaml", .ofText "\x7b\x7b \"x \x7d\x7d"), ("b.yaml", .ofBytes ⟨#[0xff]⟩),
      ("c.yaml", .file (.error "Permission denied (os error 13)")), ("d.yaml", .ofText "x: y")]
  current := []

theorem mixedTree_unicode : mixedTree.root.HasUnicodeNames := by
  apply Node.HasUnicodeNames.directory
  · intro entry member
    simp only [List.mem_cons, List.not_mem_nil, or_false] at member
    rcases member with rfl | rfl | rfl | rfl <;> exact ⟨_, rfl⟩
  · intro entry member
    simp only [List.mem_cons, List.not_mem_nil, or_false] at member
    rcases member with rfl | rfl | rfl | rfl <;> exact .file _

theorem run_accounts_for_file_without_text :
    let found : List Path := ["./a.yaml", "./b.yaml", "./c.yaml", "./d.yaml"]
    collectFiles mixedTree Config.default.paths Config.default.extensions = .ok found ∧
    ∃ reports, Report.write .text reports =
      ⟨(run mixedTree .default (.still mixedTree)).output, none⟩ ∧
      reports.map (·.path) = (["./a.yaml", "./d.yaml"] : List Path) ∧
      (run mixedTree .default (.still mixedTree)).status.code = 2 := by
  intro found
  have expanded : (expandAll mixedTree Config.default.extensions Config.default.paths).toOption =
      some found := by
    decide +kernel
  have distinct : dropRepeats found = found := by decide +kernel
  have collected := collectFiles_of_sorted expanded (by decide +kernel)
  rw [distinct] at collected
  have accounts := run_accounts_for_every_file mixedTree .default (.still mixedTree)
    mixedTree_unicode rfl
  rcases accounts.2 found collected with ⟨reports, account⟩
  refine ⟨collected, reports, account.output, ?_, ?_⟩
  · rw [account.paths]
    decide +kernel
  · have few : (unreadIn mixedTree found).length < 0x80000000 := by decide +kernel
    rw [(account.status few).failure]
    exact ⟨"./b.yaml", by decide +kernel⟩

def oneFileTree : FileTree where
  root := .ofEntries [("d", .ofEntries [("abc.yaml", .ofText "a: b")])]
  current := []

def dottedFile (n : Nat) : Path := Path.dotted "d/abc.yaml" n

def dottedConfig (n : Nat) : Config :=
  { Config.default with format := .json, paths := [Path.dotted "d" n] }

theorem isText_dotted {path : Path} (text : path.IsText) (n : Nat) : (path.dotted n).IsText := by
  induction n with
  | zero => exact text
  | succ n ih =>
      rw [Path.isText_iff] at ih ⊢
      have front : Text.IsUtf8 [Path.dot, Path.slash] := ⟨"./", by decide⟩
      exact front.append ih

theorem dottedFile_hasExtension (n : Nat) :
    (dottedFile n).hasExtension Config.default.extensions = true := by
  have segments : (dottedFile n).segments =
      (List.replicate n [Path.dot] ++ [Text.utf8 "d"]) ++ [Text.utf8 "abc.yaml"] := by
    rw [dottedFile, Path.segments_dotted, List.append_assoc]
    congr 1
  have name : (dottedFile n).fileName? = some "abc.yaml" :=
    Path.fileName?_of_segments segments (by decide)
  rw [Path.hasExtension, Path.extension?, name]
  decide +kernel

theorem reached?_dottedFile (n : Nat) :
    oneFileTree.reached? (dottedFile n) = some (.ofText "a: b") := by
  have place : oneFileTree.place? (dottedFile n) = some (["d", "abc.yaml"] : Location) := by
    rw [dottedFile, FileTree.place?_dotted rfl (by decide +kernel)]
    decide +kernel
  rw [FileTree.reached?, place]
  rfl

theorem collectFiles_dotted (n : Nat) (short : 2 * n + 1 ≤ Path.maxBytes) :
    collectFiles oneFileTree (dottedConfig n).paths (dottedConfig n).extensions =
      .ok [dottedFile n] := by
  have place : oneFileTree.place? (Path.dotted "d" n) = some (["d"] : Location) := by
    rw [FileTree.place?_dotted rfl (by decide +kernel)]
    decide +kernel
  have fits : (Path.dotted "d" n).isTooLong = false := by
    have size : (Path.ofText "d").bytes.length = 1 := by decide
    apply decide_eq_false
    rw [Path.length_dotted, size]
    omega
  have found : oneFileTree.find? (Path.dotted "d" n) =
      some (.ofEntries [("abc.yaml", .ofText "a: b")]) := by
    rw [FileTree.find?_eq_reached? _ _ (Path.dotted_ne_empty _ n (by decide)) fits,
      FileTree.reached?,
      place]
    rfl
  have joined : (Path.dotted "d" n).below "abc.yaml" = dottedFile n := by
    have parts : (Path.dotted "d" n).join (.ofText "abc.yaml") = dottedFile n := by
      rw [Path.join_dotted _ n (by decide) (by decide +kernel), dottedFile]
      congr 1
    exact parts
  have files : filesIn Config.default.extensions (Path.dotted "d" n)
      [("abc.yaml", .ofText "a: b")] = [dottedFile n] := by
    have plain : isHidden "abc.yaml" = false := by decide +kernel
    simp [filesIn, filesOf, Node.ofText, plain, joined, dottedFile_hasExtension]
  have listed : unlisted? (Path.dotted "d" n)
      (.directory [("abc.yaml", .ofText "a: b")] none) = none := by
    simp [unlisted?, unlistedIn?, listingFault?, fits, Node.ofText]
  have expanded :
      (expandAll oneFileTree (dottedConfig n).extensions (dottedConfig n).paths).toOption =
      some [dottedFile n] := by
    simp only [dottedConfig, expandAll, expand, found, Node.ofEntries, listed, files]
    rfl
  exact collectFiles_of_sorted expanded (List.pairwise_singleton _ _)

/-- A file whose path is too long to be opened is found and not reported, though it holds a text. -/
theorem file_with_long_path_unreported :
    collectFiles oneFileTree (dottedConfig 2045).paths (dottedConfig 2045).extensions =
      .ok [dottedFile 2045] ∧
    oneFileTree.holdsText (dottedFile 2045) = true ∧
    ∀ reports : List FileReport,
      reports.map (·.path) = [dottedFile 2045].filter oneFileTree.holdsText →
      Report.write (dottedConfig 2045).format reports ≠
        ⟨(run oneFileTree (dottedConfig 2045) (.still oneFileTree)).output, none⟩ := by
  have collected := collectFiles_dotted 2045 (by decide)
  have text : oneFileTree.holdsText (dottedFile 2045) = true := by
    rw [FileTree.holdsText, reached?_dottedFile]
    decide +kernel
  have long : (dottedFile 2045).isTooLong = true := by
    have size : (Path.ofText "d/abc.yaml").bytes.length = 10 := by decide +kernel
    simp [dottedFile, Path.isTooLong, Path.length_dotted, size, Path.maxBytes]
  have named : (dottedFile 2045).IsText := isText_dotted ⟨"d/abc.yaml", rfl⟩ 2045
  have account := accounted_run (.still oneFileTree) rfl collected (by simpa using named)
  have silent : reportsOf oneFileTree (dottedConfig 2045).rules.buildRegistry.1
      (dottedConfig 2045).rules [dottedFile 2045] = [] := by
    rw [← List.map_eq_nil_iff, account.paths]
    simp [FileTree.isReadable, long]
  refine ⟨collected, text, ?_⟩
  intro reports listed same
  have texts : ∀ report ∈ reports, report.path.IsText := by
    intro report member
    have kept : report.path ∈ [dottedFile 2045].filter oneFileTree.holdsText :=
      listed ▸ List.mem_map.mpr ⟨report, member, rfl⟩
    rw [List.mem_singleton.mp (List.mem_of_mem_filter kept)]
    exact named
  have output := account.output
  rw [silent, ← same] at output
  have none : [] = reports := (Report.write_json_inj (by simp) texts).mp output
  subst none
  simp [text] at listed

end Linter

end QuoteLint
