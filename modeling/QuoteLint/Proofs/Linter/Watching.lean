import Mathlib.Data.List.SplitBy
import QuoteLint.Proofs.Linter.Run

/-! Watching files. The signals of a watcher fall into rounds wherever none comes for a while, and
no signal is lost on the way: a file that changes is linted again, as it is once things have been
quiet. -/

namespace QuoteLint.Watch

def isSoon {α : Type} (earlier later : Timed α) : Bool := later.time ≤ earlier.time + debounce

def Round.ofGroup (group : List (Timed Signal)) : Round :=
  ⟨group.map (·.event), (group.getLast?.elim 0 (·.time)) + debounce⟩

theorem map_splitBy_loop (rest : List (Timed Signal)) (last : Timed Signal)
    (before : List (Timed Signal)) (done : List (List (Timed Signal))) :
    (List.splitBy.loop isSoon rest last before done).map Round.ofGroup =
      done.reverse.map Round.ofGroup ++
        roundsFrom ((last :: before).reverse.map (·.event)) last.time rest := by
  -- a group grows in reverse, with its last signal apart, while a round grows in order
  induction rest generalizing last before done with
  | nil => simp [List.splitBy.loop, roundsFrom, Round.ofGroup]
  | cons next rest ih =>
      rw [List.splitBy.loop, roundsFrom]
      by_cases soon : next.time ≤ last.time + debounce
      · have joined : isSoon last next = true := decide_eq_true soon
        rw [if_pos soon, joined]
        simp [ih]
      · have parted : isSoon last next = false := decide_eq_false soon
        rw [if_neg soon, parted]
        simp [ih, Round.ofGroup]

/-- The rounds are the runs of signals in which each one comes soon after the one before it. -/
theorem rounds_eq_splitBy (signals : List (Timed Signal)) :
    rounds signals = (signals.splitBy isSoon).map Round.ofGroup := by
  cases signals with
  | nil => rfl
  | cons first rest => simpa [rounds, List.splitBy] using (map_splitBy_loop rest first [] []).symm

theorem signals_of_rounds (signals : List (Timed Signal)) :
    (rounds signals).flatMap (·.signals) = signals.map (·.event) := by
  have whole := congrArg (List.map (·.event)) (List.flatten_splitBy isSoon signals)
  rw [List.map_flatten] at whole
  rw [rounds_eq_splitBy, List.flatMap_map, ← whole]
  rfl

theorem time_le_due {signals group : List (Timed Signal)}
    (ordered : signals.Pairwise fun earlier later => earlier.time ≤ later.time)
    (member : group ∈ signals.splitBy isSoon) {signal : Timed Signal} (present : signal ∈ group) :
    signal.time + debounce ≤ (Round.ofGroup group).due := by
  have inner : group.Sublist signals := by
    conv_rhs => rw [← List.flatten_splitBy isSoon signals]
    exact List.sublist_flatten_of_mem member
  have own := ordered.sublist inner
  rcases List.eq_nil_or_concat' group with rfl | ⟨front, last, rfl⟩
  · cases present
  · have bound : signal.time ≤ last.time := by
      rcases List.mem_append.mp present with earlier | same
      · exact (List.pairwise_append.mp own).2.2 signal earlier last (List.mem_singleton_self last)
      · rw [List.mem_singleton.mp same]
    simpa [Round.ofGroup] using bound

theorem changedIn_increasing (signals : List Signal) : (changedIn signals).Pairwise Path.Before :=
  dropRepeats_before (sorted_mergeSort _)

theorem changedPath?_eq_some_iff (signal : Signal) (path : Path) :
    changedPath? signal = some path ↔ signal = .changed path := by
  cases signal <;> simp [changedPath?]

theorem changed_of_mem_changedIn {signals : List Signal} {path : Path}
    (member : path ∈ changedIn signals) : .changed path ∈ signals := by
  have listed := mem_of_mem_dropRepeats member
  rw [List.mem_mergeSort, List.mem_filterMap] at listed
  rcases listed with ⟨signal, present, changed⟩
  rwa [← (changedPath?_eq_some_iff signal path).mp changed]

theorem alike_of_changed {signals : List Signal} {path : Path} (changed : .changed path ∈ signals) :
    ∃ kept ∈ changedIn signals, kept.alike path = true := by
  have listed : path ∈ (signals.filterMap changedPath?).mergeSort Path.le := by
    rw [List.mem_mergeSort, List.mem_filterMap]
    exact ⟨_, changed, rfl⟩
  rcases alike_of_mem listed with ⟨kept, present, same⟩
  exact ⟨kept, present, (Path.alike_iff kept path).mpr same⟩

def Round.reports (round : Round) (tree : FileTree) (config : Config) (registry : Registry) :
    List FileReport :=
  Linter.reportsOf tree registry config.rules ((changedIn round.signals).filter tree.isFile)

section Play

variable (tree : FileTree) (config : Config) (registry : Registry) (round : Round)

theorem mem_reports_iff (report : FileReport) :
    report ∈ round.reports tree config registry ↔
      report.path ∈ changedIn round.signals ∧ ∃ content, tree.readText? report.path = some content ∧
        report.result = lint registry config.rules content := by
  rw [Round.reports, Linter.mem_reportsOf, List.mem_filter, and_assoc]
  apply and_congr_right
  intro _
  apply and_iff_right_of_imp
  intro read
  rcases read with ⟨content, found, -⟩
  exact tree.isFile_of_readText? report.path found

theorem reports_on_changed :
    ((round.reports tree config registry).Pairwise fun a b => a.path.Before b.path) ∧
      ∀ report ∈ round.reports tree config registry, .changed report.path ∈ round.signals := by
  constructor
  · rw [← List.pairwise_map, Round.reports, Linter.reportsOf_paths]
    exact ((changedIn_increasing round.signals).filter _).filter _
  · intro report member
    exact changed_of_mem_changedIn ((mem_reports_iff tree config registry round report).mp member).1

theorem play_output :
    (round.play tree config registry).output =
      if round.reports tree config registry = [] then ""
      else (Report.write config.format (round.reports tree config registry)).output := by
  unfold Round.play relint Round.reports
  simp only [List.isEmpty_iff]
  split
  · rfl
  · generalize Report.write config.format _ = written
    rcases written with ⟨output, fault⟩
    cases fault <;> rfl

end Play

section Follow

variable (files : Nat → FileTree) (config : Config) (registry : Registry)
  {told : List (Timed (Except String Change))}

theorem signalsIn_ordered
    (ordered : told.Pairwise fun earlier later => earlier.time ≤ later.time) :
    (signalsIn config.extensions told).Pairwise fun earlier later => earlier.time ≤ later.time := by
  rw [signalsIn, List.pairwise_flatMap]
  constructor
  · intro news _
    rw [List.pairwise_map]
    exact List.pairwise_of_forall fun _ _ => Nat.le_refl _
  · refine ordered.imp ?_
    intro earlier later before first ofEarlier second ofLater
    rcases List.mem_map.mp ofEarlier with ⟨_, -, rfl⟩
    rcases List.mem_map.mp ofLater with ⟨_, -, rfl⟩
    exact before

theorem changed_mem_signalsIn {news : Timed (Except String Change)} (heard : news ∈ told)
    {change : Change} (good : news.event = .ok change)
    (kind : change.kind = .create ∨ change.kind = .modify) {path : Path}
    (changed : path ∈ change.paths) (matching : path.hasExtension config.extensions = true) :
    ⟨news.time, .changed path⟩ ∈ signalsIn config.extensions told := by
  have kept : path ∈ changedTemplates config.extensions change := by
    have listed : path ∈ change.paths.filter (·.hasExtension config.extensions) :=
      List.mem_filter.mpr ⟨changed, matching⟩
    rcases kind with made | altered
    · rwa [changedTemplates, made]
    · rwa [changedTemplates, altered]
  refine List.mem_flatMap.mpr ⟨news, heard, ?_⟩
  rw [good, signalsOf, List.map_map]
  exact List.mem_map.mpr ⟨path, kept, rfl⟩

theorem exists_round {signals : List (Timed Signal)}
    (ordered : signals.Pairwise fun earlier later => earlier.time ≤ later.time)
    {signal : Timed Signal} (present : signal ∈ signals) :
    ∃ round ∈ rounds signals, signal.event ∈ round.signals ∧
      signal.time + debounce ≤ round.due := by
  rw [rounds_eq_splitBy]
  rw [← List.flatten_splitBy isSoon signals] at present
  rcases List.mem_flatten.mp present with ⟨group, member, inside⟩
  refine ⟨_, List.mem_map.mpr ⟨group, member, rfl⟩, ?_, time_le_due ordered member inside⟩
  exact List.mem_map.mpr ⟨signal, inside, rfl⟩

/-- A file that is made or changed is linted again, a while after that or later, unless it can no
longer be read then; and what is written is what the rounds report, one after another. -/
theorem changed_file_linted_again
    (ordered : told.Pairwise fun earlier later => earlier.time ≤ later.time) :
    (∀ news ∈ told, ∀ change, news.event = .ok change →
      change.kind = .create ∨ change.kind = .modify → ∀ path ∈ change.paths,
        path.hasExtension config.extensions = true →
          ∃ round ∈ rounds (signalsIn config.extensions told), news.time + debounce ≤ round.due ∧
            ∃ kept, kept.alike path = true ∧ ∀ content,
              (files round.due).readText? kept = some content →
                ⟨kept, lint registry config.rules content⟩ ∈
                  round.reports (files round.due) config registry) ∧
    (follow files config registry told).output =
      String.join ((rounds (signalsIn config.extensions told)).map fun round =>
        if round.reports (files round.due) config registry = [] then ""
        else (Report.write config.format
          (round.reports (files round.due) config registry)).output) := by
  constructor
  · intro news heard change good kind path changed matching
    have present := changed_mem_signalsIn config heard good kind changed matching
    rcases exists_round (signalsIn_ordered config ordered) present with ⟨round, member, inside, due⟩
    rcases alike_of_changed inside with ⟨kept, listed, same⟩
    refine ⟨round, member, due, kept, same, ?_⟩
    intro content read
    exact (mem_reports_iff _ config registry round _).mpr ⟨listed, content, read, rfl⟩
  · simp only [follow, List.map_map]
    apply congrArg String.join
    apply List.map_congr_left
    intro round _
    exact play_output _ config registry round

end Follow

/-- While files are watched, a run goes on from where it would end: what the rounds report comes
after the first report, and the status is that of the first report. -/
theorem run_watching {tree : FileTree} {config : Config} {course : Course} {files : List Path}
    {told : List (Timed (Except String Change))} (unicode : tree.root.HasUnicodeNames)
    (watched : config.watch = true) (heard : course.told = .ok told)
    (collected : collectFiles tree config.paths config.extensions = .ok files) :
    let once := Linter.run tree { config with watch := false } course
    (Linter.run tree config course).output =
        once.output ++ (follow course.files config config.rules.buildRegistry.1 told).output ∧
      (Linter.run tree config course).status = once.status := by
  intro once
  have texts := FileTree.isText_of_collectFiles unicode collected
  rcases Linter.firstPass_collected collected texts with ⟨pass, passed, -⟩
  have ended : once = pass.conclude config.denyWarnings .nothing := by
    have same : Linter.firstPass tree { config with watch := false } = .ok pass := passed
    simp [once, Linter.run, same]
  have going : Linter.run tree config course = pass.conclude config.denyWarnings
      (follow course.files config config.rules.buildRegistry.1 told) := by
    simp [Linter.run, passed, watched, heard]
  rcases Linter.conclude_eq pass config.denyWarnings .nothing with ⟨first, firstStatus⟩
  rcases Linter.conclude_eq pass config.denyWarnings
    (follow course.files config config.rules.buildRegistry.1 told) with ⟨whole, status⟩
  rw [ended, going, first, firstStatus, whole, status, Trace.nothing, String.append_empty]
  exact ⟨rfl, rfl⟩

end QuoteLint.Watch
