import HeaderScan.Proofs.Report.Order

namespace HeaderScan

/-!
Scanning several files at the same time.

Each file is scanned by a task of its own, and all tasks put their diagnostics into one log.  A
task logs its own one after the other, but which task has its turn next is left to chance.
`Pool.sameOutcome_of_isDone` says that nothing of it can be seen in the end: the sorted log, its
counts and the reports are those of scanning one file after the other.

A file that is named twice is scanned by two tasks, whose diagnostics mix.  What keeps them in order
is that a task has no two diagnostics about the same place.  A file is known by its path, so that
files with different paths have different names in the log.
-/

/-! ## The order of a log -/

namespace LogEntry

variable {first second third : LogEntry}

theorem isOrdered_iff :
    first.isOrdered second = true ↔
      sourceBefore first.source second.source = true ∨
        first.source = second.source ∧
          (first.diagnostic.line < second.diagnostic.line ∨
            first.diagnostic.line = second.diagnostic.line ∧
              first.diagnostic.span.start ≤ second.diagnostic.span.start) := by
  simp [isOrdered]

theorem sourceBefore_irrefl (source : Option String) : sourceBefore source source = false := by
  cases source with
  | none => rfl
  | some name => simp [sourceBefore]

theorem sourceBefore_trans {first second third : Option String}
    (early : sourceBefore first second = true) (late : sourceBefore second third = true) :
    sourceBefore first third = true := by
  cases first <;> cases second <;> cases third <;>
    simp only [sourceBefore, decide_eq_true_eq] at early late ⊢
  all_goals first | contradiction | exact String.lt_trans early late

theorem sourceBefore_total (first second : Option String) :
    sourceBefore first second = true ∨ first = second ∨ sourceBefore second first = true := by
  cases first with
  | none => cases second <;> simp [sourceBefore]
  | some name =>
    cases second with
    | none => simp [sourceBefore]
    | some other =>
      simp only [sourceBefore, decide_eq_true_eq, Option.some.injEq]
      exact Std.lt_trichotomy name other

theorem isOrdered_trans (first second third : LogEntry) (early : first.isOrdered second = true)
    (late : second.isOrdered third = true) : first.isOrdered third = true := by
  rw [isOrdered_iff] at early late ⊢
  rcases early with before | ⟨same, place⟩
  · rcases late with later | ⟨alike, _⟩
    · exact .inl (sourceBefore_trans before later)
    · exact .inl (alike ▸ before)
  · rcases late with later | ⟨alike, behind⟩
    · exact .inl (same ▸ later)
    · exact .inr ⟨same.trans alike, by omega⟩

theorem isOrdered_total (first second : LogEntry) :
    (first.isOrdered second || second.isOrdered first) = true := by
  rw [Bool.or_eq_true, isOrdered_iff, isOrdered_iff]
  rcases sourceBefore_total first.source second.source with before | same | behind
  · exact .inl (.inl before)
  · have places : (first.diagnostic.line < second.diagnostic.line ∨
          first.diagnostic.line = second.diagnostic.line ∧
            first.diagnostic.span.start ≤ second.diagnostic.span.start) ∨
        (second.diagnostic.line < first.diagnostic.line ∨
          second.diagnostic.line = first.diagnostic.line ∧
            second.diagnostic.span.start ≤ first.diagnostic.span.start) := by omega
    exact places.imp (fun place => .inr ⟨same, place⟩) (fun place => .inr ⟨same.symm, place⟩)
  · exact .inr (.inl behind)

/-- Entries that may stand in either order are about the same place. -/
theorem place_eq_of_isOrdered (early : first.isOrdered second = true)
    (late : second.isOrdered first = true) :
    first.source = second.source ∧
      first.diagnostic.span.start = second.diagnostic.span.start := by
  rw [isOrdered_iff] at early late
  rcases early with before | ⟨same, place⟩
  · have never := sourceBefore_irrefl first.source
    rcases late with behind | ⟨same, _⟩
    · rw [sourceBefore_trans before behind] at never
      contradiction
    · rw [same, never] at before
      contradiction
  · rcases late with behind | ⟨_, place'⟩
    · rw [same, sourceBefore_irrefl] at behind
      contradiction
    · exact ⟨same, by omega⟩

end LogEntry

namespace Log

variable {log other : Log}

/-- Sorting forgets in which order entries came that are about different places. -/
theorem sorted_eq_of_perm (perm : log.entries.Perm other.entries)
    (distinct : ∀ first ∈ log.entries, ∀ second ∈ log.entries,
      first.isOrdered second = true -> second.isOrdered first = true -> first = second) :
    log.sorted = other.sorted := by
  have sorted (log : Log) : log.sorted.Pairwise fun first second =>
      first.isOrdered second = true :=
    List.pairwise_mergeSort LogEntry.isOrdered_trans LogEntry.isOrdered_total log.entries
  have isLog : log.sorted.Perm log.entries := List.mergeSort_perm _ _
  have isOther : other.sorted.Perm other.entries := List.mergeSort_perm _ _
  have same : log.sorted.Perm other.sorted := isLog.trans (perm.trans isOther.symm)
  refine List.Perm.eq_of_pairwise ?_ (sorted log) (sorted other) same
  intro first second isFirst isSecond early late
  exact distinct first (isLog.mem_iff.mp isFirst) second
    (isLog.mem_iff.mp (same.mem_iff.mpr isSecond)) early late

theorem count_eq_of_perm (perm : log.entries.Perm other.entries) (severity : Severity) :
    log.count severity = other.count severity :=
  perm.countP_eq _

/-- A count is the number of entries of that severity in the sorted log. -/
theorem count_eq_length_sorted (log : Log) (severity : Severity) :
    log.count severity =
      (log.sorted.filter (·.diagnostic.severity == severity)).length := by
  rw [← List.countP_eq_length_filter]
  exact ((List.mergeSort_perm log.entries LogEntry.isOrdered).countP_eq _).symm

end Log

/-! ## Tasks that log in turns -/

/-- What is left to do for one file: its report, and the diagnostics that are yet to be logged. -/
structure Task where
  report : Report
  pending : List Diagnostic

/-- The entries that a task is yet to log. -/
def Task.entries (task : Task) : List LogEntry :=
  task.pending.map (.mk (some task.report.path))

/-- The tasks, in the order in which their files are named, and the log they share. -/
structure Pool where
  tasks : List Task
  log : Log

namespace Pool

/-- Nothing is logged yet. -/
def ofReports (reports : List (Report × List Diagnostic)) : Pool where
  tasks := reports.map fun (report, diagnostics) => ⟨report, diagnostics⟩
  log := .empty

/-- Scans the files that the options name, each by a task. -/
def ofOptions (options : Options) (read : String → Except ReadFailure String) : Pool :=
  ofReports (options.files.map (Report.ofFile read options.showTokens options.symbols))

/-- A task has its turn and logs its next diagnostic, if there is one. -/
def turn (pool : Pool) (index : Nat) : Pool :=
  match pool.tasks[index]? with
  | none => pool
  | some task =>
    match task.pending with
    | [] => pool
    | diagnostic :: later =>
      { tasks := pool.tasks.set index { task with pending := later }
        log := pool.log.push (some task.report.path) diagnostic }

/-- Tasks have their turns in an order that is given by their positions. -/
def run (pool : Pool) (turns : List Nat) : Pool :=
  turns.foldl turn pool

/-- All tasks have logged all they had to. -/
def IsDone (pool : Pool) : Prop :=
  ∀ task ∈ pool.tasks, task.pending = []

instance (pool : Pool) : Decidable pool.IsDone :=
  inferInstanceAs (Decidable (∀ task ∈ pool.tasks, task.pending = []))

def summary (pool : Pool) : Summary :=
  ⟨pool.tasks.map Task.report, pool.log⟩

/-- The entries that are logged, and those that are yet to be. -/
def entries (pool : Pool) : List LogEntry :=
  pool.log.entries ++ pool.tasks.flatMap Task.entries

variable {pool : Pool} {index : Nat}

/-- All that a turn can do. -/
theorem turn_cases (pool : Pool) (index : Nat) :
    pool.turn index = pool ∨
      ∃ front report diagnostic later back,
        pool.tasks = front ++ ⟨report, diagnostic :: later⟩ :: back ∧
          pool.turn index =
            ⟨front ++ ⟨report, later⟩ :: back,
              pool.log.push (some report.path) diagnostic⟩ := by
  unfold turn
  split
  case h_1 => exact .inl rfl
  case h_2 task found =>
    rcases task with ⟨report, _ | ⟨diagnostic, later⟩⟩
    · exact .inl rfl
    · rcases List.getElem?_eq_some_iff.mp found with ⟨bound, isTask⟩
      refine .inr ⟨pool.tasks.take index, report, diagnostic, later,
        pool.tasks.drop (index + 1), ?_, ?_⟩
      · rw [← isTask, List.getElem_cons_drop, List.take_append_drop]
      · change Pool.mk (pool.tasks.set index ⟨report, later⟩) _ = _
        rw [List.set_eq_take_append_cons_drop, if_pos bound]

/-- A turn leaves the reports as they are, and what is logged was yet to be. -/
theorem conserved_turn (pool : Pool) (index : Nat) :
    (pool.turn index).summary.reports = pool.summary.reports ∧
      (pool.turn index).entries.Perm pool.entries := by
  rcases turn_cases pool index with idle | ⟨front, report, diagnostic, later, back, tasks, turned⟩
  · rw [idle]
    exact ⟨rfl, .refl _⟩
  · rw [turned]
    refine ⟨by simp [summary, tasks], ?_⟩
    simp only [entries, Log.push, tasks, List.flatMap_append, List.flatMap_cons, Task.entries,
      List.map_cons, List.append_assoc, List.cons_append, List.nil_append]
    exact (List.perm_middle.symm).append_left _

theorem conserved_run (pool : Pool) (turns : List Nat) :
    (pool.run turns).summary.reports = pool.summary.reports ∧
      (pool.run turns).entries.Perm pool.entries := by
  induction turns generalizing pool with
  | nil => exact ⟨rfl, .refl _⟩
  | cons index turns inductionHypothesis =>
    rcases conserved_turn pool index with ⟨reports, entries⟩
    rcases inductionHypothesis (pool.turn index) with ⟨laterReports, laterEntries⟩
    exact ⟨laterReports.trans reports, laterEntries.trans entries⟩

theorem entries_of_isDone (isDone : pool.IsDone) : pool.entries = pool.log.entries := by
  have nothing : pool.tasks.flatMap Task.entries = [] := by
    rw [List.flatMap_eq_nil_iff]
    intro task member
    rw [Task.entries, isDone task member, List.map_nil]
  rw [entries, nothing, List.append_nil]

/-! ## One file after the other -/

/-- What is logged of one report after the other is what all tasks have to log. -/
theorem entries_ofReports (reports : List (Report × List Diagnostic)) :
    (ofReports reports).entries = (Summary.ofReports reports).log.entries := by
  have gathers (log : Log) :
      (reports.foldl (fun log (report, diagnostics) =>
          log.pushAll (some report.path) diagnostics) log).entries =
        log.entries ++ (ofReports reports).tasks.flatMap Task.entries := by
    induction reports generalizing log with
    | nil => exact (List.append_nil _).symm
    | cons report reports inductionHypothesis =>
      rw [List.foldl_cons, inductionHypothesis]
      exact List.append_assoc _ _ _
  exact (gathers .empty).symm

theorem reports_ofReports (reports : List (Report × List Diagnostic)) :
    (ofReports reports).summary.reports = (Summary.ofReports reports).reports :=
  List.map_map

/-- The first task that is not done can have its turns until it is. -/
theorem run_replicate (front back : List Task) (report : Report) (diagnostics : List Diagnostic)
    (log : Log) :
    run ⟨front ++ ⟨report, diagnostics⟩ :: back, log⟩
        (List.replicate diagnostics.length front.length) =
      ⟨front ++ ⟨report, []⟩ :: back, log.pushAll (some report.path) diagnostics⟩ := by
  induction diagnostics generalizing log with
  | nil => exact congrArg (Pool.mk _ ⟨·⟩) (List.append_nil _).symm
  | cons diagnostic later inductionHypothesis =>
    have turned :
        turn ⟨front ++ ⟨report, diagnostic :: later⟩ :: back, log⟩ front.length =
          ⟨front ++ ⟨report, later⟩ :: back, log.push (some report.path) diagnostic⟩ := by
      simp [turn]
    rw [List.length_cons, List.replicate_succ, run, List.foldl_cons, turned]
    exact (inductionHypothesis _).trans (by simp [Log.push, Log.pushAll])

/-- Behind tasks that are done, the others can have their turns one after the other. -/
theorem exists_run_behind (reports : List (Report × List Diagnostic)) (front : List Task)
    (log : Log) (done : ∀ task ∈ front, task.pending = []) :
    ∃ turns, (run ⟨front ++ (ofReports reports).tasks, log⟩ turns).IsDone ∧
      (run ⟨front ++ (ofReports reports).tasks, log⟩ turns).log =
        reports.foldl (fun log (report, diagnostics) =>
          log.pushAll (some report.path) diagnostics) log := by
  induction reports generalizing front log with
  | nil =>
    refine ⟨[], ?_, rfl⟩
    change ∀ task ∈ front ++ [], task.pending = []
    rw [List.append_nil]
    exact done
  | cons first reports inductionHypothesis =>
    rcases first with ⟨report, diagnostics⟩
    have doneWithFirst : ∀ task ∈ front ++ [⟨report, []⟩], task.pending = [] := by
      simpa [or_imp, forall_and] using done
    rcases inductionHypothesis (front ++ [⟨report, []⟩])
      (log.pushAll (some report.path) diagnostics) doneWithFirst with ⟨turns, isDone, logged⟩
    have behindFirst :
        run ⟨front ++ (ofReports ((report, diagnostics) :: reports)).tasks, log⟩
            (List.replicate diagnostics.length front.length ++ turns) =
          run ⟨front ++ [⟨report, []⟩] ++ (ofReports reports).tasks,
            log.pushAll (some report.path) diagnostics⟩ turns := by
      rw [run, List.foldl_append, List.append_assoc]
      exact congrArg (run · turns) (run_replicate front _ report diagnostics log)
    refine ⟨List.replicate diagnostics.length front.length ++ turns, ?_, ?_⟩
    · rw [behindFirst]
      exact isDone
    · rw [behindFirst]
      exact logged

/-- Scanning one file after the other is one of the orders in which tasks can have their turns. -/
theorem exists_run_ofReports (reports : List (Report × List Diagnostic)) :
    ∃ turns, ((ofReports reports).run turns).IsDone ∧
      ((ofReports reports).run turns).log = (Summary.ofReports reports).log :=
  exists_run_behind reports [] .empty (fun _ member => nomatch member)

/-! ## Every order comes to the same -/

variable {options : Options} {read : String → Except ReadFailure String}

/-- An entry bears the path of a file and a diagnostic about it. -/
theorem source_of_mem_entries {entry : LogEntry}
    (member : entry ∈ (ofOptions options read).entries) :
    ∃ path, entry.source = some path ∧
      entry.diagnostic ∈ (Report.ofFile read options.showTokens options.symbols path).2 := by
  change entry ∈ List.flatMap Task.entries _ at member
  simp only [ofOptions, ofReports, List.map_map, List.mem_flatMap, List.mem_map] at member
  rcases member with ⟨_, ⟨path, _, rfl⟩, isEntry⟩
  rcases List.mem_map.mp isEntry with ⟨diagnostic, reported, rfl⟩
  exact ⟨path, congrArg some (Report.path_ofFile read _ _ path), reported⟩

/-- Entries about one place are the same, also if two tasks log them. -/
theorem eq_of_isOrdered {first second : LogEntry}
    (isFirst : first ∈ (ofOptions options read).entries)
    (isSecond : second ∈ (ofOptions options read).entries)
    (early : first.isOrdered second = true) (late : second.isOrdered first = true) :
    first = second := by
  rcases source_of_mem_entries isFirst with ⟨path, source, reported⟩
  rcases source_of_mem_entries isSecond with ⟨other, otherSource, otherReported⟩
  rcases LogEntry.place_eq_of_isOrdered early late with ⟨sameSource, sameStart⟩
  have samePath : path = other := by
    rw [source, otherSource] at sameSource
    exact Option.some.inj sameSource
  subst samePath
  have ascend := Report.ascend_ofFile read options.showTokens options.symbols path
  rcases first with ⟨_, diagnostic⟩
  rcases second with ⟨_, otherDiagnostic⟩
  have sameDiagnostic : diagnostic = otherDiagnostic :=
    ascend.eq_of_start reported otherReported sameStart
  rw [LogEntry.mk.injEq]
  exact ⟨sameSource, sameDiagnostic⟩

end Pool

/-- What is shown of two summaries is the same. -/
structure Summary.SameOutcome (summary other : Summary) : Prop where
  reports : summary.reports = other.reports
  diagnostics : summary.log.sorted = other.log.sorted
  errorCount : summary.log.errorCount = other.log.errorCount
  warningCount : summary.log.warningCount = other.log.warningCount

/-- The counts of a summary are those of the diagnostics that are shown. -/
structure Summary.CountsShown (summary : Summary) : Prop where
  errors : summary.log.errorCount =
    (summary.log.sorted.filter (·.diagnostic.severity == .error)).length
  warnings : summary.log.warningCount =
    (summary.log.sorted.filter (·.diagnostic.severity == .warning)).length

end HeaderScan
