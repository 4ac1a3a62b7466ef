import AbcMetric.Proofs.EffectivePatterns
import AbcMetric.Proofs.Printing
import AbcMetric.Proofs.Resolution
import AbcMetric.Proofs.Summaries
import AbcMetric.Proofs.Traces

/-!
# When a run fails

A run goes through its checks in order: the path, the exclusions, the files found, the format of the
report, the paths in it. The first that fails is the fault of the run, and then only a complaint is
printed. What the files hold plays no part: a file that cannot be read or parsed has its own entry
in the report.

* `RunPlan.of` is what a run goes by: its options over the settings of its project.
* `RunPlan.Fails`: the complaint of the first check that fails.
* `Enters`: the entry of a file in a report, as the file alone decides it.
* `execute_outcome`: the command prints the complaint of its plan, or a report with one entry for
  each file.
* `execute_fails_otherwise`: not every fault is of the path, a pattern, the files or the format.
-/

namespace AbcMetric

/-! ## Plans -/

/-- What a run goes by. -/
structure RunPlan where
  path : String
  exclude : Exclusion
  sort : Bool
  analysis : AnalysisOptions
  format : String

namespace RunPlan

/-- The options, and the settings of the project where these say nothing. -/
def of (cwd : Place) (options : RunOptions) : RunPlan :=
  let path := options.path.getD "."
  let settings := (loadSettings cwd (settingsDirectory cwd path)).1
  { path
    exclude := settings.exclude
    sort := options.sort || settings.defaults.sort.getD false
    analysis := ⟨options.debug, options.verbose || settings.defaults.verbose.getD false⟩
    format := (options.format.or settings.defaults.format).getD "text" }

/-- What is collected, or why nothing is. -/
def collected (plan : RunPlan) (host : Host) (cwd : Place) : Except CollectFault Collection :=
  collect plan.exclude cwd plan.path host

/-- The files that are collected. -/
def files (plan : RunPlan) (host : Host) (cwd : Place) : List String :=
  match plan.collected host cwd with
  | .ok found => found.files
  | .error _ => []

/-- The checks of a run and their complaints. Each check is made only if those before it have
passed; exclusions are of no account where the path is a file. -/
inductive Fails (plan : RunPlan) (host : Host) (cwd : Place) : String → Prop
  /-- The path leads nowhere. -/
  | missing (file : cwd.isFile plan.path = false) (directory : cwd.isDirectory plan.path = false) :
      Fails plan host cwd (complaint ("Path does not exist: " ++ plan.path))
  /-- A pattern is malformed. -/
  | malformed {bad : BadPattern} (directory : cwd.isDirectory plan.path = true)
      (first : FirstBad plan.exclude.patterns bad) :
      Fails plan host cwd (complaintFrom ("Invalid glob: " ++ bad.pattern)
        ("error parsing glob '" ++ bad.pattern ++ "': " ++ bad.fault.reason))
  /-- The patterns are valid, but the builder refuses their globs. -/
  | refused {fault : BuildFault} (directory : cwd.isDirectory plan.path = true)
      (valid : ∀ p ∈ plan.exclude.patterns, ValidPattern p)
      (builds : host.builder.fault? plan.exclude.parsed = some fault) :
      Fails plan host cwd (complaintFrom "Failed to build globset" fault.message)
  /-- There is no file. -/
  | noFiles {found : Collection} (collected : plan.collected host cwd = .ok found)
      (none : found.files = []) :
      Fails plan host cwd (complaint ("No Python files found in " ++ plan.path))
  /-- The format has no such name. -/
  | format {found : Collection} (collected : plan.collected host cwd = .ok found)
      (some : found.files ≠ []) (unknown : OutputFormat.ofName? plan.format = none) :
      Fails plan host cwd
        (complaint ("Unknown format '" ++ plan.format ++ "'. Valid formats: text, json"))
  /-- The report is JSON, and a path in it is not text. -/
  | notText {found : Collection} {path : String} (collected : plan.collected host cwd = .ok found)
      (json : OutputFormat.ofName? plan.format = some .json) (mem : path ∈ found.files)
      (bytes : host.isText path = false) :
      Fails plan host cwd (complaint "path contains invalid UTF-8 characters")

end RunPlan

/-! ## Entries of a report -/

/-- The entry of a file in a report: what reading and parsing the file lead to. -/
inductive Enters (host : Host) (cwd : Place) (options : AnalysisOptions) (path : String) :
    FileResult → Prop
  | unreadable {fault : ReadFault} (read : cwd.read path = .error fault) :
      Enters host cwd options path
        ⟨path, .unreadable s!"Failed to read {path}: {fault.message}", none, none⟩
  | unparseable {source : String} {fault : Fault} (read : cwd.read path = .ok source)
      (parse : parseModule source host.names = .error fault) :
      Enters host cwd options path
        ⟨path, .unparseable s!"Unable to parse {path}: {fault.message}", none, none⟩
  | analyzed {source : String} {body : List Stmt} {vector : AbcVector}
      {listing debug : Option String} (read : cwd.read path = .ok source)
      (parse : parseModule source host.names = .ok body)
      (count : ∀ k, vector.count k = constructCount k (occurrences body))
      (listed : listing.isSome = options.verbose) (debugged : debug.isSome = options.debug) :
      Enters host cwd options path ⟨path, .analyzed vector, listing, debug⟩

/-- What a file adds to a counter: nothing, unless it can be read and parsed. -/
def fileCount (host : Host) (cwd : Place) (k : Counter) (path : String) : Nat :=
  match cwd.read path with
  | .error _ => 0
  | .ok source =>
    match parseModule source host.names with
    | .error _ => 0
    | .ok body => constructCount k (occurrences body)

/-- What the files together count fits the counters. -/
def FilesFit (host : Host) (cwd : Place) (files : List String) : Prop :=
  ∀ k, (files.map (fileCount host cwd k)).sum < UInt32.size

/-- **The metric of a module whose counts fit.** -/
theorem analyzeBody_ok (source : String) {body : List Stmt} (options : AnalysisOptions)
    (h : ∀ k, constructCount k (occurrences body) < UInt32.size) :
    ∃ a, analyzeBody source body options = .ok a ∧
      (∀ k, a.vector.count k = constructCount k (occurrences body)) ∧
      a.listing.isSome = options.verbose ∧ a.debug.isSome = options.debug := by
  obtain ⟨t, ht, -, hcount⟩ := tally_ok_of_count (.ofSource source) h
  obtain ⟨text, htext⟩ : ∃ text, debugText (.ofSource source) body = .ok text :=
    ⟨_, debugText_of_trace (trace_eq (.ofSource source) body)⟩
  refine ⟨⟨t.total, t.sorted, if options.verbose then some (annotate source t.sorted) else none,
    if options.debug then some text else none, body.length⟩, ?_, hcount, ?_, ?_⟩
  · unfold analyzeBody
    dsimp only
    rw [ht, htext]
    cases options.debug <;> rfl
  · cases options.verbose <;> rfl
  · cases options.debug <;> rfl

section

variable {host : Host} {cwd : Place} {path source : String} (options : AnalysisOptions)

theorem analyzeFile_unreadable {fault : ReadFault} (hread : cwd.read path = .error fault) :
    analyzeFile cwd path options host = .error (.file (.unreadable path fault.message)) := by
  rw [analyzeFile, hread]
  rfl

theorem analyzeFile_unparseable {fault : Fault} (hread : cwd.read path = .ok source)
    (hparse : parseModule source host.names = .error fault) :
    analyzeFile cwd path options host = .error (.file (.unparseable path fault.message)) := by
  have hanalyze : analyze source options host.names = .error (.parse fault) := by
    rw [analyze, hparse]
    rfl
  rw [analyzeFile, hread]
  show analyzeText path source options host = _
  rw [analyzeText, hanalyze]
  rfl

theorem analyzeFile_analyzed {body : List Stmt} {a : Analysis} (hread : cwd.read path = .ok source)
    (hparse : parseModule source host.names = .ok body)
    (ha : analyzeBody source body options = .ok a) :
    analyzeFile cwd path options host = .ok a := by
  have hanalyze : analyze source options host.names = .ok a := by
    rw [analyze, hparse]
    show (analyzeBody source body options).mapError _ = _
    rw [ha]
    rfl
  rw [analyzeFile, hread]
  show analyzeText path source options host = _
  rw [analyzeText, hanalyze]
  rfl

/-- **A file whose counts fit has an entry**, which adds what the file counts. -/
theorem fileResult_ok (h : ∀ k, fileCount host cwd k path < UInt32.size) :
    ∃ r entry, fileResult host cwd options path = .ok (r, entry) ∧ Enters host cwd options path r ∧
      ∀ k, r.counted k = fileCount host cwd k path := by
  unfold fileResult
  cases hread : cwd.read path with
  | error fault =>
    rw [analyzeFile_unreadable options hread]
    refine ⟨_, _, rfl, .unreadable hread, fun k => ?_⟩
    rw [fileCount, hread]
    rfl
  | ok source =>
    cases hparse : parseModule source host.names with
    | error fault =>
      rw [analyzeFile_unparseable options hread hparse]
      refine ⟨_, _, rfl, .unparseable hread hparse, fun k => ?_⟩
      simp only [fileCount, hread, hparse]
      rfl
    | ok body =>
      simp only [fileCount, hread, hparse] at h ⊢
      obtain ⟨a, ha, hcount, hlisting, hdebug⟩ := analyzeBody_ok source options h
      rw [analyzeFile_analyzed options hread hparse ha]
      exact ⟨_, _, rfl, .analyzed hread hparse hcount hlisting hdebug, hcount⟩

end

/-! ## Reports -/

section

variable {host : Host} {cwd : Place} (options : AnalysisOptions)

theorem FilesFit.of_cons {path : String} {files : List String}
    (h : FilesFit host cwd (path :: files)) :
    (∀ k, fileCount host cwd k path < UInt32.size) ∧ FilesFit host cwd files := by
  have hsum : ∀ k, fileCount host cwd k path + (files.map (fileCount host cwd k)).sum <
      UInt32.size := h
  exact ⟨fun k => Nat.lt_of_le_of_lt (Nat.le_add_right _ _) (hsum k),
    fun k => Nat.lt_of_le_of_lt (Nat.le_add_left _ _) (hsum k)⟩

/-- **Every file has its entry**, whatever the other files hold. -/
theorem fileResults_ok {files : List String} (h : FilesFit host cwd files) :
    ∃ results, files.mapM (fileResult host cwd options) = .ok results ∧
      List.Forall₂ (Enters host cwd options) files (results.map (·.1)) ∧
      ∀ k, ((results.map (·.1)).map (FileResult.counted k)).sum =
        (files.map (fileCount host cwd k)).sum := by
  induction files with
  | nil => exact ⟨[], rfl, .nil, fun k => rfl⟩
  | cons path files ih =>
    obtain ⟨hpath, hfiles⟩ := h.of_cons
    obtain ⟨r, entry, hr, henters, hcount⟩ := fileResult_ok options hpath
    obtain ⟨results, hresults, hall, hsum⟩ := ih hfiles
    refine ⟨(r, entry) :: results, ?_, .cons henters hall, fun k => ?_⟩
    · rw [List.mapM_cons, hr, hresults]
      rfl
    · simp only [List.map_cons, List.sum_cons, hcount, hsum]

/-- **Files whose counts fit are reported on**, with one entry for each of them. -/
theorem reportOn_ok {files : List String} (sort : Bool) (h : FilesFit host cwd files) :
    ∃ report log results, reportOn host cwd options sort files = .ok (report, log) ∧
      List.Forall₂ (Enters host cwd options) files results ∧
      Summary.ofResults results = .ok report.summary ∧
      if sort then report.files.Perm results else report.files = results := by
  obtain ⟨results, hresults, hall, hsum⟩ := fileResults_ok options h
  obtain ⟨summary, hsummary, -⟩ : ∃ s, Summary.ofResults (results.map (·.1)) = .ok s ∧ _ := by
    refine Summary.ofResults_ok fun k => ?_
    rw [resultSum, hsum]
    exact h k
  have hreport : Report.ofFiles (results.map (·.1)) = .ok ⟨results.map (·.1), summary⟩ := by
    rw [Report.ofFiles, hsummary]
    rfl
  obtain ⟨log, hlog⟩ : ∃ log, reportOn host cwd options sort files =
      .ok (if sort then Report.sortByMagnitude ⟨results.map (·.1), summary⟩
        else ⟨results.map (·.1), summary⟩, log) := by
    rw [reportOn, hresults]
    show ∃ log, (Report.ofFiles (results.map (·.1)) >>= _) = _
    rw [hreport]
    exact ⟨_, rfl⟩
  refine ⟨_, log, results.map (·.1), hlog, hall, ?_, ?_⟩
  · cases sort <;> exact hsummary
  · cases sort
    · rfl
    · exact List.mergeSort_perm _ _

end

/-! ## Collecting -/

section

variable (e : Exclusion) (host : Host) {cwd : Place} {path : String}

theorem collect_missing (hcwd : cwd.Grounded) (hfile : cwd.isFile path = false)
    (hdir : cwd.isDirectory path = false) : collect e cwd path host = .error (.missing path) := by
  rw [collect_eq, if_neg (by simp [hfile])]
  cases hresolve : cwd.resolve path with
  | error fault => rfl
  | ok q =>
    rcases hcwd.isFile_or_isDirectory hresolve with h | h
    · exact absurd (hfile.symm.trans h) (by simp)
    · exact absurd (hdir.symm.trans h) (by simp)

/-- A path to a directory is sifted unless the exclusions have a fault. -/
theorem collect_directory (h : cwd.isDirectory path = true) :
    match e.fault? host.builder with
    | some fault => collect e cwd path host = .error (.exclusion fault)
    | none => ∃ found, collect e cwd path host = .ok found := by
  obtain ⟨root, hroot⟩ : ∃ root, cwd.resolve path = .ok root := by
    unfold Place.isDirectory at h
    split at h
    · exact ⟨_, by assumption⟩
    · exact absurd h (by simp)
  have hfile : cwd.isFile path = false := Place.isFile_of_isDirectory h
  rw [collect_eq, if_neg (by simp [hfile]), hroot]
  dsimp only
  cases e.fault? host.builder with
  | some fault => rfl
  | none => exact ⟨_, rfl⟩

end

/-! ## Runs -/

namespace RunPlan

/-- What a run by the plan prints, or why it prints nothing. -/
def result (plan : RunPlan) (host : Host) (cwd : Place) (color : Bool) : Except RunFault String :=
  match plan.collected host cwd with
  | .error fault => .error (.ofCollect fault)
  | .ok found =>
    if found.files = [] then .error (.noFiles plan.path)
    else
      match reportOn host cwd plan.analysis plan.sort found.files with
      | .error fault => .error (.count fault)
      | .ok (report, _) =>
        match OutputFormat.ofName? plan.format with
        | none => .error (.format plan.format)
        | some f =>
          match report.print host.isText color f with
          | .error fault => .error (.render fault)
          | .ok text => .ok (endLine text)

end RunPlan

/-- A run goes by its plan. -/
theorem run_result (host : Host) (cwd : Place) (color : Bool) (options : RunOptions) :
    (run host cwd color options).result = (RunPlan.of cwd options).result host cwd color := by
  unfold run RunPlan.result RunPlan.collected RunPlan.of
  dsimp only
  -- the same branches on either side, and only the run has a log
  generalize loadSettings cwd (settingsDirectory cwd (options.path.getD ".")) = loaded
  cases collect loaded.1.exclude cwd (options.path.getD ".") host with
  | error fault => rfl
  | ok found =>
    dsimp only
    by_cases hnil : found.files = []
    · rw [if_pos hnil, if_pos (List.isEmpty_iff.mpr hnil)]
    · rw [if_neg hnil, if_neg (by simpa using hnil)]
      cases reportOn host cwd _ _ found.files with
      | error fault => rfl
      | ok made =>
        dsimp only
        cases OutputFormat.ofName? _ with
        | none => rfl
        | some f =>
          dsimp only
          cases made.1.print host.isText color f <;> rfl

section

variable {host : Host} {cwd : Place} {color : Bool} {options : RunOptions} {arguments : List String}
  (hargs : Command.ofArguments arguments = .ok (.run options))

include hargs

theorem execute_ok {output : String}
    (h : (RunPlan.of cwd options).result host cwd color = .ok output) :
    ∃ log, execute cwd color arguments host = ⟨0, output, none, log⟩ := by
  unfold execute
  simp only [hargs, run_result, h]
  exact ⟨_, rfl⟩

theorem execute_error {fault : RunFault}
    (h : (RunPlan.of cwd options).result host cwd color = .error fault) :
    ∃ log, execute cwd color arguments host =
      ⟨fault.exitCode, "", some s!"Error: {fault.message}\n", log⟩ := by
  unfold execute
  simp only [hargs, run_result, h]
  exact ⟨_, rfl⟩

end

/-- The report has one entry for each of the files: in their order, or sorted. -/
def ReportsOn (host : Host) (cwd : Place) (plan : RunPlan) (report : Report) : Prop :=
  ∃ results, List.Forall₂ (Enters host cwd plan.analysis) (plan.files host cwd) results ∧
    Summary.ofResults results = .ok report.summary ∧
    if plan.sort then report.files.Perm results else report.files = results

theorem Enters.path {host : Host} {cwd : Place} {options : AnalysisOptions} {path : String}
    {r : FileResult} (h : Enters host cwd options path r) : r.path = path := by
  cases h <;> rfl

/-- The paths of a report are those of the files. -/
theorem ReportsOn.paths {host : Host} {cwd : Place} {plan : RunPlan} {report : Report}
    (h : ReportsOn host cwd plan report) :
    (report.files.map FileResult.path).Perm (plan.files host cwd) := by
  obtain ⟨results, hall, -, hfiles⟩ := h
  have hpaths : results.map FileResult.path = plan.files host cwd := by
    clear hfiles
    generalize plan.files host cwd = files at hall
    induction hall with
    | nil => rfl
    | cons hr _ ih => rw [List.map_cons, hr.path, ih]
  rw [← hpaths]
  split at hfiles
  · exact hfiles.map _
  · rw [hfiles]

namespace RunPlan

variable {plan : RunPlan} {host : Host} {cwd : Place} {color : Bool}

section

variable {found : Collection} (hfound : plan.collected host cwd = .ok found)

include hfound

theorem files_eq : plan.files host cwd = found.files := by
  rw [files, hfound]

theorem result_noFiles (hnil : found.files = []) :
    plan.result host cwd color = .error (.noFiles plan.path) := by
  rw [result, hfound]
  exact if_pos hnil

/-- A run on some files has a report, which is printed if the format has a name. -/
theorem result_reported (color : Bool) (hne : found.files ≠ [])
    (hfit : FilesFit host cwd (plan.files host cwd)) :
    ∃ report, ReportsOn host cwd plan report ∧ report.files ≠ [] ∧
      plan.result host cwd color =
        match OutputFormat.ofName? plan.format with
        | none => .error (.format plan.format)
        | some f =>
          match report.print host.isText color f with
          | .error fault => .error (.render fault)
          | .ok text => .ok (endLine text) := by
  obtain ⟨report, log, results, hreport, hentries⟩ := reportOn_ok plan.analysis plan.sort hfit
  have hon : ReportsOn host cwd plan report := ⟨results, hentries⟩
  refine ⟨report, hon, fun hnil => ?_, ?_⟩
  · -- the paths of the report are the files, so a report without entries has none
    have hpaths := hon.paths
    rw [hnil, files_eq hfound] at hpaths
    exact hne (List.nil_perm.mp hpaths)
  · rw [files_eq hfound] at hreport
    rw [result, hfound]
    dsimp only
    rw [if_neg hne, hreport]

end

/-- Whether a report is printed: JSON is refused if the path of a file is not text. -/
theorem print_of_reportsOn {report : Report} (hon : ReportsOn host cwd plan report)
    (f : OutputFormat) :
    report.print host.isText color f =
      if f = .json ∧ ∃ path ∈ plan.files host cwd, host.isText path = false then
        .error .pathNotText
      else .ok (report.render color f) := by
  have hpaths : (∃ file ∈ report.files, host.isText file.path = false) ↔
      ∃ path ∈ plan.files host cwd, host.isText path = false := by
    simp only [← hon.paths.mem_iff, List.mem_map, exists_exists_and_eq_and]
  unfold Report.print
  simp only [hpaths]

end RunPlan

/-! ## Faults -/

namespace RunPlan

variable {plan : RunPlan} {host : Host} {cwd : Place} {color : Bool}

/-- The plan ends with a complaint. -/
def EndsWith (plan : RunPlan) (host : Host) (cwd : Place) (color : Bool) (complaint : String) :
    Prop :=
  ∃ fault, plan.result host cwd color = .error fault ∧ fault.exitCode = 1 ∧
    s!"Error: {fault.message}\n" = complaint

/-- A fault of the exclusions ends the run on a directory. -/
theorem endsWith_exclusion (fault : ExclusionFault) (hdir : cwd.isDirectory plan.path = true)
    (hfault : plan.exclude.globs host.builder = .error fault) :
    plan.EndsWith host cwd color (complaintFrom fault.summary fault.cause) := by
  have hcollect := collect_directory plan.exclude host hdir
  rw [Exclusion.globs_eq_error_iff.mp hfault] at hcollect
  refine ⟨.exclusion fault, ?_, rfl, complaintFrom_eq fault⟩
  rw [result, collected, hcollect]
  rfl

/-- **A check that fails ends the run with its complaint.** -/
theorem Fails.endsWith {complaint : String} (h : plan.Fails host cwd complaint) (color : Bool)
    (hcwd : cwd.Grounded) (hfit : FilesFit host cwd (plan.files host cwd)) :
    plan.EndsWith host cwd color complaint := by
  cases h with
  | missing hfile hdir =>
    refine ⟨.missing plan.path, ?_, rfl, complaint_eq _⟩
    rw [result, collected, collect_missing _ _ hcwd hfile hdir]
    rfl
  | @malformed bad hdir hfirst =>
    exact endsWith_exclusion (.pattern bad) hdir
      (Exclusion.globs_eq_pattern_iff.mpr hfirst)
  | @refused fault hdir hvalid hbuilds =>
    exact endsWith_exclusion (.build fault) hdir
      (Exclusion.globs_eq_build_iff.mpr ⟨hvalid, hbuilds⟩)
  | noFiles hfound hnil =>
    exact ⟨.noFiles plan.path, result_noFiles hfound hnil, rfl, complaint_eq _⟩
  | format hfound hne hunknown =>
    obtain ⟨report, -, -, hresult⟩ := result_reported hfound color hne hfit
    rw [hunknown] at hresult
    exact ⟨.format plan.format, hresult, rfl, complaint_eq _⟩
  | notText hfound hjson hmem hbytes =>
    obtain ⟨report, hon, -, hresult⟩ :=
      result_reported hfound color (List.ne_nil_of_mem hmem) hfit
    rw [hjson] at hresult
    dsimp only at hresult
    rw [print_of_reportsOn hon, files_eq hfound, if_pos ⟨rfl, _, hmem, hbytes⟩] at hresult
    exact ⟨.render .pathNotText, hresult, rfl, complaint_eq _⟩

/-- What a path that leads somewhere leads to is collected, unless the exclusions have a fault. -/
theorem exists_collected (h : ¬ ∃ complaint, plan.Fails host cwd complaint) :
    ∃ found, plan.collected host cwd = .ok found := by
  by_cases hdir : cwd.isDirectory plan.path = true
  · have hcollect := collect_directory plan.exclude host hdir
    cases hfault : plan.exclude.fault? host.builder with
    | none =>
      rw [hfault] at hcollect
      exact hcollect
    | some fault =>
      refine absurd ?_ h
      cases fault with
      | pattern bad =>
        exact ⟨_, .malformed hdir
          (Exclusion.globs_eq_pattern_iff.mp (Exclusion.globs_eq_error_iff.mpr hfault))⟩
      | build fault =>
        obtain ⟨hvalid, hbuilds⟩ :=
          Exclusion.globs_eq_build_iff.mp (Exclusion.globs_eq_error_iff.mpr hfault)
        exact ⟨_, .refused hdir hvalid hbuilds⟩
  · have hdir : cwd.isDirectory plan.path = false := Bool.eq_false_iff.mpr hdir
    cases hfile : cwd.isFile plan.path with
    | false => exact absurd ⟨_, .missing hfile hdir⟩ h
    | true =>
      refine ⟨⟨[plan.path], []⟩, ?_⟩
      rw [collected, collect_eq, if_pos hfile]

/-- **If no check fails, the report is printed.** -/
theorem result_ok (color : Bool) (h : ¬ ∃ complaint, plan.Fails host cwd complaint)
    (hfit : FilesFit host cwd (plan.files host cwd)) :
    ∃ f report output, OutputFormat.ofName? plan.format = some f ∧
      ReportsOn host cwd plan report ∧ Prints color report f output ∧
      plan.result host cwd color = .ok output := by
  obtain ⟨found, hfound⟩ := exists_collected h
  have hne : found.files ≠ [] := fun hnil => h ⟨_, .noFiles hfound hnil⟩
  obtain ⟨report, hon, hsome, hresult⟩ := result_reported hfound color hne hfit
  cases hformat : OutputFormat.ofName? plan.format with
  | none => exact absurd ⟨_, .format hfound hne hformat⟩ h
  | some f =>
    have htext : ¬ (f = .json ∧ ∃ path ∈ plan.files host cwd, host.isText path = false) := by
      rintro ⟨rfl, path, hmem, hbytes⟩
      rw [files_eq hfound] at hmem
      exact h ⟨_, .notText hfound hformat hmem hbytes⟩
    rw [hformat] at hresult
    dsimp only at hresult
    rw [print_of_reportsOn hon, if_neg htext] at hresult
    exact ⟨f, report, _, rfl, hon, prints_render hsome color f, hresult⟩

end RunPlan

/-- **A run fails iff one of its checks does, and with the complaint of that check.** For a command
line that asks for a run, from a place in a file tree and with files whose counts fit: if a check
fails, the command prints its complaint on the error output and nothing else. Otherwise it succeeds,
whatever the files hold, and prints a report with one entry for each file, in the order of discovery
or, if sorted, in some other order. -/
theorem execute_outcome (host : Host) (cwd : Place) (color : Bool) (arguments : List String)
    (options : RunOptions) (hargs : Command.ofArguments arguments = .ok (.run options))
    (hcwd : cwd.Grounded)
    (hfit : FilesFit host cwd ((RunPlan.of cwd options).files host cwd)) :
    let plan := RunPlan.of cwd options
    (∀ complaint, plan.Fails host cwd complaint →
      ∃ log, execute cwd color arguments host = ⟨1, "", some complaint, log⟩) ∧
    ((¬ ∃ complaint, plan.Fails host cwd complaint) →
      ∃ f report output log, OutputFormat.ofName? plan.format = some f ∧
        ReportsOn host cwd plan report ∧ Prints color report f output ∧
        execute cwd color arguments host = ⟨0, output, none, log⟩) := by
  intro plan
  constructor
  · intro complaint hfails
    obtain ⟨fault, hresult, hcode, hmessage⟩ := hfails.endsWith color hcwd hfit
    rw [← hcode, ← hmessage]
    exact execute_error hargs hresult
  · intro hpasses
    obtain ⟨f, report, output, hformat, hon, hprints, hresult⟩ :=
      RunPlan.result_ok color hpasses hfit
    obtain ⟨log, hlog⟩ := execute_ok hargs hresult
    exact ⟨f, report, output, log, hformat, hon, hprints, hlog⟩

/-- A directory with a file that cannot be parsed. -/
def brokenDirectory : Place := ⟨.directory [("bad.py", .file "def broken(:\n".toUTF8)], []⟩

/-- A sorted run on that file succeeds. -/
theorem execute_outcome_broken :
    let options : RunOptions := { path := some "bad.py", sort := true }
    ∃ f report output log,
      OutputFormat.ofName? (RunPlan.of brokenDirectory options).format = some f ∧
        ReportsOn {} brokenDirectory (RunPlan.of brokenDirectory options) report ∧
        Prints false report f output ∧
        execute brokenDirectory false ["--sort", "bad.py"] = ⟨0, output, none, log⟩ := by
  intro options
  have hfit : FilesFit {} brokenDirectory
      ((RunPlan.of brokenDirectory options).files {} brokenDirectory) := by
    intro k
    cases k <;> decide +kernel
  have hcollected : (RunPlan.of brokenDirectory options).collected {} brokenDirectory =
      .ok ⟨["bad.py"], []⟩ := by
    decide +kernel
  have hpasses : ¬ ∃ complaint,
      (RunPlan.of brokenDirectory options).Fails {} brokenDirectory complaint := by
    rintro ⟨complaint, hfails⟩
    cases hfails with
    | missing hfile => exact absurd hfile (by decide +kernel)
    | malformed hdir | refused hdir => exact absurd hdir (by decide +kernel)
    | noFiles hfound hnil =>
      rw [hcollected] at hfound
      cases hfound
      exact absurd hnil (by simp)
    | format _ _ hunknown => exact absurd hunknown (by decide +kernel)
    | notText _ _ _ hbytes => exact absurd hbytes (by simp)
  exact (execute_outcome {} brokenDirectory false ["--sort", "bad.py"] options rfl
    ⟨rfl, List.forall_mem_nil _⟩ hfit).2 hpasses

/-! ## Faults besides -/

/-- A directory whose settings exclude what a character in so many groups matches. -/
def nestedDirectory (depth : Nat) : Place :=
  ⟨.directory [("python-abc.toml", .file (nestedSettings depth).toUTF8),
    ("x.py", .file "x = 1\n".toUTF8)], []⟩

section

variable (depth : Nat)

theorem loadSettings_nestedDirectory :
    (loadSettings (nestedDirectory (depth + 1)) ".").1 =
      { exclude := nestedExclusion (depth + 1) } := by
  have hpath : Path.join "." settingsFileName = "./python-abc.toml" := by decide +kernel
  have hresolve : (nestedDirectory (depth + 1)).resolve "./python-abc.toml" =
      .ok ((nestedDirectory (depth + 1)).child "python-abc.toml"
        (.file (nestedSettings (depth + 1)).toUTF8)) :=
    rfl
  have hread := Place.read_of_resolve hresolve rfl
  simp only [loadSettings, hpath, hresolve, hread, ofText?_nestedSettings]

theorem plan_nestedDirectory :
    RunPlan.of (nestedDirectory (depth + 1)) { path := some "." } =
      ⟨".", nestedExclusion (depth + 1), false, {}, "text"⟩ := by
  have hdirectory : settingsDirectory (nestedDirectory (depth + 1)) "." = "." := rfl
  unfold RunPlan.of
  simp only [Option.getD_some, hdirectory, loadSettings_nestedDirectory]
  rfl

variable {depth}

/-- **A run on such a directory fails**, and its complaint is about no pattern. -/
theorem execute_nestedDirectory (h : nestingLimit ≤ depth + 1) (color : Bool) :
    ∃ log, execute (nestedDirectory (depth + 1)) color ["."] = ⟨1, "", some
      "Error: Failed to build globset\n\nCaused by:\n    error parsing pattern 0\n", log⟩ := by
  have hends : (RunPlan.of (nestedDirectory (depth + 1)) { path := some "." }).EndsWith {}
      (nestedDirectory (depth + 1)) color
      (complaintFrom "Failed to build globset" "error parsing pattern 0") := by
    have hdir : (nestedDirectory (depth + 1)).isDirectory "." = true := rfl
    rw [plan_nestedDirectory]
    exact RunPlan.endsWith_exclusion (.build ⟨none, .syntaxAt 0⟩) hdir
      (globs_nestedPattern h)
  obtain ⟨fault, hresult, hcode, hmessage⟩ := hends
  have htext : complaintFrom "Failed to build globset" "error parsing pattern 0" =
      "Error: Failed to build globset\n\nCaused by:\n    error parsing pattern 0\n" := by
    decide +kernel
  obtain ⟨log, hlog⟩ := execute_error (show Command.ofArguments ["."] = .ok _ from rfl) hresult
  refine ⟨log, hlog.trans ?_⟩
  rw [hcode, hmessage, htext]

end

/-- A directory with a file whose name is not text, and how the name is shown. -/
def bytesDirectory : Place := ⟨.directory [("\ufffd.py", .file "x = 1\n".toUTF8)], []⟩

/-- Names are text unless they are shown with a replacement character. -/
def bytesHost : Host := { isText := fun path => !path.toList.contains '\ufffd' }

/-- **A run may fail although its path is a directory, all patterns are valid, there are files and
the format has a name**: the builder may refuse the globs, and JSON a path that is not text. -/
theorem execute_fails_otherwise :
    let nested := RunPlan.of (nestedDirectory 300) { path := some "." }
    let bytes := RunPlan.of bytesDirectory { format := some "json" }
    ((nestedDirectory 300).isDirectory nested.path = true ∧
      (∀ p ∈ nested.exclude.patterns, ValidPattern p) ∧
      OutputFormat.ofName? nested.format = some .text ∧
      ∃ log, execute (nestedDirectory 300) false ["."] = ⟨1, "", some
        "Error: Failed to build globset\n\nCaused by:\n    error parsing pattern 0\n", log⟩) ∧
    bytesDirectory.isDirectory bytes.path = true ∧
      (∀ p ∈ bytes.exclude.patterns, ValidPattern p) ∧
      bytes.collected bytesHost bytesDirectory = .ok ⟨["./\ufffd.py"], []⟩ ∧
      OutputFormat.ofName? bytes.format = some .json ∧
      ∃ log, execute bytesDirectory false ["--format", "json"] bytesHost =
        ⟨1, "", some "Error: path contains invalid UTF-8 characters\n", log⟩ := by
  intro nested bytes
  constructor
  · have hplan : nested = ⟨".", nestedExclusion 300, false, {}, "text"⟩ := plan_nestedDirectory 299
    rw [hplan]
    exact ⟨rfl, valid_nestedExclusion 300, by decide,
      execute_nestedDirectory (by decide) false⟩
  · have hcollected : bytes.collected bytesHost bytesDirectory = .ok ⟨["./\ufffd.py"], []⟩ := by
      decide +kernel
    have hformat : OutputFormat.ofName? bytes.format = some .json := by decide +kernel
    have hfit : FilesFit bytesHost bytesDirectory (bytes.files bytesHost bytesDirectory) := by
      intro k
      cases k <;> decide +kernel
    have hfails : bytes.Fails bytesHost bytesDirectory
        (complaint "path contains invalid UTF-8 characters") :=
      .notText hcollected hformat List.mem_cons_self (by decide +kernel)
    obtain ⟨fault, hresult, hcode, hmessage⟩ :=
      hfails.endsWith false ⟨rfl, List.forall_mem_nil _⟩ hfit
    have htext : complaint "path contains invalid UTF-8 characters" =
        "Error: path contains invalid UTF-8 characters\n" := by
      decide +kernel
    obtain ⟨log, hlog⟩ :=
      execute_error (show Command.ofArguments ["--format", "json"] = .ok _ from rfl) hresult
    refine ⟨by decide +kernel, ?_, hcollected, hformat, log, hlog.trans ?_⟩
    · exact fun p hp => Exclusion.valid_defaultPatterns hp
    · rw [hcode, hmessage, htext]

end AbcMetric
