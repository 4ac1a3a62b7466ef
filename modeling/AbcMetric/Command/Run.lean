import AbcMetric.Command.Arguments
import AbcMetric.Files.Collect
import AbcMetric.Report.Format
import AbcMetric.Settings

/-!
# Running the command

A run loads the settings of the project, collects its files, analyzes each of them and renders the
report. A file that cannot be read or parsed takes its place in the report and spoils nothing else.

* `analyzeFile` analyzes one file of a tree.
* `run` is a whole run.
* `execute` is the command from its arguments to what it prints.

Premises: the pool of workers is there, and files are analyzed one by one as if in order.
-/

namespace AbcMetric

/-- A message of the log. -/
structure LogEntry where
  level : LogLevel
  message : String
  deriving DecidableEq, Repr

/-- Why a run prints no report. -/
inductive RunFault where
  | missing (path : String)
  | exclusion (fault : ExclusionFault)
  | noFiles (path : String)
  | format (name : String)
  | render (fault : RenderFault)
  | count (fault : CountFault)
  deriving DecidableEq, Repr

/-- A text with its further lines indented by four spaces. -/
def indentLines (text : String) : String :=
  String.ofList (text.toList.flatMap fun c =>
    if c = '\n' then '\n' :: List.replicate 4 ' ' else [c])

/-- The wording of a run fault. -/
def RunFault.message : RunFault → String
  | .missing path => s!"Path does not exist: {path}"
  | .exclusion fault => fault.summary ++ "\n\nCaused by:\n    " ++ indentLines fault.cause
  | .noFiles path => s!"No Python files found in {path}"
  | .format name => OutputFormat.unknownMessage name
  | .render fault => fault.message
  | .count fault => fault.message

/-- The fault of a run without files. -/
def RunFault.ofCollect : CollectFault → RunFault
  | .missing path => .missing path
  | .exclusion fault => .exclusion fault

/-! ## Settings -/

/-- The directory whose settings apply to a path. -/
def settingsDirectory (cwd : Place) (path : String) : String :=
  if cwd.isDirectory path then path else Path.directory path

/-- The settings of a directory and what is logged about them. Without a file, or with one that does
not load, the settings are the default ones. -/
def loadSettings (cwd : Place) (dir : String) : Settings × List LogEntry :=
  let path := Path.join dir settingsFileName
  match cwd.resolve path with
  | .error _ => ({}, [])
  | .ok _ =>
    match cwd.read path with
    | .error fault =>
      let reason := (FileFault.unreadable path fault.message).message
      ({}, [⟨.warn, s!"Failed to load {path}: {reason}"⟩])
    | .ok text =>
      match Settings.ofText? text with
      | some settings => (settings, [⟨.debug, s!"Loaded project config from {path}"⟩])
      | none => ({}, [⟨.warn, s!"Failed to load {path}"⟩])

/-! ## Files -/

/-- Why a file has no metric: a fault of the file, or of counting. -/
inductive AnalyzeFault where
  | file (fault : FileFault)
  | count (fault : CountFault)
  deriving DecidableEq, Repr

/-- The metric of a source text that stands at a path. -/
def analyzeText (path source : String) (options : AnalysisOptions) (host : Host := {}) :
    Except AnalyzeFault Analysis :=
  (analyze source options host.names).mapError fun
    | .parse fault => .file (.unparseable path fault.message)
    | .count fault => .count fault

/-- The metric of a file. -/
def analyzeFile (cwd : Place) (path : String) (options : AnalysisOptions) (host : Host := {}) :
    Except AnalyzeFault Analysis := do
  let source ← (cwd.read path).mapError fun fault => .file (.unreadable path fault.message)
  analyzeText path source options host

/-- The result of a file and what is logged about it. -/
def fileResult (host : Host) (cwd : Place) (options : AnalysisOptions) (path : String) :
    Except CountFault (FileResult × LogEntry) :=
  match analyzeFile cwd path options host with
  | .ok a =>
    .ok (.ofAnalysis path a,
      ⟨.debug, s!"Parsed {path} ({a.statements} top-level statements)"⟩)
  | .error (.file fault) => .ok (.ofFault path fault, ⟨.warn, fault.message⟩)
  | .error (.count fault) => .error fault

/-! ## Runs -/

/-- What a run logged, and the text it prints or why it prints none. -/
structure RunOutcome where
  log : List LogEntry
  result : Except RunFault String

/-- A text that ends its last line. -/
def endLine (text : String) : String :=
  if text.toList.getLast? = some '\n' then text else text ++ "\n"

/-- The report of a run on files, and what is logged about them. -/
def reportOn (host : Host) (cwd : Place) (options : AnalysisOptions) (sort : Bool)
    (files : List String) : Except CountFault (Report × List LogEntry) := do
  let results ← files.mapM (fileResult host cwd options)
  let report ← Report.ofFiles (results.map (·.1))
  let s := report.summary
  let done : LogEntry :=
    ⟨.info, s!"Analyzed {s.analyzed} of {s.files} files ({s.unparseable} unparseable)"⟩
  return (if sort then report.sortByMagnitude else report, results.map (·.2) ++ [done])

/-- A run. -/
def run (host : Host) (cwd : Place) (color : Bool) (options : RunOptions) : RunOutcome :=
  let path := options.path.getD "."
  let (settings, loaded) := loadSettings cwd (settingsDirectory cwd path)
  let sort := options.sort || settings.defaults.sort.getD false
  let verbose := options.verbose || settings.defaults.verbose.getD false
  let format := (options.format.or settings.defaults.format).getD "text"
  match collect settings.exclude cwd path host with
  | .error fault => ⟨loaded, .error (.ofCollect fault)⟩
  | .ok found =>
    let log := loaded ++ found.excluded.map fun path => ⟨.debug, s!"Excluded {path}"⟩
    if found.files.isEmpty then ⟨log, .error (.noFiles path)⟩
    else
      let log := log ++ [⟨.info, s!"Analyzing {found.files.length} files"⟩]
      match reportOn host cwd ⟨options.debug, verbose⟩ sort found.files with
      | .error fault => ⟨log, .error (.count fault)⟩
      | .ok (report, more) =>
        match OutputFormat.ofName? format with
        | none => ⟨log ++ more, .error (.format format)⟩
        | some f =>
          match report.print host.isText color f with
          | .error fault => ⟨log ++ more, .error (.render fault)⟩
          | .ok text => ⟨log ++ more, .ok (endLine text)⟩

/-- What the command leaves behind. -/
structure Execution where
  exitCode : Nat
  output : String
  complaint : Option String
  log : List LogEntry
  deriving DecidableEq, Repr

/-- The exit code of a failed run. -/
def RunFault.exitCode : RunFault → Nat
  | .count _ => 101
  | _ => 1

/-- The command, from its arguments to what it prints. -/
def execute (cwd : Place) (color : Bool) (arguments : List String) (host : Host := {}) :
    Execution :=
  match Command.ofArguments arguments with
  | .error fault => ⟨2, "", some fault.message, []⟩
  | .ok .shortHelp => ⟨0, shortHelpText, none, []⟩
  | .ok .longHelp => ⟨0, longHelpText, none, []⟩
  | .ok .version => ⟨0, versionText, none, []⟩
  | .ok (.run options) =>
    let outcome := run host cwd color options
    let level := options.logLevel.getD .warn
    let log := outcome.log.filter fun entry => entry.level.rank ≤ level.rank
    match outcome.result with
    | .ok output => ⟨0, output, none, log⟩
    | .error fault => ⟨fault.exitCode, "", some s!"Error: {fault.message}\n", log⟩

end AbcMetric
