import AbcMetric.Analysis

/-!
# Reports

A report holds one result for each file and a summary over all of them.

* `FileResult.ofAnalysis` and `FileResult.ofFault` are the two ways to get a result.
* `Report.ofFiles` adds the summary; it fails only if a counter of the total overflows.
* `Report.sortByMagnitude` puts high magnitudes first and keeps the order of equal ones.

These are the program's result models: results, summary and report. A path is its text, as it is
shown. Not modelled: the serial form, which is `Report.document`.
-/

namespace AbcMetric

/-- Why a file has no metric. The detail is the message of the parser or of the file system. -/
inductive FileFault where
  | unparseable (path detail : String)
  | unreadable (path detail : String)
  deriving DecidableEq, Repr

/-- The wording of a file fault. -/
def FileFault.message : FileFault → String
  | .unparseable path detail => s!"Unable to parse {path}: {detail}"
  | .unreadable path detail => s!"Failed to read {path}: {detail}"

/-- The outcome for one file. -/
inductive FileStatus where
  | analyzed (vector : AbcVector)
  | unparseable (reason : String)
  | unreadable (reason : String)
  deriving DecidableEq, Repr

/-- The entry of one file in a report. -/
structure FileResult where
  path : String
  status : FileStatus
  listing : Option String
  debug : Option String
  deriving DecidableEq, Repr

namespace FileResult

/-- The result of a file that was analyzed. -/
def ofAnalysis (path : String) (analysis : Analysis) : FileResult :=
  ⟨path, .analyzed analysis.vector, analysis.listing, analysis.debug⟩

/-- The result of a file that could not be analyzed. -/
def ofFault (path : String) (fault : FileFault) : FileResult :=
  match fault with
  | .unparseable .. => ⟨path, .unparseable fault.message, none, none⟩
  | .unreadable .. => ⟨path, .unreadable fault.message, none, none⟩

/-- The vector of a file that was analyzed. -/
def vector? (r : FileResult) : Option AbcVector :=
  match r.status with
  | .analyzed v => some v
  | _ => none

/-- The magnitude in tenths; a file that could not be analyzed ranks as zero. -/
def tenths (r : FileResult) : Nat := (r.vector?.map AbcVector.tenths).getD 0

end FileResult

/-- Counts over a list of results and the sum of the analyzed vectors. -/
structure Summary where
  files : Nat
  analyzed : Nat
  unparseable : Nat
  unreadable : Nat
  total : AbcVector
  deriving DecidableEq, Repr

namespace Summary

/-- No file at all. -/
def empty : Summary := ⟨0, 0, 0, 0, .zero⟩

/-- Counts one more result. -/
def count (s : Summary) (r : FileResult) : Except CountFault Summary :=
  match r.status with
  | .analyzed v => do
    let total ← s.total.add v
    return { s with files := s.files + 1, analyzed := s.analyzed + 1, total := total }
  | .unparseable _ => .ok { s with files := s.files + 1, unparseable := s.unparseable + 1 }
  | .unreadable _ => .ok { s with files := s.files + 1, unreadable := s.unreadable + 1 }

/-- The summary of a list of results. -/
def ofResults (rs : List FileResult) : Except CountFault Summary :=
  rs.foldlM count empty

end Summary

/-- The results of a run and their summary. -/
structure Report where
  files : List FileResult
  summary : Summary
  deriving DecidableEq, Repr

namespace Report

/-- The report on a list of results. -/
def ofFiles (files : List FileResult) : Except CountFault Report := do
  return ⟨files, ← Summary.ofResults files⟩

/-- Highest magnitude first; results of one magnitude keep their order. -/
def sortByMagnitude (r : Report) : Report :=
  { r with files := r.files.mergeSort fun x y => y.tenths ≤ x.tenths }

end Report

end AbcMetric
