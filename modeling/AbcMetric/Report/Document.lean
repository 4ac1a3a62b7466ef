import AbcMetric.Report

/-!
# Reports as JSON

Members that a result does not have are left out.

This is the program's JSON report, member by member in the order of writing. Not modelled: a path
that is no text, which `Report.print` refuses before anything is written.
-/

namespace AbcMetric

/-- The members for the outcome of a file. -/
def FileStatus.members : FileStatus → List (String × Json)
  | .analyzed v =>
    [("status", .str "analyzed"), ("vector", v.json), ("magnitude", .tenths v.tenths)]
  | .unparseable reason => [("status", .str "unparseable"), ("reason", .str reason)]
  | .unreadable reason => [("status", .str "unreadable"), ("reason", .str reason)]

/-- A file as JSON. -/
def FileResult.json (r : FileResult) : Json :=
  .obj ([("path", .str r.path)] ++ r.status.members ++
    (r.listing.map fun l => ("listing", Json.str l)).toList ++
    (r.debug.map fun d => ("debug", Json.str d)).toList)

/-- A summary as JSON. -/
def Summary.json (s : Summary) : Json :=
  .obj [("files", .nat s.files), ("analyzed", .nat s.analyzed),
    ("unparseable", .nat s.unparseable), ("unreadable", .nat s.unreadable),
    ("total", s.total.json)]

/-- A report as JSON. -/
def Report.json (r : Report) : Json :=
  .obj [("files", .arr (r.files.map FileResult.json)), ("summary", r.summary.json)]

/-- The text of a report as JSON, over several lines. -/
def Report.document (r : Report) : String := r.json.pretty

end AbcMetric
