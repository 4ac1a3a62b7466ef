import AbcMetric.Command.Run
import AbcMetric.Proofs.Coloring
import AbcMetric.Proofs.Documents

/-!
# What a run prints

A run prints its report or one complaint. Here is what stands in either, with no regard to how it is
put together.

* `Prints color report format output`: the output shows the report. As text, it is the blocks of
  the files that have a debug text or a listing and then one row for each file; as JSON, it is a
  document from which the report can be read.
* `prints_render`: what is printed of a report shows it.
* `complaintFrom_eq`: the complaint of a fault with a cause, line by line.
-/

namespace AbcMetric

/-! ## Reports -/

namespace FileResult

/-- What stands before and behind the outcome of a file: with color, a marker is yellow or red. -/
def marks (color : Bool) (f : FileResult) : String × String :=
  match color, f.status with
  | true, .unparseable _ => ("\x1b[33m", "\x1b[0m")
  | true, .unreadable _ => ("\x1b[31m", "\x1b[0m")
  | _, _ => ("", "")

/-- The path of a file over its block: with color, in bold. -/
def header (color : Bool) (f : FileResult) : String :=
  if color then "\x1b[1m" ++ f.path ++ "\x1b[0m" else f.path

/-- The texts of a block: the path, the debug text if there is one, then the listing and a blank
line if there is a listing. -/
def sections (color : Bool) (f : FileResult) : List String :=
  f.header color :: f.debug.toList ++ (f.listing.map fun listing => [listing, ""]).getD []

end FileResult

/-- A row that shows a file, with marks around the outcome behind the column of paths. -/
def PrintsRow (color : Bool) (width : Nat) (f : FileResult) (row : String) : Prop :=
  ∃ path outcome, path.length = width ∧ ShowsResult width f (path ++ " " ++ outcome) ∧
    row = path ++ " " ++ ((f.marks color).1 ++ outcome ++ (f.marks color).2)

/-- What is printed of a report as text. -/
def PrintsText (color : Bool) (r : Report) (output : String) : Prop :=
  ∃ width rows, r.LongestPath width ∧ List.Forall₂ (PrintsRow color width) r.files rows ∧
    output = onLines ((r.files.filter FileResult.hasBlock).flatMap (FileResult.sections color) ++
      rows)

/-- What is printed of a report as JSON. -/
def PrintsDocument (r : Report) (output : String) : Prop :=
  ∃ (document : String) (tree : JsonTree), output = document ++ "\n" ∧ tree.Says document ∧
    tree.report? = some r.written

/-- What is printed of a report in a format; only text has colors. -/
def Prints (color : Bool) (r : Report) : OutputFormat → String → Prop
  | .text => PrintsText color r
  | .json => PrintsDocument r

theorem endLine_onLines {texts : List String} (h : texts ≠ []) :
    endLine (onLines texts) = onLines texts := by
  obtain ⟨texts, last, rfl⟩ := List.eq_nil_or_concat texts |>.resolve_left h
  have hlast : (onLines (texts ++ [last])).toList.getLast? = some '\n' := by
    rw [onLines_append, String.toList_append, List.getLast?_append]
    simp [onLines, String.toList_append]
  rw [endLine, if_pos (by simpa using hlast)]

/-- **A row is printed for its file**, if the path fits the column of paths. -/
theorem printsRow_row {width : Nat} {f : FileResult} (color : Bool) (h : f.path.length ≤ width) :
    PrintsRow color width f (f.row color width) := by
  have hplain : ShowsResult width f (f.row false width) := showsResult_row h
  rw [FileResult.row, f.outcome_plain] at hplain
  have hwidth : (padRight width f.path).length = width := by
    rw [length_padRight, Nat.max_eq_right h]
  refine ⟨padRight width f.path, padLeft outcomeWidth f.wording, hwidth, hplain, ?_⟩
  obtain ⟨path, status, listing, debug⟩ := f
  cases color <;> cases status <;>
    simp [FileResult.row, FileResult.outcome, FileResult.marks, FileResult.wording, emphasize,
      Emphasis.code]

theorem printsText_text (color : Bool) (r : Report) : PrintsText color r (r.text color) := by
  refine ⟨r.pathWidth, r.files.map (FileResult.row color r.pathWidth), longestPath_pathWidth r, ?_,
    ?_⟩
  · rw [List.forall₂_map_right_iff, List.forall₂_same]
    exact fun f hf => printsRow_row color ((longestPath_pathWidth r).bound f hf)
  · rw [r.text_eq]
    rfl

theorem getLast?_document (r : Report) : r.document.toList.getLast? = some '}' := by
  show (Json.layout "\x7b" "\x7d" 0 _).toList.getLast? = _
  rw [Json.layout, if_neg (by simp [Json.prettyMembers]), String.toList_append,
    List.getLast?_append]
  rfl

/-- **What is printed of a report shows it**, if there is a file in it. -/
theorem prints_render {r : Report} (h : r.files ≠ []) (color : Bool) (f : OutputFormat) :
    Prints color r f (endLine (r.render color f)) := by
  cases f with
  | text =>
    show PrintsText color r (endLine (r.text color))
    obtain ⟨width, rows, hwidth, hrows, htext⟩ := printsText_text color r
    refine ⟨width, rows, hwidth, hrows, ?_⟩
    rw [htext, endLine_onLines]
    intro hnil
    obtain ⟨-, rfl⟩ := List.append_eq_nil_iff.mp hnil
    exact h (List.forall₂_nil_right_iff.mp hrows)
  | json =>
    refine ⟨r.document, r.json.tree, ?_, says_document r, report?_tree r⟩
    show endLine r.document = _
    rw [endLine, if_neg (by rw [getLast?_document]; decide)]

/-! ## Complaints -/

/-- The line that says what failed. -/
def complaint (summary : String) : String := onLines ["Error: " ++ summary]

/-- That line, and behind it the lines of the cause. -/
def complaintFrom (summary cause : String) : String :=
  onLines (["Error: " ++ summary, "", "Caused by:"] ++ (sourceLines cause).map ("    " ++ ·))

theorem complaint_eq (summary : String) : s!"Error: {summary}\n" = complaint summary := by
  show "Error: " ++ summary ++ "\n" = onLines ["Error: " ++ summary]
  simp [onLines]

/-- Four blanks behind each newline, and in front, are four blanks in front of each line. -/
theorem indented_pieces (text : List Char) :
    List.replicate 4 ' ' ++
        (text.flatMap fun c => if c = '\n' then '\n' :: List.replicate 4 ' ' else [c]) ++ ['\n'] =
      (pieces text).flatMap fun p => List.replicate 4 ' ' ++ p ++ ['\n'] := by
  induction text with
  | nil => rfl
  | cons c text ih =>
    by_cases hc : c = '\n'
    · subst hc
      rw [pieces_newline, List.flatMap_cons, List.flatMap_cons, ← ih]
      simp
    · obtain ⟨first, rest, hp, hp'⟩ := pieces_other hc text
      rw [hp, List.flatMap_cons, List.append_assoc, List.append_assoc, List.append_assoc] at ih
      rw [hp', List.flatMap_cons, List.flatMap_cons, if_neg hc]
      have htail := List.append_cancel_left ih
      simp only [List.append_assoc, List.cons_append, List.nil_append, htail]

theorem toList_onLines (texts : List String) :
    (onLines texts).toList = texts.flatMap fun t => t.toList ++ ['\n'] := by
  induction texts with
  | nil => rfl
  | cons t texts ih =>
    rw [onLines, List.map_cons, String.join_cons, String.toList_append, String.toList_append]
    rw [List.flatMap_cons, ← ih]
    rfl

/-- **An indented text is its lines, each behind four blanks.** -/
theorem onLines_indented (text : String) :
    "    " ++ indentLines text ++ "\n" = onLines ((sourceLines text).map ("    " ++ ·)) := by
  refine String.toList_inj.mp ?_
  rw [toList_onLines, String.toList_append, String.toList_append, indentLines,
    String.toList_ofList]
  have hpieces := indented_pieces text.toList
  rw [sourceLines, List.flatMap_map, List.flatMap_map]
  simp only [String.toList_append, String.toList_ofList]
  exact hpieces

/-- **The complaint of a fault with a cause**: a line on what failed, and the lines of the cause. -/
theorem complaintFrom_eq (fault : ExclusionFault) :
    s!"Error: {(RunFault.exclusion fault).message}\n" =
      complaintFrom fault.summary fault.cause := by
  have hhead : onLines ["Error: " ++ fault.summary, "", "Caused by:"] =
      "Error: " ++ fault.summary ++ "\n\nCaused by:\n" := by
    refine String.toList_inj.mp ?_
    simp only [toList_onLines, List.flatMap_cons, List.flatMap_nil, String.toList_append,
      List.append_assoc]
    rfl
  have hcause : "\n\nCaused by:\n    " = "\n\nCaused by:\n" ++ "    " := by decide
  show "Error: " ++ (fault.summary ++ "\n\nCaused by:\n    " ++ indentLines fault.cause) ++ "\n" = _
  rw [complaintFrom, onLines_append, ← onLines_indented, hhead, hcause]
  simp only [String.append_assoc]

end AbcMetric
