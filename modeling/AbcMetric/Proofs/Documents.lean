import AbcMetric.Proofs.JsonPrinter
import AbcMetric.Report.Document

/-!
# Reports are recovered from their documents

The document of a report leaves out one thing: which constructs vectors were counted for. All the
rest can be read back, by a reader that knows the names of the members and nothing of their order or
of the layout.

* `Report.withoutOrigins` is what a document keeps of a report, and `Report.written` the same with
  the magnitudes that the document gives.
* `JsonTree.report?` finds a report in a tree, and `readReport` in a text.
* `document_recovers`: every document is a JSON text, says one tree, has no member twice, and gives
  its report back; so reports that differ in anything that is kept differ in their documents.
-/

namespace AbcMetric

/-! ## What is kept of a report -/

/-- The counters and the line of a vector. -/
def AbcVector.withoutOrigin (v : AbcVector) : AbcVector := { v with origin := none }

/-- The outcome for a file, without origins. -/
def FileStatus.withoutOrigin : FileStatus → FileStatus
  | .analyzed v => .analyzed v.withoutOrigin
  | .unparseable reason => .unparseable reason
  | .unreadable reason => .unreadable reason

/-- The entry of a file, without origins. -/
def FileResult.withoutOrigin (r : FileResult) : FileResult :=
  { r with status := r.status.withoutOrigin }

/-- The summary, without origins. -/
def Summary.withoutOrigin (s : Summary) : Summary := { s with total := s.total.withoutOrigin }

/-- The report, without origins. -/
def Report.withoutOrigins (r : Report) : Report :=
  ⟨r.files.map FileResult.withoutOrigin, r.summary.withoutOrigin⟩

/-- What the document says of a file: its entry, and the magnitude in tenths if it was analyzed. -/
def FileResult.written (r : FileResult) : FileResult × Option Nat :=
  (r.withoutOrigin, r.vector?.map AbcVector.tenths)

/-- What the document says: the files in order, and the summary. -/
def Report.written (r : Report) : List (FileResult × Option Nat) × Summary :=
  (r.files.map FileResult.written, r.summary.withoutOrigin)

/-! ## Finding a report in a tree -/

/-- The value of digits. -/
def natOf? (digits : List Char) : Option Nat :=
  if isDigits digits then some (Nat.ofDigitChars 10 digits 0) else none

/-- The number of tenths that is written with exactly one decimal place. -/
def tenthsOf? (text : List Char) : Option Nat :=
  match text.dropWhile Char.isDigit with
  | ['.', place] => natOf? (text.takeWhile Char.isDigit ++ [place])
  | _ => none

namespace JsonTree

/-- The member of a name. -/
def member? (key : String) : JsonTree → Option JsonTree
  | .obj members => members.lookup key
  | _ => none

/-- The value of a string. -/
def str? : JsonTree → Option String
  | .str value => some value
  | _ => none

/-- The elements of a list. -/
def items? : JsonTree → Option (List JsonTree)
  | .arr items => some items
  | _ => none

/-- The value of a natural number. -/
def nat? : JsonTree → Option Nat
  | .number text => natOf? text.toList
  | _ => none

/-- The value of a number with one decimal place, in tenths. -/
def tenths? : JsonTree → Option Nat
  | .number text => tenthsOf? text.toList
  | _ => none

/-- The value of a counter. -/
def counter? (t : JsonTree) : Option UInt32 := do
  let n ← t.nat?
  if n < UInt32.size then some (UInt32.ofNat n) else none

variable {α : Type}

/-- The value of a member that has to be there. -/
def required? (read : JsonTree → Option α) (key : String) (t : JsonTree) : Option α := do
  read (← t.member? key)

/-- The value of a member that may be missing. -/
def optional? (read : JsonTree → Option α) (key : String) (t : JsonTree) : Option (Option α) :=
  match t.member? key with
  | none => some none
  | some value => (read value).map some

/-- A vector. -/
def vector? (t : JsonTree) : Option AbcVector := do
  let assignment ← t.required? counter? "assignment"
  let branch ← t.required? counter? "branch"
  let condition ← t.required? counter? "condition"
  let line ← t.optional? nat? "line"
  return ⟨assignment, branch, condition, line, none⟩

/-- The outcome for a file, and the magnitude if it was analyzed. -/
def status? (t : JsonTree) : Option (FileStatus × Option Nat) := do
  let tag ← t.required? str? "status"
  if tag = "analyzed" then
    let vector ← t.required? vector? "vector"
    let magnitude ← t.required? tenths? "magnitude"
    return (.analyzed vector, some magnitude)
  else
    let reason ← t.required? str? "reason"
    if tag = "unparseable" then return (.unparseable reason, none)
    else if tag = "unreadable" then return (.unreadable reason, none)
    else none

/-- The entry of a file. -/
def entry? (t : JsonTree) : Option (FileResult × Option Nat) := do
  let path ← t.required? str? "path"
  let (status, magnitude) ← t.status?
  let listing ← t.optional? str? "listing"
  let debug ← t.optional? str? "debug"
  return (⟨path, status, listing, debug⟩, magnitude)

/-- A summary. -/
def summary? (t : JsonTree) : Option Summary := do
  let files ← t.required? nat? "files"
  let analyzed ← t.required? nat? "analyzed"
  let unparseable ← t.required? nat? "unparseable"
  let unreadable ← t.required? nat? "unreadable"
  let total ← t.required? vector? "total"
  return ⟨files, analyzed, unparseable, unreadable, total⟩

/-- A report. -/
def report? (t : JsonTree) : Option (List (FileResult × Option Nat) × Summary) := do
  let files ← t.required? items? "files"
  let entries ← files.mapM entry?
  let summary ← t.required? summary? "summary"
  return (entries, summary)

end JsonTree

/-- The report in a text. -/
def readReport (text : String) : Option (List (FileResult × Option Nat) × Summary) := do
  (← readJson text).report?

/-! ## Numbers -/

theorem natOf?_toDigits (n : Nat) : natOf? (Nat.toDigits 10 n) = some n := by
  rw [natOf?, if_pos (isDigits_toDigits n), Nat.ofDigitChars_ten_toDigits]

theorem nat?_tree (n : Nat) : (Json.nat n).tree.nat? = some n := by
  show natOf? (toString n).toList = some n
  rw [Nat.toString_eq_ofList_toDigits, String.toList_ofList, natOf?_toDigits]

theorem counter?_tree (n : UInt32) : (Json.nat n.toNat).tree.counter? = some n := by
  rw [JsonTree.counter?, nat?_tree]
  simp [n.toNat_lt_size]

theorem tenths?_tree (k : Nat) : (Json.tenths k).tree.tenths? = some k := by
  show tenthsOf? (tenthsText k).toList = some k
  have hlt : k % 10 < 10 := Nat.mod_lt k (by decide)
  have hplace : Nat.toDigits 10 (k % 10) = [Nat.digitChar (k % 10)] := Nat.toDigits_of_lt_base hlt
  have hpoint : ∀ c ∈ ['.', Nat.digitChar (k % 10)].head?, c.isDigit = false := by
    intro c hc
    obtain rfl := Option.some.inj hc
    rfl
  obtain ⟨htake, hdrop⟩ := takeWhile_dropWhile_append (isDigit_toDigits (k / 10)) hpoint
  -- without its point the text has the digits of the tenths
  have hdigits : isDigits (Nat.toDigits 10 (k / 10) ++ [Nat.digitChar (k % 10)]) = true := by
    rw [← hplace, isDigits, List.all_append, List.all_eq_true.mpr (isDigit_toDigits _),
      List.all_eq_true.mpr (isDigit_toDigits _)]
    simp
  rw [toList_tenthsText, hplace, tenthsOf?, hdrop, htake]
  show natOf? (Nat.toDigits 10 (k / 10) ++ [Nat.digitChar (k % 10)]) = some k
  rw [natOf?, if_pos hdigits, Nat.ofDigitChars_append, Nat.ofDigitChars_ten_toDigits,
    Nat.ofDigitChars_cons_digitChar_of_lt_ten hlt, Nat.ofDigitChars_nil, Nat.div_add_mod]

/-! ## Records -/

/-- A member is found by its name. -/
theorem member?_tree (members : List (String × Json)) (key : String) :
    (Json.obj members).tree.member? key = (members.lookup key).map Json.tree := by
  rw [Json.tree, JsonTree.member?]
  induction members with
  | nil => rfl
  | cons member members ih =>
    obtain ⟨name, value⟩ := member
    rw [memberTrees, List.lookup_cons, List.lookup_cons, ih]
    cases key == name <;> rfl

section

variable {α : Type} {read : JsonTree → Option α} {members : List (String × Json)} {key : String}

theorem required?_tree (value : Json) (h : members.lookup key = some value) :
    (Json.obj members).tree.required? read key = read value.tree := by
  rw [JsonTree.required?, member?_tree, h]
  rfl

theorem optional?_tree {write : α → Json} (hread : ∀ a, read (write a).tree = some a)
    {value : Option α} (h : members.lookup key = value.map write) :
    (Json.obj members).tree.optional? read key = some value := by
  rw [JsonTree.optional?, member?_tree, h]
  cases value with
  | none => rfl
  | some a =>
    show (read (write a).tree).map some = _
    rw [hread]
    rfl

end

/-- **A vector is found in its tree.** -/
theorem vector?_tree (v : AbcVector) : v.json.tree.vector? = some v.withoutOrigin := by
  have hline : ([("assignment", Json.nat v.assignment.toNat), ("branch", .nat v.branch.toNat),
      ("condition", .nat v.condition.toNat)] ++
      (v.line.map fun l => ("line", Json.nat l)).toList).lookup "line" = v.line.map Json.nat := by
    cases v.line <;> rfl
  rw [JsonTree.vector?, AbcVector.json, required?_tree (.nat v.assignment.toNat) rfl,
    required?_tree (.nat v.branch.toNat) rfl, required?_tree (.nat v.condition.toNat) rfl,
    optional?_tree nat?_tree hline]
  simp only [counter?_tree]
  rfl

theorem str?_tree (s : String) : (Json.str s).tree.str? = some s := rfl

/-- **The outcome for a file is found by its tag.** -/
theorem status?_tree (r : FileResult) :
    r.json.tree.status? = some (r.status.withoutOrigin, r.vector?.map AbcVector.tenths) := by
  obtain ⟨path, status, listing, debug⟩ := r
  cases status with
  | analyzed v =>
    rw [JsonTree.status?, FileResult.json, required?_tree (.str "analyzed") rfl,
      required?_tree v.json rfl, required?_tree (.tenths v.tenths) rfl, vector?_tree, tenths?_tree]
    rfl
  | unparseable reason =>
    have hreason : (FileResult.json ⟨path, .unparseable reason, listing, debug⟩).tree.required?
        JsonTree.str? "reason" = some reason := required?_tree (.str reason) rfl
    rw [JsonTree.status?, hreason, FileResult.json, required?_tree (.str "unparseable") rfl]
    rfl
  | unreadable reason =>
    have hreason : (FileResult.json ⟨path, .unreadable reason, listing, debug⟩).tree.required?
        JsonTree.str? "reason" = some reason := required?_tree (.str reason) rfl
    rw [JsonTree.status?, hreason, FileResult.json, required?_tree (.str "unreadable") rfl]
    rfl

/-- **The entry of a file is found in its tree.** -/
theorem entry?_tree (r : FileResult) : r.json.tree.entry? = some r.written := by
  have hstatus := status?_tree r
  have hlisting : r.json.tree.optional? JsonTree.str? "listing" = some r.listing := by
    refine optional?_tree str?_tree ?_
    obtain ⟨path, status, listing, debug⟩ := r
    cases status <;> cases listing <;> cases debug <;> rfl
  have hdebug : r.json.tree.optional? JsonTree.str? "debug" = some r.debug := by
    refine optional?_tree str?_tree ?_
    obtain ⟨path, status, listing, debug⟩ := r
    cases status <;> cases listing <;> cases debug <;> rfl
  have hpath : r.json.tree.required? JsonTree.str? "path" = some r.path :=
    required?_tree (.str r.path) rfl
  rw [JsonTree.entry?, hpath, hstatus, hlisting, hdebug]
  rfl

theorem summary?_tree (s : Summary) : s.json.tree.summary? = some s.withoutOrigin := by
  rw [JsonTree.summary?, Summary.json, required?_tree (.nat s.files) rfl,
    required?_tree (.nat s.analyzed) rfl, required?_tree (.nat s.unparseable) rfl,
    required?_tree (.nat s.unreadable) rfl, required?_tree s.total.json rfl, vector?_tree]
  simp only [nat?_tree]
  rfl

/-- **A report is found in its tree.** -/
theorem report?_tree (r : Report) : r.json.tree.report? = some r.written := by
  have hentries : (itemTrees (r.files.map FileResult.json)).mapM JsonTree.entry? =
      some (r.files.map FileResult.written) := by
    induction r.files with
    | nil => rfl
    | cons file files ih =>
      rw [List.map_cons, itemTrees, List.mapM_cons, entry?_tree, ih]
      rfl
  rw [JsonTree.report?, Report.json, required?_tree (.arr (r.files.map FileResult.json)) rfl,
    required?_tree r.summary.json rfl, summary?_tree]
  show (itemTrees (r.files.map FileResult.json)).mapM JsonTree.entry? >>= _ = _
  rw [hentries]
  rfl

/-! ## No member twice -/

theorem fst_memberTrees (members : List (String × Json)) :
    (memberTrees members).map Prod.fst = members.map Prod.fst := by
  induction members with
  | nil => rfl
  | cons member members ih =>
    obtain ⟨key, value⟩ := member
    rw [memberTrees, List.map_cons, ih, List.map_cons]

/-- An object whose names differ has no member twice if no value does. -/
theorem keysOnce_obj {members : List (String × Json)} (hkeys : (members.map Prod.fst).Nodup)
    (hvalues : ∀ member ∈ members, member.2.tree.KeysOnce) : (Json.obj members).tree.KeysOnce := by
  refine ⟨by rwa [fst_memberTrees], ?_⟩
  clear hkeys
  induction members with
  | nil => trivial
  | cons member members ih =>
    obtain ⟨hvalue, hvalues⟩ := List.forall_mem_cons.mp hvalues
    exact ⟨hvalue, ih hvalues⟩

theorem keysOnce_vector (v : AbcVector) : v.json.tree.KeysOnce := by
  obtain ⟨assignment, branch, condition, line, origin⟩ := v
  cases line <;>
    exact keysOnce_obj (by simp) (by simp [Json.tree, JsonTree.KeysOnce])

theorem keysOnce_result (r : FileResult) : r.json.tree.KeysOnce := by
  obtain ⟨path, status, listing, debug⟩ := r
  cases status <;> cases listing <;> cases debug <;>
    exact keysOnce_obj (by simp [FileStatus.members])
      (by simp [FileStatus.members, Json.tree, JsonTree.KeysOnce, keysOnce_vector])

theorem keysOnce_summary (s : Summary) : s.json.tree.KeysOnce :=
  keysOnce_obj (by simp) (by simp [Json.tree, JsonTree.KeysOnce, keysOnce_vector])

/-- **No object of a report has a member twice.** -/
theorem keysOnce_report (r : Report) : r.json.tree.KeysOnce := by
  have hfiles : (Json.arr (r.files.map FileResult.json)).tree.KeysOnce := by
    show itemsOnce (itemTrees (r.files.map FileResult.json))
    induction r.files with
    | nil => trivial
    | cons file files ih => exact ⟨keysOnce_result file, ih⟩
  exact keysOnce_obj (by simp) (by simp [hfiles, keysOnce_summary])

/-! ## Main result -/

theorem says_document (r : Report) : r.json.tree.Says r.document := r.json.says_pretty

theorem readReport_document (r : Report) : readReport r.document = some r.written := by
  rw [readReport, readJson_eq (says_document r)]
  exact report?_tree r

/-- Origins are not written. -/
theorem document_withoutOrigins (r : Report) : r.withoutOrigins.document = r.document := by
  have hfile : ∀ file : FileResult, file.withoutOrigin.json = file.json := by
    rintro ⟨path, status, listing, debug⟩
    cases status <;> rfl
  have hfiles : (r.files.map FileResult.withoutOrigin).map FileResult.json =
      r.files.map FileResult.json := by
    rw [List.map_map]
    exact List.map_congr_left fun file _ => hfile file
  show Json.pretty (.obj [("files", .arr (r.withoutOrigins.files.map FileResult.json)), _]) = _
  rw [Report.withoutOrigins, hfiles]
  rfl

theorem withoutOrigins_eq (r : Report) :
    r.withoutOrigins = ⟨r.written.1.map Prod.fst, r.written.2⟩ := by
  rw [Report.written, List.map_map]
  rfl

/-- **A report is recovered from its document.** The document of any report is a JSON text and says
one tree only. No object in it has a member twice, and the report that is found in it by the names
of the members has the same files in the same order, each with its path, outcome, magnitude, listing
and debug text, and the same summary. So two reports have the same document iff they differ in
nothing but origins. -/
theorem document_recovers (r : Report) :
    (∃ tree : JsonTree, tree.Says r.document ∧
      (∀ other : JsonTree, other.Says r.document → other = tree) ∧
      tree.KeysOnce ∧ tree.report? = some r.written) ∧
    readReport r.document = some r.written ∧
    ∀ other : Report, r.document = other.document ↔ r.withoutOrigins = other.withoutOrigins := by
  refine ⟨⟨r.json.tree, says_document r, fun other hother => hother.unique (says_document r),
    keysOnce_report r, report?_tree r⟩, readReport_document r, fun other => ?_⟩
  constructor
  · intro h
    have hread := readReport_document r
    rw [h, readReport_document other] at hread
    rw [withoutOrigins_eq, withoutOrigins_eq, Option.some.inj hread]
  · intro h
    rw [← document_withoutOrigins r, h, document_withoutOrigins]

end AbcMetric
