import AbcMetric.Proofs.Sorting
import AbcMetric.Proofs.Totals
import AbcMetric.Trace

/-!
# A trace accounts for the total

A trace and a tally each visit and classify the nodes of a module. The trace keeps a node if any of
its vectors counts something, the tally keeps a vector if it is on a line. What one leaves out and
the other keeps counts nothing, so the vectors of a trace add up to the total of the tally.

* `Traces lines body entries`: the entries are the nodes that count something, each with its line
  and its whole classification, by line and then in the order of their visits.
* `entrySum_counted`: the nodes left out count nothing.
* `TraceEntry.header_eq`: the text of an entry is its line and its vectors, counter by counter.
* `debugText_accounts`: the debug text lists such entries, and their sum is the total.
-/

namespace AbcMetric

/-- Whether a vector of the node counts something. -/
def Node.counted (lines : LineIndex) (n : Node) : Bool :=
  match classify lines n with
  | .ok vectors => vectors.any AbcVector.isNonzero
  | .error _ => false

/-- What an entry of a trace says of its node. -/
structure TraceEntry.Reports (lines : LineIndex) (entry : TraceEntry) : Prop where
  /-- The vectors are the whole classification of the node. -/
  vectors : classify lines entry.node = .ok entry.vectors
  /-- The line is the line of the node. -/
  line : entry.node.line lines = some entry.line
  /-- Lines are counted from one. -/
  positive : 0 < entry.line

/-- What a trace lists. -/
structure Traces (lines : LineIndex) (body : List Stmt) (entries : List TraceEntry) : Prop where
  /-- Each entry is right about its node. -/
  reports : ∀ entry ∈ entries, entry.Reports lines
  /-- There is one entry for each visited node that counts something, and no other. -/
  nodes : (entries.map (·.node)).Perm ((walk body).filter (Node.counted lines))
  /-- The entries stand by line. -/
  ordered : entries.Pairwise (·.line ≤ ·.line)
  /-- The entries of one line stand in the order of the visits. -/
  visits : ∀ l, (entries.filter (·.line = l)).map (·.node) =
    (walk body).filter fun n => n.counted lines && n.line lines = some l

/-- How much the vectors of the entries count. -/
def entrySum (k : Counter) (entries : List TraceEntry) : Nat :=
  ((entries.flatMap (·.vectors)).map (·.count k)).sum

/-! ## Entries -/

/-- **The text of an entry** is its line and all its vectors, each with its three counters. -/
theorem TraceEntry.header_eq (entry : TraceEntry) :
    entry.header = "Line " ++ toString entry.line ++ " -> [" ++
      ", ".intercalate (entry.vectors.map fun v =>
        "<" ++ toString (v.count .assignment) ++ ", " ++ toString (v.count .branch) ++ ", " ++
          toString (v.count .condition) ++ ">") ++ "]" :=
  rfl

/-- The entry of a node. -/
def TraceEntry.ofNode (lines : LineIndex) (n : Node) : TraceEntry :=
  ⟨(n.line lines).getD 0, n.credits.map (Credit.vector lines), n⟩

theorem Node.counted_eq (lines : LineIndex) (n : Node) :
    n.counted lines = (TraceEntry.ofNode lines n).vectors.any AbcVector.isNonzero := by
  rw [counted, classify_eq]
  rfl

/-- **No node fails to be classified**, so there is a list of contributors. -/
theorem contributors_eq (lines : LineIndex) (body : List Stmt) :
    contributors lines body =
      .ok (((walk body).filter (Node.counted lines)).map (TraceEntry.ofNode lines)) := by
  have hall : (walk body).mapM (fun node => do
      return (⟨(node.line lines).getD 0, ← classify lines node, node⟩ : TraceEntry)) =
      .ok ((walk body).map (TraceEntry.ofNode lines)) := by
    simp only [classify_eq]
    exact List.mapM_pure
  have hfilter : ((walk body).map (TraceEntry.ofNode lines)).filter
      (·.vectors.any AbcVector.isNonzero) =
      ((walk body).filter (Node.counted lines)).map (TraceEntry.ofNode lines) := by
    rw [List.filter_map, funext (Node.counted_eq lines)]
    rfl
  rw [contributors, hall, ← hfilter]
  rfl

/-- A node that counts something is on a line. -/
theorem Node.line_of_counted {lines : LineIndex} {n : Node} (h : n.counted lines = true) :
    ∃ l, n.line lines = some l ∧ 0 < l := by
  have hplaced : n.Placed := by
    cases n with
    | stmt s => exact placed_stmt s
    | expr e => exact placed_expr e
    | handler clause => exact placed_handler clause
    | keyword | arg | comprehension | withItem | matchCase => exact absurd h Bool.false_ne_true
  obtain ⟨l, hline⟩ := hplaced.exists_line lines
  exact ⟨l, hline, line_pos hline⟩

theorem TraceEntry.reports_ofNode {lines : LineIndex} {n : Node} (h : n.counted lines = true) :
    (ofNode lines n).Reports lines := by
  obtain ⟨l, hl, hpos⟩ := Node.line_of_counted h
  have hline : (ofNode lines n).line = l := by
    show (n.line lines).getD 0 = l
    rw [hl]
    rfl
  exact ⟨classify_eq lines n, by rw [hline]; exact hl, by rw [hline]; exact hpos⟩

theorem TraceEntry.line_ofNode_eq_iff {lines : LineIndex} {n : Node} {l : Nat}
    (h : n.counted lines = true) : (ofNode lines n).line = l ↔ n.line lines = some l := by
  have hline : n.line lines = some (ofNode lines n).line := (reports_ofNode h).line
  rw [hline, Option.some.injEq]

/-! ## Sums -/

theorem entrySum_perm {entries others : List TraceEntry} (k : Counter) (h : entries.Perm others) :
    entrySum k entries = entrySum k others :=
  ((h.flatMap_right _).map _).sum_nat

theorem entrySum_cons (k : Counter) (entry : TraceEntry) (entries : List TraceEntry) :
    entrySum k (entry :: entries) = (entry.vectors.map (·.count k)).sum + entrySum k entries := by
  simp [entrySum]

theorem count_of_not_isNonzero {v : AbcVector} (h : v.isNonzero = false) (k : Counter) :
    v.count k = 0 := by
  simp only [AbcVector.isNonzero, ne_eq, Bool.or_eq_false_iff, decide_eq_false_iff_not,
    Classical.not_not] at h
  cases k with
  | assignment => rw [AbcVector.count, h.1.1]; rfl
  | branch => rw [AbcVector.count, h.1.2]; rfl
  | condition => rw [AbcVector.count, h.2]; rfl

/-- The vectors of a node add up to its counts. -/
theorem sum_vectors_ofNode (lines : LineIndex) (n : Node) (k : Counter) :
    ((TraceEntry.ofNode lines n).vectors.map (·.count k)).sum = constructCount k [n] := by
  rw [← creditSum_node]
  exact sum_count_vector lines k n.credits

theorem constructCount_of_not_counted {lines : LineIndex} {n : Node}
    (h : n.counted lines = false) (k : Counter) : constructCount k [n] = 0 := by
  rw [← sum_vectors_ofNode lines]
  rw [Node.counted_eq, List.any_eq_false] at h
  refine List.sum_eq_zero_iff_forall_eq_nat.mpr (List.forall_mem_map.mpr fun v hv => ?_)
  exact count_of_not_isNonzero (Bool.eq_false_iff.mpr (h v hv)) k

/-- **Leaving out nodes that count nothing changes no sum.** -/
theorem entrySum_counted (lines : LineIndex) (k : Counter) (ns : List Node) :
    entrySum k ((ns.filter (Node.counted lines)).map (TraceEntry.ofNode lines)) =
      constructCount k ns := by
  induction ns with
  | nil => cases k <;> rfl
  | cons n ns ih =>
    rw [constructCount_cons]
    by_cases hn : n.counted lines = true
    · rw [List.filter_cons_of_pos hn, List.map_cons, entrySum_cons, ih, sum_vectors_ofNode]
    · rw [List.filter_cons_of_neg hn, ih,
        constructCount_of_not_counted (Bool.eq_false_iff.mpr hn), Nat.zero_add]

/-! ## The trace of a module -/

theorem trace_eq (lines : LineIndex) (body : List Stmt) :
    trace lines body = .ok ((((walk body).filter (Node.counted lines)).map
      (TraceEntry.ofNode lines)).mergeSort (·.line ≤ ·.line)) := by
  rw [trace, contributors_eq]
  rfl

/-- **A module has a trace**, and its entries are as they should be. -/
theorem traces_of_module (lines : LineIndex) (body : List Stmt) :
    ∃ entries, trace lines body = .ok entries ∧ Traces lines body entries ∧
      ∀ k, entrySum k entries = constructCount k (occurrences body) := by
  have hperm := List.mergeSort_perm (((walk body).filter (Node.counted lines)).map
    (TraceEntry.ofNode lines)) (·.line ≤ ·.line)
  refine ⟨_, trace_eq lines body, ⟨?_, ?_, ?_, ?_⟩, ?_⟩
  · intro entry hentry
    obtain ⟨n, hn, rfl⟩ := List.mem_map.mp (hperm.mem_iff.mp hentry)
    exact TraceEntry.reports_ofNode (List.mem_filter.mp hn).2
  · have hnodes := hperm.map (·.node)
    rwa [List.map_map, show (·.node) ∘ TraceEntry.ofNode lines = id from rfl, List.map_id]
      at hnodes
  · exact pairwise_mergeSort_key TraceEntry.line _
  · intro l
    rw [filter_mergeSort_key TraceEntry.line, List.filter_map, List.map_map,
      show (·.node) ∘ TraceEntry.ofNode lines = id from rfl, List.map_id, List.filter_filter]
    refine List.filter_congr fun n _ => ?_
    rw [Bool.and_comm]
    cases hn : n.counted lines with
    | false => rfl
    | true => exact decide_eq_decide.mpr (TraceEntry.line_ofNode_eq_iff hn)
  · intro k
    rw [entrySum_perm k hperm, entrySum_counted, constructCount_perm k (walk_perm_occurrences body)]

theorem debugText_of_trace {lines : LineIndex} {body : List Stmt} {entries : List TraceEntry}
    (h : trace lines body = .ok entries) :
    debugText lines body =
      .ok ((Dump.list (dumpStmts body)).render 0 ++ "\n\n" ++ String.join (entries.map fun e =>
        e.header ++ "\n" ++ e.node.dump.render 0 ++ "\n\n")) := by
  rw [debugText, h]
  rfl

/-- **The debug text of a module accounts for exactly its total.** It lists the nodes that count
something, by line and then in the order of their visits. Each entry shows the line of its node and
the whole classification, vector by vector. The vectors it lists add up to what the module counts,
which is the total of its tally; there is no tally iff that does not fit. -/
theorem debugText_accounts (source : String) (body : List Stmt) :
    ∃ entries, Traces (.ofSource source) body entries ∧
      debugText (.ofSource source) body =
        .ok ((Dump.list (dumpStmts body)).render 0 ++ "\n\n" ++ String.join (entries.map fun e =>
          e.header ++ "\n" ++ e.node.dump.render 0 ++ "\n\n")) ∧
      (∀ entry ∈ entries, entry.header = "Line " ++ toString entry.line ++ " -> [" ++
        ", ".intercalate (entry.vectors.map fun v => "<" ++ toString (v.count .assignment) ++ ", " ++
          toString (v.count .branch) ++ ", " ++ toString (v.count .condition) ++ ">") ++ "]") ∧
      (∀ k, entrySum k entries = constructCount k (occurrences body)) ∧
      ((∀ k, constructCount k (occurrences body) < UInt32.size) →
        ∃ t, tally (.ofSource source) body = .ok t ∧ ∀ k, t.total.count k = entrySum k entries) ∧
      ((∃ k, UInt32.size ≤ constructCount k (occurrences body)) →
        tally (.ofSource source) body = .error .overflow) := by
  obtain ⟨entries, htrace, hentries, hsum⟩ := traces_of_module (.ofSource source) body
  refine ⟨entries, hentries, debugText_of_trace htrace, fun entry _ => entry.header_eq, hsum, ?_,
    ?_⟩
  · intro hfit
    obtain ⟨t, ht, -, hcount⟩ := tally_ok_of_count (.ofSource source) hfit
    exact ⟨t, ht, fun k => (hcount k).trans (hsum k).symm⟩
  · rintro ⟨k, hk⟩
    exact tally_overflow_of_count _ hk

/-- An assignment, a call and a conditional expression on one line; the last counts twice and is
shown so. -/
theorem debugText_accounts_line :
    let source := "x = f() if y else 0"
    let call : Expr := .call ⟨4, 7⟩ (.name ⟨4, 5⟩ "f" .load) [] []
    let value : Expr :=
      .ifExp ⟨4, 19⟩ (.name ⟨11, 12⟩ "y" .load) call (.constant ⟨18, 19⟩ (.int 0) none)
    let body : List Stmt := [.assign ⟨0, 19⟩ [.name ⟨0, 1⟩ "x" .store] value]
    ∃ entries t, Traces (.ofSource source) body entries ∧
      debugText (.ofSource source) body =
        .ok ((Dump.list (dumpStmts body)).render 0 ++ "\n\n" ++ String.join (entries.map fun e =>
          e.header ++ "\n" ++ e.node.dump.render 0 ++ "\n\n")) ∧
      (∃ entry ∈ entries, entry.node = .expr value ∧
        entry.header = "Line 1 -> [<0, 0, 1>, <0, 0, 1>]") ∧
      tally (.ofSource source) body = .ok t ∧ ∀ k, t.total.count k = entrySum k entries := by
  intro source call value body
  obtain ⟨entries, hentries, htext, hheader, -, hok, -⟩ := debugText_accounts source body
  obtain ⟨t, ht, hcount⟩ := hok (by intro k; cases k <;> decide)
  refine ⟨entries, t, hentries, htext, ?_, ht, hcount⟩
  have hwalk : Node.expr value ∈ (walk body).filter (Node.counted (.ofSource source)) := by
    refine List.mem_filter.mpr ⟨?_, by decide⟩
    exact (walk_perm_occurrences body).mem_iff.mpr
      (List.mem_cons_of_mem _ (List.mem_cons_of_mem _ List.mem_cons_self))
  obtain ⟨entry, hentry, hnode⟩ := List.mem_map.mp (hentries.nodes.mem_iff.mpr hwalk)
  have hreports := hentries.reports entry hentry
  have hline := hreports.line
  have hvectors := hreports.vectors
  rw [hnode] at hline hvectors
  refine ⟨entry, hentry, hnode, ?_⟩
  rw [classify_eq] at hvectors
  rw [hheader entry hentry, ← Option.some.inj hline, ← Except.ok.inj hvectors]
  dsimp only [source, value, call]
  decide +kernel

end AbcMetric
