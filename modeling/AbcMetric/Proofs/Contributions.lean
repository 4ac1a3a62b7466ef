import AbcMetric.Proofs.Absorption
import AbcMetric.Proofs.Credits
import AbcMetric.Proofs.Traversal

/-!
# The contributions of a module

A tally of a module is the fold of `contributions`, the vectors of all its nodes in the order of the
walk (`tally_eq`). Each of them counts one unit at most, and every unit is on a line, so nothing that
is counted is left out: the exact sum over the vectors on a line is the sum over all credits
(`placedSum_contributions`).

* `tally_ok`: if the credits of a module fit the counters, its tally accounts for its contributions.
* `tally_overflow`: if they do not fit, the tally overflows.
-/

namespace AbcMetric

open AbcVector

/-- How much is counted in a list of credits. -/
def creditSum (k : Counter) (cs : List Credit) : Nat := (cs.map (·.counters.count k)).sum

/-- The credits of all nodes of a module, in the order of the walk. -/
def moduleCredits (body : List Stmt) : List Credit := (walk body).flatMap Node.credits

/-- The vectors of all nodes of a module, in the order of the walk. -/
def contributions (lines : LineIndex) (body : List Stmt) : List AbcVector :=
  (moduleCredits body).map (Credit.vector lines)

theorem sum_count_vector (lines : LineIndex) (k : Counter) (cs : List Credit) :
    ((cs.map (Credit.vector lines)).map (·.count k)).sum = creditSum k cs := by
  simp only [List.map_map, Function.comp_def, Credit.count_vector, creditSum]

/-! ## A tally is the fold of the contributions -/

/-- Classifying and absorbing node by node. -/
theorem foldlM_classify (lines : LineIndex) (ns : List Node) (t : Tally) :
    ns.foldlM (fun t n => do t.absorbAll (← classify lines n)) t =
      t.absorbAll ((ns.flatMap Node.credits).map (Credit.vector lines)) := by
  induction ns generalizing t with
  | nil => rfl
  | cons n ns ih =>
    rw [List.foldlM_cons, classify_eq, List.flatMap_cons, List.map_append, Tally.absorbAll,
      List.foldlM_append]
    simp only [ih]
    rfl

/-- **The tally of a module is the fold of its contributions.** -/
theorem tally_eq (lines : LineIndex) (body : List Stmt) :
    tally lines body = Tally.empty.absorbAll (contributions lines body) :=
  foldlM_classify lines (walk body) Tally.empty

/-! ## What is counted is on a line -/

theorem Credit.size_counters_le (c : Credit) : c.counters.size ≤ 1 := by
  cases c <;> simp [counters, size, count, zero, ofCounts]

theorem Credit.size_vector_lt (lines : LineIndex) (c : Credit) :
    (c.vector lines).size < UInt32.size := by
  have h : (c.vector lines).size = c.counters.size := rfl
  rw [h]
  exact Nat.lt_of_le_of_lt c.size_counters_le (by decide)

theorem Node.line_pos {lines : LineIndex} {n : Node} {l : Nat} (h : n.line lines = some l) :
    0 < l := by
  obtain ⟨o, -, rfl⟩ := Option.map_eq_some_iff.mp h
  rw [LineIndex.lineOf_eq_countP]
  exact Nat.succ_pos _

/-- A credit for a placed node is on a line. -/
theorem Credit.line_isSome {lines : LineIndex} {c : Credit} (h : c.node.Placed) :
    (c.line lines).isSome = true := by
  obtain ⟨l, hline⟩ := h.exists_line lines
  obtain ⟨m, hm, -, -⟩ := line_of_node hline (Node.line_pos hline)
  rw [hm]
  rfl

/-- **A credit of a node counts nothing or is on a line.** -/
theorem counters_eq_zero_or_line {lines : LineIndex} {n : Node} {c : Credit}
    (h : c ∈ n.credits) : c.counters = .zero ∨ (c.line lines).isSome = true := by
  rcases sound_credits n c h with rfl | ⟨-, hp⟩
  · exact Or.inl rfl
  · exact Or.inr (Credit.line_isSome hp)

/-- Leaving out what is on no line leaves out nothing that is counted. -/
theorem placedSum_map_vector {lines : LineIndex} {cs : List Credit} (k : Counter)
    (h : ∀ c ∈ cs, c.counters = .zero ∨ (c.line lines).isSome = true) :
    placedSum k (cs.map (Credit.vector lines)) = creditSum k cs := by
  induction cs with
  | nil => rfl
  | cons c cs ih =>
    have ih' := ih fun d hd => h d (List.mem_cons_of_mem c hd)
    have hc : sumWhere (·.line.isSome) k [c.vector lines] = c.counters.count k := by
      rw [sumWhere_singleton]
      split
      · exact Credit.count_vector lines c k
      · rename_i hline
        rcases h c List.mem_cons_self with hz | hs
        · rw [hz, count_zero]
        · exact absurd hs hline
    rw [List.map_cons, ← List.singleton_append, placedSum, sumWhere_append, hc]
    rw [placedSum] at ih'
    rw [ih']
    simp [creditSum]

theorem placedSum_credits (lines : LineIndex) (ns : List Node) (k : Counter) :
    placedSum k ((ns.flatMap Node.credits).map (Credit.vector lines)) =
      creditSum k (ns.flatMap Node.credits) := by
  apply placedSum_map_vector
  intro c hc
  obtain ⟨n, -, hn⟩ := List.mem_flatMap.mp hc
  exact counters_eq_zero_or_line hn

theorem placedSum_contributions (lines : LineIndex) (body : List Stmt) (k : Counter) :
    placedSum k (contributions lines body) = creditSum k (moduleCredits body) :=
  placedSum_credits lines (walk body) k

theorem size_lt_of_mem_credits {lines : LineIndex} {cs : List Credit} :
    ∀ v ∈ cs.map (Credit.vector lines), v.size < UInt32.size := by
  intro v hv
  obtain ⟨c, -, rfl⟩ := List.mem_map.mp hv
  exact c.size_vector_lt lines

/-! ## The tally of a module -/

/-- **A module whose credits fit the counters is tallied**, and its contributions are accounted
for. -/
theorem tally_ok {body : List Stmt} (lines : LineIndex)
    (h : ∀ k, creditSum k (moduleCredits body) < UInt32.size) :
    ∃ t, tally lines body = .ok t ∧ t.Accounts (contributions lines body) := by
  rw [tally_eq]
  refine Tally.absorbAll_empty_ok size_lt_of_mem_credits fun k => ?_
  rw [placedSum_contributions]
  exact h k

/-- **A module whose credits do not fit overflows.** -/
theorem tally_overflow {body : List Stmt} (lines : LineIndex) {k : Counter}
    (h : UInt32.size ≤ creditSum k (moduleCredits body)) :
    tally lines body = .error .overflow := by
  rw [tally_eq]
  refine Tally.absorbAll_empty_overflow size_lt_of_mem_credits (k := k) ?_
  rw [placedSum_contributions]
  exact h

end AbcMetric
