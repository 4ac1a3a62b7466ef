import AbcMetric.Proofs.PatternTotals

/-!
# A node leaves a record unless it assigns to nothing

A node that counts nothing still yields one vector, its blank, so that it shows in the bookkeeping.
Most rules name their vectors one by one and cannot fail to yield one. Two rules collect them over a
list. A chain of `and` and `or` falls back to its blank when no operand is left; an assignment has
no such fallback, and when each of its targets is an empty tuple it yields nothing at all.

* `Node.blank` is the empty vector of a node, on the node's own line.
* `credits_of_bindsNothing`, `credits_of_binds`: no credit at all, or just the blank, or some credit
  that counts.
* `classify_leaves_record`: which nodes yield no vector, and that a node without a vector that
  counts yields its blank alone.
* `empty_target_leaves_no_record`: a parsed module with a node that yields no vector.
-/

namespace AbcMetric

/-- A tuple without elements. -/
def Expr.isEmptyTuple : Expr → Bool
  | .tuple _ [] _ => true
  | _ => false

namespace Node

/-- An assignment of which every target is an empty tuple. -/
def bindsNothing : Node → Bool
  | .stmt (.assign _ targets _) => targets.all Expr.isEmptyTuple
  | _ => false

/-- The empty vector of the node, on the node's own line if it has one. -/
def blank (lines : LineIndex) (n : Node) : AbcVector :=
  ⟨0, 0, 0, n.line lines, some (n.origin lines)⟩

/-- The comprehensions, context managers and cases, which have no place of their own. -/
def isPlaceless : Node → Bool
  | .comprehension _ | .withItem _ | .matchCase _ => true
  | _ => false

theorem line_eq_none_iff (lines : LineIndex) (n : Node) :
    n.line lines = none ↔ n.isPlaceless = true := by
  cases n <;> simp [line, offset, isPlaceless]

end Node

/-! ## The credits of a node -/

theorem Expr.boundTargets_of_isEmptyTuple {e : Expr} (h : e.isEmptyTuple = true) :
    e.boundTargets = [] := by
  unfold isEmptyTuple at h
  split at h
  · rfl
  · exact absurd h Bool.false_ne_true

theorem Expr.exists_mem_boundTargets {e : Expr} (h : e.isEmptyTuple = false) :
    ∃ bound, bound ∈ e.boundTargets := by
  cases e with
  | tuple span elts usage =>
    cases elts with
    | nil => exact absurd h (by simp [isEmptyTuple])
    | cons elt rest => exact ⟨elt, List.mem_cons_self⟩
  | _ => exact ⟨_, List.mem_singleton_self _⟩

/-- **An assignment to empty tuples has no credit.** -/
theorem credits_of_bindsNothing {n : Node} (h : n.bindsNothing = true) : n.credits = [] := by
  unfold Node.bindsNothing at h
  split at h
  · rename_i span targets value
    have hnone : targets.flatMap Expr.boundTargets = [] := by
      rw [List.flatMap_eq_nil_iff]
      intro target htarget
      exact Expr.boundTargets_of_isEmptyTuple (List.all_eq_true.mp h target htarget)
    rw [Node.credits, Stmt.credits, hnone]
    rfl
  · exact absurd h Bool.false_ne_true

/-- A credit that counts something is among the credits. -/
def SomeCounts (cs : List Credit) : Prop := ∃ c ∈ cs, c.counters.isNonzero = true

theorem someCounts_cons {c : Credit} (h : c.counters.isNonzero = true) (cs : List Credit) :
    SomeCounts (c :: cs) :=
  ⟨c, List.mem_cons_self, h⟩

theorem nothing_or_someCounts_alternative (owner : Node) (block : List Stmt) :
    [alternativeCredit owner (firstOf block)] = [.nothing owner] ∨
      SomeCounts [alternativeCredit owner (firstOf block)] := by
  cases block with
  | nil => exact Or.inl rfl
  | cons first rest => exact Or.inr (someCounts_cons rfl _)

theorem nothing_or_someCounts_stmt {s : Stmt} (h : (Node.stmt s).bindsNothing = false) :
    s.credits = [.nothing (.stmt s)] ∨ SomeCounts s.credits := by
  cases s with
  | forLoop span isAsync target iter body orelse =>
    cases isAsync with
    | false => exact nothing_or_someCounts_alternative _ orelse
    | true => exact Or.inl rfl
  | whileLoop span test body orelse => exact nothing_or_someCounts_alternative _ orelse
  | tryBlock span isStar body handlers orelse final =>
    cases isStar with
    | false => exact nothing_or_someCounts_alternative _ orelse
    | true => exact Or.inl rfl
  | assign span targets value =>
    obtain ⟨target, htarget, hbinds⟩ := List.all_eq_false.mp h
    obtain ⟨bound, hbound⟩ := Expr.exists_mem_boundTargets (Bool.eq_false_iff.mpr hbinds)
    refine Or.inr ⟨.assignment (.expr bound), ?_, rfl⟩
    exact List.mem_map_of_mem (List.mem_flatMap.mpr ⟨target, htarget, hbound⟩)
  | annAssign span target hint value => exact Or.inr (someCounts_cons rfl _)
  | augAssign span target op value => exact Or.inr (someCounts_cons rfl _)
  | ifElse span test body orelse =>
    rw [Stmt.credits, conditionalCredits]
    split
    · exact nothing_or_someCounts_alternative _ orelse
    · exact Or.inr (someCounts_cons rfl _)
  | assertTest span test msg =>
    cases test with
    | name => exact Or.inr (someCounts_cons rfl _)
    | _ => exact Or.inl rfl
  | _ => exact Or.inl rfl

theorem nothing_or_someCounts_expr (e : Expr) :
    e.credits = [.nothing (.expr e)] ∨ SomeCounts e.credits := by
  cases e with
  | call => exact Or.inr (someCounts_cons rfl _)
  | compare => exact Or.inr (someCounts_cons rfl _)
  | boolOp span op values =>
    simp only [Expr.credits]
    cases values.filter (!·.countsItself) with
    | nil => exact Or.inl rfl
    | cons value counted => exact Or.inr (someCounts_cons rfl _)
  | ifExp span test body orelse =>
    rw [Expr.credits, conditionalCredits]
    split
    · exact Or.inr (someCounts_cons rfl _)
    · exact Or.inr (someCounts_cons rfl _)
  | _ => exact Or.inl rfl

/-- **Any other node has its blank alone or a credit that counts.** -/
theorem credits_of_binds {n : Node} (h : n.bindsNothing = false) :
    n.credits = [.nothing n] ∨ SomeCounts n.credits := by
  cases n with
  | stmt s => exact nothing_or_someCounts_stmt h
  | expr e => exact nothing_or_someCounts_expr e
  | handler clause => exact Or.inr (someCounts_cons rfl _)
  | keyword | arg | comprehension | withItem | matchCase => exact Or.inl rfl

theorem credits_eq_nil_iff (n : Node) : n.credits = [] ↔ n.bindsNothing = true := by
  constructor
  · intro hnil
    by_contra hbinds
    rcases credits_of_binds (Bool.eq_false_iff.mpr hbinds) with hblank | ⟨c, hc, -⟩
    · exact absurd (hnil.symm.trans hblank) (by simp)
    · rw [hnil] at hc
      exact absurd hc List.not_mem_nil
  · exact credits_of_bindsNothing

/-- Credits that all count nothing are the blank, if there are any. -/
theorem credits_eq_nothing {n : Node} (hne : n.credits ≠ [])
    (h : ∀ c ∈ n.credits, c.counters.isNonzero = false) : n.credits = [.nothing n] := by
  have hbinds : n.bindsNothing = false := Bool.eq_false_iff.mpr (mt credits_of_bindsNothing hne)
  rcases credits_of_binds hbinds with hblank | ⟨c, hc, hcounts⟩
  · exact hblank
  · exact absurd hcounts (by rw [h c hc]; simp)

/-! ## The vectors of a node -/

/-- **A node leaves a record unless it assigns to nothing.** It yields no vector iff it is an
assignment of which every target is an empty tuple. If it yields vectors and none of them counts
anything, there is one, the blank of the node; it has no line for the nodes without a place. -/
theorem classify_leaves_record (lines : LineIndex) (n : Node) :
    ∃ vectors, classify lines n = .ok vectors ∧
      (vectors = [] ↔ n.bindsNothing = true) ∧
      (vectors ≠ [] → (∀ v ∈ vectors, v.isNonzero = false) → vectors = [n.blank lines]) ∧
      (n.line lines = none ↔ n.isPlaceless = true) := by
  refine ⟨_, classify_eq lines n, ?_, fun hne hzero => ?_, n.line_eq_none_iff lines⟩
  · rw [List.map_eq_nil_iff, credits_eq_nil_iff]
  · have hblank := credits_eq_nothing (mt List.map_eq_nil_iff.mpr hne) fun c hc =>
      hzero (c.vector lines) (List.mem_map_of_mem hc)
    rw [hblank]
    rfl

/-- A chain of two comparisons, which count themselves, leaves its blank. -/
theorem classify_leaves_record_chain :
    let lines := LineIndex.ofSource "x < y or y < x"
    let compare (start : Nat) : Expr :=
      .compare ⟨start, start + 5⟩ (.name ⟨start, start + 1⟩ "x" .load)
        [⟨.lt, .name ⟨start + 4, start + 5⟩ "y" .load⟩]
    let n : Node := .expr (.boolOp ⟨0, 14⟩ .or [compare 0, compare 9])
    classify lines n = .ok [n.blank lines] := by
  intro lines compare n
  obtain ⟨vectors, hvectors, hnil, hblank, -⟩ := classify_leaves_record lines n
  have hzero : ∀ v ∈ vectors, v.isNonzero = false := by
    obtain rfl := Except.ok.inj ((classify_eq lines n).symm.trans hvectors)
    exact List.forall_mem_singleton.mpr rfl
  rw [hvectors, hblank (mt hnil.mp (by decide)) hzero]

/-- **An assignment to an empty tuple leaves no record.** -/
theorem empty_target_leaves_no_record :
    ∃ body, parseModule "() = x\n" = .ok body ∧
      ∃ n ∈ walk body, classify (.ofSource "() = x\n") n = .ok [] := by
  have hany : (occurrences (moduleOf "() = x\n")).any Node.bindsNothing = true := by
    decide +kernel
  obtain ⟨n, hn, hbinds⟩ := List.any_eq_true.mp hany
  refine ⟨moduleOf "() = x\n", parseModule_moduleOf (by decide +kernel), n,
    (walk_perm_occurrences _).mem_iff.mpr hn, ?_⟩
  rw [classify_eq, credits_of_bindsNothing hbinds]
  rfl

end AbcMetric
