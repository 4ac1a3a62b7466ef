import AbcMetric.Proofs.PatternTotals

/-!
# The line of an `else`

The word `else` has no place in the tree. With one statement on a line it stands on the line above
the block behind it, so that is where its condition is counted, unless the block begins on the line
of its owner. One rule serves every owner. It spares an alternative that starts with an `if`, since
behind an `if` that is an `elif` with a line of its own. A loop and a `try` have no `elif`, but the
rule spares an `if` there as well, and its condition is one line too low.

* `Stmt.elseBlock` is the block behind the `else` of a `for`, a `while` or a `try`.
* `classify_elseBlock`: such an owner yields one vector, for its alternative.
* `else_counted_on_line_above`: the line of that vector, whatever the block begins with.
* `if_in_loop_else_keeps_line`: a parsed loop whose `else` is counted on the line below it.
-/

namespace AbcMetric

/-- The block behind the `else` of a `for`, a `while` or a `try`; an `async for` and a `try` with
`except*` do not count theirs. -/
def Stmt.elseBlock : Stmt → List Stmt
  | .forLoop _ false _ _ _ orelse => orelse
  | .whileLoop _ _ _ orelse => orelse
  | .tryBlock _ false _ _ orelse _ => orelse
  | _ => []

section Else

variable {lines : LineIndex} {owner first : Stmt} {rest : List Stmt}

theorem credits_elseBlock (h : owner.elseBlock = first :: rest) :
    owner.credits = [.alternative (.stmt owner) (.stmt first)] := by
  -- the owners that count an `else` all have the credit of its first statement
  have hcredit : ∀ {block : List Stmt}, block = first :: rest →
      [alternativeCredit (.stmt owner) (firstOf block)] =
        [.alternative (.stmt owner) (.stmt first)] := by
    rintro _ rfl
    rfl
  cases owner with
  | forLoop span isAsync target iter body orelse =>
    cases isAsync with
    | false => exact hcredit h
    | true => exact absurd h (by simp [Stmt.elseBlock])
  | whileLoop span test body orelse => exact hcredit h
  | tryBlock span isStar body handlers orelse final =>
    cases isStar with
    | false => exact hcredit h
    | true => exact absurd h (by simp [Stmt.elseBlock])
  | _ => exact absurd h (by simp [Stmt.elseBlock])

/-- **A loop or a `try` with an `else` yields one vector**, a condition for the first statement of
the `else`, on the line that the alternative is given. -/
theorem classify_elseBlock {l : Nat} (h : owner.elseBlock = first :: rest)
    (hl : alternativeLine lines (.stmt owner) (.stmt first) = some l) (hpos : 0 < l) :
    classify lines (.stmt owner) = .ok [conditionAt lines (.stmt first) l] := by
  have hline : (Credit.alternative (.stmt owner) (.stmt first)).line lines = some l := by
    show AbcVector.resolveLine _ (alternativeLine lines (.stmt owner) (.stmt first)) = _
    rw [hl, AbcVector.resolveLine_pos hpos]
  rw [classify_eq, Node.credits, credits_elseBlock h, List.map_singleton, Credit.vector, hline]
  rfl

theorem alternativeLine_stmt (lines : LineIndex) (owner first : Stmt) :
    alternativeLine lines (.stmt owner) (.stmt first) =
      some (if (Node.stmt first).isElif ∨
          lines.lineOf first.span.start = lines.lineOf owner.span.start then
        lines.lineOf first.span.start else lines.lineOf first.span.start - 1) :=
  alternativeLine_eq rfl rfl

end Else

/-- **The `else` of a loop or a `try` is counted on the line above its block**, if the block begins
on a later line than its owner and with anything but an `if`. With an `if` it is counted on the line
of that `if`, and with a block on the line of its owner, on that line. -/
theorem else_counted_on_line_above (lines : LineIndex) (owner first : Stmt) (rest : List Stmt)
    (h : owner.elseBlock = first :: rest) :
    (lines.lineOf owner.span.start < lines.lineOf first.span.start →
      (Node.stmt first).isElif = false →
      classify lines (.stmt owner) =
        .ok [conditionAt lines (.stmt first) (lines.lineOf first.span.start - 1)]) ∧
      (lines.lineOf owner.span.start < lines.lineOf first.span.start →
        (Node.stmt first).isElif = true →
        classify lines (.stmt owner) =
          .ok [conditionAt lines (.stmt first) (lines.lineOf first.span.start)]) ∧
      (lines.lineOf first.span.start = lines.lineOf owner.span.start →
        classify lines (.stmt owner) =
          .ok [conditionAt lines (.stmt first) (lines.lineOf first.span.start)]) := by
  have hpos : ∀ s : Stmt, 0 < lines.lineOf s.span.start := fun s =>
    Node.line_pos (n := .stmt s) rfl
  have hline := alternativeLine_stmt lines owner first
  refine ⟨fun hlater helif => ?_, fun _ helif => ?_, fun hsame => ?_⟩
  · have hneither : ¬ ((Node.stmt first).isElif = true ∨
        lines.lineOf first.span.start = lines.lineOf owner.span.start) := by
      rintro (hif | hsame)
      · exact absurd hif (by simp [helif])
      · exact absurd hsame (Nat.ne_of_gt hlater)
    rw [if_neg hneither] at hline
    -- the owner stands on some line above, so the line above the block is one
    have := hpos owner
    exact classify_elseBlock h hline (by omega)
  · rw [if_pos (Or.inl helif)] at hline
    exact classify_elseBlock h hline (hpos first)
  · rw [if_pos (Or.inr hsame)] at hline
    exact classify_elseBlock h hline (hpos first)

/-- A `try` whose `else` holds a call. -/
theorem else_counted_on_line_above_try :
    let lines := LineIndex.ofSource "try:\n f()\nexcept:\n f()\nelse:\n f()\n"
    let call (start : Nat) : Stmt := .expr ⟨start, start + 3⟩
      (.call ⟨start, start + 3⟩ (.name ⟨start, start + 1⟩ "f" .load) [] [])
    let owner : Stmt := .tryBlock ⟨0, 33⟩ false [call 6] [⟨⟨10, 22⟩, none, none, [call 19]⟩]
      [call 30] []
    classify lines (.stmt owner) = .ok [conditionAt lines (.stmt (call 30)) 5] := by
  intro lines call owner
  have hline : lines.lineOf (call 30).span.start = 6 := by decide
  have habove := (else_counted_on_line_above lines owner (call 30) [] rfl).1 (by decide) rfl
  rwa [hline] at habove

/-- **An `if` keeps its line in the `else` of a loop.** It stands on line 4 and the `else` on line
3, but the condition of the `else` is counted on line 4. -/
theorem if_in_loop_else_keeps_line :
    let source := "for x in y:\n    pass\nelse:\n    if a:\n        pass\n"
    let lines := LineIndex.ofSource source
    ∃ body owner first, parseModule source = .ok body ∧ .stmt owner ∈ walk body ∧
      owner.elseBlock = [first] ∧ lines.lineOf owner.span.start = 1 ∧
      lines.lineOf first.span.start = 4 ∧
      classify lines (.stmt owner) = .ok [conditionAt lines (.stmt first) 4] := by
  intro source lines
  have hany : (moduleOf source).any (fun owner => owner.elseBlock.length == 1 &&
      owner.elseBlock.all fun first => lines.lineOf owner.span.start == 1 &&
        lines.lineOf first.span.start == 4 && (Node.stmt first).isElif) = true := by
    decide +kernel
  obtain ⟨owner, hmem, hcheck⟩ := List.any_eq_true.mp hany
  simp only [Bool.and_eq_true, beq_iff_eq] at hcheck
  obtain ⟨hlength, hall⟩ := hcheck
  obtain ⟨first, hblock⟩ := List.length_eq_one_iff.mp hlength
  simp only [hblock, List.all_cons, List.all_nil, Bool.and_true, Bool.and_eq_true,
    beq_iff_eq] at hall
  obtain ⟨⟨howner, hfirst⟩, helif⟩ := hall
  have hline := alternativeLine_stmt lines owner first
  rw [if_pos (Or.inl helif), hfirst] at hline
  exact ⟨moduleOf source, owner, first, parseModule_moduleOf (by decide +kernel),
    mem_walk_of_mem hmem, hblock, howner, hfirst, classify_elseBlock hblock hline (by decide)⟩

end AbcMetric
