import AbcMetric.Analysis
import AbcMetric.Proofs.Pieces
import AbcMetric.Proofs.Relocation
import AbcMetric.Proofs.Traces

/-!
# Text in front of a source moves its metric down

Text put in front of a source pushes every construct of a module down by the newlines of that text.
The metric goes along: nothing is counted anew or lost, and what was on a line is on the line that
has taken its place.

* `LineIndex.lineOf_append`: the line of an offset goes down by the newlines in front.
* `LineIndex.Moves offset down lines lines'` is all that the rest needs to know of the two texts.
* `Node.alternative?` and `AlternativesInOrder`: an `else` is counted one line above what it starts,
  and above the first line there is none. This edge, which text in front would take away, is never
  met if no alternative starts above its owner.
* `classify_moved`, `absorb_moved` and `tally_moved`: a moved node has the moved vectors, and a
  moved module has the moved tally.
-/

namespace AbcMetric

/-! ## The line of an offset -/

/-- The newlines of a text that begins later are later. -/
theorem newlineOffsets_add (base offset : Nat) (text : List Char) :
    newlineOffsets (base + offset) text = (newlineOffsets base text).map (· + offset) := by
  induction text generalizing base with
  | nil => rfl
  | cons c text ih =>
    rw [newlineOffsets, newlineOffsets, Nat.add_right_comm, ih, Nat.add_right_comm, ih]
    split <;> rfl

/-- All newlines of a text stand before its end. -/
theorem countP_newlineOffsets_append (base o : Nat) (before text : List Char) :
    (newlineOffsets base (before ++ text)).countP (· < base + byteCount before + o) =
      before.count '\n' +
        (newlineOffsets (base + byteCount before) text).countP
          (· < base + byteCount before + o) := by
  induction before generalizing base with
  | nil => simp
  | cons c before ih =>
    rw [List.cons_append, newlineOffsets, byteCount_cons, ← Nat.add_assoc]
    by_cases hc : c = '\n'
    · subst hc
      have hone : Char.utf8Size '\n' = 1 := rfl
      rw [if_pos rfl, hone, List.countP_cons_of_pos (by simp; omega), ih (base + 1),
        List.count_cons_self]
      omega
    · rw [if_neg hc, ih, List.count_cons_of_ne hc]

/-- **The line of an offset goes down by the newlines in front of the text.** -/
theorem LineIndex.lineOf_append (before source : String) (o : Nat) :
    (ofSource (before ++ source)).lineOf (o + before.utf8ByteSize) =
      (ofSource source).lineOf o + before.toList.count '\n' := by
  have hall := countP_newlineOffsets_append 0 o before.toList source.toList
  rw [newlineOffsets_add, List.countP_map, Nat.zero_add, byteCount_toList] at hall
  have hlate : ((· < before.utf8ByteSize + o) ∘ (· + before.utf8ByteSize) : Nat → Bool) =
      fun n => decide (n < o) := by
    funext n
    simp only [Function.comp_apply, decide_eq_decide]
    omega
  rw [hlate] at hall
  rw [lineOf_ofSource, lineOf_ofSource, String.toList_append, Nat.add_comm o, hall]
  omega

/-- In `lines'` every offset of `lines` stands `offset` bytes later and `down` lines lower. -/
def LineIndex.Moves (offset down : Nat) (lines lines' : LineIndex) : Prop :=
  ∀ o, lines'.lineOf (o + offset) = lines.lineOf o + down

theorem LineIndex.moves_append (before source : String) :
    Moves before.utf8ByteSize (before.toList.count '\n') (ofSource source)
      (ofSource (before ++ source)) :=
  lineOf_append before source

/-! ## What is moved -/

/-- The range that begins and ends `offset` bytes later. -/
def Span.later (offset : Nat) (s : Span) : Span := ⟨s.start + offset, s.stop + offset⟩

/-- What a vector remembers of its node, moved; a node without a place stays without one. -/
def Origin.moved (offset down : Nat) (origin : Origin) : Origin :=
  match origin.line with
  | none => origin
  | some l => ⟨origin.kind, origin.offset + offset, some (l + down)⟩

namespace AbcVector

/-- The vector on a line that is `down` lines lower. -/
def moved (offset down : Nat) (v : AbcVector) : AbcVector :=
  { v with line := v.line.map (· + down), origin := v.origin.map (Origin.moved offset down) }

end AbcVector

/-- The texts of lines that are `down` lines lower. -/
def Decorations.moved (down : Nat) (ds : Decorations) : Decorations :=
  ds.map fun (line, text) => (line + down, text)

/-- The same total, with decorations that are `down` lines lower. -/
def Tally.moved (down : Nat) (t : Tally) : Tally := ⟨t.total, t.decorations.moved down⟩

/-! ## Alternatives below their owners -/

/-- The first node of the alternative that is counted for a node. -/
def Node.alternative? : Node → Option Node
  | .stmt (.ifElse _ _ _ orelse) => firstOf orelse
  | .stmt (.forLoop _ false _ _ _ orelse) => firstOf orelse
  | .stmt (.whileLoop _ _ _ orelse) => firstOf orelse
  | .stmt (.tryBlock _ false _ _ orelse _) => firstOf orelse
  | .expr (.ifExp _ _ _ orelse) => some (.expr orelse)
  | _ => none

/-- No alternative of a module starts on an earlier line than its owner. -/
def AlternativesInOrder (lines : LineIndex) (body : List Stmt) : Prop :=
  ∀ n ∈ occurrences body, ∀ first ∈ n.alternative?,
    ∀ l ∈ n.line lines, ∀ m ∈ first.line lines, l ≤ m

instance (lines : LineIndex) (body : List Stmt) : Decidable (AlternativesInOrder lines body) :=
  inferInstanceAs (Decidable (∀ n ∈ occurrences body, ∀ first ∈ n.alternative?,
    ∀ l ∈ n.line lines, ∀ m ∈ first.line lines, l ≤ m))

/-- The credit is not for an alternative that starts on an earlier line than its owner. -/
def Credit.InOrder (lines : LineIndex) : Credit → Prop
  | .alternative owner first =>
    ∃ l m, owner.line lines = some l ∧ first.line lines = some m ∧ l ≤ m
  | _ => True

section InOrder

variable {lines : LineIndex}

theorem inOrder_alternativeCredit {owner : Node} {first : Option Node}
    (h : ∀ n ∈ first, (Credit.alternative owner n).InOrder lines) :
    (alternativeCredit owner first).InOrder lines := by
  cases first with
  | none => trivial
  | some n => exact h n rfl

theorem inOrder_conditionalCredits {owner : Node} (test : Expr) {first : Option Node}
    (h : ∀ n ∈ first, (Credit.alternative owner n).InOrder lines) :
    ∀ c ∈ conditionalCredits owner test first, c.InOrder lines := by
  intro c hc
  unfold conditionalCredits at hc
  split at hc
  · obtain rfl := List.mem_singleton.mp hc
    exact inOrder_alternativeCredit h
  · rcases List.mem_cons.mp hc with rfl | hc
    · trivial
    · obtain rfl := List.mem_singleton.mp hc
      exact inOrder_alternativeCredit h

/-- The only credit of a node that may be out of order is that for its alternative. -/
theorem inOrder_credits {n : Node}
    (h : ∀ first ∈ n.alternative?, (Credit.alternative n first).InOrder lines) :
    ∀ c ∈ n.credits, c.InOrder lines := by
  have alternative : ∀ c ∈ [alternativeCredit n n.alternative?], c.InOrder lines := by
    intro c hc
    obtain rfl := List.mem_singleton.mp hc
    exact inOrder_alternativeCredit h
  have other : ∀ c : Credit, c.InOrder lines → ∀ d ∈ [c], d.InOrder lines := by
    intro c hc d hd
    obtain rfl := List.mem_singleton.mp hd
    exact hc
  cases n with
  | stmt s =>
    cases s with
    | forLoop span isAsync target iter body orelse =>
      cases isAsync with
      | false => exact alternative
      | true => exact other _ trivial
    | whileLoop span test body orelse => exact alternative
    | tryBlock span isStar body handlers orelse final =>
      cases isStar with
      | false => exact alternative
      | true => exact other _ trivial
    | ifElse span test body orelse => exact inOrder_conditionalCredits test h
    | assign span targets value =>
      intro c hc
      obtain ⟨target, -, rfl⟩ := List.mem_map.mp hc
      trivial
    | assertTest span test msg => cases test <;> exact other _ trivial
    | _ => exact other _ trivial
  | expr e =>
    cases e with
    | ifExp span test body orelse => exact inOrder_conditionalCredits test h
    | boolOp span op values =>
      intro c hc
      simp only [Node.credits, Expr.credits] at hc
      split at hc
      · exact other (.nothing _) trivial c hc
      · obtain ⟨value, -, rfl⟩ := List.mem_map.mp hc
        trivial
    | _ => exact other _ trivial
  | handler clause => exact other (.condition (.handler clause)) trivial
  | keyword | arg | comprehension | withItem | matchCase => exact other (.nothing _) trivial

theorem Node.placed_of_alternative {n first : Node} (h : first ∈ n.alternative?) :
    n.Placed ∧ first.Placed := by
  cases n with
  | stmt s =>
    refine ⟨placed_stmt s, ?_⟩
    cases s with
    | forLoop span isAsync target iter body orelse =>
      cases isAsync with
      | false => exact placed_firstOf first h
      | true => exact absurd h (by simp [alternative?])
    | tryBlock span isStar body handlers orelse final =>
      cases isStar with
      | false => exact placed_firstOf first h
      | true => exact absurd h (by simp [alternative?])
    | whileLoop span test body orelse => exact placed_firstOf first h
    | ifElse span test body orelse => exact placed_firstOf first h
    | _ => exact absurd h (by simp [alternative?])
  | expr e =>
    refine ⟨placed_expr e, ?_⟩
    cases e with
    | ifExp span test body orelse =>
      obtain rfl := Option.some.inj h
      exact placed_expr orelse
    | _ => exact absurd h (by simp [alternative?])
  | _ => exact absurd h (by simp [alternative?])

/-- **In a module with its alternatives in order every credit is in order.** -/
theorem AlternativesInOrder.credits {body : List Stmt} (h : AlternativesInOrder lines body)
    {n : Node} (hn : n ∈ walk body) : ∀ c ∈ n.credits, c.InOrder lines := by
  refine inOrder_credits fun first hfirst => ?_
  obtain ⟨hplaced, hplaced'⟩ := Node.placed_of_alternative hfirst
  obtain ⟨l, hl⟩ := hplaced.exists_line lines
  obtain ⟨m, hm⟩ := hplaced'.exists_line lines
  exact ⟨l, m, hl, hm, h n ((walk_perm_occurrences body).mem_iff.mp hn) first hfirst l hl m hm⟩

end InOrder

/-! ## One node -/

section Node

variable {offset down : Nat} {lines lines' : LineIndex}

theorem Node.offset_relocate (n : Node) :
    (n.relocate (Span.later offset)).offset = n.offset.map (· + offset) := by
  cases n with
  | stmt s => exact congrArg (fun s : Span => some s.start) (s.span_relocate _)
  | expr e => exact congrArg (fun s : Span => some s.start) (e.span_relocate _)
  | handler h => cases h; rfl
  | keyword k => cases k; rfl
  | arg a => cases a; rfl
  | comprehension | withItem | matchCase => rfl

/-- A moved node is on a lower line. -/
theorem Node.line_moved (h : LineIndex.Moves offset down lines lines') (n : Node) :
    (n.relocate (Span.later offset)).line lines' = (n.line lines).map (· + down) := by
  rw [line, line, offset_relocate, Option.map_map, Option.map_map]
  exact congrArg (Option.map · n.offset) (funext h)

theorem Node.origin_moved (h : LineIndex.Moves offset down lines lines') (n : Node) :
    (n.relocate (Span.later offset)).origin lines' = (n.origin lines).moved offset down := by
  unfold origin Origin.moved
  rw [line_moved h, kind_relocate, offset_relocate]
  cases ho : n.offset with
  | none => simp [line, ho]
  | some o => simp [line, ho]

theorem Node.isElif_relocate (f : Span → Span) (n : Node) :
    (n.relocate f).isElif = n.isElif := by
  cases n with
  | stmt s => cases s <;> rfl
  | _ => rfl

/-- **The line of a moved credit is lower**, if the credit is in order: then no alternative is asked
for the line above the first, which would not move along. -/
theorem Credit.line_moved (h : LineIndex.Moves offset down lines lines') {c : Credit}
    (hc : c.InOrder lines) :
    (c.relocate (Span.later offset)).line lines' = (c.line lines).map (· + down) := by
  cases c with
  | alternative owner first =>
    obtain ⟨l, m, hl, hm, hle⟩ := hc
    have hl' : (owner.relocate (Span.later offset)).line lines' = some (l + down) := by
      rw [Node.line_moved h, hl]
      rfl
    have hm' : (first.relocate (Span.later offset)).line lines' = some (m + down) := by
      rw [Node.line_moved h, hm]
      rfl
    have hpos : 0 < l := Node.line_pos hl
    have hline : ∀ (lines : LineIndex) (owner first : Node),
        (Credit.alternative owner first).line lines =
          AbcVector.resolveLine (first.origin lines) (alternativeLine lines owner first) :=
      fun _ _ _ => rfl
    rw [relocate, hline, hline, alternativeLine_eq hl' hm', alternativeLine_eq hl hm,
      Node.isElif_relocate]
    by_cases hkeep : first.isElif = true ∨ m = l
    · have hkeep' : first.isElif = true ∨ m + down = l + down := hkeep.imp id (congrArg (· + down))
      rw [if_pos hkeep, if_pos hkeep', AbcVector.resolveLine_pos (by omega),
        AbcVector.resolveLine_pos (by omega)]
      rfl
    · have hkeep' : ¬(first.isElif = true ∨ m + down = l + down) :=
        fun hor => hkeep (hor.imp id Nat.add_right_cancel)
      -- the owner is on a line above, so there is a line between
      have hlt : l < m := Nat.lt_of_le_of_ne hle fun heq => hkeep (Or.inr heq.symm)
      rw [if_neg hkeep, if_neg hkeep', AbcVector.resolveLine_pos (by omega),
        AbcVector.resolveLine_pos (by omega), Option.map_some]
      congr 1
      omega
  | nothing n | assignment n | branch n | condition n => exact Node.line_moved h n

/-- The vector of a moved credit is its vector, moved. -/
theorem Credit.vector_moved (h : LineIndex.Moves offset down lines lines') {c : Credit}
    (hc : c.InOrder lines) :
    (c.relocate (Span.later offset)).vector lines' = (c.vector lines).moved offset down := by
  rw [vector, counters_relocate, line_moved h hc, node_relocate, Node.origin_moved h]
  rfl

theorem map_vector_moved (h : LineIndex.Moves offset down lines lines') {cs : List Credit}
    (hcs : ∀ c ∈ cs, c.InOrder lines) :
    (cs.map (Credit.relocate (Span.later offset))).map (Credit.vector lines') =
      (cs.map (Credit.vector lines)).map (AbcVector.moved offset down) := by
  rw [List.map_map, List.map_map]
  exact List.map_congr_left fun c hc => c.vector_moved h (hcs c hc)

/-- **A moved node has its vectors, moved.** -/
theorem classify_moved (h : LineIndex.Moves offset down lines lines') {n : Node}
    (hn : ∀ c ∈ n.credits, c.InOrder lines) :
    classify lines' (n.relocate (Span.later offset)) =
      (classify lines n).map (List.map (AbcVector.moved offset down)) := by
  rw [classify_eq, classify_eq, Node.credits_relocate, map_vector_moved h hn]
  rfl

end Node

/-! ## A whole module -/

theorem Decorations.append_moved {down : Nat} (line : Nat) (letters : String) (ds : Decorations) :
    (ds.moved down).append (line + down) letters = (ds.append line letters).moved down := by
  induction ds with
  | nil => rfl
  | cons entry ds ih =>
    obtain ⟨l, text⟩ := entry
    have hcons : ∀ ds : Decorations,
        moved down ((l, text) :: ds) = (l + down, text) :: ds.moved down := fun _ => rfl
    rw [hcons, append, append, ih]
    simp only [Nat.add_lt_add_iff_right, Nat.add_right_cancel_iff]
    split
    · rfl
    · split <;> rfl

namespace Tally

variable {offset down : Nat}

/-- One step on a moved vector. -/
theorem absorb_moved (t : Tally) (v : AbcVector) :
    (t.moved down).absorb (v.moved offset down) = (t.absorb v).map (moved down) := by
  cases hv : v.line with
  | none =>
    have hv' : (v.moved offset down).line = none := by
      rw [AbcVector.moved, hv]
      rfl
    rw [absorb_of_no_line hv, absorb_of_no_line hv']
    rfl
  | some line =>
    have hv' : (v.moved offset down).line = some (line + down) := by
      rw [AbcVector.moved, hv]
      rfl
    have hadd : (t.moved down).total.add (v.moved offset down) = t.total.add v := rfl
    have hletters : (v.moved offset down).letters = v.letters := rfl
    rw [absorb_of_line hv, absorb_of_line hv', hadd, hletters]
    cases t.total.add v with
    | error fault => rfl
    | ok total =>
      cases v.letters with
      | error fault => rfl
      | ok letters =>
        exact congrArg (fun ds => Except.ok (Tally.mk total ds))
          (Decorations.append_moved line letters t.decorations)

/-- A run of moved vectors. -/
theorem absorbAll_moved (t : Tally) (vs : List AbcVector) :
    (t.moved down).absorbAll (vs.map (AbcVector.moved offset down)) =
      (t.absorbAll vs).map (moved down) := by
  induction vs generalizing t with
  | nil => rfl
  | cons v vs ih =>
    rw [List.map_cons, absorbAll_cons, absorbAll_cons, absorb_moved]
    cases t.absorb v with
    | error fault => rfl
    | ok t' => exact ih t'

theorem sorted_moved (t : Tally) : (t.moved down).sorted = t.sorted.moved down := by
  simp [sorted, unsorted, moved, Decorations.moved]

end Tally

/-- **The tally of a moved module is its tally, moved.** -/
theorem tally_moved {offset down : Nat} {lines lines' : LineIndex}
    (h : LineIndex.Moves offset down lines lines') {body : List Stmt}
    (hbody : AlternativesInOrder lines body) :
    tally lines' (relocateStmts (Span.later offset) body) =
      (tally lines body).map (Tally.moved down) := by
  have hcontributions : contributions lines' (relocateStmts (Span.later offset) body) =
      (contributions lines body).map (AbcVector.moved offset down) := by
    have hcredits : moduleCredits (relocateStmts (Span.later offset) body) =
        (moduleCredits body).map (Credit.relocate (Span.later offset)) := by
      rw [moduleCredits, moduleCredits, walk_relocate, List.flatMap_map, List.map_flatMap]
      exact List.flatMap_congr fun n _ => Node.credits_relocate _ n
    rw [contributions, hcredits]
    refine map_vector_moved h fun c hc => ?_
    obtain ⟨n, hn, hc⟩ := List.mem_flatMap.mp hc
    exact hbody.credits hn c hc
  rw [tally_eq, tally_eq, hcontributions]
  exact Tally.absorbAll_moved Tally.empty _

/-- An analysis has the total and the sorted decorations of the tally, whatever is asked for
besides. -/
theorem map_analyzeBody {β : Type} (g : AbcVector → Decorations → β) (source : String)
    (body : List Stmt) (options : AnalysisOptions) :
    (analyzeBody source body options).map (fun a => g a.vector a.decorations) =
      (tally (.ofSource source) body).map fun t => g t.total t.sorted := by
  unfold analyzeBody
  dsimp only
  rw [debugText_of_trace (trace_eq (.ofSource source) body)]
  cases tally (.ofSource source) body with
  | error fault => rfl
  | ok t => cases options.debug <;> rfl

/-- **Text in front of a source moves its metric down.** For a module in which no alternative starts
on an earlier line than its owner, put `before` in front of the source and move every construct by
the bytes of `before`. Then the same nodes are visited, each is classified into the same vectors on
lines that are lower by the newlines of `before`, and the analysis has the same total and the same
sorted decorations, lower by as many lines; if counting overflows, it does so in both. -/
theorem analysis_moves_down (before source : String) (body : List Stmt)
    (h : AlternativesInOrder (.ofSource source) body) :
    let offset := before.utf8ByteSize
    let down := before.toList.count '\n'
    walk (relocateStmts (Span.later offset) body) =
        (walk body).map (Node.relocate (Span.later offset)) ∧
      (∀ n ∈ walk body,
        classify (.ofSource (before ++ source)) (n.relocate (Span.later offset)) =
          (classify (.ofSource source) n).map (List.map (AbcVector.moved offset down))) ∧
      ∀ options,
        (analyzeBody (before ++ source) (relocateStmts (Span.later offset) body) options).map
            (fun a => (a.vector, a.decorations)) =
          (analyzeBody source body options).map
            (fun a => (a.vector, a.decorations.moved down)) := by
  intro offset down
  have hmoves := LineIndex.moves_append before source
  refine ⟨walk_relocate _ body, fun n hn => classify_moved hmoves (h.credits hn), ?_⟩
  intro options
  rw [map_analyzeBody Prod.mk, map_analyzeBody fun v ds => (v, ds.moved down),
    tally_moved hmoves h]
  cases tally (.ofSource source) body with
  | error fault => rfl
  | ok t => exact congrArg (fun ds => Except.ok (t.total, ds)) t.sorted_moved

/-- A conditional with calls in both branches, below a comment and an empty line. -/
theorem analysis_moves_down_conditional :
    let call (start : Nat) : Stmt := .expr ⟨start, start + 3⟩
      (.call ⟨start, start + 3⟩ (.name ⟨start, start + 1⟩ "f" .load) [] [])
    let body := [.ifElse ⟨0, 23⟩ (.name ⟨3, 4⟩ "x" .load) [call 8] [call 20]]
    (analyzeBody "# é\n\nif x:\n  f()\nelse:\n  f()" (relocateStmts (Span.later 6) body) {}).map
        (fun a => (a.vector, a.decorations)) =
      .ok (⟨0, 2, 2, none, none⟩, [(3, "c"), (4, "b"), (5, "c"), (6, "b")]) := by
  intro call body
  obtain ⟨-, -, hmoved⟩ := analysis_moves_down "# é\n\n" "if x:\n  f()\nelse:\n  f()" body
    (by decide)
  have h := hmoved {}
  have hplain : (analyzeBody "if x:\n  f()\nelse:\n  f()" body {}).map
      (fun a => (a.vector, a.decorations.moved 2)) =
      .ok (⟨0, 2, 2, none, none⟩, [(3, "c"), (4, "b"), (5, "c"), (6, "b")]) := by
    decide +kernel
  exact h.trans hplain

end AbcMetric
