import AbcMetric.Grammar.Stmt
import AbcMetric.Proofs.CasePatterns
import AbcMetric.Proofs.Yields

/-!
# The cases of a parsed module

A `case` stands only where the rule for `match` has put it, and its pattern is what the rule for
patterns has yielded. So a property of all that the pattern rule yields holds of the pattern of
every `case` of a parsed module, however deep it stands (`parseModule_patterns`).

The rules for statements call each other through `StmtRules.suite`. Each is proved for whatever that
rule yields, and `yields_suite` ties them together by induction on the levels of nesting.
-/

namespace AbcMetric

open AbcMetric.Parser

namespace StmtRules

/-! ## Simple statements -/

theorem yields_exprStmt (r : Rules) : (exprStmt r).Yields (·.isSimple = true) := by
  unfold exprStmt
  refine yields_bind fun start => yields_bind fun next => yields_bind fun first => ?_
  refine yields_bind fun colon => ?_
  split
  · refine yields_bind fun hint => yields_bind fun equal => ?_
    split
    · exact yields_bind fun value => yields_bind fun span => yields_pure rfl
    · exact yields_bind fun value => yields_bind fun span => yields_pure rfl
  · refine yields_bind fun elements => ?_
    extract_lets more rest
    -- the target is known; what follows it decides the kind of statement
    have hrest : ∀ target, (rest target).Yields (·.isSimple = true) := by
      intro target
      refine yields_bind fun next => ?_
      split
      · refine yields_bind fun _ => yields_bind fun value => yields_bind fun span => ?_
        exact yields_pure rfl
      · refine yields_bind fun values => ?_
        split
        · exact yields_bind fun span => yields_pure rfl
        · exact yields_bind fun span => yields_pure rfl
    split
    · exact yields_bind hrest
    · exact yields_bind fun span => yields_bind hrest

theorem yields_importFrom (r : Rules) : (importFrom r).Yields (·.isSimple = true) := by
  unfold importFrom
  refine yields_bind fun start => yields_bind fun _ => yields_bind fun level => ?_
  extract_lets rest
  have hrest : ∀ module, (rest module).Yields (·.isSimple = true) := fun module =>
    yields_bind fun _ => yields_bind fun names => yields_bind fun span => yields_pure rfl
  refine yields_bind fun next => ?_
  split
  · exact yields_bind hrest
  · exact yields_bind hrest

theorem yields_typeAlias (r : Rules) : (typeAlias r).Yields (·.isSimple = true) := by
  unfold typeAlias
  refine yields_bind fun start => yields_bind fun _ => yields_bind fun nameStart => ?_
  refine yields_bind fun id => yields_bind fun nameSpan => yields_bind fun params => ?_
  exact yields_bind fun _ => yields_bind fun value => yields_bind fun span => yields_pure rfl

theorem yields_small (r : Rules) : (small r).Yields (·.isSimple = true) := by
  unfold small
  refine yields_bind fun start => yields_bind fun next => ?_
  split
  · exact yields_bind fun l => yields_pure rfl
  · exact yields_bind fun l => yields_pure rfl
  · exact yields_bind fun l => yields_pure rfl
  · refine yields_bind fun _ => yields_bind fun more => ?_
    split
    · exact yields_bind fun value => yields_bind fun span => yields_pure rfl
    · exact yields_bind fun value => yields_bind fun span => yields_pure rfl
  · exact yields_bind fun e => yields_bind fun span => yields_pure rfl
  · refine yields_bind fun _ => yields_bind fun more => ?_
    split
    · refine yields_bind fun exc => yields_bind fun word => ?_
      split
      · exact yields_bind fun cause => yields_bind fun span => yields_pure rfl
      · exact yields_bind fun cause => yields_bind fun span => yields_pure rfl
    · exact yields_bind fun span => yields_pure rfl
  · refine yields_bind fun _ => yields_bind fun targets => yields_bind fun span => ?_
    exact yields_pure rfl
  · exact yields_bind fun _ => yields_bind fun names => yields_bind fun span => yields_pure rfl
  · exact yields_bind fun _ => yields_bind fun names => yields_bind fun span => yields_pure rfl
  · refine yields_bind fun _ => yields_bind fun test => yields_bind fun comma => ?_
    split
    · exact yields_bind fun msg => yields_bind fun span => yields_pure rfl
    · exact yields_bind fun msg => yields_bind fun span => yields_pure rfl
  · exact yields_bind fun _ => yields_bind fun names => yields_bind fun span => yields_pure rfl
  · exact yields_importFrom r
  · exact yields_typeAlias r
  · exact yields_exprStmt r

theorem yields_smallTail (r : Rules) :
    ∀ (fuel : Nat) {done : List Stmt}, (∀ s ∈ done, s.isSimple = true) →
      (smallTail r done fuel).Yields fun found => ∀ s ∈ found, s.isSimple = true
  | 0, _, _ => yields_unexpected
  | fuel + 1, done, hdone => by
    unfold smallTail
    refine yields_bind fun semi => ?_
    split
    · refine yields_bind fun more => ?_
      split
      · exact (yields_small r).bind fun s hs =>
          yields_smallTail r fuel (List.forall_mem_cons.mpr ⟨hs, hdone⟩)
      · exact yields_bind fun _ => yields_pure (forall_mem_reverse hdone)
    · exact yields_bind fun _ => yields_pure (forall_mem_reverse hdone)

/-- A line of small statements holds no `case`. -/
theorem yields_simpleLine (r : Rules) (P : Pattern → Prop) :
    (simpleLine r).Yields (BlockHas P) := by
  unfold simpleLine
  refine (yields_small r).bind fun s hs => ?_
  refine (yields_smallTail r _ (List.forall_mem_cons.mpr ⟨hs, List.forall_mem_nil _⟩)).imp ?_
  exact fun found hfound s hs => Node.casesHave_of_isSimple (hfound s hs)

/-! ## Compound statements -/

/-- Each `elif` is the alternative of the clause before it. -/
theorem blockHas_elifs {P : Pattern → Prop} {elifs : List (Nat × Expr × List Stmt)}
    {orelse : List Stmt} (stop : Nat) (he : ∀ clause ∈ elifs, BlockHas P clause.2.2)
    (ho : BlockHas P orelse) :
    BlockHas P (elifs.foldr
      (fun (clause : Nat × Expr × List Stmt) rest =>
        [Stmt.ifElse ⟨clause.1, stop⟩ clause.2.1 clause.2.2 rest]) orelse) := by
  induction elifs with
  | nil => exact ho
  | cons clause elifs ih =>
    obtain ⟨hclause, helifs⟩ := List.forall_mem_cons.mp he
    refine List.forall_mem_cons.mpr ⟨?_, List.forall_mem_nil _⟩
    exact Node.casesHave_ifElse hclause (ih helifs)

theorem blockHas_append {P : Pattern → Prop} {found done : List Stmt} (hf : BlockHas P found)
    (hd : BlockHas P done) :
    BlockHas P (found.reverse ++ done) :=
  List.forall_mem_append.mpr ⟨forall_mem_reverse hf, hd⟩

section

variable {P : Pattern → Prop} {s : StmtRules} (hs : s.suite.Yields (BlockHas P))

include hs

theorem yields_block : s.block.Yields (BlockHas P) := by
  unfold block
  exact yields_bind fun _ => hs

theorem yields_elseBlock : s.elseBlock.Yields (BlockHas P) := by
  unfold elseBlock
  refine yields_bind fun word => ?_
  split
  · exact yields_block hs
  · exact yields_pure (List.forall_mem_nil _)

theorem yields_elifClause : s.elifClause.Yields fun clause => BlockHas P clause.2.2 := by
  unfold elifClause
  refine yields_bind fun start => yields_bind fun _ => yields_bind fun test => ?_
  exact (yields_block hs).bind fun body hbody => yields_pure hbody

theorem yields_ifStmt : s.ifStmt.Yields fun t => (Node.stmt t).CasesHave P := by
  unfold ifStmt
  refine yields_bind fun start => yields_bind fun _ => yields_bind fun test => ?_
  refine (yields_block hs).bind fun body hbody => ?_
  refine (yields_manyWhile _ (yields_elifClause hs)).bind fun elifs helifs => ?_
  refine (yields_elseBlock hs).bind fun orelse horelse => ?_
  exact yields_pure (Node.casesHave_ifElse hbody (blockHas_elifs _ helifs horelse))

theorem yields_whileStmt : s.whileStmt.Yields fun t => (Node.stmt t).CasesHave P := by
  unfold whileStmt
  refine yields_bind fun start => yields_bind fun _ => yields_bind fun test => ?_
  refine (yields_block hs).bind fun body hbody => ?_
  refine (yields_elseBlock hs).bind fun orelse horelse => ?_
  exact yields_pure (Node.casesHave_whileLoop hbody horelse)

theorem yields_forStmt (start : Nat) (isAsync : Bool) :
    (s.forStmt start isAsync).Yields fun t => (Node.stmt t).CasesHave P := by
  unfold forStmt
  refine yields_bind fun _ => yields_bind fun target => yields_bind fun _ => ?_
  refine yields_bind fun iter => (yields_block hs).bind fun body hbody => ?_
  refine (yields_elseBlock hs).bind fun orelse horelse => ?_
  exact yields_pure (Node.casesHave_forLoop hbody horelse)

theorem yields_withStmt (start : Nat) (isAsync : Bool) :
    (s.withStmt start isAsync).Yields fun t => (Node.stmt t).CasesHave P := by
  unfold withStmt
  refine yields_bind fun _ => ?_
  extract_lets rest
  have hrest : ∀ items, (rest items).Yields fun t => (Node.stmt t).CasesHave P := fun items =>
    (yields_block hs).bind fun body hbody => yields_pure (Node.casesHave_withBlock hbody)
  refine yields_bind fun next => ?_
  split
  · exact yields_bind hrest
  · exact yields_bind hrest

theorem yields_exceptClause (isStar : Bool) :
    (s.exceptClause isStar).Yields fun h => BlockHas P h.body := by
  unfold exceptClause
  refine yields_bind fun start => yields_bind fun _ => ?_
  extract_lets named typed
  -- the type and the name are read by turns, and neither holds a statement
  have hnamed : ∀ type, (named type).Yields fun h => BlockHas P h.body := by
    intro type
    have hbody : ∀ name : Option String, (do
        let body ← s.block
        return ⟨⟨start, stopOf 0 body⟩, type, name, body⟩ : Parser ExceptHandler).Yields
          fun h => BlockHas P h.body :=
      fun name => (yields_block hs).bind fun body hbody => yields_pure hbody
    refine yields_bind fun word => ?_
    split
    · exact yields_bind hbody
    · exact yields_bind hbody
  have htyped : ∀ u, (typed u).Yields fun h => BlockHas P h.body := by
    intro u
    refine yields_bind fun next => ?_
    split
    · exact yields_bind hnamed
    · exact yields_bind hnamed
  split
  · exact yields_bind htyped
  · exact htyped ()

theorem yields_tryStmt : s.tryStmt.Yields fun t => (Node.stmt t).CasesHave P := by
  unfold tryStmt
  refine yields_bind fun start => yields_bind fun _ => ?_
  refine (yields_block hs).bind fun body hbody => yields_bind fun next => ?_
  split
  · refine yields_bind fun star => ?_
    refine (yields_manyWhile _ (yields_exceptClause hs _)).bind fun handlers hhandlers => ?_
    refine (yields_elseBlock hs).bind fun orelse horelse => yields_bind fun word => ?_
    split
    · refine (yields_block hs).bind fun final hfinal => ?_
      exact yields_pure (Node.casesHave_tryBlock hbody hhandlers horelse hfinal)
    · refine (yields_pure (P := BlockHas P) (List.forall_mem_nil _)).bind fun final hfinal => ?_
      exact yields_pure (Node.casesHave_tryBlock hbody hhandlers horelse hfinal)
  · refine yields_bind fun _ => (yields_block hs).bind fun final hfinal => ?_
    exact yields_pure (Node.casesHave_tryBlock hbody (List.forall_mem_nil _)
      (List.forall_mem_nil _) hfinal)

theorem yields_functionDef (decorators : List Expr) (start : Nat) (isAsync : Bool) :
    (s.functionDef decorators start isAsync).Yields fun t => (Node.stmt t).CasesHave P := by
  unfold functionDef
  refine yields_bind fun _ => yields_bind fun name => yields_bind fun typeParams => ?_
  refine yields_bind fun _ => yields_bind fun params => yields_bind fun _ => ?_
  extract_lets rest
  have hrest : ∀ returns, (rest returns).Yields fun t => (Node.stmt t).CasesHave P := fun returns =>
    (yields_block hs).bind fun body hbody => yields_pure (Node.casesHave_functionDef hbody)
  refine yields_bind fun _ => yields_bind fun arrow => ?_
  split
  · exact yields_bind hrest
  · exact yields_bind hrest

theorem yields_classDef (decorators : List Expr) :
    (s.classDef decorators).Yields fun t => (Node.stmt t).CasesHave P := by
  unfold classDef
  refine yields_bind fun start => yields_bind fun _ => yields_bind fun name => ?_
  refine yields_bind fun typeParams => ?_
  extract_lets rest
  have hrest : ∀ args, (rest args).Yields fun t => (Node.stmt t).CasesHave P := fun args =>
    (yields_block hs).bind fun body hbody => yields_pure (Node.casesHave_classDef hbody)
  refine yields_bind fun next => ?_
  split
  · exact yields_bind hrest
  · exact yields_bind hrest

theorem yields_decorated : s.decorated.Yields fun t => (Node.stmt t).CasesHave P := by
  unfold decorated
  refine yields_bind fun decorators => yields_bind fun next => ?_
  split
  · exact yields_classDef hs decorators
  · refine yields_bind fun start => yields_bind fun isAsync => ?_
    exact yields_functionDef hs decorators start isAsync

/-! ## Matches -/

variable (hp : s.patterns.top.Yields P)

include hp

/-- **The pattern of a `case` is what the pattern rule yields.** -/
theorem yields_caseClause : s.caseClause.Yields fun c => (Node.matchCase c).CasesHave P := by
  unfold caseClause
  refine yields_bind fun _ => hp.bind fun pattern hpattern => yields_bind fun word => ?_
  extract_lets rest
  have hrest : ∀ guard, (rest guard).Yields fun c => (Node.matchCase c).CasesHave P := fun guard =>
    (yields_block hs).bind fun body hbody => yields_pure (Node.casesHave_matchCase hpattern hbody)
  split
  · exact yields_bind hrest
  · exact yields_bind hrest

theorem yields_matchStmt : s.matchStmt.Yields fun t => (Node.stmt t).CasesHave P := by
  unfold matchStmt
  refine yields_bind fun start => yields_bind fun _ => yields_bind fun subjects => ?_
  refine yields_bind fun _ => yields_bind fun _ => yields_bind fun _ => ?_
  refine (yields_caseClause hs hp).bind fun first hfirst => ?_
  refine (yields_manyWhile _ (yields_caseClause hs hp)).bind fun more hmore => ?_
  refine yields_bind fun _ => ?_
  exact yields_pure (Node.casesHave_matchCases (List.forall_mem_cons.mpr ⟨hfirst, hmore⟩))

theorem yields_compound : s.compound.Yields fun t => (Node.stmt t).CasesHave P := by
  unfold compound
  refine yields_bind fun start => yields_bind fun next => ?_
  split
  · exact yields_ifStmt hs
  · exact yields_whileStmt hs
  · exact yields_forStmt hs start false
  · exact yields_tryStmt hs
  · exact yields_withStmt hs start false
  · exact yields_matchStmt hs hp
  · refine yields_bind fun _ => yields_bind fun next => ?_
    split
    · exact yields_forStmt hs start true
    · exact yields_withStmt hs start true
    · exact yields_functionDef hs [] start true
  · exact yields_decorated hs

/-! ## Blocks -/

theorem yields_statement : s.statement.Yields (BlockHas P) := by
  unfold statement
  refine yields_bind fun compound => ?_
  split
  · refine (yields_compound hs hp).bind fun t ht => ?_
    exact yields_pure (List.forall_mem_cons.mpr ⟨ht, List.forall_mem_nil _⟩)
  · exact yields_simpleLine s.rules P

theorem yields_blockTail :
    ∀ (fuel : Nat) {done : List Stmt}, BlockHas P done →
      (s.blockTail done fuel).Yields (BlockHas P)
  | 0, _, _ => yields_unexpected
  | fuel + 1, done, hdone => by
    unfold blockTail
    refine yields_bind fun dedent => ?_
    split
    · exact yields_pure (forall_mem_reverse hdone)
    · exact (yields_statement hs hp).bind fun found hfound =>
        yields_blockTail fuel (blockHas_append hfound hdone)

theorem yields_suiteBody : s.suiteBody.Yields (BlockHas P) := by
  unfold suiteBody
  refine yields_bind fun newline => ?_
  split
  · refine yields_bind fun _ => (yields_statement hs hp).bind fun found hfound => ?_
    exact yields_blockTail hs hp _ (forall_mem_reverse hfound)
  · exact yields_simpleLine s.rules P

theorem yields_moduleTail :
    ∀ (fuel : Nat) {done : List Stmt}, BlockHas P done →
      (s.moduleTail done fuel).Yields (BlockHas P)
  | 0, _, _ => yields_unexpected
  | fuel + 1, done, hdone => by
    unfold moduleTail
    refine yields_bind fun next => ?_
    split
    · exact yields_pure (forall_mem_reverse hdone)
    · exact yields_bind fun _ => yields_moduleTail fuel hdone
    · exact (yields_statement hs hp).bind fun found hfound =>
        yields_moduleTail fuel (blockHas_append hfound hdone)

end

theorem patterns_level (rules : Rules) (patterns : PatternRules) (depth : Nat) :
    (level rules patterns depth).patterns = patterns := by
  cases depth <;> rfl

/-- The block of a statement, whatever levels of nesting are left. -/
theorem yields_suite {P : Pattern → Prop} {patterns : PatternRules} (hp : patterns.top.Yields P)
    (rules : Rules) (depth : Nat) : (level rules patterns depth).suite.Yields (BlockHas P) := by
  induction depth with
  | zero => exact yields_bind fun offset => yields_fail
  | succ depth ih =>
    refine yields_suiteBody ih ?_
    rw [patterns_level]
    exact hp

end StmtRules

/-! ## Modules -/

theorem Scan.parse_yields {α : Type} {rule : Parser α} {P : α → Prop} (hr : rule.Yields P)
    {tokens : Scan} {offset : Nat} {a : α} (h : tokens.parse offset rule = .ok a) : P a := by
  have hsettled : (do Parser.settle; rule : Parser α).Yields P := yields_bind fun _ => hr
  unfold Scan.parse at h
  split at h
  · rename_i result rest hrun
    rw [← Except.ok.inj h]
    exact hsettled _ result rest hrun
  · exact absurd h (by simp)

/-- **What the pattern rule yields at every level is what the cases of a module hold.** -/
theorem parseModule_patterns {P : Pattern → Prop}
    (hp : ∀ rules depth, (PatternRules.level rules depth).top.Yields P) {source : String}
    {names : CharNames} {body : List Stmt} (h : parseModule source names = .ok body) :
    ∀ c, .matchCase c ∈ walk body → P c.pattern := by
  unfold parseModule at h
  extract_lets tokens size rules patterns stmts at h
  have hbody : BlockHas P body := by
    refine Scan.parse_yields (StmtRules.yields_moduleTail ?_ ?_ _ (List.forall_mem_nil _)) h
    · exact StmtRules.yields_suite (hp _ _) _ _
    · rw [StmtRules.patterns_level]
      exact hp _ _
  intro c hc
  rw [walk_eq_preorder] at hc
  obtain ⟨top, htop, hc⟩ := List.mem_flatMap.mp hc
  exact Node.casesHave_block hbody top htop c hc

end AbcMetric
