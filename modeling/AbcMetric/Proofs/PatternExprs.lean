import AbcMetric.Grammar.Pattern
import AbcMetric.Proofs.Yields

/-!
# The expressions that patterns hold

A pattern holds an expression as the value of a literal or dotted name, as the key of a mapping and
as the class of a class pattern. `Pattern.exprs` lists them, at whatever depth they stand.

What the grammar puts there is of two kinds. `Expr.isPlain` is a literal, a name, or attributes,
signs, sums and differences of these. A run of string literals is a literal too, but with a
formatted string among them it is `Expr.isFormatted`, and such a string may hold any expression.

* `yields_top`: every expression held by the pattern of a `case` is of one of the two kinds. The
  rules call each other through `PatternRules.pattern`, so each is proved for whatever that rule
  yields, and `yields_level` ties them together by induction on the levels of nesting.
-/

namespace AbcMetric

/-! ## The listing -/

mutual

/-- The expressions that a pattern holds. -/
def Pattern.exprs : Pattern → List Expr
  | .value _ e => [e]
  | .singleton .. => []
  | .sequence _ patterns => patternExprs patterns
  | .mapping _ entries _ => entryExprs entries
  | .classPattern _ cls patterns named => cls :: patternExprs patterns ++ namedExprs named
  | .star .. => []
  | .capture _ none _ => []
  | .capture _ (some pattern) _ => pattern.exprs
  | .alternatives _ patterns => patternExprs patterns

/-- The expressions that patterns hold. -/
def patternExprs : List Pattern → List Expr
  | [] => []
  | p :: rest => p.exprs ++ patternExprs rest

/-- The keys of a mapping pattern, and the expressions that its patterns hold. -/
def entryExprs : List MappingEntry → List Expr
  | [] => []
  | ⟨key, pattern⟩ :: rest => key :: pattern.exprs ++ entryExprs rest

/-- The expressions that the named patterns of a class pattern hold. -/
def namedExprs : List NamedPattern → List Expr
  | [] => []
  | ⟨_, pattern⟩ :: rest => pattern.exprs ++ namedExprs rest

end

namespace Expr

/-- A literal, a name, or attributes, signs and operators on these. -/
def isPlain : Expr → Bool
  | .constant .. | .name .. => true
  | .attr _ value _ _ => value.isPlain
  | .unaryOp _ _ operand => operand.isPlain
  | .binOp _ left _ right => left.isPlain && right.isPlain
  | _ => false

/-- A formatted string. -/
def isFormatted : Expr → Bool
  | .joinedStr .. => true
  | _ => false

/-- What a pattern may hold. -/
def FitsPattern (e : Expr) : Prop := e.isPlain = true ∨ e.isFormatted = true

end Expr

/-! ## Patterns that hold nothing else -/

namespace Pattern

/-- Everything that the pattern holds is plain or a formatted string. -/
def Fits (p : Pattern) : Prop := ∀ e ∈ p.exprs, e.FitsPattern

/-- Key and pattern of the entry are so. -/
def EntryFits (entry : MappingEntry) : Prop := entry.key.FitsPattern ∧ entry.pattern.Fits

theorem forall_mem_patternExprs {patterns : List Pattern} (h : ∀ p ∈ patterns, p.Fits) :
    ∀ e ∈ patternExprs patterns, e.FitsPattern := by
  induction patterns with
  | nil => exact List.forall_mem_nil _
  | cons p rest ih =>
    obtain ⟨hp, hrest⟩ := List.forall_mem_cons.mp h
    exact List.forall_mem_append.mpr ⟨hp, ih hrest⟩

theorem forall_mem_entryExprs {entries : List MappingEntry}
    (h : ∀ entry ∈ entries, EntryFits entry) : ∀ e ∈ entryExprs entries, e.FitsPattern := by
  induction entries with
  | nil => exact List.forall_mem_nil _
  | cons entry rest ih =>
    obtain ⟨⟨hkey, hpattern⟩, hrest⟩ := List.forall_mem_cons.mp h
    cases entry
    exact List.forall_mem_append.mpr ⟨List.forall_mem_cons.mpr ⟨hkey, hpattern⟩, ih hrest⟩

theorem forall_mem_namedExprs {named : List NamedPattern} (h : ∀ n ∈ named, n.pattern.Fits) :
    ∀ e ∈ namedExprs named, e.FitsPattern := by
  induction named with
  | nil => exact List.forall_mem_nil _
  | cons n rest ih =>
    obtain ⟨hpattern, hrest⟩ := List.forall_mem_cons.mp h
    cases n
    exact List.forall_mem_append.mpr ⟨hpattern, ih hrest⟩

theorem fits_value {span : Span} {e : Expr} (h : e.FitsPattern) : (Pattern.value span e).Fits := by
  show ∀ d ∈ [e], d.FitsPattern
  exact List.forall_mem_singleton.mpr h

theorem fits_sequence {span : Span} {patterns : List Pattern} (h : ∀ p ∈ patterns, p.Fits) :
    (Pattern.sequence span patterns).Fits := by
  show ∀ e ∈ patternExprs patterns, e.FitsPattern
  exact forall_mem_patternExprs h

theorem fits_alternatives {span : Span} {patterns : List Pattern} (h : ∀ p ∈ patterns, p.Fits) :
    (Pattern.alternatives span patterns).Fits := by
  show ∀ e ∈ patternExprs patterns, e.FitsPattern
  exact forall_mem_patternExprs h

theorem fits_mapping {span : Span} {entries : List MappingEntry} {rest : Option String}
    (h : ∀ entry ∈ entries, EntryFits entry) :
    (Pattern.mapping span entries rest).Fits := by
  show ∀ e ∈ entryExprs entries, e.FitsPattern
  exact forall_mem_entryExprs h

theorem fits_classPattern {span : Span} {cls : Expr} {patterns : List Pattern}
    {named : List NamedPattern} (hc : cls.FitsPattern) (hp : ∀ p ∈ patterns, p.Fits)
    (hn : ∀ n ∈ named, n.pattern.Fits) : (Pattern.classPattern span cls patterns named).Fits := by
  show ∀ e ∈ cls :: patternExprs patterns ++ namedExprs named, e.FitsPattern
  refine List.forall_mem_append.mpr ⟨List.forall_mem_cons.mpr ⟨hc, ?_⟩, forall_mem_namedExprs hn⟩
  exact forall_mem_patternExprs hp

theorem fits_capture {span : Span} {pattern : Pattern} {name : Option String} (h : pattern.Fits) :
    (Pattern.capture span (some pattern) name).Fits := by
  show ∀ e ∈ pattern.exprs, e.FitsPattern
  exact h

/-- A pattern that holds no expression. -/
theorem fits_of_exprs_nil {p : Pattern} (h : p.exprs = []) : p.Fits := by
  unfold Fits
  rw [h]
  exact List.forall_mem_nil _

end Pattern

/-! ## The rules for expressions -/

open AbcMetric.Parser

/-- A run of literals is a literal, or a formatted string. -/
theorem fitsPattern_of_joinLiterals {reader : LiteralReader} {run : List PlacedLiteral} {e : Expr}
    (h : joinLiterals reader run = .ok e) : e.FitsPattern := by
  unfold joinLiterals at h
  dsimp only at h
  split at h
  · split at h
    · exact absurd h (by simp [throw, throwThe, MonadExceptOf.throw, bind, Except.bind])
    · obtain ⟨texts, -, h⟩ := exists_of_bind_eq_ok h
      rw [← Except.ok.inj h]
      exact Or.inl rfl
  · split at h
    · obtain ⟨parts, -, h⟩ := exists_of_bind_eq_ok h
      rw [← Except.ok.inj h]
      exact Or.inr rfl
    · obtain ⟨texts, -, h⟩ := exists_of_bind_eq_ok h
      rw [← Except.ok.inj h]
      exact Or.inl rfl

theorem yields_strings (r : Rules) (follows : Token → Bool) :
    (r.strings follows).Yields Expr.FitsPattern := by
  unfold Rules.strings
  refine yields_bind fun run => yields_bind fun next => ?_
  split
  · split
    · rename_i e he
      exact yields_pure (fitsPattern_of_joinLiterals he)
    · exact yields_fail
  · exact yields_unexpected

namespace PatternRules

/-- A literal that is one token. -/
theorem yields_constant (value : Constant) :
    (do let l ← advance; return Expr.constant l.span value none : Parser Expr).Yields
      (·.isPlain = true) :=
  yields_bind fun _ => yields_pure rfl

theorem yields_number : number.Yields (·.isPlain = true) := by
  unfold number
  refine yields_bind fun next => ?_
  split
  · exact yields_constant _
  · exact yields_constant _
  · exact yields_constant _
  · exact yields_unexpected

theorem yields_signedSum : signedSum.Yields (·.isPlain = true) := by
  unfold signedSum
  refine yields_bind fun start => yields_bind fun minus => ?_
  extract_lets sum
  -- the number on the left is plain, with its sign or without
  have hsum : ∀ left : Expr, left.isPlain = true → (sum left).Yields (·.isPlain = true) := by
    intro left hleft
    have hjoin : ∀ op, (do
        let _ ← advance
        let right ← number
        return Expr.binOp (← since start) left op right : Parser Expr).Yields
          (·.isPlain = true) := by
      intro op
      refine yields_bind fun _ => yields_number.bind fun right hright => yields_bind fun span => ?_
      exact yields_pure (by simp [Expr.isPlain, hleft, hright])
    refine yields_bind fun next => ?_
    split
    · exact hjoin _
    · exact hjoin _
    · exact yields_pure hleft
  split
  · refine yields_number.bind fun operand hoperand => yields_bind fun span => ?_
    exact (yields_pure (P := (·.isPlain = true)) hoperand).bind hsum
  · exact yields_number.bind hsum

theorem yields_dots (start : Nat) :
    ∀ (fuel : Nat) {e : Expr}, e.isPlain = true → (dots start e fuel).Yields (·.isPlain = true)
  | 0, _, _ => yields_unexpected
  | fuel + 1, e, he => by
    unfold dots
    refine yields_bind fun dot => ?_
    split
    · refine yields_bind fun attr => yields_bind fun span => ?_
      exact yields_dots start fuel he
    · exact yields_pure he

theorem yields_mappingKey (p : PatternRules) : p.mappingKey.Yields Expr.FitsPattern := by
  unfold mappingKey
  refine yields_bind fun next => ?_
  split
  · exact yields_strings _ _
  · exact (yields_constant _).imp fun _ => Or.inl
  · exact (yields_constant _).imp fun _ => Or.inl
  · exact (yields_constant _).imp fun _ => Or.inl
  · refine yields_bind fun l => yields_bind fun _ => yields_bind fun attr => ?_
    refine yields_bind fun span => ?_
    exact (yields_dots _ _ rfl).imp fun _ => Or.inl
  · exact yields_signedSum.imp fun _ => Or.inl

/-! ## The rules for patterns -/

section

variable {p : PatternRules} (hp : p.pattern.Yields Pattern.Fits)

include hp

theorem yields_mappingEntry : p.mappingEntry.Yields Pattern.EntryFits := by
  unfold mappingEntry
  refine p.yields_mappingKey.bind fun key hkey => yields_bind fun _ => ?_
  exact hp.bind fun pattern hpattern => yields_pure ⟨hkey, hpattern⟩

theorem yields_mappingTail :
    ∀ (fuel : Nat) {done : List MappingEntry},
      (∀ entry ∈ done, Pattern.EntryFits entry) →
      (p.mappingTail done fuel).Yields fun r => ∀ entry ∈ r.1, Pattern.EntryFits entry
  | 0, _, _ => yields_unexpected
  | fuel + 1, done, hdone => by
    unfold mappingTail
    refine yields_bind fun next => ?_
    split
    · exact yields_pure (forall_mem_reverse hdone)
    · refine yields_bind fun _ => yields_bind fun name => yields_bind fun _ => ?_
      exact yields_pure (forall_mem_reverse hdone)
    · refine (yields_mappingEntry hp).bind fun entry hentry => yields_bind fun comma => ?_
      have hdone' := List.forall_mem_cons.mpr ⟨hentry, hdone⟩
      split
      · exact yields_mappingTail fuel hdone'
      · exact yields_pure (forall_mem_reverse hdone')

theorem yields_mapping : p.mapping.Yields Pattern.Fits := by
  unfold mapping
  refine yields_bind fun start => yields_bind fun _ => ?_
  refine (yields_mappingTail hp _ (List.forall_mem_nil _)).bind fun r hr => ?_
  refine yields_bind fun _ => yields_bind fun span => ?_
  exact yields_pure (Pattern.fits_mapping hr)

theorem yields_namedPattern : p.namedPattern.Yields fun n => n.pattern.Fits := by
  unfold namedPattern
  refine yields_bind fun name => yields_bind fun _ => ?_
  exact hp.bind fun pattern hpattern => yields_pure hpattern

theorem yields_classArguments :
    ∀ (fuel : Nat) {done : List Pattern}, (∀ q ∈ done, q.Fits) →
      (p.classArguments done fuel).Yields fun r =>
        (∀ q ∈ r.1, q.Fits) ∧ ∀ n ∈ r.2, n.pattern.Fits
  | 0, _, _ => yields_unexpected
  | fuel + 1, done, hdone => by
    unfold classArguments
    refine yields_bind fun next => yields_bind fun second => ?_
    split
    · exact yields_pure ⟨forall_mem_reverse hdone, List.forall_mem_nil _⟩
    · refine (yields_commaList _ (yields_namedPattern hp)).bind fun r hr => ?_
      exact yields_pure ⟨forall_mem_reverse hdone, hr⟩
    · refine hp.bind fun q hq => yields_bind fun comma => ?_
      have hdone' := List.forall_mem_cons.mpr ⟨hq, hdone⟩
      split
      · exact yields_classArguments fuel hdone'
      · exact yields_pure ⟨forall_mem_reverse hdone', List.forall_mem_nil _⟩

theorem yields_named : p.named.Yields Pattern.Fits := by
  unfold named
  refine yields_bind fun start => yields_bind fun l => ?_
  refine (yields_dots _ _ (by rfl)).bind fun cls hcls => yields_bind fun lpar => ?_
  split
  · refine (yields_classArguments hp _ (List.forall_mem_nil _)).bind fun r hr => ?_
    refine yields_bind fun _ => yields_bind fun span => ?_
    exact yields_pure (Pattern.fits_classPattern (Or.inl hcls) hr.1 hr.2)
  · split
    · exact yields_bind fun span => yields_pure (Pattern.fits_of_exprs_nil rfl)
    · exact yields_bind fun span => yields_pure (Pattern.fits_value (Or.inl hcls))

theorem yields_group : p.group.Yields Pattern.Fits := by
  unfold group
  refine yields_bind fun start => yields_bind fun _ => yields_bind fun rpar => ?_
  split
  · exact yields_bind fun span => yields_pure (Pattern.fits_sequence (List.forall_mem_nil _))
  · refine (yields_commaList _ hp).bind fun r hr => ?_
    obtain ⟨patterns, trailing⟩ := r
    refine yields_bind fun _ => ?_
    split
    · exact yields_pure (hr _ List.mem_cons_self)
    · exact yields_bind fun span => yields_pure (Pattern.fits_sequence hr)

theorem yields_bracketed : p.bracketed.Yields Pattern.Fits := by
  unfold bracketed
  refine yields_bind fun start => yields_bind fun _ => yields_bind fun rsqb => ?_
  split
  · exact yields_bind fun span => yields_pure (Pattern.fits_sequence (List.forall_mem_nil _))
  · refine (yields_commaList _ hp).bind fun r hr => ?_
    exact yields_bind fun _ => yields_bind fun span => yields_pure (Pattern.fits_sequence hr)

theorem yields_closed : p.closed.Yields Pattern.Fits := by
  unfold closed
  refine yields_bind fun start => yields_bind fun next => ?_
  have hsingleton : ∀ value : Constant, (do
      let l ← advance
      return Pattern.singleton l.span value : Parser Pattern).Yields Pattern.Fits :=
    fun value => yields_bind fun l => yields_pure (Pattern.fits_of_exprs_nil rfl)
  split
  · exact hsingleton _
  · exact hsingleton _
  · exact hsingleton _
  · refine (yields_strings _ _).bind fun e he => yields_bind fun span => ?_
    exact yields_pure (Pattern.fits_value he)
  · exact yields_named hp
  · refine yields_bind fun _ => yields_bind fun name => yields_bind fun span => ?_
    exact yields_pure (Pattern.fits_of_exprs_nil rfl)
  · exact yields_group hp
  · exact yields_bracketed hp
  · exact yields_mapping hp
  · refine yields_signedSum.bind fun e he => yields_bind fun span => ?_
    exact yields_pure (Pattern.fits_value (Or.inl he))

theorem yields_alternatives : p.alternatives.Yields Pattern.Fits := by
  unfold alternatives
  refine yields_bind fun start => (yields_closed hp).bind fun first hfirst => ?_
  have hnext : (do expect (.punct .vbar); p.closed : Parser Pattern).Yields Pattern.Fits :=
    yields_bind fun _ => yields_closed hp
  refine (yields_manyWhile _ hnext).bind fun more hmore => ?_
  split
  · exact yields_pure hfirst
  · refine yields_bind fun span => yields_pure (Pattern.fits_alternatives ?_)
    exact List.forall_mem_cons.mpr ⟨hfirst, hmore⟩

theorem yields_binding : p.binding.Yields Pattern.Fits := by
  unfold binding
  refine yields_bind fun start => (yields_alternatives hp).bind fun pattern hpattern => ?_
  refine yields_bind fun bound => ?_
  split
  · refine yields_bind fun name => ?_
    split
    · exact yields_fail
    · exact yields_bind fun span => yields_pure (Pattern.fits_capture hpattern)
  · exact yields_pure hpattern

/-- **The pattern of a `case` holds plain expressions and formatted strings only**, if the patterns
inside it do. -/
theorem yields_top : p.top.Yields Pattern.Fits := by
  unfold top
  refine yields_bind fun start => (yields_commaList _ (yields_binding hp)).bind fun r hr => ?_
  split
  · exact yields_pure (hr _ List.mem_cons_self)
  · exact yields_bind fun span => yields_pure (Pattern.fits_sequence hr)

end

/-- The patterns inside a pattern, whatever levels of nesting are left. -/
theorem yields_level (rules : Rules) (depth : Nat) :
    (level rules depth).pattern.Yields Pattern.Fits := by
  induction depth with
  | zero => exact yields_bind fun offset => yields_fail
  | succ depth ih => exact yields_binding ih

end PatternRules

end AbcMetric
