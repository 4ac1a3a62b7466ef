import AbcMetric.Files.Collect
import Mathlib.Data.List.Basic

/-!
# Exclusions as globs

The effective patterns of a run are turned into globs before anything is searched. The first that is
malformed is the fault; if all are valid, the builder may refuse their globs; and if it takes them,
a path is excluded iff one of the patterns matches it.

* `Exclusion.globs_eq`: the globs, or the fault, of the effective patterns.
* `Exclusion.catches`: whether an effective pattern matches a path.
* `collect_eq`: a path to a directory is sifted unless there is such a fault.
-/

namespace AbcMetric

/-- The fault of a failed computation. -/
def faultOf {ε α : Type} : Except ε α → Option ε
  | .ok _ => none
  | .error fault => some fault

/-! ## The globs of patterns -/

namespace Exclusion

variable {e : Exclusion}

/-- The first of the effective patterns that is malformed. -/
def bad? (e : Exclusion) : Option BadPattern :=
  e.patterns.findSome? fun pattern => faultOf (glob pattern)

/-- The globs of the effective patterns that are valid, in their order. -/
def parsed (e : Exclusion) : List Glob := e.patterns.filterMap fun p => (Glob.ofPattern p).toOption

/-- Why there is no matcher for the effective patterns. -/
def fault? (e : Exclusion) (builder : GlobBuilder) : Option ExclusionFault :=
  match e.bad? with
  | some bad => some (.pattern bad)
  | none => (builder.fault? e.parsed).map .build

theorem faultOf_glob {p : String} {bad : BadPattern} :
    faultOf (glob p) = some bad ↔ bad.pattern = p ∧ Glob.ofPattern p = .error bad.fault := by
  unfold glob
  cases Glob.ofPattern p with
  | ok g => simp [faultOf, Except.mapError]
  | error fault =>
    obtain ⟨pattern, why⟩ := bad
    simp [faultOf, Except.mapError, eq_comm]

theorem faultOf_glob_eq_none {p : String} :
    faultOf (glob p) = none ↔ ∃ g, Glob.ofPattern p = .ok g := by
  unfold glob
  cases Glob.ofPattern p <;> simp [faultOf, Except.mapError]

theorem bad?_eq_none :
    e.bad? = none ↔ ∀ p ∈ e.patterns, ∃ g, Glob.ofPattern p = .ok g := by
  unfold bad?
  simp only [List.findSome?_eq_none_iff, faultOf_glob_eq_none]

theorem mem_parsed {g : Glob} : g ∈ e.parsed ↔ ∃ p ∈ e.patterns, Glob.ofPattern p = .ok g := by
  unfold parsed
  rw [List.mem_filterMap]
  refine exists_congr fun p => and_congr_right fun _ => ?_
  cases Glob.ofPattern p <;> simp [Except.toOption]

/-- Patterns are turned into globs one by one; the first malformed one is the fault. -/
theorem mapM_glob (patterns : List String) :
    patterns.mapM glob =
      match patterns.findSome? fun pattern => faultOf (glob pattern) with
      | some bad => .error bad
      | none => .ok (patterns.filterMap fun p => (Glob.ofPattern p).toOption) := by
  induction patterns with
  | nil => rfl
  | cons pattern patterns ih =>
    rw [List.mapM_cons, List.findSome?_cons, List.filterMap_cons, ih]
    unfold glob
    cases Glob.ofPattern pattern with
    | error fault => rfl
    | ok g =>
      simp only [Except.mapError, faultOf, Except.toOption]
      cases patterns.findSome? _ <;> rfl

/-- **The globs of the effective patterns**, unless one is malformed or the builder refuses them. -/
theorem globs_eq (e : Exclusion) (builder : GlobBuilder) :
    e.globs builder =
      match e.fault? builder with
      | some fault => .error fault
      | none => .ok e.parsed := by
  unfold globs fault? bad? parsed
  rw [mapM_glob]
  cases e.patterns.findSome? _ with
  | some bad => rfl
  | none =>
    simp only [Except.mapError, bind, Except.bind]
    cases builder.fault? _ <;> rfl

theorem globs_eq_ok_iff {builder : GlobBuilder} {globs : List Glob} :
    e.globs builder = .ok globs ↔ e.fault? builder = none ∧ globs = e.parsed := by
  rw [globs_eq]
  cases e.fault? builder <;> simp [eq_comm]

theorem globs_eq_error_iff {builder : GlobBuilder} {fault : ExclusionFault} :
    e.globs builder = .error fault ↔ e.fault? builder = some fault := by
  rw [globs_eq]
  cases e.fault? builder <;> simp

theorem fault?_eq_none {builder : GlobBuilder} :
    e.fault? builder = none ↔
      (∀ p ∈ e.patterns, ∃ g, Glob.ofPattern p = .ok g) ∧ builder.fault? e.parsed = none := by
  rw [← bad?_eq_none]
  unfold fault?
  cases e.bad? <;> simp

/-- The built-in exclusions are valid. -/
theorem valid_defaultPatterns {pattern : String} (h : pattern ∈ defaultPatterns) :
    ∃ g, Glob.ofPattern pattern = .ok g := by
  have hall : ∀ pattern ∈ defaultPatterns, (Glob.ofPattern pattern).isOk = true := by
    decide +kernel
  have hok := hall pattern h
  cases hof : Glob.ofPattern pattern with
  | ok g => exact ⟨g, rfl⟩
  | error fault =>
    rw [hof] at hok
    exact absurd hok (by simp [Except.isOk, Except.toBool])

/-! ## What patterns catch -/

/-- Whether an effective pattern matches a path. -/
def catches (e : Exclusion) (path : String) : Bool :=
  e.patterns.any fun pattern =>
    match Glob.ofPattern pattern with
    | .ok g => g.accepts path
    | .error _ => false

theorem catches_eq_true_iff {path : String} :
    e.catches path = true ↔
      ∃ p ∈ e.patterns, ∃ g, Glob.ofPattern p = .ok g ∧ g.accepts path = true := by
  unfold catches
  rw [List.any_eq_true]
  refine exists_congr fun p => and_congr_right fun _ => ?_
  cases Glob.ofPattern p <;> simp

theorem catches_eq_false_iff {path : String} :
    e.catches path = false ↔
      ∀ pattern ∈ e.patterns, ∀ g, Glob.ofPattern pattern = .ok g → g.accepts path = false := by
  unfold catches
  rw [List.any_eq_false]
  refine forall₂_congr fun pattern _ => ?_
  cases Glob.ofPattern pattern <;> simp

/-- **The globs match the paths that an effective pattern catches.** -/
theorem matchesAny_parsed (e : Exclusion) (path : String) :
    matchesAny e.parsed path = e.catches path := by
  rw [Bool.eq_iff_iff, catches_eq_true_iff]
  unfold matchesAny
  rw [List.any_eq_true]
  constructor
  · rintro ⟨g, hg, haccepts⟩
    obtain ⟨p, hp, hof⟩ := mem_parsed.mp hg
    exact ⟨p, hp, g, hof, haccepts⟩
  · rintro ⟨p, hp, g, hof, haccepts⟩
    exact ⟨g, mem_parsed.mpr ⟨p, hp, hof⟩, haccepts⟩

/-- Whether an effective pattern catches a file, by its path below the root or by its whole path. -/
def excludes (e : Exclusion) (root : String) (names : List String) : Bool :=
  e.catches (Path.relative names) || e.catches (Path.below root names)

theorem isExcluded_parsed (e : Exclusion) (path : String) :
    isExcluded e.parsed path = e.excludes path := by
  funext names
  unfold isExcluded excludes
  rw [matchesAny_parsed, matchesAny_parsed]

theorem excludes_eq_false_iff {path : String} {names : List String} :
    e.excludes path names = false ↔ ∀ pattern ∈ e.patterns, ∀ g,
      Glob.ofPattern pattern = .ok g →
        g.accepts (Path.relative names) = false ∧ g.accepts (Path.below path names) = false := by
  unfold excludes
  rw [Bool.or_eq_false_iff, catches_eq_false_iff, catches_eq_false_iff]
  constructor
  · exact fun h pattern hp g hg => ⟨h.1 pattern hp g hg, h.2 pattern hp g hg⟩
  · exact fun h => ⟨fun pattern hp g hg => (h pattern hp g hg).1,
      fun pattern hp g hg => (h pattern hp g hg).2⟩

/-! ## Sifting -/

/-- The source files below a directory, and those of them that are excluded. -/
def sift (e : Exclusion) (host : Host) (path : String) (root : Place) : Collection :=
  let sources := (filesBelow e.walker host.excludes root path).filter isSource
  ⟨(sources.filter (!e.excludes path ·)).map (Path.below path),
    (sources.filter (e.excludes path)).map (Path.below path)⟩

end Exclusion

/-- **What a path stands for**: a file for itself, and a directory for what is sifted out of it
unless the exclusions have a fault. -/
theorem collect_eq (e : Exclusion) (cwd : Place) (path : String) (host : Host) :
    collect e cwd path host =
      if cwd.isFile path then .ok ⟨[path], []⟩
      else
        match cwd.resolve path with
        | .error _ => .error (.missing path)
        | .ok root =>
          match e.fault? host.builder with
          | some fault => .error (.exclusion fault)
          | none => .ok (e.sift host path root) := by
  unfold collect
  split
  · rfl
  · cases cwd.resolve path with
    | error fault => rfl
    | ok root =>
      dsimp only
      rw [Exclusion.globs_eq]
      cases e.fault? host.builder with
      | some fault => rfl
      | none =>
        simp only [Except.mapError, bind, Except.bind, pure, Except.pure,
          List.partition_eq_filter_filter, Exclusion.isExcluded_parsed]
        rfl

end AbcMetric
