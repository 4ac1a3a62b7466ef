import AbcMetric.Proofs.NestedGroups

/-!
# Effective patterns and what they leave out

The effective patterns are gathered one by one, each added unless it is there already. The list that
comes out is fixed by which patterns are in effect and by where each stands first
(`foldl_addPattern`), and gathering it again changes nothing (`patterns_patterns`).

What is collected depends on the exclusions only through three things: whether there is a fault,
which paths the patterns catch, and whether ignored and hidden names are let in (`collect_ok_iff`).
So more patterns leave out more files, and nothing else.

A fault is not always a malformed pattern: the builder has limits of its own, and what it refuses it
does not name (`nested_pattern_refused`).

* `FirstBad`: the malformed pattern that is reported.
* `Exclusion.Extends`: more valid patterns, or the built-in ones switched on.
* `patterns_narrow_files`: the effective patterns, their globs, and the files they leave.
-/

namespace AbcMetric

/-- The pattern can be read. -/
def ValidPattern (pattern : String) : Prop := ∃ g, Glob.ofPattern pattern = .ok g

/-- A malformed pattern with none before it. -/
def FirstBad (patterns : List String) (bad : BadPattern) : Prop :=
  ∃ before after, patterns = before ++ bad.pattern :: after ∧
    (∀ p ∈ before, ValidPattern p) ∧ Glob.ofPattern bad.pattern = .error bad.fault

namespace Exclusion

variable {e e' : Exclusion}

/-! ## Gathering patterns -/

/-- The built-in patterns that are in effect. -/
def builtIn (e : Exclusion) : List String := if e.skipDefaults then [] else defaultPatterns

/-- Other patterns keep their order behind one more at the front. -/
theorem pairwise_idxOf_cons {own paths : List String} {path : String}
    (h : own.Pairwise fun p q => paths.idxOf p < paths.idxOf q) (hne : path ∉ own) :
    own.Pairwise fun p q => (path :: paths).idxOf p < (path :: paths).idxOf q := by
  have hlater : ∀ p ∈ own, (path :: paths).idxOf p = paths.idxOf p + 1 := by
    intro p hp
    exact List.idxOf_cons_ne paths (ne_of_mem_of_not_mem hp hne).symm
  refine h.imp_of_mem fun {p q} hp hq hlt => ?_
  rw [hlater p hp, hlater q hq]
  exact Nat.succ_lt_succ hlt

/-- **Gathering appends the patterns that are not there yet**, each once, by where they stand
first. -/
theorem foldl_addPattern (paths acc : List String) :
    ∃ own, paths.foldl addPattern acc = acc ++ own ∧ (∀ p, p ∈ own ↔ p ∈ paths ∧ p ∉ acc) ∧
      own.Pairwise fun p q => paths.idxOf p < paths.idxOf q := by
  induction paths generalizing acc with
  | nil => exact ⟨[], by simp, by simp, .nil⟩
  | cons path paths ih =>
    rw [List.foldl_cons]
    by_cases hmem : path ∈ acc
    · obtain ⟨own, hfold, hown, horder⟩ := ih acc
      refine ⟨own, ?_, fun p => ?_, pairwise_idxOf_cons horder ?_⟩
      · rw [addPattern, if_pos hmem, hfold]
      · rw [hown, List.mem_cons]
        constructor
        · rintro ⟨hp, hacc⟩
          exact ⟨Or.inr hp, hacc⟩
        · rintro ⟨rfl | hp, hacc⟩
          · exact absurd hmem hacc
          · exact ⟨hp, hacc⟩
      · exact fun hpath => ((hown path).mp hpath).2 hmem
    · obtain ⟨own, hfold, hown, horder⟩ := ih (acc ++ [path])
      have hnew : path ∉ own := fun hpath => ((hown path).mp hpath).2 (by simp)
      refine ⟨path :: own, ?_, fun p => ?_, List.pairwise_cons.mpr ⟨fun q hq => ?_, ?_⟩⟩
      · rw [addPattern, if_neg hmem, hfold, List.append_assoc, List.singleton_append]
      · rw [List.mem_cons, hown, List.mem_cons, List.mem_append, List.mem_singleton]
        constructor
        · rintro (rfl | ⟨hp, hacc⟩)
          · exact ⟨Or.inl rfl, hmem⟩
          · exact ⟨Or.inr hp, fun h => hacc (Or.inl h)⟩
        · rintro ⟨rfl | hp, hacc⟩
          · exact Or.inl rfl
          · by_cases heq : p = path
            · exact Or.inl heq
            · exact Or.inr ⟨hp, not_or.mpr ⟨hacc, heq⟩⟩
      · rw [List.idxOf_cons_self,
          List.idxOf_cons_ne paths (ne_of_mem_of_not_mem hq hnew).symm]
        exact Nat.succ_pos _
      · exact pairwise_idxOf_cons horder hnew

/-- The built-in patterns in effect come first, then the others by where they stand first. -/
theorem patterns_eq (e : Exclusion) :
    ∃ own, e.patterns = e.builtIn ++ own ∧ (∀ p, p ∈ own ↔ p ∈ e.paths ∧ p ∉ e.builtIn) ∧
      own.Pairwise fun p q => e.paths.idxOf p < e.paths.idxOf q :=
  foldl_addPattern e.paths e.builtIn

theorem mem_builtIn {p : String} :
    p ∈ e.builtIn ↔ e.skipDefaults = false ∧ p ∈ defaultPatterns := by
  unfold builtIn
  cases e.skipDefaults <;> simp

/-- **Which patterns are in effect.** -/
theorem mem_patterns {p : String} :
    p ∈ e.patterns ↔ p ∈ e.paths ∨ e.skipDefaults = false ∧ p ∈ defaultPatterns := by
  obtain ⟨own, heq, hown, -⟩ := e.patterns_eq
  rw [heq, List.mem_append, hown, ← mem_builtIn]
  by_cases h : p ∈ e.builtIn
  · simp [h]
  · simp [h]

theorem nodup_builtIn (e : Exclusion) : e.builtIn.Nodup := by
  unfold builtIn
  cases e.skipDefaults
  · decide
  · exact List.nodup_nil

/-- **No pattern is in effect twice.** -/
theorem nodup_patterns (e : Exclusion) : e.patterns.Nodup := by
  obtain ⟨own, heq, hown, horder⟩ := e.patterns_eq
  rw [heq, List.nodup_append]
  refine ⟨e.nodup_builtIn, horder.imp fun {p q} hlt heq => ?_, fun p hp q hq heq => ?_⟩
  · rw [heq] at hlt
    exact Nat.lt_irrefl _ hlt
  · exact ((hown q).mp hq).2 (heq ▸ hp)

theorem foldl_addPattern_of_mem {paths acc : List String} (h : ∀ p ∈ paths, p ∈ acc) :
    paths.foldl addPattern acc = acc := by
  induction paths with
  | nil => rfl
  | cons path paths ih =>
    obtain ⟨hpath, hpaths⟩ := List.forall_mem_cons.mp h
    rw [List.foldl_cons, addPattern, if_pos hpath, ih hpaths]

theorem foldl_addPattern_of_nodup {paths acc : List String} (h : (acc ++ paths).Nodup) :
    paths.foldl addPattern acc = acc ++ paths := by
  induction paths generalizing acc with
  | nil => exact (List.append_nil acc).symm
  | cons path paths ih =>
    have hfresh : path ∉ acc := fun hmem =>
      (List.nodup_append.mp h).2.2 path hmem path List.mem_cons_self rfl
    rw [List.append_cons] at h ⊢
    rw [List.foldl_cons, addPattern, if_neg hfresh, ih h]

/-- **Gathering the effective patterns again changes nothing.** -/
theorem patterns_patterns (e : Exclusion) :
    patterns { e with paths := e.patterns } = e.patterns := by
  obtain ⟨own, heq, -⟩ := e.patterns_eq
  have hnodup := e.nodup_patterns
  show e.patterns.foldl addPattern e.builtIn = e.patterns
  rw [heq] at hnodup ⊢
  rw [List.foldl_append, foldl_addPattern_of_mem fun p hp => hp, foldl_addPattern_of_nodup hnodup]

/-! ## Globs -/

theorem bad?_eq_some {bad : BadPattern} : e.bad? = some bad ↔ FirstBad e.patterns bad := by
  unfold bad? FirstBad
  rw [List.findSome?_eq_some_iff]
  simp only [faultOf_glob, faultOf_glob_eq_none]
  constructor
  · rintro ⟨before, p, after, hsplit, ⟨rfl, hfault⟩, hbefore⟩
    exact ⟨before, after, hsplit, hbefore, hfault⟩
  · rintro ⟨before, after, hsplit, hbefore, hfault⟩
    exact ⟨before, bad.pattern, after, hsplit, ⟨rfl, hfault⟩, hbefore⟩

section

variable {builder : GlobBuilder}

/-- The fault is a pattern if one is malformed, and then it is the first of these. -/
theorem globs_eq_pattern_iff {bad : BadPattern} :
    e.globs builder = .error (.pattern bad) ↔ FirstBad e.patterns bad := by
  rw [globs_eq_error_iff, ← bad?_eq_some, fault?]
  cases e.bad? <;> simp

/-- Else the fault is the builder's. -/
theorem globs_eq_build_iff {fault : BuildFault} :
    e.globs builder = .error (.build fault) ↔
      (∀ p ∈ e.patterns, ValidPattern p) ∧ builder.fault? e.parsed = some fault := by
  have hnone : e.bad? = none ↔ ∀ p ∈ e.patterns, ValidPattern p := bad?_eq_none
  rw [globs_eq_error_iff, ← hnone, fault?]
  cases e.bad? <;> simp

/-- The globs fail iff a pattern is malformed or the builder refuses them. -/
theorem exists_globs_error_iff :
    (∃ fault, e.globs builder = .error fault) ↔
      (∃ p ∈ e.patterns, ∃ fault, Glob.ofPattern p = .error fault) ∨
        ∃ fault, builder.fault? e.parsed = some fault := by
  have hnot : (∃ p ∈ e.patterns, ∃ fault, Glob.ofPattern p = .error fault) ↔
      ¬ ∀ p ∈ e.patterns, ∃ g, Glob.ofPattern p = .ok g := by
    push Not
    refine exists_congr fun p => and_congr_right fun _ => ?_
    cases Glob.ofPattern p <;> simp
  simp only [globs_eq_error_iff, ← Option.ne_none_iff_exists']
  rw [ne_eq, fault?_eq_none, not_and_or, hnot]

end

end Exclusion

/-! ## The standard builder -/

namespace GlobBuilder

/-- **The standard builder takes globs iff it takes each of them**: one that becomes an expression
must not be nested too deep. So their order and number play no part. -/
theorem standard_takes_iff {globs : List Glob} :
    standard.fault? globs = none ↔
      ∀ g ∈ globs, g.isStart = true ∨ g.isEnd = true ∨ g.depth ≤ nestingLimit := by
  have hdeep (g : Glob) : g.isTooDeep = true ↔ nestingLimit < g.depth := decide_eq_true_iff
  unfold standard
  dsimp only
  generalize hexpressions : (globs.filter fun g => !g.isStart && !g.isEnd) = expressions
  have hall : (∀ g ∈ globs, g.isStart = true ∨ g.isEnd = true ∨ g.depth ≤ nestingLimit) ↔
      ∀ g ∈ expressions, g.depth ≤ nestingLimit := by
    subst hexpressions
    refine forall_congr' fun g => ?_
    rw [List.mem_filter]
    cases g.isStart <;> cases g.isEnd <;> simp
  rw [hall]
  split
  · rename_i g hfind
    have hmem := (List.mem_filter.mp (List.mem_of_find?_eq_some hfind)).1
    have hlt := (hdeep g).mp (List.find?_some hfind)
    refine iff_of_false (by simp) fun h => ?_
    exact absurd (h g hmem) (Nat.not_le.mpr hlt)
  · rename_i hfind
    rw [Option.map_eq_none_iff, List.findIdx?_eq_none_iff]
    rw [List.find?_eq_none] at hfind
    constructor
    · intro hothers g hg
      refine Nat.not_lt.mp fun hlt => ?_
      cases hends : g.endsInExtension with
      | true => exact hfind g (List.mem_filter.mpr ⟨hg, hends⟩) ((hdeep g).mpr hlt)
      | false =>
        have := hothers g (List.mem_filter.mpr ⟨hg, by rw [hends]; rfl⟩)
        exact absurd (((hdeep g).mpr hlt).symm.trans this) (by simp)
    · intro h g hg
      exact Bool.eq_false_iff.mpr fun htrue =>
        absurd (h g (List.mem_filter.mp hg).1) (Nat.not_le.mpr ((hdeep g).mp htrue))

end GlobBuilder

/-! ## Collecting -/

section

variable {e e' : Exclusion} {host : Host} {cwd root : Place} {path : String} {found : Collection}

/-- **What is collected, and when**: a file stands for itself; a directory is sifted unless there is
a fault. -/
theorem collect_ok_iff :
    collect e cwd path host = .ok found ↔
      cwd.isFile path = true ∧ found = ⟨[path], []⟩ ∨
        cwd.isFile path = false ∧ e.fault? host.builder = none ∧
          ∃ root, cwd.resolve path = .ok root ∧ found = e.sift host path root := by
  rw [collect_eq]
  cases cwd.isFile path with
  | true => simp [eq_comm]
  | false =>
    cases cwd.resolve path with
    | error fault => simp
    | ok root => cases e.fault? host.builder <;> simp [eq_comm]

/-! ## Two exclusions -/

/-- The same patterns in another order or another number of times, and else the same. -/
structure Exclusion.SamePatterns (e e' : Exclusion) : Prop where
  paths : ∀ p, p ∈ e'.paths ↔ p ∈ e.paths
  defaults : e'.skipDefaults = e.skipDefaults
  hidden : e'.includeHidden = e.includeHidden
  ignored : e'.includeIgnored = e.includeIgnored

/-- More valid patterns, or the built-in ones switched on, and else the same. -/
structure Exclusion.Extends (e e' : Exclusion) : Prop where
  kept : ∀ p ∈ e.paths, p ∈ e'.paths
  added : ∀ p ∈ e'.paths, p ∉ e.paths → ValidPattern p
  defaults : e'.skipDefaults = true → e.skipDefaults = true
  hidden : e'.includeHidden = e.includeHidden
  ignored : e'.includeIgnored = e.includeIgnored

theorem Exclusion.excludes_congr (h : ∀ p, p ∈ e'.patterns ↔ p ∈ e.patterns) :
    e'.excludes = e.excludes := by
  have hcatches : e'.catches = e.catches := by
    funext path
    rw [Bool.eq_iff_iff, catches_eq_true_iff, catches_eq_true_iff]
    simp only [h]
  unfold excludes
  rw [hcatches]

/-- Two exclusions that let the same names in ask for the same walker. -/
theorem Exclusion.walker_congr (hhidden : e'.includeHidden = e.includeHidden)
    (hignored : e'.includeIgnored = e.includeIgnored) : e'.walker = e.walker := by
  unfold walker
  rw [hhidden, hignored]

section

variable (h : e.SamePatterns e')

include h

theorem Exclusion.SamePatterns.mem_patterns {p : String} : p ∈ e'.patterns ↔ p ∈ e.patterns := by
  rw [Exclusion.mem_patterns, Exclusion.mem_patterns, h.paths, h.defaults]

theorem Exclusion.SamePatterns.valid_iff :
    (∀ p ∈ e'.patterns, ValidPattern p) ↔ ∀ p ∈ e.patterns, ValidPattern p := by
  simp only [h.mem_patterns]

/-- For the standard builder the order and number of patterns play no part. -/
theorem Exclusion.SamePatterns.fault?_standard :
    e'.fault? .standard = none ↔ e.fault? .standard = none := by
  have hparsed : ∀ g, g ∈ e'.parsed ↔ g ∈ e.parsed := by
    intro g
    simp only [mem_parsed, h.mem_patterns]
  simp only [fault?_eq_none, GlobBuilder.standard_takes_iff, h.mem_patterns, hparsed]

theorem Exclusion.SamePatterns.sift_eq : e'.sift host path root = e.sift host path root := by
  unfold sift
  rw [walker_congr h.hidden h.ignored, excludes_congr fun _ => h.mem_patterns]

/-- **Reordering or repeating patterns changes nothing that is collected.** -/
theorem Exclusion.SamePatterns.collect_eq {found' : Collection}
    (hfound : collect e cwd path host = .ok found)
    (hfound' : collect e' cwd path host = .ok found') : found' = found := by
  rcases collect_ok_iff.mp hfound with ⟨hfile, rfl⟩ | ⟨hfile, -, root, hresolve, rfl⟩
  · rw [collect_eq, if_pos hfile] at hfound'
    exact (Except.ok.inj hfound').symm
  · rcases collect_ok_iff.mp hfound' with ⟨hfile', -⟩ | ⟨-, -, root', hresolve', rfl⟩
    · exact absurd (hfile.symm.trans hfile') (by simp)
    · obtain rfl := Except.ok.inj (hresolve.symm.trans hresolve')
      exact h.sift_eq

/-- With the standard builder there are two results or none. -/
theorem Exclusion.SamePatterns.collect_standard (hstandard : host.builder = .standard) :
    collect e' cwd path host = .ok found ↔ collect e cwd path host = .ok found := by
  rw [collect_ok_iff, collect_ok_iff, hstandard, h.fault?_standard]
  simp only [h.sift_eq]

/-- If the builder takes the globs, what was collected still is. -/
theorem Exclusion.SamePatterns.collect_ok (hbuilds : host.builder.fault? e'.parsed = none)
    (hfound : collect e cwd path host = .ok found) : collect e' cwd path host = .ok found := by
  rcases collect_ok_iff.mp hfound with hfile | ⟨hfile, hfault, root, hresolve, rfl⟩
  · exact collect_ok_iff.mpr (Or.inl hfile)
  · refine collect_ok_iff.mpr (Or.inr ⟨hfile, ?_, root, hresolve, h.sift_eq.symm⟩)
    exact fault?_eq_none.mpr ⟨h.valid_iff.mpr (fault?_eq_none.mp hfault).1, hbuilds⟩

end

section

variable (h : e.Extends e')

include h

theorem Exclusion.Extends.mem_patterns {p : String} (hp : p ∈ e.patterns) : p ∈ e'.patterns := by
  rw [Exclusion.mem_patterns] at hp ⊢
  rcases hp with hp | ⟨hskip, hp⟩
  · exact Or.inl (h.kept p hp)
  · refine Or.inr ⟨?_, hp⟩
    cases hskip' : e'.skipDefaults with
    | false => rfl
    | true => exact absurd (hskip.symm.trans (h.defaults hskip')) (by simp)

/-- What an extension adds is valid. -/
theorem Exclusion.Extends.valid_iff :
    (∀ p ∈ e'.patterns, ValidPattern p) ↔ ∀ p ∈ e.patterns, ValidPattern p := by
  constructor
  · exact fun hvalid p hp => hvalid p (h.mem_patterns hp)
  · intro hvalid p hp
    by_cases hmem : p ∈ e.patterns
    · exact hvalid p hmem
    · rcases Exclusion.mem_patterns.mp hp with hp | ⟨-, hp⟩
      · exact h.added p hp fun hpath => hmem (Exclusion.mem_patterns.mpr (Or.inl hpath))
      · exact Exclusion.valid_defaultPatterns hp

theorem Exclusion.Extends.excludes {path : String} {names : List String}
    (hexcludes : e.excludes path names = true) : e'.excludes path names = true := by
  have hcatches : ∀ path, e.catches path = true → e'.catches path = true := by
    intro path hcatch
    obtain ⟨p, hp, hmatch⟩ := catches_eq_true_iff.mp hcatch
    exact catches_eq_true_iff.mpr ⟨p, h.mem_patterns hp, hmatch⟩
  unfold Exclusion.excludes at hexcludes ⊢
  rw [Bool.or_eq_true] at hexcludes ⊢
  exact hexcludes.imp (hcatches _) (hcatches _)

/-- **More patterns only take files away**, and the files that are left keep their order. -/
theorem Exclusion.Extends.sift_sublist :
    (e'.sift host path root).files.Sublist (e.sift host path root).files := by
  unfold sift
  rw [walker_congr h.hidden h.ignored]
  refine (List.monotone_filter_right _ fun names hnames => ?_).map _
  rw [Bool.not_eq_true'] at hnames ⊢
  cases hexcludes : e.excludes path names with
  | false => rfl
  | true => exact absurd (hnames.symm.trans (h.excludes hexcludes)) (by simp)

theorem Exclusion.Extends.collect_sublist {found' : Collection}
    (hfound : collect e cwd path host = .ok found)
    (hfound' : collect e' cwd path host = .ok found') : found'.files.Sublist found.files := by
  rcases collect_ok_iff.mp hfound with ⟨hfile, rfl⟩ | ⟨hfile, -, root, hresolve, rfl⟩
  · rw [collect_eq, if_pos hfile] at hfound'
    rw [← Except.ok.inj hfound']
  · rcases collect_ok_iff.mp hfound' with ⟨hfile', -⟩ | ⟨-, -, root', hresolve', rfl⟩
    · exact absurd (hfile.symm.trans hfile') (by simp)
    · obtain rfl := Except.ok.inj (hresolve.symm.trans hresolve')
      exact h.sift_sublist

/-- If the builder takes the globs of more patterns, there still is a result. -/
theorem Exclusion.Extends.exists_collect (hbuilds : host.builder.fault? e'.parsed = none)
    (hfound : collect e cwd path host = .ok found) :
    ∃ found', collect e' cwd path host = .ok found' := by
  rcases collect_ok_iff.mp hfound with hfile | ⟨hfile, hfault, root, hresolve, -⟩
  · exact ⟨_, collect_ok_iff.mpr (Or.inl hfile)⟩
  · refine ⟨_, collect_ok_iff.mpr (Or.inr ⟨hfile, ?_, root, hresolve, rfl⟩)⟩
    exact fault?_eq_none.mpr ⟨h.valid_iff.mpr (fault?_eq_none.mp hfault).1, hbuilds⟩

/-- If the builder takes the globs of fewer patterns, there was a result. -/
theorem Exclusion.Extends.exists_collect_before (hbuilds : host.builder.fault? e.parsed = none)
    {found' : Collection} (hfound : collect e' cwd path host = .ok found') :
    ∃ found, collect e cwd path host = .ok found := by
  rcases collect_ok_iff.mp hfound with hfile | ⟨hfile, hfault, root, hresolve, -⟩
  · exact ⟨_, collect_ok_iff.mpr (Or.inl hfile)⟩
  · refine ⟨_, collect_ok_iff.mpr (Or.inr ⟨hfile, ?_, root, hresolve, rfl⟩)⟩
    exact fault?_eq_none.mpr ⟨h.valid_iff.mp (fault?_eq_none.mp hfault).1, hbuilds⟩

end

end

/-! ## Main result -/

/-- **The effective patterns, their globs, and the files they leave.** The patterns are the
project's own and, unless these are switched off, the built-in ones; each stands once, the built-in
ones first and the others by where the project lists them first, and gathering them again changes
nothing. The globs fail iff a pattern is malformed, with the first of these, or none is and the
builder refuses them, naming none; and else match what a pattern matches. The same patterns in
another order or number collect the same files, and more valid patterns only take files away, in
both cases where there are two results to compare; and if there is one, it is the builder alone that
may stand against the other. The standard builder never does for the same patterns. -/
theorem patterns_narrow_files (e : Exclusion) :
    e.patterns.Nodup ∧
      (∀ p, p ∈ e.patterns ↔
        p ∈ e.paths ∨ e.skipDefaults = false ∧ p ∈ Exclusion.defaultPatterns) ∧
      (∃ own, e.patterns = (if e.skipDefaults then [] else Exclusion.defaultPatterns) ++ own ∧
        own.Pairwise fun p q => e.paths.idxOf p < e.paths.idxOf q) ∧
      Exclusion.patterns { e with paths := e.patterns } = e.patterns ∧
      (∀ builder, (∃ fault, e.globs builder = .error fault) ↔
        (∃ p ∈ e.patterns, ∃ fault, Glob.ofPattern p = .error fault) ∨
          ∃ fault, builder.fault? e.parsed = some fault) ∧
      (∀ builder bad, e.globs builder = .error (.pattern bad) ↔ FirstBad e.patterns bad) ∧
      (∀ builder fault, e.globs builder = .error (.build fault) ↔
        (∀ p ∈ e.patterns, ValidPattern p) ∧ builder.fault? e.parsed = some fault) ∧
      (∀ bad, (ExclusionFault.pattern bad).summary = "Invalid glob: " ++ bad.pattern) ∧
      (∀ fault, (ExclusionFault.build fault).summary = "Failed to build globset") ∧
      (∀ builder globs, e.globs builder = .ok globs → ∀ path, matchesAny globs path = true ↔
        ∃ p ∈ e.patterns, ∃ g, Glob.ofPattern p = .ok g ∧ g.accepts path = true) ∧
      (∀ e', e.SamePatterns e' → ∀ host cwd path,
        (∀ found found', collect e cwd path host = .ok found →
          collect e' cwd path host = .ok found' → found' = found) ∧
        (host.builder.fault? e'.parsed = none → ∀ found,
          collect e cwd path host = .ok found → collect e' cwd path host = .ok found) ∧
        (host.builder = .standard → ∀ found,
          collect e' cwd path host = .ok found ↔ collect e cwd path host = .ok found)) ∧
      ∀ e', e.Extends e' → ∀ host cwd path,
        (∀ found found', collect e cwd path host = .ok found →
          collect e' cwd path host = .ok found' → found'.files.Sublist found.files) ∧
        (host.builder.fault? e'.parsed = none → ∀ found,
          collect e cwd path host = .ok found →
            ∃ found', collect e' cwd path host = .ok found') ∧
        (host.builder.fault? e.parsed = none → ∀ found',
          collect e' cwd path host = .ok found' →
            ∃ found, collect e cwd path host = .ok found) := by
  obtain ⟨own, heq, -, horder⟩ := e.patterns_eq
  refine ⟨e.nodup_patterns, fun p => Exclusion.mem_patterns, ⟨own, heq, horder⟩,
    e.patterns_patterns, fun builder => Exclusion.exists_globs_error_iff,
    fun builder bad => Exclusion.globs_eq_pattern_iff,
    fun builder fault => Exclusion.globs_eq_build_iff, fun bad => ?_, fun fault => rfl,
    fun builder globs hglobs path => ?_,
    fun e' h host cwd path => ⟨?_, ?_, ?_⟩,
    fun e' h host cwd path => ⟨?_, ?_, ?_⟩⟩
  · rfl
  · rw [(Exclusion.globs_eq_ok_iff.mp hglobs).2, Exclusion.matchesAny_parsed,
      Exclusion.catches_eq_true_iff]
  · exact fun found found' => h.collect_eq
  · exact fun hbuilds found => h.collect_ok hbuilds
  · exact fun hstandard found => h.collect_standard hstandard
  · exact fun found found' => h.collect_sublist
  · exact fun hbuilds found => h.exists_collect hbuilds
  · exact fun hbuilds found' => h.exists_collect_before hbuilds

/-- **Valid patterns may be refused**: a character in 300 groups is a pattern, and there is no
matcher for it. -/
theorem nested_pattern_refused :
    (∀ p ∈ (nestedExclusion 300).patterns, ValidPattern p) ∧
      (nestedExclusion 300).globs = .error (.build ⟨none, .syntaxAt 0⟩) :=
  ⟨valid_nestedExclusion 300, globs_nestedPattern (by decide)⟩

/-- Patterns that repeat each other or a built-in one. -/
example : Exclusion.patterns { paths := ["b/**", "a", "b/**", "**/venv/**", "a"] } =
    Exclusion.defaultPatterns ++ ["b/**", "a"] := by
  decide

end AbcMetric
