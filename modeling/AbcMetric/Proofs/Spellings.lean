import AbcMetric.Proofs.Collecting

/-!
# One directory under several paths

A directory can be named by many paths: `.`, a path through `..`, an absolute one. What can be
collected below it is settled by the names from the directory on (`KeptBelow`). But exclusions are
also tried on the whole path of a file, and that starts with the path that names the directory, so
two paths to one directory may collect different files.

* `collected_iff`: a file is collected iff the names below the directory allow it and its whole path
  is not caught.
* `collect_by_spelling`: what each path collects, and when two paths collect the same.
* `spelling_matters`: the paths `.` and `../venv` from a directory `venv`, under the built-in
  exclusions.
-/

namespace AbcMetric

/-! ## What the names below a directory settle -/

/-- What it takes for a file to be collected, as far as the names from the directory at `root` on
settle it. -/
structure KeptBelow (e : Exclusion) (root : Place) (names : List String) : Prop where
  /-- The names lead to a file through directories that are no links. -/
  leads : Leads root names
  /-- The last name has the extension of a source file. -/
  source : ∃ stem, stem ≠ "" ∧ names.getLast? = some (stem ++ ".py")
  /-- No name is hidden, or hidden names are let in. -/
  shown : e.includeHidden = true ∨ ∀ name ∈ names, Path.isHidden name = false
  /-- No effective pattern matches the path below the directory. -/
  free : e.catches (Path.relative names) = false

section

variable {e : Exclusion} {host : Host} {cwd root : Place} {path : String}

/-- The files that the names below a directory allow to be collected can be listed in order. -/
theorem Searchable.exists_kept (h : Searchable e host cwd root path) :
    ∃ kept : List (List String), (∀ ns, ns ∈ kept ↔ KeptBelow e root ns) ∧
      kept.Pairwise (· < ·) := by
  refine ⟨((filesBelow e.walker host.excludes root path).filter isSource).filter
    fun ns => !e.catches (Path.relative ns), fun ns => ?_,
    ((pairwise_filesBelow h.proper).filter _).filter _⟩
  rw [List.mem_filter, List.mem_filter, mem_filesBelow h.walked h.unignored,
    Exclusion.shown_walker, isSource_iff, Bool.not_eq_true']
  constructor
  · rintro ⟨⟨⟨hleads, hshown⟩, hsource⟩, hfree⟩
    exact ⟨hleads, hsource, hshown, hfree⟩
  · rintro ⟨hleads, hsource, hshown, hfree⟩
    exact ⟨⟨⟨hleads, hshown⟩, hsource⟩, hfree⟩

/-- **A file is collected iff the names below the directory allow it and its whole path is not
caught.** -/
theorem collected_iff {ns : List String} :
    Collected e root path ns ↔
      KeptBelow e root ns ∧ e.catches (Path.below path ns) = false := by
  rw [Exclusion.catches_eq_false_iff]
  constructor
  · rintro ⟨hleads, hsource, hshown, hkept⟩
    refine ⟨⟨hleads, hsource, hshown, Exclusion.catches_eq_false_iff.mpr ?_⟩, ?_⟩
    · exact fun pattern hp g hg => (hkept pattern hp g hg).1
    · exact fun pattern hp g hg => (hkept pattern hp g hg).2
  · rintro ⟨⟨hleads, hsource, hshown, hfree⟩, hwhole⟩
    refine ⟨hleads, hsource, hshown, fun pattern hp g hg => ⟨?_, hwhole pattern hp g hg⟩⟩
    exact Exclusion.catches_eq_false_iff.mp hfree pattern hp g hg

end

/-! ## Paths without the directory -/

namespace Path

/-- The part of a path behind the directory that it starts with. -/
def within (dir path : String) : String :=
  String.ofList (path.toList.drop (lead dir).toList.length)

/-- Behind the directory stand the names below it. -/
theorem within_below {dir : String} {ns : List String} (hne : ns ≠ [])
    (h : ∀ n ∈ ns, IsName n) : within dir (below dir ns) = relative ns := by
  obtain ⟨n, ns, rfl⟩ := List.exists_cons_of_ne_nil hne
  rw [within, below_eq h, String.toList_append, List.drop_left, String.ofList_toList]

end Path

section

variable {e : Exclusion} {host : Host} {cwd root : Place} {path : String}
  {kept : List (List String)}

theorem KeptBelow.isName {ns : List String} (h : KeptBelow e root ns)
    (hproper : root.entry.Proper) : ns ≠ [] ∧ ∀ n ∈ ns, Path.IsName n :=
  h.leads.isName hproper

/-- **What a path collects below its directory**: what the names below allow, less the files whose
whole path is caught. -/
theorem Searchable.within_files (h : Searchable e host cwd root path)
    (hkept : ∀ ns, ns ∈ kept ↔ KeptBelow e root ns) (hsorted : kept.Pairwise (· < ·)) :
    ∃ found, AbcMetric.collect e cwd path host = .ok found ∧
      found.files.map (Path.within path) =
        (kept.filter fun ns => !e.catches (Path.below path ns)).map Path.relative := by
  obtain ⟨found, names, hfound, hfiles, hmem, hnames⟩ := h.collect
  have hnames : names = kept.filter fun ns => !e.catches (Path.below path ns) := by
    refine eq_of_mem_iff hnames (hsorted.filter _) fun ns => ?_
    rw [hmem, collected_iff, List.mem_filter, hkept, Bool.not_eq_true']
  refine ⟨found, hfound, ?_⟩
  rw [hfiles, List.map_map, ← hnames]
  refine List.map_congr_left fun ns hns => ?_
  obtain ⟨hne, hn⟩ := (collected_iff.mp ((hmem ns).mp hns)).1.isName h.proper
  exact Path.within_below hne hn

/-- Two selections of what is kept below a directory are the same iff their relative paths are. -/
theorem map_relative_filter_eq_iff (hproper : root.entry.Proper)
    (hkept : ∀ ns, ns ∈ kept ↔ KeptBelow e root ns) {p q : List String → Bool} :
    (kept.filter p).map Path.relative = (kept.filter q).map Path.relative ↔
      ∀ ns ∈ kept, p ns = q ns := by
  constructor
  · intro heq
    -- a relative path stands for one list of names
    have hmem : ∀ {p q : List String → Bool},
        (kept.filter p).map Path.relative = (kept.filter q).map Path.relative →
        ∀ ns ∈ kept, p ns = true → q ns = true := by
      intro p q heq ns hns hp
      have hrelative := List.mem_map_of_mem (f := Path.relative) (List.mem_filter.mpr ⟨hns, hp⟩)
      rw [heq] at hrelative
      obtain ⟨ms, hms, hsame⟩ := List.mem_map.mp hrelative
      obtain ⟨hms, hq⟩ := List.mem_filter.mp hms
      obtain ⟨hn, hns'⟩ := ((hkept ns).mp hns).isName hproper
      obtain ⟨hm, hms'⟩ := ((hkept ms).mp hms).isName hproper
      rwa [Path.relative_inj hm hn hms' hns' hsame] at hq
    intro ns hns
    exact Bool.eq_iff_iff.mpr ⟨hmem heq ns hns, hmem heq.symm ns hns⟩
  · intro h
    rw [List.filter_congr h]

end

/-! ## Main result -/

/-- **What two paths to one directory collect.** The names below the directory allow the same files
whatever the path. Each path collects those of them whose whole path is not caught, so the two
collect the same files, up to the path in front, iff they agree on which whole paths are caught. -/
theorem collect_by_spelling (e : Exclusion) (host : Host) (cwd cwd' root : Place)
    (path path' : String) (h : Searchable e host cwd root path)
    (h' : Searchable e host cwd' root path') :
    ∃ (kept : List (List String)) (found found' : Collection),
      (∀ ns, ns ∈ kept ↔ KeptBelow e root ns) ∧ kept.Pairwise (· < ·) ∧
      collect e cwd path host = .ok found ∧ collect e cwd' path' host = .ok found' ∧
      found.files.map (Path.within path) =
        (kept.filter fun ns => !e.catches (Path.below path ns)).map Path.relative ∧
      found'.files.map (Path.within path') =
        (kept.filter fun ns => !e.catches (Path.below path' ns)).map Path.relative ∧
      (found.files.map (Path.within path) = found'.files.map (Path.within path') ↔
        ∀ ns ∈ kept, e.catches (Path.below path ns) = e.catches (Path.below path' ns)) := by
  obtain ⟨kept, hkept, hsorted⟩ := h.exists_kept
  obtain ⟨found, hfound, hfiles⟩ := h.within_files hkept hsorted
  obtain ⟨found', hfound', hfiles'⟩ := h'.within_files hkept hsorted
  refine ⟨kept, found, found', hkept, hsorted, hfound, hfound', hfiles, hfiles', ?_⟩
  rw [hfiles, hfiles', map_relative_filter_eq_iff h.proper hkept]
  refine forall₂_congr fun ns _ => ?_
  rw [Bool.not_inj_iff]

/-! ## A directory that a built-in exclusion names -/

/-- A directory of the name of a virtual environment, entered from the root. -/
def venvPlace : Place :=
  let inner := Entry.directory [("a.py", .file "x = 1\n".toUTF8)]
  Place.child ⟨.directory [("venv", inner)], []⟩ "venv" inner

theorem unignored_venvPlace : Unignored {} (fun _ _ => none) venvPlace := by
  have hinner : venvPlace.NoIgnoreFile := ⟨by decide +kernel, by decide +kernel, by decide +kernel⟩
  have hroot : venvPlace.parent.NoIgnoreFile :=
    ⟨by decide +kernel, by decide +kernel, by decide +kernel⟩
  refine Or.inr ⟨fun _ _ => rfl, fun q hq => ?_⟩
  rcases hq with ⟨n, rfl⟩ | hbelow
  · cases n with
    | zero => exact hinner
    | succ n =>
      rw [show venvPlace.trail.drop (n + 1) = [] from List.drop_nil]
      exact hroot
  · cases hbelow with
    | self => exact hinner
    | enter dir mem _ =>
      obtain rfl := Entry.directory.inj dir
      exact absurd mem (by simp)

theorem searchable_venvPlace {path : String} (h : venvPlace.resolve path = .ok venvPlace)
    (walked : Path.isStandardInput path = false) : Searchable {} {} venvPlace venvPlace path where
  resolve := h
  directory := ⟨_, rfl⟩
  proper := .directory (by decide) (List.forall_mem_singleton.mpr ⟨by decide, by decide⟩)
    (List.forall_mem_singleton.mpr (.file _))
  valid _ := Exclusion.valid_defaultPatterns
  builds := by decide +kernel
  walked := walked
  unignored := unignored_venvPlace

/-- Both paths lead to the same files below, and only the second is caught. -/
theorem collect_by_spelling_venv :
    ∃ (kept : List (List String)) (found found' : Collection),
      (∀ ns, ns ∈ kept ↔ KeptBelow {} venvPlace ns) ∧
      collect {} venvPlace "." = .ok found ∧ collect {} venvPlace "../venv" = .ok found' ∧
      (found.files.map (Path.within ".") = found'.files.map (Path.within "../venv") ↔
        ∀ ns ∈ kept, Exclusion.catches {} (Path.below "." ns) =
          Exclusion.catches {} (Path.below "../venv" ns)) := by
  obtain ⟨kept, found, found', hkept, -, hfound, hfound', -, -, hiff⟩ :=
    collect_by_spelling {} {} venvPlace venvPlace venvPlace "." "../venv"
      (searchable_venvPlace rfl (by decide +kernel)) (searchable_venvPlace rfl (by decide +kernel))
  exact ⟨kept, found, found', hkept, hfound, hfound', hiff⟩

/-- **Exclusions are not relative to the directory**: from inside `venv`, the path `.` collects the
file there and the path `../venv` collects nothing. -/
theorem spelling_matters :
    ∃ found found', Searchable {} {} venvPlace venvPlace "." ∧
      Searchable {} {} venvPlace venvPlace "../venv" ∧
      collect {} venvPlace "." = .ok found ∧ collect {} venvPlace "../venv" = .ok found' ∧
      found.files.map (Path.within ".") = ["a.py"] ∧
      found'.files.map (Path.within "../venv") = [] := by
  refine ⟨⟨["./a.py"], []⟩, ⟨[], ["../venv/a.py"]⟩, searchable_venvPlace rfl (by decide +kernel),
    searchable_venvPlace rfl (by decide +kernel), ?_, ?_, ?_, ?_⟩
  · decide +kernel
  · decide +kernel
  · decide +kernel
  · rfl

end AbcMetric
