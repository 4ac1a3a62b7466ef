import AbcMetric.Proofs.ByteOrder
import AbcMetric.Proofs.Discovery
import AbcMetric.Proofs.Exclusions

/-!
# What is collected below a directory

`Collected e root path names` says what it takes for a file below a directory to be collected, with
no regard to how the tree is searched. Where ignore files play no part, `collect` gives exactly
these files, each once, by the bytes of their names from the directory on.

* `Searchable.files_eq`: what is collected depends on the names that lead to source files alone.
* `Leads.reordered`, `Unignored.reordered`: nothing that matters depends on the order in which a
  directory lists its entries.
* `collect_exact`: what is collected, and what it does not depend on.
-/

namespace AbcMetric

/-! ## What it takes to be collected -/

/-- What it takes for a file to be collected, given as names from the directory at `root` on. -/
structure Collected (e : Exclusion) (root : Place) (path : String) (names : List String) :
    Prop where
  /-- The names lead to a file through directories that are no links. -/
  leads : Leads root names
  /-- The last name has the extension of a source file. -/
  source : ∃ stem, stem ≠ "" ∧ names.getLast? = some (stem ++ ".py")
  /-- No name is hidden, or hidden names are let in. -/
  shown : e.includeHidden = true ∨ ∀ name ∈ names, Path.isHidden name = false
  /-- No effective pattern matches the relative path or the whole path. -/
  kept : ∀ pattern ∈ e.patterns, ∀ g, Glob.ofPattern pattern = .ok g →
    g.accepts (Path.relative names) = false ∧ g.accepts (Path.below path names) = false

/-- The same names lead to files in two directories, names of ignore files apart. -/
def SameButIgnoreFiles (root root' : Place) : Prop :=
  ∀ names : List String,
    names.getLast? ∉ [some ".ignore", some ".gitignore", some "exclude"] →
      (Leads root names ↔ Leads root' names)

theorem isSource_iff {names : List String} :
    isSource names = true ↔ ∃ stem, stem ≠ "" ∧ names.getLast? = some (stem ++ ".py") := by
  unfold isSource
  rw [Option.any_eq_true]
  constructor
  · rintro ⟨last, hlast, hext⟩
    obtain ⟨stem, hstem, rfl⟩ := Path.hasExtension_iff.mp hext
    exact ⟨stem, hstem, by rw [hlast, String.append_assoc]; rfl⟩
  · rintro ⟨stem, hstem, hlast⟩
    refine ⟨_, hlast, Path.hasExtension_iff.mpr ⟨stem, hstem, ?_⟩⟩
    rw [String.append_assoc]
    rfl

/-- The name of a source file is not that of an ignore file. -/
theorem getLast?_of_isSource {names : List String} (h : isSource names = true) :
    names.getLast? ∉ [some ".ignore", some ".gitignore", some "exclude"] := by
  obtain ⟨stem, -, hlast⟩ := isSource_iff.mp h
  have hletter : (stem ++ ".py").toList.getLast? = some 'y' := by
    rw [String.toList_append, List.getLast?_append]
    rfl
  rw [hlast]
  simp only [List.mem_cons, Option.some.injEq, List.not_mem_nil, or_false]
  rintro (heq | heq | heq) <;>
    · rw [heq] at hletter
      exact absurd hletter (by decide)

/-! ## Collecting -/

/-- A path to a directory that can be searched: names are names, the exclusions are valid and ignore
files play no part. Of the libraries it is assumed that the builder takes the exclusions and that
the walker goes into the directory, so the path is not the dash that stands for the standard
input. -/
structure Searchable (e : Exclusion) (host : Host) (cwd root : Place) (path : String) : Prop where
  resolve : cwd.resolve path = .ok root
  directory : ∃ entries, root.entry = .directory entries
  proper : root.entry.Proper
  valid : ∀ pattern ∈ e.patterns, ∃ g, Glob.ofPattern pattern = .ok g
  builds : host.builder.fault? e.parsed = none
  walked : Path.isStandardInput path = false
  unignored : Unignored e host.excludes root

section

variable {e : Exclusion} {host host' : Host} {cwd root : Place} {path : String}

theorem Searchable.isFile (h : Searchable e host cwd root path) : cwd.isFile path = false := by
  obtain ⟨entries, hentries⟩ := h.directory
  unfold Place.isFile
  rw [h.resolve]
  dsimp only
  rw [hentries]

theorem Searchable.collect_eq_sift (h : Searchable e host cwd root path) :
    AbcMetric.collect e cwd path host = .ok (e.sift host path root) := by
  rw [collect_eq, h.isFile, if_neg Bool.false_ne_true, h.resolve]
  dsimp only
  rw [Exclusion.fault?_eq_none.mpr ⟨h.valid, h.builds⟩]

/-- **A search of a directory gives what it takes to be collected**, in order. -/
theorem Searchable.collect (h : Searchable e host cwd root path) :
    ∃ (found : Collection) (names : List (List String)),
      AbcMetric.collect e cwd path host = .ok found ∧ found.files = names.map (Path.below path) ∧
      (∀ ns, ns ∈ names ↔ Collected e root path ns) ∧ names.Pairwise (· < ·) := by
  refine ⟨_, _, h.collect_eq_sift, rfl, fun ns => ?_,
    ((pairwise_filesBelow h.proper).filter _).filter _⟩
  rw [List.mem_filter, List.mem_filter, mem_filesBelow h.walked h.unignored,
    Exclusion.shown_walker, isSource_iff, Bool.not_eq_true', Exclusion.excludes_eq_false_iff]
  constructor
  · rintro ⟨⟨⟨hleads, hshown⟩, hsource⟩, hkept⟩
    exact ⟨hleads, hsource, hshown, hkept⟩
  · rintro ⟨hleads, hsource, hshown, hkept⟩
    exact ⟨⟨⟨hleads, hshown⟩, hsource⟩, hkept⟩

theorem ne_of_lt_names {ns ms : List String} (h : ns < ms) : ns ≠ ms := by
  rintro rfl
  exact List.lt_irrefl _ h

/-- Two lists in strict order with the same members are the same. -/
theorem eq_of_mem_iff {ns ms : List (List String)} (hns : ns.Pairwise (· < ·))
    (hms : ms.Pairwise (· < ·)) (h : ∀ x, x ∈ ns ↔ x ∈ ms) : ns = ms := by
  refine List.Perm.eq_of_pairwise (fun a b _ _ hab hba => ?_) hns hms ?_
  · exact absurd hba (List.lt_asymm hab)
  · exact (List.perm_ext_iff_of_nodup (hns.imp ne_of_lt_names) (hms.imp ne_of_lt_names)).mpr h

/-- **What is collected depends on the names that lead to source files alone.** -/
theorem Searchable.files_eq {cwd' root' : Place} (h : Searchable e host cwd root path)
    (h' : Searchable e host' cwd' root' path)
    (hleads : ∀ names, isSource names = true → (Leads root names ↔ Leads root' names))
    {found : Collection} (hfound : AbcMetric.collect e cwd path host = .ok found) :
    ∃ found', AbcMetric.collect e cwd' path host' = .ok found' ∧ found'.files = found.files := by
  obtain ⟨f, names, hf, hfiles, hmem, hsorted⟩ := h.collect
  obtain ⟨f', names', hf', hfiles', hmem', hsorted'⟩ := h'.collect
  obtain rfl := Except.ok.inj (hfound.symm.trans hf)
  refine ⟨f', hf', ?_⟩
  rw [hfiles, hfiles', eq_of_mem_iff hsorted' hsorted fun ns => ?_]
  rw [hmem, hmem']
  constructor
  · intro hc
    exact ⟨(hleads ns (isSource_iff.mpr hc.source)).mpr hc.leads, hc.source, hc.shown, hc.kept⟩
  · intro hc
    exact ⟨(hleads ns (isSource_iff.mpr hc.source)).mp hc.leads, hc.source, hc.shown, hc.kept⟩

/-- Different names are collected as different paths. -/
theorem nodup_below {names : List (List String)} (hproper : root.entry.Proper)
    (hleads : ∀ ns ∈ names, Leads root ns) (hsorted : names.Pairwise (· < ·)) :
    (names.map (Path.below path)).Nodup := by
  refine List.pairwise_map.mpr (hsorted.imp_of_mem fun {ns ms} hns hms hlt heq => ?_)
  obtain ⟨hn, hns⟩ := (hleads ns hns).isName hproper
  obtain ⟨hm, hms⟩ := (hleads ms hms).isName hproper
  exact ne_of_lt_names hlt (Path.below_inj hn hm hns hms heq)

end

/-! ## The order of entries does not matter -/

theorem Entry.Reordered.proper {a b : Entry} (h : a.Reordered b) : a.Proper → b.Proper := by
  induction h with
  | file content => exact id
  | link target => exact id
  | closed reason => exact id
  | directory names _ ih =>
    intro hproper
    cases hproper with
    | directory distinct hnames hinner =>
      refine .directory (names.nodup_iff.mp distinct) ?_ ?_
      · rintro ⟨name, b⟩ hb
        obtain ⟨a, ha⟩ := exists_mem_of_names names.symm hb
        exact hnames (name, a) ha
      · rintro ⟨name, b⟩ hb
        obtain ⟨a, ha⟩ := exists_mem_of_names names.symm hb
        exact ih name a b ha hb (hinner (name, a) ha)

/-- The directory at a place that differs in the order of entries. -/
theorem Place.Reordered.directory {p q : Place} (h : p.Reordered q)
    {entries : List (String × Entry)} (hp : p.entry = .directory entries) :
    ∃ others, q.entry = .directory others ∧
      ∀ {name a}, (name, a) ∈ entries → ∃ b, (name, b) ∈ others ∧ a.Reordered b := by
  have hentry := h.entry
  rw [hp] at hentry
  generalize hq : q.entry = b at hentry
  cases hentry with
  | directory names inner =>
    refine ⟨_, rfl, fun {name a} ha => ?_⟩
    obtain ⟨b, hb⟩ := exists_mem_of_names names ha
    exact ⟨b, hb, inner name a b ha hb⟩

/-- **The same names lead to files whatever the order of entries.** -/
theorem Leads.reordered {p : Place} {names : List String} (h : Leads p names) :
    ∀ {q : Place}, p.Reordered q → Leads q names := by
  induction h with
  | file dir mem =>
    intro q hpq
    obtain ⟨others, hq, hmem⟩ := hpq.directory dir
    obtain ⟨b, hb, hab⟩ := hmem mem
    cases hab with
    | file content => exact .file hq hb
  | link dir mem isFile =>
    intro q hpq
    obtain ⟨others, hq, hmem⟩ := hpq.directory dir
    obtain ⟨b, hb, hab⟩ := hmem mem
    cases hab with
    | link target => exact .link hq hb (hpq.isFile_eq _ ▸ isFile)
  | enter dir mem _ ih =>
    intro q hpq
    obtain ⟨others, hq, hmem⟩ := hpq.directory dir
    obtain ⟨b, hb, hab⟩ := hmem mem
    cases hab with
    | directory names inner => exact .enter hq hb (ih (hpq.child _ (.directory names inner)))

theorem Place.Below.reordered {p r : Place} (h : p.Below r) :
    ∀ {q : Place}, p.Reordered q → ∃ r', q.Below r' ∧ r.Reordered r' := by
  induction h with
  | self p => exact fun hpq => ⟨_, .self _, hpq⟩
  | enter dir mem _ ih =>
    intro q hpq
    obtain ⟨others, hq, hmem⟩ := hpq.directory dir
    obtain ⟨b, hb, hab⟩ := hmem mem
    cases hab with
    | directory names inner =>
      obtain ⟨r', hr', hrr'⟩ := ih (hpq.child _ (.directory names inner))
      exact ⟨r', .enter hq hb hr', hrr'⟩

theorem Place.Above.reordered {p q r : Place} (h : p.Above r) (hpq : p.Reordered q) :
    ∃ r', q.Above r' ∧ r.Reordered r' := by
  obtain ⟨n, rfl⟩ := h
  exact ⟨_, ⟨n, rfl⟩, hpq.root, List.forall₂_drop n hpq.trail⟩

theorem Place.NoIgnoreFile.reordered {p q : Place} (h : p.NoIgnoreFile) (hpq : p.Reordered q) :
    q.NoIgnoreFile :=
  ⟨hpq.isFile_eq _ ▸ h.general, hpq.isFile_eq _ ▸ h.versioned, hpq.isFile_eq _ ▸ h.unshared⟩

theorem Unignored.reordered {e : Exclusion} {user : UserExcludes} {p q : Place}
    (h : Unignored e user p) (hpq : p.Reordered q) : Unignored e user q := by
  refine h.imp_right fun ⟨huser, hnone⟩ => ⟨huser, fun r hr => ?_⟩
  -- the place in the other tree has its counterpart in this one
  obtain ⟨r', hr', hrr'⟩ : ∃ r', (p.Above r' ∨ p.Below r') ∧ r.Reordered r' := by
    rcases hr with hr | hr
    · obtain ⟨r', hr', hrr'⟩ := hr.reordered hpq.symm
      exact ⟨r', Or.inl hr', hrr'⟩
    · obtain ⟨r', hr', hrr'⟩ := hr.reordered hpq.symm
      exact ⟨r', Or.inr hr', hrr'⟩
  exact (hnone r' hr').reordered hrr'.symm

/-- A directory stays searchable when entries are listed in another order. -/
theorem Searchable.reordered {e : Exclusion} {host : Host} {cwd cwd' root : Place} {path : String}
    (h : Searchable e host cwd root path) (hcwd : cwd.Reordered cwd') :
    ∃ root', Searchable e host cwd' root' path ∧ root.Reordered root' := by
  have hresolve := hcwd.resolve path
  rw [h.resolve] at hresolve
  generalize hr : cwd'.resolve path = r at hresolve
  cases hresolve with
  | ok hroot =>
    rename_i root'
    obtain ⟨entries, hentries⟩ := h.directory
    obtain ⟨others, hothers, -⟩ := hroot.directory hentries
    exact ⟨root', ⟨hr, ⟨others, hothers⟩, hroot.entry.proper h.proper, h.valid, h.builds,
      h.walked, h.unignored.reordered hroot⟩, hroot⟩

/-! ## Main result -/

/-- **What is collected below a directory is exactly what it takes to be collected.** Each file
appears once, in the order of the bytes of its names. The result does not depend on the order in
which directories list their entries, nor, with ignore files switched off, on these or on the user's
own excludes. -/
theorem collect_exact (e : Exclusion) (host : Host) (cwd root : Place) (path : String)
    (h : Searchable e host cwd root path) :
    ∃ (found : Collection) (names : List (List String)), collect e cwd path host = .ok found ∧
      found.files = names.map (Path.below path) ∧
      (∀ ns, ns ∈ names ↔ Collected e root path ns) ∧
      names.Pairwise (List.Lex fun a b => bytesOf a < bytesOf b) ∧ found.files.Nodup ∧
      (∀ cwd', cwd.Reordered cwd' →
        ∃ found', collect e cwd' path host = .ok found' ∧ found'.files = found.files) ∧
      (e.includeIgnored = true → ∀ host' cwd' root', Searchable e host' cwd' root' path →
        SameButIgnoreFiles root root' →
          ∃ found', collect e cwd' path host' = .ok found' ∧ found'.files = found.files) := by
  obtain ⟨found, names, hfound, hfiles, hmem, hsorted⟩ := h.collect
  refine ⟨found, names, hfound, hfiles, hmem, ?_, ?_, ?_, ?_⟩
  · exact hsorted.imp fun {ns ms} hlt => List.Lex.imp (fun a b => bytesOf_lt) ns ms hlt
  · rw [hfiles]
    exact nodup_below h.proper (fun ns hns => ((hmem ns).mp hns).leads) hsorted
  · intro cwd' hcwd
    obtain ⟨root', h', hroot⟩ := h.reordered hcwd
    refine h.files_eq h' (fun ns _ => ?_) hfound
    exact ⟨fun hleads => hleads.reordered hroot, fun hleads => hleads.reordered hroot.symm⟩
  · intro _ host' cwd' root' h' hsame
    exact h.files_eq h' (fun ns hsource => hsame ns (getLast?_of_isSource hsource)) hfound

/-- A link to a file in a directory beside it. -/
def linkedEntries : List (String × Entry) :=
  [("b.py", .link "a/x.py"), ("a", .directory [("x.py", .file "x = 1\n".toUTF8)])]

theorem proper_linkedEntries : Entry.Proper (.directory linkedEntries) := by
  have hinner : Entry.Proper (.directory [("x.py", .file "x = 1\n".toUTF8)]) :=
    .directory (by decide) (List.forall_mem_singleton.mpr ⟨by decide, by decide⟩)
      (List.forall_mem_singleton.mpr (.file _))
  refine .directory (by decide) ?_ ?_
  · exact List.forall_mem_cons.mpr
      ⟨⟨by decide, by decide⟩, List.forall_mem_singleton.mpr ⟨by decide, by decide⟩⟩
  · exact List.forall_mem_cons.mpr ⟨.link _, List.forall_mem_singleton.mpr hinner⟩

/-- The linked directory under the built-in exclusions, with ignore files switched off. -/
theorem collect_exact_linked :
    let e : Exclusion := { includeIgnored := true }
    let cwd : Place := ⟨.directory [("pkg", .directory linkedEntries)], []⟩
    ∃ (found : Collection) (names : List (List String)), collect e cwd "pkg" = .ok found ∧
      found.files = names.map (Path.below "pkg") ∧
      ∀ ns, ns ∈ names ↔ Collected e (cwd.child "pkg" (.directory linkedEntries)) "pkg" ns := by
  intro e cwd
  obtain ⟨found, names, hfound, hfiles, hmem, -⟩ :=
    collect_exact e {} cwd (cwd.child "pkg" (.directory linkedEntries)) "pkg"
      ⟨rfl, ⟨linkedEntries, rfl⟩, proper_linkedEntries, fun _ => Exclusion.valid_defaultPatterns,
        by decide +kernel, by decide +kernel, Or.inl rfl⟩
  exact ⟨found, names, hfound, hfiles, hmem⟩

end AbcMetric
