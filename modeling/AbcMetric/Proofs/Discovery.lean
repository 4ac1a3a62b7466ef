import AbcMetric.Files.Collect
import AbcMetric.Proofs.Paths
import AbcMetric.Proofs.Resolution
import Mathlib.Data.List.Lex

/-!
# The files below a directory

`Leads p names` says that names lead down from a place to a file: through directories that are no
links, to a file or to a link to one. Where ignore files play no part, `filesBelow` lists exactly
the names that lead to a file and are not hidden, each once and in order.

* `Entry.Proper`: every directory of a tree has names that are names, and each once.
* `Unignored`: ignore files play no part, because they are switched off or there are none.
* `mem_filesBelow`: what is listed. `pairwise_filesBelow`: in which order.

A closed directory leads nowhere: it has no entries that could be listed.

Both follow the tree (`Entry.induction`), with the place and the directories above it left general.
-/

namespace AbcMetric

/-! ## Trees -/

/-- Induction over a tree, with a hypothesis for every entry of a directory. -/
theorem Entry.induction {P : Entry → Prop} (file : ∀ content, P (.file content))
    (link : ∀ target, P (.link target)) (closed : ∀ reason, P (.closed reason))
    (directory : ∀ entries : List (String × Entry), (∀ x ∈ entries, P x.2) → P (.directory entries))
    (e : Entry) : P e := by
  refine @Entry.rec P (fun entries => ∀ x ∈ entries, P x.2) (fun x => P x.2) file link directory
    closed ?_ ?_ ?_ e
  · exact List.forall_mem_nil _
  · exact fun _ _ hx hentries => List.forall_mem_cons.mpr ⟨hx, hentries⟩
  · exact fun _ _ he => he

/-- Names are names, and no directory has one twice. -/
inductive Entry.Proper : Entry → Prop
  | file (content : FileContent) : Proper (.file content)
  | link (target : String) : Proper (.link target)
  | closed (reason : String) : Proper (.closed reason)
  | directory {entries : List (String × Entry)} (distinct : (entries.map Prod.fst).Nodup)
      (names : ∀ x ∈ entries, Path.IsName x.1) (inner : ∀ x ∈ entries, Proper x.2) :
      Proper (.directory entries)

/-- Names that lead down from a place to a file. -/
inductive Leads : Place → List String → Prop
  | file {p : Place} {entries : List (String × Entry)} {name : String} {content : FileContent}
      (dir : p.entry = .directory entries) (mem : (name, .file content) ∈ entries) :
      Leads p [name]
  | link {p : Place} {entries : List (String × Entry)} {name target : String}
      (dir : p.entry = .directory entries) (mem : (name, .link target) ∈ entries)
      (isFile : p.isFile name = true) : Leads p [name]
  | enter {p : Place} {entries inner : List (String × Entry)} {name : String}
      {names : List String} (dir : p.entry = .directory entries)
      (mem : (name, .directory inner) ∈ entries)
      (rest : Leads (p.child name (.directory inner)) names) : Leads p (name :: names)

/-- None of the names is hidden, or hidden names are let in. -/
def Shown (w : Walker) (names : List String) : Prop :=
  w.hidden = false ∨ ∀ name ∈ names, Path.isHidden name = false

/-- Names that lead to a file through one entry of a place. -/
def LeadsAt (p : Place) (name : String) : Entry → List String → Prop
  | .file _, names => names = [name]
  | .link _, names => names = [name] ∧ p.isFile name = true
  | .directory inner, names =>
    ∃ rest, names = name :: rest ∧ Leads (p.child name (.directory inner)) rest
  | .closed _, _ => False

theorem leads_iff {p : Place} {entries : List (String × Entry)} {names : List String}
    (hp : p.entry = .directory entries) :
    Leads p names ↔ ∃ x ∈ entries, LeadsAt p x.1 x.2 names := by
  constructor
  · intro h
    cases h with
    | file dir mem =>
      obtain rfl := Entry.directory.inj (hp.symm.trans dir)
      exact ⟨_, mem, rfl⟩
    | link dir mem isFile =>
      obtain rfl := Entry.directory.inj (hp.symm.trans dir)
      exact ⟨_, mem, rfl, isFile⟩
    | enter dir mem rest =>
      obtain rfl := Entry.directory.inj (hp.symm.trans dir)
      exact ⟨_, mem, _, rfl, rest⟩
  · rintro ⟨⟨name, e⟩, hmem, hleads⟩
    cases e with
    | file content =>
      obtain rfl : names = [name] := hleads
      exact .file hp hmem
    | link target =>
      obtain ⟨rfl, hfile⟩ := hleads
      exact .link hp hmem hfile
    | directory inner =>
      obtain ⟨rest, rfl, hrest⟩ := hleads
      exact .enter hp hmem hrest
    | closed reason => exact hleads.elim

/-! ## Ignore files -/

/-- The directory at a place has no ignore file. -/
structure Place.NoIgnoreFile (p : Place) : Prop where
  general : p.isFile ".ignore" = false
  versioned : p.isFile ".gitignore" = false
  unshared : p.isFile ".git/info/exclude" = false

/-- `q` is the place `p` or a directory on the way down to it. -/
def Place.Above (p q : Place) : Prop := ∃ n, q = { p with trail := p.trail.drop n }

/-- `q` is the place `p` or a directory below it. -/
inductive Place.Below : Place → Place → Prop
  | self (p : Place) : Below p p
  | enter {p q : Place} {entries inner : List (String × Entry)} {name : String}
      (dir : p.entry = .directory entries) (mem : (name, .directory inner) ∈ entries)
      (rest : Below (p.child name (.directory inner)) q) : Below p q

/-- The walker goes by no ignore files. -/
structure Walker.GoesByNone (w : Walker) : Prop where
  ignore : w.ignore = false
  gitIgnore : w.gitIgnore = false
  gitExclude : w.gitExclude = false
  gitGlobal : w.gitGlobal = false

/-- The user's own excludes say nothing. -/
def UserExcludes.Silent (user : UserExcludes) : Prop :=
  ∀ path isDirectory, user path isDirectory = none

/-- Ignore files play no part: they are switched off, or there is none below a place or above, and
the user has no excludes. -/
def Unignored (e : Exclusion) (user : UserExcludes) (p : Place) : Prop :=
  e.includeIgnored = true ∨ user.Silent ∧ ∀ q, p.Above q ∨ p.Below q → q.NoIgnoreFile

/-- The ignore files of the directories say nothing, or are switched off. -/
def Silent (w : Walker) (user : UserExcludes) (levels : List IgnoreLevel) : Prop :=
  w.GoesByNone ∨ user.Silent ∧ ∀ level ∈ levels, level.rules = {}

theorem Exclusion.goesByNone_walker {e : Exclusion} (h : e.includeIgnored = true) :
    e.walker.GoesByNone := by
  constructor <;>
    · unfold walker
      rw [h]
      rfl

theorem rulesAt_eq_nil {p : Place} {path : String} (h : p.isFile path = false) :
    DirectoryRules.rulesAt p path = [] := by
  obtain ⟨fault, hfault⟩ : ∃ fault, p.readBytes path = .error fault := by
    unfold Place.readBytes
    unfold Place.isFile at h
    cases hresolve : p.resolve path with
    | error fault => exact ⟨fault, rfl⟩
    | ok q =>
      rw [hresolve] at h
      dsimp only at h
      simp only [bind, Except.bind]
      cases hq : q.entry with
      | file content =>
        rw [hq] at h
        exact absurd h (by simp)
      | link | directory => exact ⟨.isDirectory, rfl⟩
      | closed reason => exact ⟨.refused reason, rfl⟩
  rw [DirectoryRules.rulesAt, hfault]

theorem Place.NoIgnoreFile.rules {p : Place} (h : p.NoIgnoreFile) :
    DirectoryRules.ofPlace p = {} := by
  rw [DirectoryRules.ofPlace, rulesAt_eq_nil h.general, rulesAt_eq_nil h.versioned,
    rulesAt_eq_nil h.unshared]

theorem levelVerdict?_eq_none {kind : DirectoryRules → List IgnoreRule} (hk : kind {} = [])
    {levels : List IgnoreLevel} (h : ∀ level ∈ levels, level.rules = {}) (isDirectory : Bool) :
    ∀ path, levelVerdict? kind isDirectory path levels = none := by
  induction levels with
  | nil => exact fun path => rfl
  | cons level levels ih =>
    intro path
    obtain ⟨hlevel, hlevels⟩ := List.forall_mem_cons.mp h
    rw [levelVerdict?, hlevel, hk, ih hlevels]
    rfl

/-- Where ignore files say nothing there is no verdict. -/
theorem Silent.verdict? {w : Walker} {user : UserExcludes} {levels : List IgnoreLevel}
    (h : Silent w user levels) (dir name : String) (isDirectory : Bool) :
    w.verdict? user levels dir name isDirectory = none := by
  unfold Walker.verdict?
  rcases h with h | ⟨huser, hlevels⟩
  · simp only [h.ignore, h.gitIgnore, h.gitExclude, h.gitGlobal]
    rfl
  · have hsaid : ∀ (switch : Bool) (kind : DirectoryRules → List IgnoreRule), kind {} = [] →
        (if switch then levelVerdict? kind isDirectory name levels else none) = none := by
      intro switch kind hkind
      rw [levelVerdict?_eq_none hkind hlevels, ite_self]
    dsimp only
    rw [hsaid w.ignore _ rfl, hsaid w.gitIgnore _ rfl, hsaid w.gitExclude _ rfl,
      huser _ isDirectory, ite_self]
    rfl

/-- Without a say of ignore files an entry is looked at unless it is hidden. -/
theorem isVisible_eq {w : Walker} {user : UserExcludes} {levels : List IgnoreLevel}
    (h : Silent w user levels) (dir name : String) (isDirectory : Bool) :
    w.isVisible user levels dir name isDirectory = !(w.hidden && Path.isHidden name) := by
  rw [Walker.isVisible, h.verdict?]

theorem shown_cons {w : Walker} {name : String} {names : List String} :
    Shown w (name :: names) ↔ (!(w.hidden && Path.isHidden name)) = true ∧ Shown w names := by
  unfold Shown
  rw [List.forall_mem_cons]
  cases w.hidden <;> simp

theorem Exclusion.shown_walker {e : Exclusion} {names : List String} :
    Shown e.walker names ↔
      e.includeHidden = true ∨ ∀ name ∈ names, Path.isHidden name = false := by
  unfold Shown walker
  rw [Bool.not_eq_false']

/-! ## What is listed -/

theorem mem_inNameOrder {found : List (String × List (List String))} {names : List String} :
    names ∈ inNameOrder found ↔ ∃ x ∈ found, names ∈ x.2 := by
  unfold inNameOrder
  rw [List.mem_flatMap]
  exact exists_congr fun x => and_congr_left fun _ => (List.mergeSort_perm found _).mem_iff

section

variable {w : Walker} {user : UserExcludes} {p : Place} {levels : List IgnoreLevel} {dir : String}
  {entries : List (String × Entry)} {names : List String}

variable (w user p levels dir entries) in
theorem filesOf_eq :
    filesOf w user p levels dir entries =
      entries.map fun x => (x.1, filesAt w user p levels dir x.1 x.2) := by
  induction entries with
  | nil => rfl
  | cons x entries ih =>
    obtain ⟨name, entry⟩ := x
    rw [filesOf, ih]
    rfl

theorem mem_inNameOrder_filesOf :
    names ∈ inNameOrder (filesOf w user p levels dir entries) ↔
      ∃ x ∈ entries, names ∈ filesAt w user p levels dir x.1 x.2 := by
  rw [mem_inNameOrder, filesOf_eq]
  constructor
  · rintro ⟨found, hfound, hnames⟩
    obtain ⟨x, hx, rfl⟩ := List.mem_map.mp hfound
    exact ⟨x, hx, hnames⟩
  · rintro ⟨x, hx, hnames⟩
    exact ⟨_, List.mem_map_of_mem hx, hnames⟩

/-- A directory is listed right if each of its entries is. -/
theorem mem_listing (hp : p.entry = .directory entries)
    (h : ∀ x ∈ entries, (names ∈ filesAt w user p levels dir x.1 x.2 ↔
      LeadsAt p x.1 x.2 names ∧ Shown w names)) :
    names ∈ inNameOrder (filesOf w user p levels dir entries) ↔
      Leads p names ∧ Shown w names := by
  rw [mem_inNameOrder_filesOf, leads_iff hp, ← exists_and_right]
  refine exists_congr fun x => ?_
  rw [and_assoc]
  exact and_congr_right fun hx => h x hx

end

/-- An entry that is a file, or taken for one, is listed by its name. -/
theorem mem_singleton_if {w : Walker} {name : String} {names : List String} {b : Bool}
    (hb : b = !(w.hidden && Path.isHidden name)) :
    names ∈ (if b then [[name]] else []) ↔ names = [name] ∧ Shown w names := by
  have hshown : Shown w [name] ↔ b = true := by
    rw [shown_cons, hb]
    exact and_iff_left (Or.inr (List.forall_mem_nil _))
  split
  · rename_i htrue
    rw [List.mem_singleton]
    constructor
    · rintro rfl
      exact ⟨rfl, hshown.mpr htrue⟩
    · exact And.left
  · rename_i hfalse
    constructor
    · exact fun h => absurd h List.not_mem_nil
    · rintro ⟨rfl, h⟩
      exact absurd (hshown.mp h) hfalse

/-- **What is listed at an entry** leads to a file through it and is not hidden. -/
theorem mem_filesAt {w : Walker} {user : UserExcludes} (entry : Entry) :
    ∀ {p : Place} {levels : List IgnoreLevel} {dir name : String} {names : List String},
      Silent w user levels →
      (∀ inner, entry = .directory inner → w.GoesByNone ∨ user.Silent ∧
        ∀ q, (p.child name (.directory inner)).Below q → q.NoIgnoreFile) →
      (names ∈ filesAt w user p levels dir name entry ↔
        LeadsAt p name entry names ∧ Shown w names) := by
  induction entry using Entry.induction with
  | file content =>
    intro p levels dir name names hs _
    rw [filesAt]
    exact mem_singleton_if (isVisible_eq hs dir name false)
  | link target =>
    intro p levels dir name names hs _
    rw [filesAt, isVisible_eq hs]
    cases hfile : p.isFile name with
    | false => simp [LeadsAt, hfile]
    | true =>
      rw [Bool.and_true, mem_singleton_if rfl]
      simp only [LeadsAt, hfile, and_true]
  | closed reason =>
    intro p levels dir name names _ _
    rw [filesAt]
    simp [LeadsAt]
  | directory inner ih =>
    intro p levels dir name names hs hbelow
    have hinner : Silent w user (⟨name, .ofPlace (p.child name (.directory inner))⟩ :: levels) := by
      rcases hbelow inner rfl with h | ⟨huser, h⟩
      · exact Or.inl h
      · refine hs.imp_right fun hlevels => ⟨huser, List.forall_mem_cons.mpr ⟨?_, hlevels.2⟩⟩
        exact (h _ (.self _)).rules
    have hentry : (p.child name (.directory inner)).entry = .directory inner := rfl
    have hrest : ∀ rest, rest ∈ inNameOrder (filesOf w user (p.child name (.directory inner))
        (⟨name, .ofPlace (p.child name (.directory inner))⟩ :: levels) (Path.join dir name) inner) ↔
        Leads (p.child name (.directory inner)) rest ∧ Shown w rest := by
      intro rest
      refine mem_listing hentry fun x hx => ih x hx hinner fun deeper hdeeper => ?_
      refine (hbelow inner rfl).imp_right fun h => ⟨h.1, fun q hq => h.2 q ?_⟩
      exact .enter hentry (hdeeper ▸ hx) hq
    rw [filesAt, isVisible_eq hs]
    by_cases hvisible : (!(w.hidden && Path.isHidden name)) = true
    · rw [if_pos hvisible, List.mem_map]
      constructor
      · rintro ⟨rest, hmem, rfl⟩
        obtain ⟨hleads, hshown⟩ := (hrest rest).mp hmem
        exact ⟨⟨rest, rfl, hleads⟩, shown_cons.mpr ⟨hvisible, hshown⟩⟩
      · rintro ⟨⟨rest, rfl, hleads⟩, hshown⟩
        exact ⟨rest, (hrest rest).mpr ⟨hleads, (shown_cons.mp hshown).2⟩, rfl⟩
    · rw [if_neg hvisible]
      constructor
      · exact fun h => absurd h List.not_mem_nil
      · rintro ⟨⟨rest, rfl, -⟩, hshown⟩
        exact absurd (shown_cons.mp hshown).1 hvisible

theorem rules_ignoreLevels_go {p : Place} :
    ∀ {trail : List (String × Entry)},
      (∀ n, Place.NoIgnoreFile ⟨p.root, trail.drop n⟩) →
      ∀ level ∈ ignoreLevels.go p.root trail, level.rules = {}
  | [], h => List.forall_mem_singleton.mpr (h 0).rules
  | _ :: _, h =>
    List.forall_mem_cons.mpr ⟨(h 0).rules, rules_ignoreLevels_go fun n => h (n + 1)⟩

theorem silent_ignoreLevels {e : Exclusion} {user : UserExcludes} {p : Place}
    (h : Unignored e user p) (parents : Bool) :
    Silent e.walker user (ignoreLevels parents p) := by
  refine h.imp Exclusion.goesByNone_walker fun ⟨huser, hnone⟩ => ⟨huser, ?_⟩
  have hall : ∀ level ∈ ignoreLevels.go p.root p.trail, level.rules = {} :=
    rules_ignoreLevels_go fun n => hnone _ (Or.inl ⟨n, rfl⟩)
  unfold ignoreLevels
  split
  · exact hall
  · exact fun level hlevel => hall level (List.mem_of_mem_take hlevel)

/-- **What is listed below a directory** leads to a file and is not hidden. -/
theorem mem_filesBelow {e : Exclusion} {user : UserExcludes} {p : Place} {path : String}
    (hpath : Path.isStandardInput path = false) (h : Unignored e user p) {names : List String} :
    names ∈ filesBelow e.walker user p path ↔ Leads p names ∧ Shown e.walker names := by
  unfold filesBelow
  rw [hpath, if_neg Bool.false_ne_true]
  split
  · rename_i entries hentry
    refine mem_listing hentry fun x hx =>
      mem_filesAt x.2 (silent_ignoreLevels h _) fun inner hinner => ?_
    refine h.imp Exclusion.goesByNone_walker fun ⟨huser, hnone⟩ => ⟨huser, fun q hq => ?_⟩
    exact hnone q (Or.inr (.enter hentry (hinner ▸ hx) hq))
  · rename_i hentry
    constructor
    · exact fun h => absurd h List.not_mem_nil
    · rintro ⟨hleads, -⟩
      cases hleads with
      | file dir _ | link dir _ _ | enter dir _ _ => exact absurd dir (hentry _)

/-! ## In which order -/

/-- Finds under names that are distinct, each find starting with its name and sorted itself. -/
theorem pairwise_inNameOrder {found : List (String × List (List String))}
    (distinct : (found.map Prod.fst).Nodup)
    (starts : ∀ x ∈ found, ∀ names ∈ x.2, names.head? = some x.1)
    (sorted : ∀ x ∈ found, x.2.Pairwise (· < ·)) : (inNameOrder found).Pairwise (· < ·) := by
  have hperm := List.mergeSort_perm found (·.1 ≤ ·.1)
  have hkeys : (found.mergeSort (·.1 ≤ ·.1)).Pairwise fun x y => x.1 < y.1 := by
    have hle : (found.mergeSort (·.1 ≤ ·.1)).Pairwise fun x y => decide (x.1 ≤ y.1) = true := by
      refine List.pairwise_mergeSort (fun x y z hxy hyz => decide_eq_true ?_) (fun x y => ?_) found
      · exact String.le_trans (of_decide_eq_true hxy) (of_decide_eq_true hyz)
      · rw [Bool.or_eq_true, decide_eq_true_eq, decide_eq_true_eq]
        exact String.le_total _ _
    have hne := List.pairwise_map.mp ((hperm.map Prod.fst).nodup_iff.mpr distinct)
    refine hle.imp₂ (fun x y hxy hne => String.not_le.mp fun hyx => hne ?_) hne
    exact String.le_antisymm (of_decide_eq_true hxy) hyx
  unfold inNameOrder
  rw [List.pairwise_flatMap]
  refine ⟨fun x hx => sorted x (hperm.mem_iff.mp hx), ?_⟩
  refine hkeys.imp_of_mem fun {x y} hx hy hlt ns hns ms hms => ?_
  obtain ⟨ns, rfl⟩ := List.head?_eq_some_iff.mp (starts x (hperm.mem_iff.mp hx) ns hns)
  obtain ⟨ms, rfl⟩ := List.head?_eq_some_iff.mp (starts y (hperm.mem_iff.mp hy) ms hms)
  exact .rel hlt

section

variable {w : Walker} {user : UserExcludes} {p : Place} {levels : List IgnoreLevel}
  {dir name : String}

theorem head_filesAt {entry : Entry} :
    ∀ names ∈ filesAt w user p levels dir name entry, names.head? = some name := by
  intro names hnames
  cases entry with
  | file | link =>
    rw [filesAt] at hnames
    split at hnames
    · rw [List.mem_singleton.mp hnames]
      rfl
    · exact absurd hnames List.not_mem_nil
  | closed =>
    rw [filesAt] at hnames
    exact absurd hnames List.not_mem_nil
  | directory inner =>
    rw [filesAt] at hnames
    split at hnames
    · obtain ⟨rest, -, rfl⟩ := List.mem_map.mp hnames
      rfl
    · exact absurd hnames List.not_mem_nil

/-- The entries of a directory are listed in order if each of them is. -/
theorem pairwise_filesOf {entries : List (String × Entry)}
    (distinct : (entries.map Prod.fst).Nodup)
    (sorted : ∀ x ∈ entries, (filesAt w user p levels dir x.1 x.2).Pairwise (· < ·)) :
    (inNameOrder (filesOf w user p levels dir entries)).Pairwise (· < ·) := by
  rw [filesOf_eq]
  refine pairwise_inNameOrder ?_ ?_ ?_
  · rw [List.map_map]
    exact distinct
  · exact List.forall_mem_map.mpr fun x _ => head_filesAt
  · exact List.forall_mem_map.mpr sorted

end

theorem pairwise_filesAt {w : Walker} {user : UserExcludes} (entry : Entry) :
    ∀ {p : Place} {levels : List IgnoreLevel} {dir name : String}, entry.Proper →
      (filesAt w user p levels dir name entry).Pairwise (· < ·) := by
  induction entry using Entry.induction with
  | file content =>
    intro p levels dir name _
    rw [filesAt]
    split
    · exact List.pairwise_singleton _ _
    · exact .nil
  | link target =>
    intro p levels dir name _
    rw [filesAt]
    split
    · exact List.pairwise_singleton _ _
    · exact .nil
  | closed reason =>
    intro p levels dir name _
    rw [filesAt]
    exact .nil
  | directory inner ih =>
    intro p levels dir name hproper
    cases hproper with
    | directory distinct _ hinner =>
      rw [filesAt]
      split
      · refine List.Pairwise.map _ (fun _ _ => .cons) ?_
        exact pairwise_filesOf distinct fun x hx => ih x hx (hinner x hx)
      · exact .nil

/-- **The files below a directory are listed in order**, name by name. -/
theorem pairwise_filesBelow {w : Walker} {user : UserExcludes} {p : Place} {path : String}
    (h : p.entry.Proper) : (filesBelow w user p path).Pairwise (· < ·) := by
  unfold filesBelow
  split
  · exact .nil
  · split
    · rename_i entries hentry
      rw [hentry] at h
      cases h with
      | directory distinct _ hinner =>
        exact pairwise_filesOf distinct fun x hx => pairwise_filesAt x.2 (hinner x hx)
    · exact .nil

/-! ## Names -/

/-- Names that lead to a file are names, and there is one at least. -/
theorem Leads.isName {p : Place} {names : List String} (h : Leads p names) :
    p.entry.Proper → names ≠ [] ∧ ∀ name ∈ names, Path.IsName name := by
  induction h with
  | file dir mem | link dir mem _ =>
    intro hproper
    rw [dir] at hproper
    cases hproper with
    | directory _ hnames _ =>
      exact ⟨List.cons_ne_nil _ _, List.forall_mem_singleton.mpr (hnames _ mem)⟩
  | enter dir mem _ ih =>
    intro hproper
    rw [dir] at hproper
    cases hproper with
    | directory _ hnames hinner =>
      exact ⟨List.cons_ne_nil _ _,
        List.forall_mem_cons.mpr ⟨hnames _ mem, (ih (hinner _ mem)).2⟩⟩

end AbcMetric
