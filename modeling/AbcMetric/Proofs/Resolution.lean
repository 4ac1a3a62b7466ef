import AbcMetric.Files.Tree
import AbcMetric.Proofs.Yields
import Mathlib.Data.List.Forall2

/-!
# Where paths lead

Two facts about following a path through a tree.

* `Place.Grounded`: neither the root nor an entry on the way down to a place is a link. Following a
  path from such a place ends at one, so it ends at a file or a directory
  (`isFile_or_isDirectory`).
* `Entry.Reordered`: two trees with the same entries, in whatever order each directory lists them.
  Following a path agrees in both (`Place.Reordered.resolve`), so it leads to a file in both or in
  neither (`Place.Reordered.isFile_eq`).
-/

namespace AbcMetric

/-- Whether the entry is a link. -/
def Entry.isLink : Entry → Bool
  | .link _ => true
  | _ => false

/-- The place that names have led to, or the directory of the link that stopped them. -/
def Reached.stand : Reached → Place
  | .place p => p
  | .link dir _ _ => dir

namespace Place

/-! ## Paths do not end at links -/

/-- Neither the root nor an entry on the way down is a link. -/
structure Grounded (p : Place) : Prop where
  root : p.root.isLink = false
  trail : ∀ x ∈ p.trail, x.2.isLink = false

namespace Grounded

variable {p : Place}

theorem entry (h : p.Grounded) : p.entry.isLink = false := by
  unfold Place.entry
  split
  · exact h.root
  · rename_i name e rest htrail
    refine h.trail (name, e) ?_
    rw [htrail]
    exact List.mem_cons_self

theorem parent (h : p.Grounded) : p.parent.Grounded :=
  ⟨h.root, fun x hx => h.trail x (List.mem_of_mem_drop hx)⟩

theorem top (h : p.Grounded) : p.top.Grounded := ⟨h.root, List.forall_mem_nil _⟩

theorem child (h : p.Grounded) {name : String} {e : Entry} (he : e.isLink = false) :
    (p.child name e).Grounded :=
  ⟨h.root, List.forall_mem_cons.mpr ⟨he, h.trail⟩⟩

end Grounded

/-- Going from name to name stays grounded. -/
theorem Grounded.advance {names : List String} :
    ∀ {p : Place}, p.Grounded → ∀ {r : Reached}, p.advance names = .ok r → r.stand.Grounded := by
  induction names with
  | nil =>
    intro p hp r h
    rw [← Except.ok.inj h]
    exact hp
  | cons name left ih =>
    intro p hp r h
    unfold Place.advance at h
    split at h
    · split at h
      · exact ih hp h
      · split at h
        · exact ih hp.parent h
        · split at h
          · exact absurd h (by simp)
          · rw [← Except.ok.inj h]
            exact hp
          · rename_i e hlink hlookup
            refine ih (hp.child ?_) h
            cases e with
            | link target => exact absurd rfl (hlink target)
            | file | directory | closed => rfl
    · split at h
      · exact ih hp h
      · exact absurd h (by simp)
    · exact absurd h (by simp)

theorem Grounded.follow :
    ∀ {links : Nat} {p q : Place} {names : List String}, p.Grounded →
      follow links p names = .ok q → q.Grounded
  | 0, _, _, _, _, h => absurd h (by simp [Place.follow])
  | links + 1, p, q, names, hp, h => by
    unfold Place.follow at h
    obtain ⟨r, hr, h⟩ := exists_of_bind_eq_ok h
    have hplace := hp.advance hr
    cases r with
    | place q' =>
      rw [← Except.ok.inj h]
      exact hplace
    | link dir target left =>
      refine Grounded.follow ?_ h
      split
      · exact hplace.top
      · exact hplace

theorem Grounded.resolve {p q : Place} {path : String} (hp : p.Grounded)
    (h : p.resolve path = .ok q) : q.Grounded := by
  refine Grounded.follow ?_ h
  split
  · exact hp.top
  · exact hp

/-- **A path that leads somewhere leads to a file or a directory.** -/
theorem Grounded.isFile_or_isDirectory {p q : Place} {path : String} (hp : p.Grounded)
    (h : p.resolve path = .ok q) : p.isFile path = true ∨ p.isDirectory path = true := by
  have hentry := (hp.resolve h).entry
  unfold Place.isFile Place.isDirectory
  rw [h]
  dsimp only
  cases hq : q.entry with
  | file content => exact Or.inl rfl
  | directory entries => exact Or.inr rfl
  | closed reason => exact Or.inr rfl
  | link target =>
    rw [hq] at hentry
    exact absurd hentry (by simp [Entry.isLink])

/-- **A file that holds a text is read as the text.** -/
theorem read_of_resolve {p q : Place} {path text : String} (h : p.resolve path = .ok q)
    (hentry : q.entry = .file text.toUTF8) : p.read path = .ok text := by
  have htext : String.fromUTF8? text.toUTF8 = some text := dif_pos text.isValidUTF8
  have hbytes : p.readBytes path = .ok text.toUTF8 := by
    simp only [readBytes, h, bind, Except.bind, hentry]
    rfl
  simp only [read, hbytes, bind, Except.bind, htext]
  rfl

theorem isFile_of_isDirectory {p : Place} {path : String} (h : p.isDirectory path = true) :
    p.isFile path = false := by
  unfold isDirectory at h
  unfold isFile
  split at h
  · split at h
    · rename_i hentry
      simp only [hentry]
    · rename_i hentry
      simp only [hentry]
    · exact absurd h (by simp)
  · rfl

end Place

/-! ## The order of entries does not matter -/

/-- The same tree with the entries of each directory in some other order. -/
inductive Entry.Reordered : Entry → Entry → Prop
  | file (content : FileContent) : Reordered (.file content) (.file content)
  | link (target : String) : Reordered (.link target) (.link target)
  | closed (reason : String) : Reordered (.closed reason) (.closed reason)
  | directory {entries others : List (String × Entry)}
      (names : (entries.map Prod.fst).Perm (others.map Prod.fst))
      (inner : ∀ name a b, (name, a) ∈ entries → (name, b) ∈ others → Reordered a b) :
      Reordered (.directory entries) (.directory others)

theorem Entry.Reordered.symm {a b : Entry} (h : a.Reordered b) : b.Reordered a := by
  induction h with
  | file content => exact .file content
  | link target => exact .link target
  | closed reason => exact .closed reason
  | directory names _ ih =>
    exact .directory names.symm fun name b a hb ha => ih name a b ha hb

/-- An entry has its counterpart under the same name. -/
theorem exists_mem_of_names {entries others : List (String × Entry)} {name : String} {a : Entry}
    (names : (entries.map Prod.fst).Perm (others.map Prod.fst)) (ha : (name, a) ∈ entries) :
    ∃ b, (name, b) ∈ others := by
  have hname : name ∈ others.map Prod.fst := names.mem_iff.mp (List.mem_map_of_mem ha)
  obtain ⟨⟨n, b⟩, hb, rfl⟩ := List.mem_map.mp hname
  exact ⟨b, hb⟩

theorem lookup_eq_none_iff_names {entries : List (String × Entry)} {name : String} :
    entries.lookup name = none ↔ name ∉ entries.map Prod.fst := by
  rw [List.lookup_eq_none_iff, List.mem_map]
  constructor
  · rintro h ⟨x, hx, rfl⟩
    exact absurd (h x hx) (by simp)
  · intro h x hx
    have hne : name ≠ x.1 := fun heq => h ⟨x, hx, heq.symm⟩
    simpa using hne

theorem mem_of_lookup {entries : List (String × Entry)} {name : String} {a : Entry}
    (h : entries.lookup name = some a) : (name, a) ∈ entries := by
  obtain ⟨before, after, hentries, -⟩ := List.lookup_eq_some_iff.mp h
  rw [hentries]
  exact List.mem_append_right _ List.mem_cons_self

/-- The same place in two trees that differ in the order of entries. -/
structure Place.Reordered (p q : Place) : Prop where
  root : p.root.Reordered q.root
  trail : List.Forall₂ (fun x y => x.1 = y.1 ∧ x.2.Reordered y.2) p.trail q.trail

/-- Two computations with the same fault, or with results that are related. -/
inductive Agree {ε α β : Type} (R : α → β → Prop) : Except ε α → Except ε β → Prop
  | error (fault : ε) : Agree R (.error fault) (.error fault)
  | ok {a : α} {b : β} (h : R a b) : Agree R (.ok a) (.ok b)

/-- Where the same names have led to in two such trees. -/
inductive Reached.Reordered : Reached → Reached → Prop
  | place {p q : Place} (h : p.Reordered q) : Reordered (.place p) (.place q)
  | link {p q : Place} (h : p.Reordered q) (target : String) (left : List String) :
      Reordered (.link p target left) (.link q target left)

namespace Place.Reordered

variable {p q : Place}

theorem symm (h : p.Reordered q) : q.Reordered p :=
  ⟨h.root.symm, h.trail.flip.imp fun _ _ hxy => ⟨hxy.1.symm, hxy.2.symm⟩⟩

theorem entry (h : p.Reordered q) : p.entry.Reordered q.entry := by
  obtain ⟨root, trail⟩ := p
  obtain ⟨root', trail'⟩ := q
  cases h.trail with
  | nil => exact h.root
  | cons hxy _ => exact hxy.2

theorem top (h : p.Reordered q) : p.top.Reordered q.top := ⟨h.root, .nil⟩

theorem parent (h : p.Reordered q) : p.parent.Reordered q.parent :=
  ⟨h.root, List.forall₂_drop 1 h.trail⟩

theorem child (h : p.Reordered q) (name : String) {a b : Entry} (hab : a.Reordered b) :
    (p.child name a).Reordered (q.child name b) :=
  ⟨h.root, .cons ⟨rfl, hab⟩ h.trail⟩

theorem advance (names : List String) :
    ∀ {p q : Place}, p.Reordered q →
      Agree Reached.Reordered (p.advance names) (q.advance names) := by
  induction names with
  | nil => exact fun h => .ok (.place h)
  | cons name left ih =>
    intro p q h
    have hentry := h.entry
    unfold Place.advance
    generalize p.entry = a at hentry
    generalize q.entry = b at hentry
    cases hentry with
    | file content => exact .error _
    | link target => exact .error _
    | closed reason =>
      dsimp only
      split
      · exact ih h
      · exact .error _
    | directory names inner =>
      rename_i entries others
      dsimp only
      split
      · exact ih h
      · split
        · exact ih h.parent
        · cases ha : entries.lookup name with
          | none =>
            have hnone : others.lookup name = none := by
              rw [lookup_eq_none_iff_names] at ha ⊢
              rwa [← names.mem_iff]
            rw [hnone]
            exact .error _
          | some a =>
            obtain ⟨b, hb⟩ : ∃ b, others.lookup name = some b := by
              refine Option.ne_none_iff_exists'.mp fun hnone => ?_
              rw [lookup_eq_none_iff_names, ← names.mem_iff, ← lookup_eq_none_iff_names] at hnone
              exact absurd (ha.symm.trans hnone) (by simp)
            rw [hb]
            have hab := inner name a b (mem_of_lookup ha) (mem_of_lookup hb)
            cases hab with
            | file content => exact ih (h.child name (.file content))
            | link target => exact .ok (.link h target left)
            | closed reason => exact ih (h.child name (.closed reason))
            | directory names' inner' => exact ih (h.child name (.directory names' inner'))

theorem follow :
    ∀ (links : Nat) {p q : Place} (names : List String), p.Reordered q →
      Agree Place.Reordered (follow links p names) (follow links q names)
  | 0, _, _, _, _ => .error _
  | links + 1, p, q, names, h => by
    have hadvance := advance names h
    unfold Place.follow
    generalize p.advance names = r at hadvance
    generalize q.advance names = r' at hadvance
    cases hadvance with
    | error fault => exact .error fault
    | ok hr =>
      cases hr with
      | place hpq => exact .ok hpq
      | link hdir target left =>
        show Agree _ (Place.follow links _ _) (Place.follow links _ _)
        split
        · exact follow links _ hdir.top
        · exact follow links _ hdir

/-- **A path leads to the same place whatever the order of entries.** -/
theorem resolve (h : p.Reordered q) (path : String) :
    Agree Place.Reordered (p.resolve path) (q.resolve path) := by
  unfold Place.resolve
  split
  · exact follow _ _ h.top
  · exact follow _ _ h

theorem isFile_eq (h : p.Reordered q) (path : String) : p.isFile path = q.isFile path := by
  have hresolve := h.resolve path
  unfold Place.isFile
  generalize p.resolve path = r at hresolve
  generalize q.resolve path = r' at hresolve
  cases hresolve with
  | error fault => rfl
  | ok hpq =>
    have hentry := hpq.entry
    dsimp only
    rename_i a b
    generalize a.entry = x at hentry
    generalize b.entry = y at hentry
    cases hentry <;> rfl

end Place.Reordered

end AbcMetric
