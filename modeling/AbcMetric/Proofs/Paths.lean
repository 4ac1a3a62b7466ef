import AbcMetric.Files.Path

/-!
# Names and the paths made of them

A name of an entry is not empty and has no slash. A path made of such names can be taken apart
again, so different names make different paths.

* `Path.names_relative`: the names between the slashes of a path are those it was made of.
  `Path.names_append_slash`: a slash divides the names of any path.
* `Path.below_inj`: two lists of names lead from a directory to different paths.
* `Path.hasExtension_iff`: what it takes to have an extension.
-/

namespace AbcMetric

namespace Path

/-- A name that an entry can have. -/
structure IsName (name : String) : Prop where
  ne_empty : name ≠ ""
  no_slash : '/' ∉ name.toList

/-! ## Taking paths apart -/

theorem cutAt_slash (names : List (List Char)) : cutAt '/' names = [] :: names := rfl

theorem cutAt_other {c : Char} (h : c ≠ '/') (first : List Char) (rest : List (List Char)) :
    cutAt c (first :: rest) = (c :: first) :: rest := by
  rw [cutAt, if_neg h]

/-- Characters other than slashes join the first name. -/
theorem foldr_cutAt {name : List Char} (h : '/' ∉ name) (first : List Char)
    (rest : List (List Char)) : name.foldr cutAt (first :: rest) = (name ++ first) :: rest := by
  induction name with
  | nil => rfl
  | cons c name ih =>
    obtain ⟨hc, hname⟩ := not_or.mp (mt List.mem_cons.mpr h)
    rw [List.foldr_cons, ih hname, cutAt_other (Ne.symm hc), List.cons_append]

theorem foldr_cutAt_ne_nil (path : List Char) : path.foldr cutAt [[]] ≠ [] := by
  cases path with
  | nil => simp
  | cons c path =>
    rw [List.foldr_cons]
    unfold cutAt
    split
    · simp
    · split <;> simp

/-- A slash ends the names of what is before it. -/
theorem foldr_cutAt_append (path : List Char) (names : List (List Char)) :
    path.foldr cutAt ([] :: names) = path.foldr cutAt [[]] ++ names := by
  induction path with
  | nil => rfl
  | cons c path ih =>
    rw [List.foldr_cons, List.foldr_cons, ih]
    obtain ⟨first, rest, hcut⟩ := List.exists_cons_of_ne_nil (foldr_cutAt_ne_nil path)
    rw [hcut, List.cons_append, cutAt, cutAt]
    split <;> rfl

theorem names_ne_nil (path : String) : names path ≠ [] :=
  mt List.map_eq_nil_iff.mp (foldr_cutAt_ne_nil path.toList)

theorem names_of_no_slash {name : String} (h : '/' ∉ name.toList) : names name = [name] := by
  unfold names
  rw [foldr_cutAt h, List.append_nil, List.map_singleton, String.ofList_toList]

/-- **A slash divides the names before it from those behind it.** -/
theorem names_append_slash (path rest : String) :
    names (path ++ "/" ++ rest) = names path ++ names rest := by
  unfold names
  rw [String.toList_append, String.toList_append, List.append_assoc,
    show "/".toList = ['/'] from rfl, List.singleton_append, List.foldr_append, List.foldr_cons,
    cutAt_slash, foldr_cutAt_append, List.map_append]

theorem relative_cons (name next : String) (rest : List String) :
    relative (name :: next :: rest) = name ++ "/" ++ relative (next :: rest) :=
  String.intercalate_cons_cons

/-- **A path of names is cut into these names.** -/
theorem names_relative {name : String} {rest : List String} (h : ∀ n ∈ name :: rest, IsName n) :
    names (relative (name :: rest)) = name :: rest := by
  induction rest generalizing name with
  | nil => exact names_of_no_slash (h name List.mem_cons_self).no_slash
  | cons next rest ih =>
    obtain ⟨hname, hrest⟩ := List.forall_mem_cons.mp h
    rw [relative_cons, names_append_slash, names_of_no_slash hname.no_slash, ih hrest,
      List.singleton_append]

/-- Different names make different relative paths. -/
theorem relative_inj {ns ms : List String} (hn : ns ≠ []) (hm : ms ≠ [])
    (hns : ∀ n ∈ ns, IsName n) (hms : ∀ m ∈ ms, IsName m) (h : relative ns = relative ms) :
    ns = ms := by
  obtain ⟨n, ns, rfl⟩ := List.exists_cons_of_ne_nil hn
  obtain ⟨m, ms, rfl⟩ := List.exists_cons_of_ne_nil hm
  rw [← names_relative hns, h, names_relative hms]

/-! ## Paths below a directory -/

/-- What stands before the names below a directory. -/
def lead (dir : String) : String :=
  if dir.isEmpty || dir.toList.getLast? = some '/' then dir else dir ++ "/"

theorem join_eq (dir name : String) : join dir name = lead dir ++ name := by
  unfold join lead
  split <;> rfl

/-- The path of a named entry is followed by a slash. -/
theorem lead_join {dir name : String} (h : IsName name) :
    lead (join dir name) = join dir name ++ "/" := by
  have hlist : name.toList ≠ [] := fun hnil => h.ne_empty (String.toList_inj.mp hnil)
  have hlast : (join dir name).toList.getLast? = name.toList.getLast? := by
    rw [join_eq, String.toList_append, List.getLast?_append]
    rw [List.getLast?_eq_some_getLast hlist]
    rfl
  have hempty : (join dir name).isEmpty = false := by
    rw [Bool.eq_false_iff, ne_eq, String.isEmpty_iff, join_eq]
    intro heq
    exact h.ne_empty (String.append_eq_empty_iff.mp heq).2
  have hslash : name.toList.getLast? ≠ some '/' := fun heq =>
    h.no_slash (List.mem_of_getLast? heq)
  rw [lead, hempty, hlast, if_neg (by simpa using hslash)]

/-- Names lead to their relative path behind the directory. -/
theorem below_eq {name : String} {rest : List String} (h : ∀ n ∈ name :: rest, IsName n)
    (dir : String) : below dir (name :: rest) = lead dir ++ relative (name :: rest) := by
  induction rest generalizing name dir with
  | nil => exact join_eq dir name
  | cons next rest ih =>
    obtain ⟨hname, hrest⟩ := List.forall_mem_cons.mp h
    show below (join dir name) (next :: rest) = _
    rw [ih hrest, lead_join hname, join_eq, relative_cons, String.append_assoc,
      String.append_assoc, String.append_assoc]

/-- **Different names lead to different paths.** -/
theorem below_inj {dir : String} {ns ms : List String} (hn : ns ≠ []) (hm : ms ≠ [])
    (hns : ∀ n ∈ ns, IsName n) (hms : ∀ m ∈ ms, IsName m) (h : below dir ns = below dir ms) :
    ns = ms := by
  obtain ⟨n, ns, rfl⟩ := List.exists_cons_of_ne_nil hn
  obtain ⟨m, ms, rfl⟩ := List.exists_cons_of_ne_nil hm
  rw [below_eq hns, below_eq hms, String.append_right_inj] at h
  exact relative_inj hn hm hns hms h

/-! ## Extensions -/

/-- **A name has an extension** if something and a dot stand before it. -/
theorem hasExtension_iff {extension name : String} :
    hasExtension extension name = true ↔
      ∃ stem, stem ≠ "" ∧ name = stem ++ "." ++ extension := by
  unfold hasExtension
  rw [Bool.and_eq_true, List.isSuffixOf_iff_suffix, decide_eq_true_eq]
  constructor
  · rintro ⟨⟨stem, hstem⟩, hne⟩
    refine ⟨String.ofList stem, ?_, ?_⟩
    · intro hempty
      have hnil : stem = [] := by simpa using congrArg String.toList hempty
      rw [hnil] at hstem
      exact hne hstem
    · apply String.toList_inj.mp
      rw [String.toList_append, String.toList_append, String.toList_ofList, List.append_assoc]
      exact hstem.symm
  · rintro ⟨stem, hstem, rfl⟩
    rw [String.toList_append, String.toList_append, List.append_assoc]
    refine ⟨List.suffix_append _ _, fun heq => hstem ?_⟩
    have hlength := congrArg List.length heq
    rw [List.length_append] at hlength
    have hnil : stem.toList.length = 0 := by
      have : ('.' :: extension.toList).length = (".".toList ++ extension.toList).length := rfl
      omega
    exact String.toList_inj.mp (List.eq_nil_of_length_eq_zero hnil)

end Path

end AbcMetric
