import AbcMetric.Proofs.Decorations

/-!
# Folding vectors into a tally

A tally keeps the same contributions twice: summed up in the total and spelled out, line by line, in
the decorations. `Tally.Balanced t vs` is the invariant that ties both to the vectors `vs` absorbed
so far. One step keeps it or overflows (`absorb_ok`, `absorb_overflow`), and so does a run
(`absorbAll_ok`, `absorbAll_overflow`).

* `AbcVector.placedSum` and `AbcVector.lineSum` are the exact sums of one counter over the vectors
  that are on a line, and over those on a given line.
* `Tally.Accounts` says what a balanced tally shows once its letters are sorted.
* `absorbAll_accounts`: absorbing overflows iff an exact sum does not fit, every prefix of a run that
  does not overflow is accounted for, and neither depends on the order of the vectors.
-/

namespace AbcMetric

/-! ## Exact sums -/

namespace AbcVector

/-- The sum of a counter over the vectors that pass a test. -/
def sumWhere (p : AbcVector → Bool) (k : Counter) (vs : List AbcVector) : Nat :=
  ((vs.filter p).map (·.count k)).sum

/-- The sum of a counter over the vectors that are on a line. -/
def placedSum (k : Counter) (vs : List AbcVector) : Nat := sumWhere (·.line.isSome) k vs

/-- The sum of a counter over the vectors on one line. -/
def lineSum (k : Counter) (l : Nat) (vs : List AbcVector) : Nat := sumWhere (·.line = some l) k vs

variable {p : AbcVector → Bool} {k : Counter} {v : AbcVector} {vs ws : List AbcVector}

theorem sumWhere_append : sumWhere p k (vs ++ ws) = sumWhere p k vs + sumWhere p k ws := by
  simp [sumWhere]

theorem sumWhere_singleton : sumWhere p k [v] = if p v then v.count k else 0 := by
  unfold sumWhere
  by_cases h : p v = true
  · simp [h]
  · simp [h]

theorem sumWhere_perm (h : vs.Perm ws) : sumWhere p k vs = sumWhere p k ws :=
  ((h.filter p).map _).sum_nat

theorem placedSum_of_line {l : Nat} (h : v.line = some l) :
    placedSum k (vs ++ [v]) = placedSum k vs + v.count k := by
  rw [placedSum, sumWhere_append, sumWhere_singleton, h]
  rfl

theorem placedSum_of_no_line (h : v.line = none) : placedSum k (vs ++ [v]) = placedSum k vs := by
  rw [placedSum, sumWhere_append, sumWhere_singleton, h]
  rfl

theorem lineSum_of_line {l : Nat} (h : v.line = some l) (m : Nat) :
    lineSum k m (vs ++ [v]) = lineSum k m vs + if m = l then v.count k else 0 := by
  unfold lineSum
  rw [sumWhere_append, sumWhere_singleton, h]
  simp [eq_comm]

theorem lineSum_of_no_line (h : v.line = none) (m : Nat) :
    lineSum k m (vs ++ [v]) = lineSum k m vs := by
  unfold lineSum
  rw [sumWhere_append, sumWhere_singleton, h]
  simp

end AbcVector

open AbcVector

/-! ## The invariant -/

namespace Tally

/-- The total and the decorations both account for the vectors `vs`. -/
structure Balanced (t : Tally) (vs : List AbcVector) : Prop where
  line : t.total.line = none
  origin : t.total.origin = none
  count : ∀ k, t.total.count k = placedSum k vs
  descending : t.decorations.Descending
  lines : ∀ l, l ∈ t.decorations.lines ↔ ∃ v ∈ vs, v.line = some l
  text : ∀ l, (t.decorations.textAt l).toList.Perm (letterRun fun k => lineSum k l vs)
  letters : ∀ k, t.decorations.letterCount k.letter = t.total.count k

theorem balanced_empty : empty.Balanced [] where
  line := rfl
  origin := rfl
  count k := count_zero k
  descending := List.Pairwise.nil
  lines l := by simp [empty, Decorations.lines]
  text l := by simp [empty, Decorations.textAt, lineSum, sumWhere, letterRun]
  letters k := (count_zero k).symm

variable {t : Tally} {v : AbcVector} {done vs : List AbcVector} {k : Counter}

/-- A vector on no line changes nothing. -/
theorem Balanced.skip (hb : t.Balanced done) (hv : v.line = none) : t.Balanced (done ++ [v]) where
  line := hb.line
  origin := hb.origin
  count k := by rw [placedSum_of_no_line hv, hb.count]
  descending := hb.descending
  lines l := by
    rw [hb.lines]
    simp [hv]
  text l := by
    simp only [lineSum_of_no_line hv]
    exact hb.text l
  letters := hb.letters

/-- The balance after a vector on a line has been added to the total and to the decorations. -/
theorem Balanced.add {l : Nat} {total : AbcVector} (hb : t.Balanced done) (hv : v.line = some l)
    (hcount : ∀ k, total.count k = t.total.count k + v.count k) (hline : total.line = t.total.line)
    (horigin : total.origin = none) :
    Balanced ⟨total, t.decorations.append l (String.ofList (letterRun v.count))⟩ (done ++ [v]) where
  line := hline.trans hb.line
  origin := horigin
  count k := by rw [hcount, hb.count, placedSum_of_line hv]
  descending := Decorations.descending_append _ _ hb.descending
  lines m := by
    rw [Decorations.mem_lines_append, hb.lines]
    simp only [List.mem_append, List.mem_singleton, or_and_right, exists_or, exists_eq_left, hv,
      Option.some.injEq]
    rw [or_comm, eq_comm]
  text m := by
    rw [Decorations.textAt_append _ _ hb.descending]
    simp only [lineSum_of_line hv]
    by_cases hm : m = l
    · subst hm
      simp only [if_true, String.toList_append, String.toList_ofList]
      exact ((hb.text m).append_right _).trans (letterRun_add_perm _ _)
    · simp only [if_neg hm, Nat.add_zero]
      exact hb.text m
  letters k := by
    rw [Decorations.letterCount_append, hb.letters, hcount, String.toList_ofList, count_letterRun]

/-! ## One step -/

theorem absorb_of_no_line (hv : v.line = none) : t.absorb v = .ok t := by
  rw [absorb, hv]

theorem absorb_of_line {l : Nat} (hv : v.line = some l) :
    t.absorb v = do
      let total ← t.total.add v
      let letters ← v.letters
      return ⟨total, t.decorations.append l letters⟩ := by
  rw [absorb, hv]

/-- **A vector that fits is absorbed**, and the tally stays balanced. -/
theorem absorb_ok (hb : t.Balanced done) (hs : v.size < UInt32.size)
    (hfit : ∀ k, placedSum k (done ++ [v]) < UInt32.size) :
    ∃ t', t.absorb v = .ok t' ∧ t'.Balanced (done ++ [v]) := by
  cases hv : v.line with
  | none => exact ⟨t, absorb_of_no_line hv, hb.skip hv⟩
  | some l =>
    have hadd : ∀ k, t.total.count k + v.count k < UInt32.size := by
      intro k
      rw [hb.count, ← placedSum_of_line hv]
      exact hfit k
    obtain ⟨total, hsum, hcount, hline, horigin⟩ := add_ok hadd
    refine ⟨_, ?_, hb.add hv hcount hline horigin⟩
    rw [absorb_of_line hv, hsum, letters_ok hs]
    rfl

/-- **A vector that does not fit overflows.** -/
theorem absorb_overflow (hb : t.Balanced done)
    (h : UInt32.size ≤ placedSum k (done ++ [v])) : t.absorb v = .error .overflow := by
  cases hv : v.line with
  | none =>
    rw [placedSum_of_no_line hv, ← hb.count] at h
    exact absurd (count_lt t.total k) (Nat.not_lt.mpr h)
  | some l =>
    rw [placedSum_of_line hv, ← hb.count] at h
    rw [absorb_of_line hv, add_overflow h]
    rfl

/-! ## A whole run -/

theorem absorbAll_cons (t : Tally) (v : AbcVector) (vs : List AbcVector) :
    t.absorbAll (v :: vs) = t.absorb v >>= fun t' => t'.absorbAll vs := rfl

/-- **A run of vectors that fit is absorbed**, and the tally is balanced at its end. -/
theorem absorbAll_ok (hb : t.Balanced done) (hs : ∀ v ∈ vs, v.size < UInt32.size)
    (hfit : ∀ k, placedSum k (done ++ vs) < UInt32.size) :
    ∃ t', t.absorbAll vs = .ok t' ∧ t'.Balanced (done ++ vs) := by
  induction vs generalizing t done with
  | nil =>
    rw [List.append_nil]
    exact ⟨t, rfl, hb⟩
  | cons v vs ih =>
    rw [List.append_cons] at hfit ⊢
    have hv : ∀ k, placedSum k (done ++ [v]) < UInt32.size := by
      intro k
      have := hfit k
      rw [placedSum, sumWhere_append] at this
      exact Nat.lt_of_le_of_lt (Nat.le_add_right _ _) this
    obtain ⟨t₁, hstep, hb₁⟩ := absorb_ok hb (hs v List.mem_cons_self) hv
    obtain ⟨t', hrun, hb'⟩ := ih hb₁ (fun w hw => hs w (List.mem_cons_of_mem v hw)) hfit
    refine ⟨t', ?_, hb'⟩
    rw [absorbAll_cons, hstep]
    exact hrun

/-- **A run in which a sum does not fit overflows.** -/
theorem absorbAll_overflow (hb : t.Balanced done) (hs : ∀ v ∈ vs, v.size < UInt32.size)
    (h : UInt32.size ≤ placedSum k (done ++ vs)) : t.absorbAll vs = .error .overflow := by
  induction vs generalizing t done with
  | nil =>
    rw [List.append_nil, ← hb.count] at h
    exact absurd (count_lt t.total k) (Nat.not_lt.mpr h)
  | cons v vs ih =>
    rw [List.append_cons] at h
    rw [absorbAll_cons]
    by_cases hv : ∀ k, placedSum k (done ++ [v]) < UInt32.size
    · obtain ⟨t₁, hstep, hb₁⟩ := absorb_ok hb (hs v List.mem_cons_self) hv
      rw [hstep]
      exact ih hb₁ (fun w hw => hs w (List.mem_cons_of_mem v hw)) h
    · obtain ⟨k', hk'⟩ := Classical.not_forall.mp hv
      rw [absorb_overflow hb (Nat.not_lt.mp hk')]
      rfl

/-! ## What a balanced tally shows -/

/-- The letters of the vectors on one line: the assignments, the branches, the conditions. -/
def lettersAt (l : Nat) (vs : List AbcVector) : String :=
  String.ofList (letterRun fun k => lineSum k l vs)

/-- What a tally shows of the vectors `vs`: a bare total with their exact sums, a text for every
line that one of them is on and for no other, the sorted letters of each line, and in all texts
together as many letters as the total counts. -/
structure Accounts (t : Tally) (vs : List AbcVector) : Prop where
  line : t.total.line = none
  origin : t.total.origin = none
  count : ∀ k, t.total.count k = placedSum k vs
  lines : ∀ l, l ∈ t.decorations.lines ↔ ∃ v ∈ vs, v.line = some l
  ascending : t.sorted.lines.Pairwise (· < ·)
  entries : ∀ l s, (l, s) ∈ t.sorted ↔ (∃ v ∈ vs, v.line = some l) ∧ s = lettersAt l vs
  letters : ∀ k, t.sorted.letterCount k.letter = t.total.count k

theorem lines_sorted (t : Tally) : t.sorted.lines = t.decorations.lines.reverse := by
  simp [sorted, unsorted, Decorations.lines]

theorem mem_sorted {l : Nat} {s : String} :
    (l, s) ∈ t.sorted ↔ ∃ raw, (l, raw) ∈ t.decorations ∧ s = sortLetters raw := by
  simp only [sorted, unsorted, List.mem_map, List.mem_reverse, Prod.mk.injEq, Prod.exists]
  constructor
  · rintro ⟨m, raw, hmem, rfl, rfl⟩
    exact ⟨raw, hmem, rfl⟩
  · rintro ⟨raw, hmem, rfl⟩
    exact ⟨l, raw, hmem, rfl, rfl⟩

theorem letterCount_sorted (t : Tally) (c : Char) :
    t.sorted.letterCount c = t.decorations.letterCount c := by
  simp only [Decorations.letterCount, sorted, unsorted, List.map_map, List.map_reverse,
    List.sum_reverse]
  congr 2
  funext entry
  exact (sortLetters_perm entry.2).count_eq c

/-- **A balanced tally shows what it has absorbed.** -/
theorem Balanced.accounts (hb : t.Balanced vs) : t.Accounts vs where
  line := hb.line
  origin := hb.origin
  count := hb.count
  lines := hb.lines
  ascending := by
    rw [lines_sorted, List.pairwise_reverse]
    exact hb.descending
  entries l s := by
    rw [mem_sorted, ← hb.lines, Decorations.mem_lines]
    -- the raw letters of a line are its run in some order
    have hsort : ∀ raw, (l, raw) ∈ t.decorations → sortLetters raw = lettersAt l vs := by
      intro raw hmem
      apply sortLetters_eq
      rw [← Decorations.textAt_of_mem hb.descending.nodup hmem]
      exact hb.text l
    constructor
    · rintro ⟨raw, hmem, rfl⟩
      exact ⟨⟨raw, hmem⟩, hsort raw hmem⟩
    · rintro ⟨⟨raw, hmem⟩, rfl⟩
      exact ⟨raw, hmem, (hsort raw hmem).symm⟩
  letters k := by rw [letterCount_sorted, hb.letters]

/-! ## Order does not matter -/

/-- Decorations by ascending line are determined by their entries. -/
theorem eq_of_ascending {ds es : Decorations} (hd : ds.lines.Pairwise (· < ·))
    (he : es.lines.Pairwise (· < ·)) (h : ∀ l s, (l, s) ∈ ds ↔ (l, s) ∈ es) : ds = es := by
  have hd' : ds.Pairwise fun a b => a.1 < b.1 := List.pairwise_map.mp hd
  have he' : es.Pairwise fun a b => a.1 < b.1 := List.pairwise_map.mp he
  refine List.Perm.eq_of_pairwise (fun a b _ _ hab hba => ?_) hd' he' ?_
  · exact absurd hab (Nat.lt_asymm hba)
  · refine (List.perm_ext_iff_of_nodup ?_ ?_).mpr fun ⟨l, s⟩ => h l s
    · exact hd'.imp fun hlt heq => Nat.ne_of_lt hlt (congrArg Prod.fst heq)
    · exact he'.imp fun hlt heq => Nat.ne_of_lt hlt (congrArg Prod.fst heq)

/-- Tallies of the same vectors in another order show the same. -/
theorem Accounts.eq_of_perm {u : Tally} {ws : List AbcVector} (ht : t.Accounts vs)
    (hu : u.Accounts ws) (h : vs.Perm ws) : t.total = u.total ∧ t.sorted = u.sorted := by
  constructor
  · apply ext_count
    · intro k
      rw [ht.count, hu.count]
      exact sumWhere_perm h
    · rw [ht.line, hu.line]
    · rw [ht.origin, hu.origin]
  · refine eq_of_ascending ht.ascending hu.ascending fun l s => ?_
    have htext : lettersAt l vs = lettersAt l ws := by
      unfold lettersAt lineSum
      simp only [sumWhere_perm h]
    rw [ht.entries, hu.entries, htext]
    simp only [h.mem_iff]

/-- What is shown of a tally: its total and its sorted decorations. -/
def shown (t : Tally) : AbcVector × Decorations := (t.total, t.sorted)

/-! ## Runs from the empty tally -/

theorem absorbAll_empty_ok (hs : ∀ v ∈ vs, v.size < UInt32.size)
    (hfit : ∀ k, placedSum k vs < UInt32.size) :
    ∃ t, empty.absorbAll vs = .ok t ∧ t.Accounts vs := by
  obtain ⟨t, hrun, hb⟩ := absorbAll_ok balanced_empty hs (by simpa using hfit)
  exact ⟨t, hrun, Balanced.accounts (by simpa using hb)⟩

theorem absorbAll_empty_overflow (hs : ∀ v ∈ vs, v.size < UInt32.size)
    (h : UInt32.size ≤ placedSum k vs) : empty.absorbAll vs = .error .overflow :=
  absorbAll_overflow balanced_empty hs (by simpa using h)

/-- **Absorbing overflows iff the exact sum of some counter does not fit.** -/
theorem absorbAll_empty_overflow_iff (hs : ∀ v ∈ vs, v.size < UInt32.size) :
    empty.absorbAll vs = .error .overflow ↔ ∃ k, UInt32.size ≤ placedSum k vs := by
  constructor
  · intro h
    by_cases hfit : ∀ k, placedSum k vs < UInt32.size
    · obtain ⟨t, hrun, -⟩ := absorbAll_empty_ok hs hfit
      exact absurd (h.symm.trans hrun) (by simp)
    · obtain ⟨k, hk⟩ := Classical.not_forall.mp hfit
      exact ⟨k, Nat.not_lt.mp hk⟩
  · rintro ⟨k, hk⟩
    exact absorbAll_empty_overflow hs hk

theorem placedSum_take_le (k : Counter) (vs : List AbcVector) (n : Nat) :
    placedSum k (vs.take n) ≤ placedSum k vs := by
  have h : placedSum k vs = placedSum k (vs.take n) + placedSum k (vs.drop n) := by
    unfold placedSum
    rw [← sumWhere_append, List.take_append_drop]
  omega

/-- **Runs over the same vectors in another order show the same**, or both overflow. -/
theorem shown_absorbAll_perm {ws : List AbcVector} (hs : ∀ v ∈ vs, v.size < UInt32.size)
    (h : vs.Perm ws) :
    (empty.absorbAll ws).map shown = (empty.absorbAll vs).map shown := by
  have hs' : ∀ v ∈ ws, v.size < UInt32.size := fun v hv => hs v (h.mem_iff.mpr hv)
  by_cases hfit : ∀ k, placedSum k vs < UInt32.size
  · have hfit' : ∀ k, placedSum k ws < UInt32.size := by
      intro k
      have := hfit k
      rwa [placedSum, sumWhere_perm h] at this
    obtain ⟨t, hrun, ha⟩ := absorbAll_empty_ok hs hfit
    obtain ⟨u, hrun', ha'⟩ := absorbAll_empty_ok hs' hfit'
    obtain ⟨htotal, hsorted⟩ := ha.eq_of_perm ha' h
    rw [hrun, hrun']
    simp only [Except.map, shown, htotal, hsorted]
  · obtain ⟨k, hk⟩ := Classical.not_forall.mp hfit
    have hk' : UInt32.size ≤ placedSum k ws := by
      rw [placedSum, ← sumWhere_perm h]
      exact Nat.not_lt.mp hk
    rw [absorbAll_empty_overflow hs (Nat.not_lt.mp hk), absorbAll_empty_overflow hs' hk']

end Tally

open Tally

/-- **A tally accounts for all it has absorbed.** For vectors whose letters can be written, absorbing
overflows iff the exact sum of a counter over the vectors on a line does not fit. Otherwise every
prefix is accounted for: exact total, lines and letters of each line. Any other order of the vectors
shows the same, or overflows as well. -/
theorem absorbAll_accounts (vs : List AbcVector) (hs : ∀ v ∈ vs, v.size < UInt32.size) :
    (Tally.empty.absorbAll vs = .error .overflow ↔ ∃ k, UInt32.size ≤ placedSum k vs) ∧
      ((∀ k, placedSum k vs < UInt32.size) →
        ∀ n, ∃ t, Tally.empty.absorbAll (vs.take n) = .ok t ∧ t.Accounts (vs.take n)) ∧
      ∀ ws, vs.Perm ws →
        (Tally.empty.absorbAll ws).map shown = (Tally.empty.absorbAll vs).map shown := by
  refine ⟨absorbAll_empty_overflow_iff hs, fun hfit n => ?_, fun ws h => shown_absorbAll_perm hs h⟩
  refine absorbAll_empty_ok (fun v hv => hs v (List.mem_of_mem_take hv)) fun k => ?_
  exact Nat.lt_of_le_of_lt (placedSum_take_le k vs n) (hfit k)

/-- A line hit twice, a line hit by nothing, and a vector on no line. -/
theorem absorbAll_accounts_mixed :
    ∃ t, Tally.empty.absorbAll
        [⟨2, 0, 1, some 3, none⟩, ⟨0, 0, 0, some 1, none⟩, ⟨5, 5, 5, none, none⟩,
          ⟨0, 1, 0, some 3, none⟩] = .ok t ∧
      t.total = ⟨2, 1, 1, none, none⟩ ∧ (3, "aabc") ∈ t.sorted ∧ (1, "") ∈ t.sorted := by
  obtain ⟨-, hok, -⟩ := absorbAll_accounts
    [⟨2, 0, 1, some 3, none⟩, ⟨0, 0, 0, some 1, none⟩, ⟨5, 5, 5, none, none⟩,
      ⟨0, 1, 0, some 3, none⟩] (by decide)
  obtain ⟨t, hrun, ha⟩ := hok (by intro k; cases k <;> decide) 4
  refine ⟨t, hrun, ext_count ?_ ha.line ha.origin, ?_, ?_⟩
  · intro k
    rw [ha.count]
    cases k <;> rfl
  · exact (ha.entries 3 "aabc").mpr ⟨⟨_, List.mem_cons_self, rfl⟩, by decide⟩
  · exact (ha.entries 1 "").mpr ⟨⟨_, List.mem_cons_of_mem _ List.mem_cons_self, rfl⟩, by decide⟩

end AbcMetric
