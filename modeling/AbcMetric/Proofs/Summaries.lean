import AbcMetric.Proofs.Counters
import AbcMetric.Report
import Mathlib.Algebra.GroupWithZero.Nat

/-!
# Summaries

A summary is a fold over the results of a run. `Summary.Covers s rs` is the invariant that ties it
to the results `rs` counted so far. One step keeps it or overflows (`count_ok`, `count_overflow`),
and so does a fold over all results (`ofResults_ok`, `ofResults_overflow`).

* `resultSum` is the exact sum of one counter over the results that were analyzed.
* `Summary.Covers.eq_of_perm`: a summary does not depend on the order of the results.
-/

namespace AbcMetric

namespace FileStatus

/-- The file was analyzed. -/
def isAnalyzed : FileStatus → Bool
  | .analyzed _ => true
  | _ => false

/-- The file could not be parsed. -/
def isUnparseable : FileStatus → Bool
  | .unparseable _ => true
  | _ => false

/-- The file could not be read. -/
def isUnreadable : FileStatus → Bool
  | .unreadable _ => true
  | _ => false

end FileStatus

/-- What an entry adds to a counter. -/
def FileResult.counted (k : Counter) (r : FileResult) : Nat :=
  (r.vector?.map (·.count k)).getD 0

/-- The exact sum of a counter over the results that were analyzed. -/
def resultSum (k : Counter) (rs : List FileResult) : Nat := (rs.map (FileResult.counted k)).sum

theorem resultSum_append (k : Counter) (rs ss : List FileResult) :
    resultSum k (rs ++ ss) = resultSum k rs + resultSum k ss := by
  simp [resultSum]

theorem resultSum_singleton (k : Counter) (r : FileResult) : resultSum k [r] = r.counted k := by
  simp [resultSum]

theorem resultSum_perm {k : Counter} {rs ss : List FileResult} (h : rs.Perm ss) :
    resultSum k rs = resultSum k ss :=
  (h.map _).sum_nat

namespace Summary

/-! ## The invariant -/

/-- The summary counts the results `rs`, by their outcome, and sums up their vectors on no line. -/
structure Covers (s : Summary) (rs : List FileResult) : Prop where
  files : s.files = rs.length
  split : s.files = s.analyzed + s.unparseable + s.unreadable
  analyzed : s.analyzed = rs.countP (·.status.isAnalyzed)
  unparseable : s.unparseable = rs.countP (·.status.isUnparseable)
  unreadable : s.unreadable = rs.countP (·.status.isUnreadable)
  count : ∀ k, s.total.count k = resultSum k rs
  line : s.total.line = none
  origin : s.total.origin = none

theorem covers_empty : empty.Covers [] where
  files := rfl
  split := rfl
  analyzed := rfl
  unparseable := rfl
  unreadable := rfl
  count k := AbcVector.count_zero k
  line := rfl
  origin := rfl

variable {s : Summary} {r : FileResult} {done rs : List FileResult} {k : Counter}

/-! ## One step -/

/-- The summary after one more result: it is counted under its outcome, and its vector is added. -/
theorem Covers.step {s' : Summary} (h : s.Covers done) (hfiles : s'.files = s.files + 1)
    (hanalyzed : s'.analyzed = s.analyzed + r.status.isAnalyzed.toNat)
    (hunparseable : s'.unparseable = s.unparseable + r.status.isUnparseable.toNat)
    (hunreadable : s'.unreadable = s.unreadable + r.status.isUnreadable.toNat)
    (hcount : ∀ k, s'.total.count k = s.total.count k + r.counted k)
    (hline : s'.total.line = s.total.line) (horigin : s'.total.origin = none) :
    s'.Covers (done ++ [r]) where
  files := by simp [hfiles, h.files]
  split := by
    -- every outcome is one of the three
    have hone : r.status.isAnalyzed.toNat + r.status.isUnparseable.toNat +
        r.status.isUnreadable.toNat = 1 := by
      cases r.status <;> rfl
    have := h.split
    omega
  analyzed := by
    rw [hanalyzed, h.analyzed, List.countP_append, List.countP_singleton]
    cases r.status.isAnalyzed <;> rfl
  unparseable := by
    rw [hunparseable, h.unparseable, List.countP_append, List.countP_singleton]
    cases r.status.isUnparseable <;> rfl
  unreadable := by
    rw [hunreadable, h.unreadable, List.countP_append, List.countP_singleton]
    cases r.status.isUnreadable <;> rfl
  count k := by rw [hcount, h.count, resultSum_append, resultSum_singleton]
  line := hline.trans h.line
  origin := horigin

/-- **A result whose vector fits is counted**, and the summary covers it. -/
theorem count_ok (h : s.Covers done) (hfit : ∀ k, resultSum k (done ++ [r]) < UInt32.size) :
    ∃ s', s.count r = .ok s' ∧ s'.Covers (done ++ [r]) := by
  obtain ⟨path, status, listing, debug⟩ := r
  cases status with
  | analyzed v =>
    have hadd : ∀ k, s.total.count k + v.count k < UInt32.size := by
      intro k
      have := hfit k
      rwa [resultSum_append, resultSum_singleton, ← h.count] at this
    obtain ⟨total, hsum, hcount, hline, horigin⟩ := AbcVector.add_ok hadd
    refine ⟨{ s with files := s.files + 1, analyzed := s.analyzed + 1, total := total }, ?_,
      h.step rfl rfl rfl rfl hcount hline horigin⟩
    unfold Summary.count
    dsimp only
    rw [hsum]
    rfl
  | unparseable reason => exact ⟨_, rfl, h.step rfl rfl rfl rfl (fun _ => rfl) rfl h.origin⟩
  | unreadable reason => exact ⟨_, rfl, h.step rfl rfl rfl rfl (fun _ => rfl) rfl h.origin⟩

/-- **A result whose vector does not fit overflows.** -/
theorem count_overflow (h : s.Covers done) (hk : UInt32.size ≤ resultSum k (done ++ [r])) :
    s.count r = .error .overflow := by
  rw [resultSum_append, resultSum_singleton, ← h.count] at hk
  obtain ⟨path, status, listing, debug⟩ := r
  cases status with
  | analyzed v =>
    unfold Summary.count
    dsimp only
    rw [AbcVector.add_overflow hk]
    rfl
  | unparseable | unreadable => exact absurd (AbcVector.count_lt s.total k) (Nat.not_lt.mpr hk)

/-! ## All results -/

theorem foldlM_ok (h : s.Covers done) (hfit : ∀ k, resultSum k (done ++ rs) < UInt32.size) :
    ∃ s', rs.foldlM count s = .ok s' ∧ s'.Covers (done ++ rs) := by
  induction rs generalizing s done with
  | nil =>
    rw [List.append_nil]
    exact ⟨s, rfl, h⟩
  | cons r rs ih =>
    rw [List.append_cons] at hfit ⊢
    have hr : ∀ k, resultSum k (done ++ [r]) < UInt32.size := by
      intro k
      have := hfit k
      rw [resultSum_append] at this
      exact Nat.lt_of_le_of_lt (Nat.le_add_right _ _) this
    obtain ⟨s₁, hstep, h₁⟩ := count_ok h hr
    obtain ⟨s', hrun, h'⟩ := ih h₁ hfit
    refine ⟨s', ?_, h'⟩
    rw [List.foldlM_cons, hstep]
    exact hrun

theorem foldlM_overflow (h : s.Covers done) (hk : UInt32.size ≤ resultSum k (done ++ rs)) :
    rs.foldlM count s = .error .overflow := by
  induction rs generalizing s done with
  | nil =>
    rw [List.append_nil, ← h.count] at hk
    exact absurd (AbcVector.count_lt s.total k) (Nat.not_lt.mpr hk)
  | cons r rs ih =>
    rw [List.append_cons] at hk
    rw [List.foldlM_cons]
    by_cases hr : ∀ k, resultSum k (done ++ [r]) < UInt32.size
    · obtain ⟨s₁, hstep, h₁⟩ := count_ok h hr
      rw [hstep]
      exact ih h₁ hk
    · obtain ⟨k', hk'⟩ := Classical.not_forall.mp hr
      rw [count_overflow h (Nat.not_lt.mp hk')]
      rfl

/-- **Results whose sums fit have a summary**, and it covers them. -/
theorem ofResults_ok (hfit : ∀ k, resultSum k rs < UInt32.size) :
    ∃ s, ofResults rs = .ok s ∧ s.Covers rs :=
  foldlM_ok covers_empty hfit

/-- **Results of which a sum does not fit have no summary.** -/
theorem ofResults_overflow (hk : UInt32.size ≤ resultSum k rs) :
    ofResults rs = .error .overflow :=
  foldlM_overflow covers_empty hk

/-- **A summary does not depend on the order of the results.** -/
theorem Covers.eq_of_perm {t : Summary} {ss : List FileResult} (hs : s.Covers rs)
    (ht : t.Covers ss) (h : rs.Perm ss) : s = t := by
  have hfiles : s.files = t.files := by rw [hs.files, ht.files, h.length_eq]
  have hanalyzed : s.analyzed = t.analyzed := by rw [hs.analyzed, ht.analyzed, h.countP_eq]
  have hunparseable : s.unparseable = t.unparseable := by
    rw [hs.unparseable, ht.unparseable, h.countP_eq]
  have hunreadable : s.unreadable = t.unreadable := by
    rw [hs.unreadable, ht.unreadable, h.countP_eq]
  have htotal : s.total = t.total := by
    refine AbcVector.ext_count (fun k => ?_) (hs.line.trans ht.line.symm)
      (hs.origin.trans ht.origin.symm)
    rw [hs.count, ht.count, resultSum_perm h]
  cases s
  cases t
  simp_all

/-- The summary of results is their summary in any other order. -/
theorem Covers.ofResults_perm {ss : List FileResult} (h : s.Covers rs) (hperm : rs.Perm ss) :
    ofResults ss = .ok s ∧ s.Covers ss := by
  obtain ⟨t, ht, hcovers⟩ : ∃ t, ofResults ss = .ok t ∧ t.Covers ss := by
    refine ofResults_ok fun k => ?_
    rw [← resultSum_perm hperm, ← h.count]
    exact AbcVector.count_lt s.total k
  obtain rfl := h.eq_of_perm hcovers hperm
  exact ⟨ht, hcovers⟩

end Summary

end AbcMetric
