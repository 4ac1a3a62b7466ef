import AbcMetric.Proofs.Sorting
import AbcMetric.Proofs.Summaries
import Mathlib.Logic.Function.Iterate

/-!
# Reports stay true when they are sorted

A report is summed up once, before it is sorted. Sorting puts the results in another order and
leaves the summary alone, so the summary has to hold of every order.

* `Report.Holds`: the report is about the given results, and its summary is theirs in the order in
  which they stand. One sort keeps it (`Report.Holds.sort`), and so does any number of sorts.
* `Report.Ranked`: highest magnitude first, and results of one magnitude in their old order.
* `report_ranks`: a report on results whose sums fit holds and stays so, the first sort ranks it,
  and later ones change nothing; if a sum does not fit, there is no report in any order.
-/

namespace AbcMetric

namespace Report

/-- What a report says of the results it was made of. -/
structure Holds (files : List FileResult) (r : Report) : Prop where
  /-- The results are those given, in some order. -/
  perm : r.files.Perm files
  /-- The summary is that of the results in their present order. -/
  summary : Summary.ofResults r.files = .ok r.summary
  /-- It is that of the results in every other order, too. -/
  anyOrder : ∀ others, others.Perm files → Summary.ofResults others = .ok r.summary
  /-- The summary counts every result under its outcome, and its total is the exact sum of the
  vectors, on no line. -/
  covers : r.summary.Covers r.files

/-- How a report is sorted that was made of the given results. -/
structure Ranked (files : List FileResult) (r : Report) : Prop where
  /-- No magnitude stands before a higher one. -/
  descending : r.files.Pairwise fun x y => y.tenths ≤ x.tenths
  /-- What was not analyzed ranks as zero. -/
  unanalyzed : ∀ x ∈ r.files, x.status.isAnalyzed = false → x.tenths = 0
  /-- The results of one magnitude stand in the order in which they were given. -/
  stable : ∀ m, r.files.filter (·.tenths = m) = files.filter (·.tenths = m)

variable {files : List FileResult} {r : Report}

/-! ## One sort -/

theorem descending_trans (x y z : FileResult) (hxy : decide (y.tenths ≤ x.tenths) = true)
    (hyz : decide (z.tenths ≤ y.tenths) = true) : decide (z.tenths ≤ x.tenths) = true :=
  le_key_trans FileResult.tenths z y x hyz hxy

theorem descending_total (x y : FileResult) :
    (decide (y.tenths ≤ x.tenths) || decide (x.tenths ≤ y.tenths)) = true :=
  le_key_total FileResult.tenths y x

theorem pairwise_sortByMagnitude (r : Report) :
    r.sortByMagnitude.files.Pairwise fun x y => decide (y.tenths ≤ x.tenths) = true :=
  List.pairwise_mergeSort descending_trans descending_total r.files

theorem filter_sortByMagnitude (r : Report) (m : Nat) :
    r.sortByMagnitude.files.filter (·.tenths = m) = r.files.filter (·.tenths = m) := by
  refine filter_mergeSort_of_tied descending_trans descending_total (fun x y hx hy => ?_) r.files
  have hx : x.tenths = m := of_decide_eq_true hx
  have hy : y.tenths = m := of_decide_eq_true hy
  exact decide_eq_true (Nat.le_of_eq (hy.trans hx.symm))

/-- Sorting a sorted report changes nothing. -/
theorem sortByMagnitude_sorted (r : Report) :
    r.sortByMagnitude.sortByMagnitude = r.sortByMagnitude := by
  have hfiles : r.sortByMagnitude.files.mergeSort (fun x y => y.tenths ≤ x.tenths) =
      r.sortByMagnitude.files :=
    List.mergeSort_of_pairwise (pairwise_sortByMagnitude r)
  exact congrArg (Report.mk · r.summary) hfiles

theorem tenths_of_unanalyzed {x : FileResult} (h : x.status.isAnalyzed = false) :
    x.tenths = 0 := by
  obtain ⟨path, status, listing, debug⟩ := x
  cases status with
  | analyzed v => exact absurd h (by simp [FileStatus.isAnalyzed])
  | unparseable | unreadable => rfl

/-- **A sort keeps what a report says.** -/
theorem Holds.sort (h : r.Holds files) : r.sortByMagnitude.Holds files := by
  have hperm : r.sortByMagnitude.files.Perm r.files := List.mergeSort_perm _ _
  obtain ⟨hsummary, hcovers⟩ := h.covers.ofResults_perm hperm.symm
  exact ⟨hperm.trans h.perm, hsummary, h.anyOrder, hcovers⟩

/-- **The first sort ranks a report.** -/
theorem ranked_sortByMagnitude (r : Report) : r.sortByMagnitude.Ranked r.files where
  descending := (pairwise_sortByMagnitude r).imp of_decide_eq_true
  unanalyzed _ _ := tenths_of_unanalyzed
  stable := filter_sortByMagnitude r

/-! ## Any number of sorts -/

theorem Holds.iterate (h : r.Holds files) (n : Nat) : (sortByMagnitude^[n] r).Holds files := by
  induction n with
  | zero => exact h
  | succ n ih =>
    rw [Function.iterate_succ_apply']
    exact ih.sort

theorem iterate_sortByMagnitude (r : Report) (n : Nat) :
    sortByMagnitude^[n + 1] r = r.sortByMagnitude := by
  induction n with
  | zero => rfl
  | succ n ih => rw [Function.iterate_succ_apply', ih, sortByMagnitude_sorted]

/-! ## Reports on results -/

/-- **Results whose sums fit have a report**, which holds of them. -/
theorem ofFiles_ok (hfit : ∀ k, resultSum k files < UInt32.size) :
    ∃ summary, ofFiles files = .ok ⟨files, summary⟩ ∧ Holds files ⟨files, summary⟩ := by
  obtain ⟨summary, hsummary, hcovers⟩ := Summary.ofResults_ok hfit
  refine ⟨summary, ?_, .refl files, hsummary, fun others hperm => ?_, hcovers⟩
  · rw [ofFiles, hsummary]
    rfl
  · exact (hcovers.ofResults_perm hperm.symm).1

theorem ofFiles_overflow {k : Counter} (hk : UInt32.size ≤ resultSum k files) :
    ofFiles files = .error .overflow := by
  rw [ofFiles, Summary.ofResults_overflow hk]
  rfl

end Report

open Report

/-- **A report stays true however often it is sorted.** If the sums over the results fit, there is a
report; after any number of sorts it is about the same results and its summary is theirs as they
stand. Once sorted it is ranked, and sorting again changes nothing. If a sum does not fit, there is
no report on the results in any order. -/
theorem report_ranks (files : List FileResult) :
    ((∀ k, resultSum k files < UInt32.size) →
      ∃ summary, Report.ofFiles files = .ok ⟨files, summary⟩ ∧
        ∀ n, (sortByMagnitude^[n] ⟨files, summary⟩).Holds files ∧
          (sortByMagnitude^[n + 1] ⟨files, summary⟩).Ranked files ∧
          sortByMagnitude^[n + 1] ⟨files, summary⟩ = sortByMagnitude ⟨files, summary⟩) ∧
      ((∃ k, UInt32.size ≤ resultSum k files) →
        ∀ others, others.Perm files → Report.ofFiles others = .error .overflow) := by
  constructor
  · intro hfit
    obtain ⟨summary, hreport, hholds⟩ := ofFiles_ok hfit
    refine ⟨summary, hreport, fun n => ⟨hholds.iterate n, ?_, iterate_sortByMagnitude _ n⟩⟩
    rw [iterate_sortByMagnitude]
    exact ranked_sortByMagnitude ⟨files, summary⟩
  · rintro ⟨k, hk⟩ others hperm
    exact ofFiles_overflow (Nat.le_trans hk (Nat.le_of_eq (resultSum_perm hperm.symm)))

/-- Two vectors of one magnitude, a file that cannot be read and a vector that counts nothing: the
first two keep their order behind the highest, and so do the last two. And counters that overflow in
both orders. -/
theorem report_ranks_mixed :
    let file (path : String) (v : AbcVector) : FileResult := ⟨path, .analyzed v, none, none⟩
    let lost : FileResult := ⟨"d", .unreadable "Failed to read d", none, none⟩
    let files := [file "a" (.ofCounts 1 0 0), lost, file "z" .zero, file "b" (.ofCounts 0 1 0),
      file "c" (.ofCounts 3 4 0)]
    let full := file "f" (.ofCounts 4294967295 0 0)
    (∃ summary, Report.ofFiles files = .ok ⟨files, summary⟩ ∧
      (sortByMagnitude^[3] ⟨files, summary⟩).Holds files ∧
      (sortByMagnitude^[3] ⟨files, summary⟩).Ranked files) ∧
    Report.ofFiles [full, file "a" (.ofCounts 1 0 0)] = .error .overflow ∧
    Report.ofFiles [file "a" (.ofCounts 1 0 0), full] = .error .overflow := by
  intro file lost files full
  obtain ⟨hok, -⟩ := report_ranks files
  obtain ⟨summary, hreport, hsorts⟩ := hok (by intro k; cases k <;> decide)
  obtain ⟨-, hover⟩ := report_ranks [full, file "a" (.ofCounts 1 0 0)]
  have hnone := hover ⟨.assignment, by decide⟩
  refine ⟨⟨summary, hreport, (hsorts 3).1, (hsorts 2).2.1⟩, hnone _ (.refl _), ?_⟩
  exact hnone _ (.swap _ _ _)

end AbcMetric
