import AbcMetric.Proofs.Counters
import Mathlib.Algebra.GroupWithZero.Nat

/-!
# Sums of vectors

Vectors are added up one after the other, in place, by an iterator, or two sums at a time. An
addition can overflow in any of three counters and keeps the line on its left, so the ways differ in
the steps they take. But sums only grow: a way overflows iff the exact sum of some counter does not
fit, whatever the order and the grouping.

* `AddsUp vs line outcome`: the outcome is the exact sum of `vs` on `line` if that fits, and an
  overflow otherwise. `AddsUp.plus` is one addition; chains (`AddsUp.foldlM`) and groupings
  (`Grouping.addsUp`) are built from it.
* `run_forM_accumulate`: what is left behind by adding in place.
* `sums_agree`: all ways together.
-/

namespace AbcMetric

namespace AbcVector

/-! ## Exact sums -/

/-- The exact sum of a counter. -/
def exactSum (k : Counter) (vs : List AbcVector) : Nat := (vs.map (·.count k)).sum

theorem exactSum_append (k : Counter) (vs ws : List AbcVector) :
    exactSum k (vs ++ ws) = exactSum k vs + exactSum k ws := by
  simp [exactSum]

theorem exactSum_singleton (k : Counter) (v : AbcVector) : exactSum k [v] = v.count k := by
  simp [exactSum]

theorem exactSum_perm {vs ws : List AbcVector} (h : vs.Perm ws) (k : Counter) :
    exactSum k vs = exactSum k ws :=
  (h.map _).sum_nat

/-! ## One addition -/

/-- An addition overflows, or keeps the line on the left and drops the origin. -/
theorem add_cases (v w : AbcVector) :
    v.add w = .error .overflow ∨ ∃ u, v.add w = .ok u ∧ u.line = v.line ∧ u.origin = none := by
  by_cases hfit : ∀ k, v.count k + w.count k < UInt32.size
  · obtain ⟨u, hu, -, hline, horigin⟩ := add_ok hfit
    exact Or.inr ⟨u, hu, hline, horigin⟩
  · obtain ⟨k, hk⟩ := Classical.not_forall.mp hfit
    exact Or.inl (add_overflow (Nat.not_lt.mp hk))

theorem line_origin_add {v w u : AbcVector} (h : v.add w = .ok u) :
    u.line = v.line ∧ u.origin = none := by
  rcases add_cases v w with hadd | ⟨u', hadd, hline, horigin⟩
  · exact absurd (h.symm.trans hadd) (by simp)
  · obtain rfl := Except.ok.inj (h.symm.trans hadd)
    exact ⟨hline, horigin⟩

theorem same_iff {v w : AbcVector} :
    v.same w = true ↔ v.assignment = w.assignment ∧ v.branch = w.branch ∧
      v.condition = w.condition ∧ v.line = w.line := by
  simp [same, and_assoc]

/-- **Addition does not tell apart vectors that are the same** but for their origins, on either
side. -/
theorem add_congr_same {v v' w w' : AbcVector} (hv : v.same v' = true) (hw : w.same w' = true) :
    v.add w = v'.add w' := by
  obtain ⟨ha, hb, hc, hl⟩ := same_iff.mp hv
  obtain ⟨ha', hb', hc', -⟩ := same_iff.mp hw
  unfold add
  rw [ha, hb, hc, hl, ha', hb', hc']

/-! ## Adding up -/

/-- What adding vectors up comes to: their exact sums on a line if every counter fits, an overflow
otherwise. -/
structure AddsUp (vs : List AbcVector) (line : Option Nat)
    (outcome : Except CountFault AbcVector) : Prop where
  sums : (∀ k, exactSum k vs < UInt32.size) →
    ∃ u, outcome = .ok u ∧ (∀ k, u.count k = exactSum k vs) ∧ u.line = line
  overflows : (∃ k, UInt32.size ≤ exactSum k vs) → outcome = .error .overflow

section

variable {vs ws : List AbcVector} {line : Option Nat} {outcome : Except CountFault AbcVector}

theorem addsUp_one (v : AbcVector) : AddsUp [v] v.line (.ok v) where
  sums _ := ⟨v, rfl, fun k => (exactSum_singleton k v).symm, rfl⟩
  overflows := by
    rintro ⟨k, hk⟩
    rw [exactSum_singleton] at hk
    exact absurd (v.count_lt k) (Nat.not_lt.mpr hk)

theorem addsUp_zero : AddsUp [] none (.ok zero) where
  sums _ := ⟨zero, rfl, fun k => count_zero k, rfl⟩
  overflows := by
    rintro ⟨k, hk⟩
    exact absurd hk (show ¬ UInt32.size ≤ 0 by decide)

theorem addsUp_of_overflow {k : Counter} (h : UInt32.size ≤ exactSum k vs) :
    AddsUp vs line (.error .overflow) :=
  ⟨fun hfit => absurd (hfit k) (Nat.not_lt.mpr h), fun _ => rfl⟩

theorem AddsUp.perm (h : AddsUp vs line outcome) (hperm : vs.Perm ws) :
    AddsUp ws line outcome where
  sums hfit := by
    simp only [← exactSum_perm hperm] at hfit ⊢
    exact h.sums hfit
  overflows hover := by
    simp only [← exactSum_perm hperm] at hover
    exact h.overflows hover

/-- **One addition of two sums** gives the sum of all, on the line on the left. An overflow of
either is an overflow of all. -/
theorem AddsUp.plus {line' : Option Nat} {outcome' : Except CountFault AbcVector}
    (h : AddsUp vs line outcome) (h' : AddsUp ws line' outcome') :
    AddsUp (vs ++ ws) line (do (← outcome).add (← outcome')) := by
  by_cases hleft : ∀ k, exactSum k vs < UInt32.size
  · obtain ⟨v, rfl, hv, rfl⟩ := h.sums hleft
    by_cases hright : ∀ k, exactSum k ws < UInt32.size
    · obtain ⟨w, rfl, hw, -⟩ := h'.sums hright
      have hsum : ∀ k, exactSum k (vs ++ ws) = v.count k + w.count k := by
        intro k
        rw [exactSum_append, hv, hw]
      refine ⟨fun hfit => ?_, fun ⟨k, hk⟩ => ?_⟩
      · obtain ⟨u, hu, hcount, hline, -⟩ := add_ok fun k => hsum k ▸ hfit k
        exact ⟨u, hu, fun k => (hcount k).trans (hsum k).symm, hline⟩
      · rw [hsum] at hk
        exact add_overflow hk
    · obtain ⟨k, hk⟩ := Classical.not_forall.mp hright
      rw [h'.overflows ⟨k, Nat.not_lt.mp hk⟩]
      exact addsUp_of_overflow (k := k) (by rw [exactSum_append]; omega)
  · obtain ⟨k, hk⟩ := Classical.not_forall.mp hleft
    rw [h.overflows ⟨k, Nat.not_lt.mp hk⟩]
    exact addsUp_of_overflow (k := k) (by rw [exactSum_append]; omega)

/-- **A chain of additions** adds up all its vectors, on the line it starts on. -/
theorem AddsUp.foldlM (h : AddsUp vs line outcome) (ws : List AbcVector) :
    AddsUp (vs ++ ws) line (outcome >>= ws.foldlM add) := by
  induction ws generalizing vs outcome with
  | nil =>
    rw [List.append_nil]
    simpa using h
  | cons w ws ih =>
    have hstep := ih (h.plus (addsUp_one w))
    rw [List.append_assoc, List.singleton_append] at hstep
    have hchain : (outcome >>= (w :: ws).foldlM add) =
        (do (← outcome).add (← (.ok w : Except CountFault AbcVector))) >>= ws.foldlM add := by
      cases outcome <;> rfl
    rw [hchain]
    exact hstep

theorem addsUp_foldlM (s : AbcVector) (vs : List AbcVector) :
    AddsUp (s :: vs) s.line (vs.foldlM add s) :=
  (addsUp_one s).foldlM vs

theorem addsUp_sum (vs : List AbcVector) : AddsUp vs none (sum vs) :=
  addsUp_zero.foldlM vs

end

/-! ## Groupings -/

/-- A way to put vectors between brackets. An iterator starts its sum from nothing. -/
inductive Grouping where
  | nothing
  | one (v : AbcVector)
  | plus (left right : Grouping)

namespace Grouping

/-- The vectors of a grouping, from left to right. -/
def operands : Grouping → List AbcVector
  | nothing => []
  | one v => [v]
  | plus left right => left.operands ++ right.operands

/-- The line of what stands leftmost. -/
def line : Grouping → Option Nat
  | nothing => none
  | one v => v.line
  | plus left _ => left.line

/-- The sum of a grouping, with its brackets. -/
def total : Grouping → Except CountFault AbcVector
  | nothing => .ok zero
  | one v => .ok v
  | plus left right => do (← left.total).add (← right.total)

/-- **A grouping adds up its vectors**, on the line of what stands leftmost. -/
theorem addsUp (g : Grouping) : AddsUp g.operands g.line g.total := by
  induction g with
  | nothing => exact addsUp_zero
  | one v => exact addsUp_one v
  | plus left right ihLeft ihRight => exact ihLeft.plus ihRight

end Grouping

/-! ## Adding in place -/

theorem run_accumulate (s v : AbcVector) :
    (accumulate v).run.run s =
      match s.add v with
      | .ok u => (.ok (), u)
      | .error fault => (.error fault, s) := by
  show (MonadExcept.ofExcept (s.add v) >>= set :
    ExceptT CountFault (StateM AbcVector) Unit).run.run s = _
  cases s.add v with
  | ok u => rfl
  | error fault => rfl

theorem run_forM_accumulate_cons (s v : AbcVector) (vs : List AbcVector) :
    ((v :: vs).forM accumulate).run.run s =
      match s.add v with
      | .ok u => (vs.forM accumulate).run.run u
      | .error fault => (.error fault, s) := by
  show (accumulate v >>= fun _ => vs.forM accumulate).run.run s = _
  rw [ExceptT.run_bind, StateT.run_bind, run_accumulate]
  cases s.add v with
  | ok u => rfl
  | error fault => rfl

/-- **What adding in place leaves behind**: the whole sum, or the sum of the vectors before the first
that overflows. -/
theorem run_forM_accumulate (s : AbcVector) (vs : List AbcVector) :
    (∃ acc, vs.foldlM add s = .ok acc ∧ (vs.forM accumulate).run.run s = (.ok (), acc)) ∨
      ∃ done v rest acc, vs = done ++ v :: rest ∧ vs.foldlM add s = .error .overflow ∧
        done.foldlM add s = .ok acc ∧ acc.add v = .error .overflow ∧
        (vs.forM accumulate).run.run s = (.error .overflow, acc) := by
  induction vs generalizing s with
  | nil => exact Or.inl ⟨s, rfl, rfl⟩
  | cons v vs ih =>
    rw [run_forM_accumulate_cons, List.foldlM_cons]
    rcases add_cases s v with hadd | ⟨u, hadd, -⟩
    · rw [hadd]
      exact Or.inr ⟨[], v, vs, s, rfl, rfl, rfl, hadd, rfl⟩
    · have hcons : ∀ ws : List AbcVector, (v :: ws).foldlM add s = ws.foldlM add u := by
        intro ws
        rw [List.foldlM_cons, hadd]
        rfl
      rw [hadd]
      rcases ih u with ⟨acc, hfold, hrun⟩ | ⟨done, w, rest, acc, rfl, hfold, hdone, hstop, hrun⟩
      · exact Or.inl ⟨acc, hfold, hrun⟩
      · exact Or.inr ⟨v :: done, w, rest, acc, rfl, hfold, (hcons done).trans hdone, hstop, hrun⟩

/-! ## Main result -/

/-- **All ways of adding vectors up agree.** A chain of additions, the same in place, and the sum of
an iterator give the exact sums or overflow, by the same rule; so does every grouping of the vectors
in any order. An overflow in place leaves the running vector as it was. The line is that of the
leftmost vector, and none for an iterator; origins are dropped and play no part. -/
theorem sums_agree (s : AbcVector) (vs : List AbcVector) :
    AddsUp (s :: vs) s.line (vs.foldlM add s) ∧
      AddsUp (s :: vs) none (sum (s :: vs)) ∧
      ((∃ acc, vs.foldlM add s = .ok acc ∧ (vs.forM accumulate).run.run s = (.ok (), acc)) ∨
        ∃ done v rest acc, vs = done ++ v :: rest ∧ vs.foldlM add s = .error .overflow ∧
          done.foldlM add s = .ok acc ∧ acc.add v = .error .overflow ∧
          (vs.forM accumulate).run.run s = (.error .overflow, acc)) ∧
      (∀ g : Grouping, g.operands.Perm (s :: vs) → AddsUp (s :: vs) g.line g.total) ∧
      (∀ v w u : AbcVector, v.add w = .ok u → u.line = v.line ∧ u.origin = none) ∧
      ∀ v v' w w' : AbcVector, v.same v' = true → w.same w' = true → v.add w = v'.add w' := by
  refine ⟨addsUp_foldlM s vs, addsUp_sum (s :: vs), run_forM_accumulate s vs, ?_, ?_, ?_⟩
  · exact fun g hperm => g.addsUp.perm hperm
  · exact fun v w u => line_origin_add
  · exact fun v v' w w' => add_congr_same

/-- The second of three additions in place overflows: the first is kept, the third is not tried. -/
example : ([ofCounts 1 0 0, ofCounts 1 2 0, zero].forM accumulate).run.run
    (ofCounts 4294967294 0 0) = (.error .overflow, ofCounts 4294967295 0 0) := rfl

end AbcVector

end AbcMetric
