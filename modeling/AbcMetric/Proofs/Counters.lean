import AbcMetric.Vector

/-!
# Counters

The three counters of a vector under one name: `AbcVector.count v k` is the counter `k` of `v` as a
natural number, so that what is said of one counter is said of all three.

* `AbcVector.add_ok`, `AbcVector.add_overflow`: an addition succeeds iff every counter fits, and
  then adds the counters.
* `AbcVector.letters_ok`: the letters of a vector are `letterRun` of its counters, which holds each
  letter as often as its counter says (`count_letterRun`).
-/

namespace AbcMetric

/-- One of the three counters of a vector. -/
inductive Counter where
  | assignment
  | branch
  | condition
  deriving DecidableEq, Repr

theorem Counter.forall_iff {p : Counter → Prop} :
    (∀ k, p k) ↔ p .assignment ∧ p .branch ∧ p .condition := by
  constructor
  · intro h
    exact ⟨h .assignment, h .branch, h .condition⟩
  · rintro ⟨ha, hb, hc⟩ k
    cases k
    · exact ha
    · exact hb
    · exact hc

/-- The letter that stands for one unit of a counter. -/
def Counter.letter : Counter → Char
  | .assignment => 'a'
  | .branch => 'b'
  | .condition => 'c'

/-- The letters of the given counts, in alphabetical order. -/
def letterRun (count : Counter → Nat) : List Char :=
  List.replicate (count .assignment) 'a' ++ List.replicate (count .branch) 'b' ++
    List.replicate (count .condition) 'c'

/-- **Each letter stands in the run as often as its counter says.** -/
theorem count_letterRun (count : Counter → Nat) (k : Counter) :
    (letterRun count).count k.letter = count k := by
  cases k <;> simp [letterRun, Counter.letter, List.count_replicate]

theorem pairwise_letterRun (count : Counter → Nat) :
    (letterRun count).Pairwise (· ≤ ·) := by
  have run : ∀ (n : Nat) (c : Char), (List.replicate n c).Pairwise (· ≤ ·) := fun n c =>
    List.pairwise_replicate.mpr (Or.inr (Nat.le_refl _))
  unfold letterRun
  rw [List.pairwise_append, List.pairwise_append]
  refine ⟨⟨run _ _, run _ _, ?_⟩, run _ _, ?_⟩
  · intro a ha b hb
    obtain rfl := List.eq_of_mem_replicate ha
    obtain rfl := List.eq_of_mem_replicate hb
    decide
  · intro a ha b hb
    obtain rfl := List.eq_of_mem_replicate hb
    rcases List.mem_append.mp ha with ha | ha
    · obtain rfl := List.eq_of_mem_replicate ha
      decide
    · obtain rfl := List.eq_of_mem_replicate ha
      decide

/-- A run of sums holds the letters of both runs. -/
theorem letterRun_add_perm (m n : Counter → Nat) :
    (letterRun m ++ letterRun n).Perm (letterRun fun k => m k + n k) := by
  rw [List.perm_iff_count]
  intro c
  simp only [letterRun, List.count_append, List.count_replicate]
  split <;> split <;> split <;> omega

/-! ## Addition -/

theorem addCounter_ok {a b : UInt32} (h : a.toNat + b.toNat < UInt32.size) :
    addCounter a b = .ok (a + b) ∧ (a + b).toNat = a.toNat + b.toNat := by
  refine ⟨if_pos h, ?_⟩
  rw [UInt32.toNat_add]
  exact Nat.mod_eq_of_lt h

theorem addCounter_overflow {a b : UInt32} (h : UInt32.size ≤ a.toNat + b.toNat) :
    addCounter a b = .error .overflow :=
  if_neg (Nat.not_lt.mpr h)

/-- An addition either gives the sum of two counters that fits, or overflows. -/
theorem addCounter_cases (a b : UInt32) :
    addCounter a b = .error .overflow ∨ addCounter a b = .ok (a + b) := by
  unfold addCounter
  split
  · exact Or.inr rfl
  · exact Or.inl rfl

namespace AbcVector

/-- The counter `k` of a vector. -/
def count (v : AbcVector) : Counter → Nat
  | .assignment => v.assignment.toNat
  | .branch => v.branch.toNat
  | .condition => v.condition.toNat

/-- All units of a vector. -/
def size (v : AbcVector) : Nat :=
  v.count .assignment + v.count .branch + v.count .condition

theorem count_lt (v : AbcVector) (k : Counter) : v.count k < UInt32.size := by
  cases k <;> exact UInt32.toNat_lt_size _

@[simp]
theorem count_zero (k : Counter) : zero.count k = 0 := by
  cases k <;> rfl

/-- Vectors with the same counters, the same line and the same origin are the same. -/
theorem ext_count {v w : AbcVector} (hc : ∀ k, v.count k = w.count k) (hl : v.line = w.line)
    (ho : v.origin = w.origin) : v = w := by
  have ha := UInt32.toNat_inj.mp (hc .assignment)
  have hb := UInt32.toNat_inj.mp (hc .branch)
  have hd := UInt32.toNat_inj.mp (hc .condition)
  cases v
  cases w
  simp_all

/-- **An addition in which every counter fits** adds the counters, keeps the line on the left and
drops the origin. -/
theorem add_ok {v w : AbcVector} (h : ∀ k, v.count k + w.count k < UInt32.size) :
    ∃ u, v.add w = .ok u ∧ (∀ k, u.count k = v.count k + w.count k) ∧ u.line = v.line ∧
      u.origin = none := by
  obtain ⟨ha, ha'⟩ := addCounter_ok (h .assignment)
  obtain ⟨hb, hb'⟩ := addCounter_ok (h .branch)
  obtain ⟨hc, hc'⟩ := addCounter_ok (h .condition)
  refine ⟨⟨v.assignment + w.assignment, v.branch + w.branch, v.condition + w.condition, v.line,
    none⟩, ?_, ?_, rfl, rfl⟩
  · rw [add, ha, hb, hc]
    rfl
  · intro k
    cases k
    · exact ha'
    · exact hb'
    · exact hc'

/-- **An addition in which some counter does not fit overflows.** -/
theorem add_overflow {v w : AbcVector} {k : Counter} (h : UInt32.size ≤ v.count k + w.count k) :
    v.add w = .error .overflow := by
  unfold add
  rcases addCounter_cases v.assignment w.assignment with ha | ha
  · rw [ha]
    rfl
  · rcases addCounter_cases v.branch w.branch with hb | hb
    · rw [ha, hb]
      rfl
    · rcases addCounter_cases v.condition w.condition with hc | hc
      · rw [ha, hb, hc]
        rfl
      · cases k with
        | assignment => exact absurd ((addCounter_overflow h).symm.trans ha) (by simp)
        | branch => exact absurd ((addCounter_overflow h).symm.trans hb) (by simp)
        | condition => exact absurd ((addCounter_overflow h).symm.trans hc) (by simp)

/-- **The letters of a vector** whose units fit a counter. -/
theorem letters_ok {v : AbcVector} (h : v.size < UInt32.size) :
    v.letters = .ok (String.ofList (letterRun v.count)) := by
  unfold size at h
  obtain ⟨hf, hf'⟩ := addCounter_ok (a := v.assignment) (b := v.branch)
    (Nat.lt_of_le_of_lt (Nat.le_add_right _ _) h)
  obtain ⟨hc, -⟩ := addCounter_ok (a := v.assignment + v.branch) (b := v.condition)
    (by rw [hf']; exact h)
  rw [letters, hf]
  show (addCounter (v.assignment + v.branch) v.condition >>= _) = _
  rw [hc]
  rfl

end AbcVector

end AbcMetric
