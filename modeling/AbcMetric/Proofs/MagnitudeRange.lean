import AbcMetric.Proofs.Counters
import AbcMetric.Vector.Magnitude

/-!
# How large a magnitude can get

A magnitude is computed with 53 significant bits, each step rounded, so it may exceed the exact
norm. How far is bounded without following the digits: a step never rounds past a number that has 53
significant bits itself (`round53_le`), and the bounds of the steps are such numbers.

* `tenfoldRoot_le`: the root of a number below `2 ^ (2 * k)` is at most `2 ^ k`.
* `AbcVector.whole_le`: with counters below `2 ^ k` the magnitude is at most `2 ^ (k + 1)`.
-/

namespace AbcMetric

/-! ## Rounding -/

theorem pow2_add (m n : Nat) : pow2 (m + n) = pow2 m * pow2 n := Nat.pow_add 2 m n

theorem pow2_pos (n : Nat) : 0 < pow2 n := Nat.two_pow_pos n

theorem pow2_le {m n : Nat} (h : m ≤ n) : pow2 m ≤ pow2 n := Nat.pow_le_pow_right (by decide) h

theorem log2_lt_of_lt_pow2 {n k : Nat} (hn : n ≠ 0) (h : n < pow2 k) : n.log2 < k :=
  (Nat.log2_lt hn).mpr h

/-- A quotient is not rounded past an integer above it. -/
theorem roundHalfEven_le {num den k : Nat} (hden : 0 < den) (h : num ≤ k * den) :
    roundHalfEven num den ≤ k := by
  have hquotient : num / den ≤ k := Nat.div_le_of_le_mul (by rwa [Nat.mul_comm] at h)
  -- with a remainder the quotient is below the integer
  have hstrict : 0 < num % den → num / den < k := by
    intro hrest
    have hsplit := Nat.div_add_mod num den
    apply Nat.lt_of_mul_lt_mul_left (a := den)
    rw [Nat.mul_comm den k]
    omega
  unfold roundHalfEven
  dsimp only
  split
  · exact hquotient
  · have := hstrict (by omega)
    split <;> omega

/-- **No rounding passes a number of 53 significant bits.** -/
theorem round53_le {m j k : Nat} (hj : j < pow2 53) (h : m ≤ j * pow2 k) :
    round53 m ≤ j * pow2 k := by
  have hexcess : m.log2 - 52 ≤ k := by
    by_cases hm : m = 0
    · subst hm
      exact Nat.zero_le k
    · have hlog : m < pow2 (53 + k) := by
        rw [pow2_add]
        exact Nat.lt_of_le_of_lt h (Nat.mul_lt_mul_of_pos_right hj (pow2_pos k))
      have := log2_lt_of_lt_pow2 hm hlog
      omega
  have hpow : pow2 k = pow2 (k - (m.log2 - 52)) * pow2 (m.log2 - 52) := by
    rw [← pow2_add, Nat.sub_add_cancel hexcess]
  rw [hpow, ← Nat.mul_assoc] at h ⊢
  exact Nat.mul_le_mul_right _ (roundHalfEven_le (pow2_pos _) h)

/-! ## Roots -/

theorem rootBits_lt (n bits root : Nat) : rootBits n bits root < root + pow2 bits := by
  induction bits generalizing root with
  | zero => exact Nat.lt_succ_self root
  | succ bits ih =>
    have htwice : pow2 (bits + 1) = pow2 bits + pow2 bits := by
      rw [pow2_add]
      exact Nat.mul_two _
    rw [rootBits, htwice]
    split
    · have := ih (root + pow2 bits)
      omega
    · have := ih root
      omega

theorem natRoot_lt {n k : Nat} (h : n < pow2 (2 * k)) : natRoot n < pow2 k := by
  by_cases hn : n = 0
  · subst hn
    exact pow2_pos k
  · have hlog := log2_lt_of_lt_pow2 hn h
    have hroot := rootBits_lt n (n.log2 / 2 + 1) 0
    rw [Nat.zero_add] at hroot
    exact Nat.lt_of_lt_of_le hroot (pow2_le (by omega))

theorem nearestRoot_le {n k : Nat} (h : n < pow2 (2 * k)) : nearestRoot n ≤ pow2 k := by
  have := natRoot_lt h
  unfold nearestRoot
  dsimp only
  split <;> omega

/-- **The tenfold root of a number below `2 ^ (2 * k)` is at most `10 * 2 ^ k`.** -/
theorem tenfoldRoot_le {s k : Nat} (hk : k ≤ 53) (h : s < pow2 (2 * k)) :
    tenfoldRoot s ≤ 10 * pow2 k := by
  by_cases hs : s = 0
  · subst hs
    exact Nat.zero_le _
  have hlog := log2_lt_of_lt_pow2 hs h
  rw [tenfoldRoot, if_neg hs]
  dsimp only
  generalize hshift : 52 - s.log2 / 2 = shift
  have hnorm : s * pow2 (2 * shift) < pow2 (2 * 53) := by
    have hself : s < pow2 (s.log2 + 1) := Nat.lt_log2_self
    calc s * pow2 (2 * shift) < pow2 (s.log2 + 1) * pow2 (2 * shift) :=
          Nat.mul_lt_mul_of_pos_right hself (pow2_pos _)
      _ = pow2 (s.log2 + 1 + 2 * shift) := (pow2_add _ _).symm
      _ ≤ pow2 (2 * 53) := pow2_le (by omega)
  have hround : round53 (10 * nearestRoot (s * pow2 (2 * shift))) ≤ 10 * pow2 53 :=
    round53_le (by decide) (Nat.mul_le_mul_left 10 (nearestRoot_le hnorm))
  -- the shift is what the root has behind the point
  have hpoint : pow2 53 * 2 ≤ pow2 k * pow2 (shift + 1) := by
    rw [← pow2_add]
    exact pow2_le (m := 54) (by omega)
  have hhalf : pow2 (shift + 1) = pow2 shift * 2 := pow2_add shift 1
  have hbound : (10 * pow2 k + 1) * pow2 (shift + 1) =
      10 * (pow2 k * pow2 (shift + 1)) + pow2 (shift + 1) := by
    rw [Nat.add_mul, Nat.mul_assoc, Nat.one_mul]
  have := pow2_pos shift
  apply Nat.le_of_lt_succ
  rw [Nat.div_lt_iff_lt_mul (pow2_pos _), Nat.succ_eq_add_one, hbound]
  omega

theorem roundedNorm_le {a b c k : Nat} (ha : a < pow2 k) (hb : b < pow2 k) (hc : c < pow2 k) :
    roundedNorm a b c ≤ 3 * pow2 (2 * k) := by
  have hsquare : ∀ {n : Nat}, n < pow2 k → round53 (n * n) ≤ 1 * pow2 (2 * k) := by
    intro n hn
    refine round53_le (by decide) ?_
    rw [Nat.one_mul, Nat.two_mul, pow2_add]
    exact Nat.mul_le_mul (Nat.le_of_lt hn) (Nat.le_of_lt hn)
  have hsum : round53 (round53 (a * a) + round53 (b * b)) ≤ 2 * pow2 (2 * k) := by
    have := hsquare ha
    have := hsquare hb
    exact round53_le (by decide) (by omega)
  have := hsquare hc
  exact round53_le (by decide) (by omega)

/-! ## Magnitudes -/

/-- **The whole part of a magnitude**: at most twice the power of two above the counters. -/
theorem AbcVector.whole_le {v : AbcVector} {k : Nat} (hk : k ≤ 52) (h : ∀ c, v.count c < pow2 k) :
    v.tenths / 10 ≤ pow2 (k + 1) := by
  have hnorm : roundedNorm v.assignment.toNat v.branch.toNat v.condition.toNat <
      pow2 (2 * (k + 1)) := by
    have hle : roundedNorm v.assignment.toNat v.branch.toNat v.condition.toNat ≤
        3 * pow2 (2 * k) := roundedNorm_le (h .assignment) (h .branch) (h .condition)
    have hfour : pow2 (2 * (k + 1)) = pow2 (2 * k) * 4 := pow2_add (2 * k) 2
    have := pow2_pos (2 * k)
    omega
  have := tenfoldRoot_le (by omega) hnorm
  exact Nat.div_le_of_le_mul this

end AbcMetric
