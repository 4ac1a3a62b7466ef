import Mathlib.Algebra.GroupWithZero.Nat
import Mathlib.Data.List.Lex

/-!
# The order of names is the order of their bytes

Names are compared character by character. Their encodings compare the same way byte by byte: the
encoding of a greater character is greater at the first byte where the two differ, and they differ
before either ends (`lex_encodeChar`). Behind the first byte stand groups of six bits
(`lex_tailBytes`).

* `bytesOf_lt`: a smaller text has the smaller bytes.
-/

namespace AbcMetric

/-- The bytes of a text. -/
def bytesOf (s : String) : List UInt8 := s.toUTF8.data.toList

theorem bytesOf_eq (s : String) : bytesOf s = s.toList.flatMap String.utf8EncodeChar := by
  unfold bytesOf
  rw [String.toUTF8_eq_toByteArray, ← String.ofList_toList (s := s), String.toByteArray_ofList,
    String.toList_ofList, List.utf8Encode, List.data_toByteArray]

/-- A byte decides the order unless the two are the same. -/
theorem lex_byte {a b : Nat} {xs ys : List UInt8} (ha : a < 256) (hb : b < 256)
    (h : a < b ∨ a = b ∧ List.Lex (· < ·) xs ys) :
    List.Lex (· < ·) (UInt8.ofNat a :: xs) (UInt8.ofNat b :: ys) := by
  rcases h with h | ⟨rfl, h⟩
  · exact .rel ((UInt8.ofNat_lt_iff_lt ha hb).mpr h)
  · exact .cons h

/-- The bytes behind the first of an encoding: `n` groups of six bits, the highest first. -/
def tailBytes : Nat → Nat → List UInt8
  | 0, _ => []
  | n + 1, v => UInt8.ofNat (v / 64 ^ n % 64 + 128) :: tailBytes n v

/-- **Groups of six bits of a greater number**, behind bits that are the same. -/
theorem lex_tailBytes {v w : Nat} (hlt : v < w) (xs ys : List UInt8) :
    ∀ n, v / 64 ^ n = w / 64 ^ n →
      List.Lex (· < ·) (tailBytes n v ++ xs) (tailBytes n w ++ ys)
  | 0, h => by
    rw [Nat.pow_zero, Nat.div_one, Nat.div_one] at h
    omega
  | n + 1, h => by
    rw [Nat.pow_succ, ← Nat.div_div_eq_div_mul, ← Nat.div_div_eq_div_mul] at h
    have hle : v / 64 ^ n ≤ w / 64 ^ n := Nat.div_le_div_right (Nat.le_of_lt hlt)
    unfold tailBytes
    rcases Nat.lt_or_eq_of_le hle with hhigh | hhigh
    · exact lex_byte (by omega) (by omega) (Or.inl (by omega))
    · exact lex_byte (by omega) (by omega)
        (Or.inr ⟨by rw [hhigh], lex_tailBytes hlt xs ys n hhigh⟩)

theorem codePoint_lt (c : Char) : c.val.toNat < 1114112 := by
  rcases c.valid with h | h
  · have : c.val.toNat < 55296 := h
    omega
  · exact h.2

/-- **The encoding of a greater character is greater**, whatever follows the two. -/
theorem lex_encodeChar {c d : Char} (h : c < d) (xs ys : List UInt8) :
    List.Lex (· < ·) (String.utf8EncodeChar c ++ xs) (String.utf8EncodeChar d ++ ys) := by
  have hlt : c.val.toNat < d.val.toNat := h
  have hmax := codePoint_lt d
  unfold String.utf8EncodeChar
  generalize c.val.toNat = v at hlt
  generalize d.val.toNat = w at hlt hmax
  dsimp only
  -- a longer encoding starts with a greater byte; encodings of one length are compared in turn
  have h₁ := lex_tailBytes hlt xs ys 1
  have h₂ := lex_tailBytes hlt xs ys 2
  have h₃ := lex_tailBytes hlt xs ys 3
  simp only [tailBytes, Nat.reducePow, Nat.div_one] at h₁ h₂ h₃
  split
  · split
    · exact lex_byte (by omega) (by omega) (Or.inl hlt)
    · split
      · exact lex_byte (by omega) (by omega) (Or.inl (by omega))
      · split <;> exact lex_byte (by omega) (by omega) (Or.inl (by omega))
  · rw [if_neg (by omega : ¬ w ≤ 127)]
    split
    · split
      · rcases Nat.lt_or_ge (v / 64) (w / 64) with hhigh | hhigh
        · exact lex_byte (by omega) (by omega) (Or.inl (by omega))
        · exact lex_byte (by omega) (by omega) (Or.inr ⟨by omega, h₁ (by omega)⟩)
      · split <;> exact lex_byte (by omega) (by omega) (Or.inl (by omega))
    · rw [if_neg (by omega : ¬ w ≤ 2047)]
      split
      · split
        · rcases Nat.lt_or_ge (v / 4096) (w / 4096) with hhigh | hhigh
          · exact lex_byte (by omega) (by omega) (Or.inl (by omega))
          · exact lex_byte (by omega) (by omega) (Or.inr ⟨by omega, h₂ (by omega)⟩)
        · exact lex_byte (by omega) (by omega) (Or.inl (by omega))
      · rw [if_neg (by omega : ¬ w ≤ 65535)]
        rcases Nat.lt_or_ge (v / 262144) (w / 262144) with hhigh | hhigh
        · exact lex_byte (by omega) (by omega) (Or.inl (by omega))
        · exact lex_byte (by omega) (by omega) (Or.inr ⟨by omega, h₃ (by omega)⟩)

theorem encodeChar_ne_nil (c : Char) : String.utf8EncodeChar c ≠ [] := by
  unfold String.utf8EncodeChar
  dsimp only
  split
  · simp
  · split
    · simp
    · split <;> simp

theorem lex_flatMap_encodeChar {cs ds : List Char} (h : List.Lex (· < ·) cs ds) :
    List.Lex (· < ·) (cs.flatMap String.utf8EncodeChar) (ds.flatMap String.utf8EncodeChar) := by
  induction h with
  | nil =>
    rename_i d ds
    obtain ⟨b, bs, hd⟩ := List.exists_cons_of_ne_nil (encodeChar_ne_nil d)
    rw [List.flatMap_nil, List.flatMap_cons, hd]
    exact .nil
  | cons h ih => exact ih.append_left _ _
  | rel h => exact lex_encodeChar h _ _

/-- **A smaller text has the smaller bytes.** -/
theorem bytesOf_lt {s t : String} (h : s < t) : bytesOf s < bytesOf t := by
  rw [bytesOf_eq, bytesOf_eq]
  exact lex_flatMap_encodeChar (String.lt_iff.mp h)

end AbcMetric
