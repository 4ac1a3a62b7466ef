import AbcMetric.Proofs.Counters
import AbcMetric.Tally
import Mathlib.Algebra.GroupWithZero.Nat

/-!
# Decorations as maps from lines to letters

Decorations are kept by descending line. `Decorations.Descending` says so, and under it a line has
one text: looking a line up and finding its entry are the same.

* `Decorations.append` adds one line (`mem_lines_append`), changes the text of that line only
  (`textAt_append`), keeps the order (`descending_append`) and adds its letters to those that are
  there (`letterCount_append`).
* `sortLetters_eq`: sorting turns any order of the letters of a run into the run.
-/

namespace AbcMetric

namespace Decorations

/-- The lines that have a text. -/
def lines (ds : Decorations) : List Nat := ds.map Prod.fst

/-- Every line stands before the smaller ones, and so only once. -/
def Descending (ds : Decorations) : Prop := ds.lines.Pairwise (· > ·)

/-- How often a letter stands in all the texts. -/
def letterCount (c : Char) (ds : Decorations) : Nat := (ds.map (·.2.toList.count c)).sum

@[simp]
theorem lines_cons (l : Nat) (text : String) (ds : Decorations) :
    lines ((l, text) :: ds) = l :: lines ds := rfl

@[simp]
theorem letterCount_cons (c : Char) (l : Nat) (text : String) (ds : Decorations) :
    letterCount c ((l, text) :: ds) = text.toList.count c + letterCount c ds := by
  simp [letterCount]

theorem mem_lines {ds : Decorations} {l : Nat} : l ∈ ds.lines ↔ ∃ text, (l, text) ∈ ds := by
  simp [lines]

theorem descending_cons {l : Nat} {text : String} {ds : Decorations} :
    Descending ((l, text) :: ds) ↔ (∀ m ∈ ds.lines, m < l) ∧ Descending ds := by
  rw [Descending, lines_cons, List.pairwise_cons]
  rfl

theorem textAt_cons (l : Nat) (text : String) (ds : Decorations) (m : Nat) :
    textAt ((l, text) :: ds) m = if m = l then text else textAt ds m := by
  unfold textAt
  rw [List.lookup_cons]
  by_cases h : m = l
  · simp [h]
  · have hb : (m == l) = false := by simpa using h
    rw [hb, if_neg h]

/-- A line without an entry has the empty text. -/
theorem textAt_of_not_mem {ds : Decorations} {l : Nat} (h : l ∉ ds.lines) : ds.textAt l = "" := by
  induction ds with
  | nil => rfl
  | cons entry ds ih =>
    obtain ⟨m, text⟩ := entry
    rw [lines_cons, List.mem_cons, not_or] at h
    rw [textAt_cons, if_neg h.1, ih h.2]

/-- Of lines that stand only once, the text of an entry is the text of its line. -/
theorem textAt_of_mem {ds : Decorations} (hd : ds.lines.Nodup) {l : Nat} {text : String}
    (h : (l, text) ∈ ds) : ds.textAt l = text := by
  induction ds with
  | nil => exact absurd h List.not_mem_nil
  | cons entry ds ih =>
    obtain ⟨m, text'⟩ := entry
    rw [lines_cons, List.nodup_cons] at hd
    rw [textAt_cons]
    rcases List.mem_cons.mp h with heq | hmem
    · obtain ⟨rfl, rfl⟩ := Prod.mk.inj heq
      rw [if_pos rfl]
    · have hne : l ≠ m := by
        rintro rfl
        exact hd.1 (mem_lines.mpr ⟨text, hmem⟩)
      rw [if_neg hne, ih hd.2 hmem]

theorem Descending.nodup {ds : Decorations} (h : ds.Descending) : ds.lines.Nodup :=
  h.imp fun hlt => Nat.ne_of_gt hlt

/-! ## Appending letters to a line -/

theorem mem_lines_append (line : Nat) (letters : String) (ds : Decorations) (l : Nat) :
    l ∈ (append line letters ds).lines ↔ l = line ∨ l ∈ ds.lines := by
  induction ds with
  | nil => simp [append, lines]
  | cons entry ds ih =>
    obtain ⟨m, text⟩ := entry
    unfold append
    split
    · simp
    · split
      · rename_i heq
        subst heq
        simp
      · rw [lines_cons, List.mem_cons, ih, lines_cons, List.mem_cons]
        exact or_left_comm

theorem descending_append (line : Nat) (letters : String) {ds : Decorations}
    (h : ds.Descending) : (append line letters ds).Descending := by
  induction ds with
  | nil => simp [append, Descending, lines]
  | cons entry ds ih =>
    obtain ⟨m, text⟩ := entry
    obtain ⟨hlt, hd⟩ := descending_cons.mp h
    unfold append
    split
    · rename_i hm
      refine descending_cons.mpr ⟨?_, h⟩
      intro l hl
      rcases List.mem_cons.mp hl with rfl | hl
      · exact hm
      · exact Nat.lt_trans (hlt l hl) hm
    · split
      · exact descending_cons.mpr ⟨hlt, hd⟩
      · refine descending_cons.mpr ⟨?_, ih hd⟩
        intro l hl
        rcases (mem_lines_append line letters ds l).mp hl with rfl | hl
        · omega
        · exact hlt l hl

/-- **Appending changes the text of one line**, by the letters appended. -/
theorem textAt_append (line : Nat) (letters : String) {ds : Decorations} (h : ds.Descending)
    (l : Nat) :
    (append line letters ds).textAt l =
      if l = line then ds.textAt line ++ letters else ds.textAt l := by
  induction ds with
  | nil =>
    rw [append, textAt_cons]
    simp [textAt]
  | cons entry ds ih =>
    obtain ⟨m, text⟩ := entry
    obtain ⟨hlt, hd⟩ := descending_cons.mp h
    unfold append
    split
    · rename_i hm
      -- the line is above all lines that are there
      have hnew : line ∉ lines ((m, text) :: ds) := by
        intro hmem
        rcases List.mem_cons.mp hmem with rfl | hmem
        · omega
        · have := hlt line hmem
          omega
      rw [textAt_cons, textAt_of_not_mem hnew, String.empty_append]
    · split
      · rename_i heq
        subst heq
        rw [textAt_cons, textAt_cons, textAt_cons]
        by_cases hl : l = line
        · simp [hl]
        · simp [hl]
      · rename_i hne
        rw [textAt_cons, textAt_cons, textAt_cons, ih hd]
        by_cases hl : l = m
        · have : l ≠ line := by omega
          rw [if_pos hl, if_neg this, if_pos hl]
        · rw [if_neg hl, if_neg hne, if_neg hl]

/-- Appending adds the letters appended to those that are there. -/
theorem letterCount_append (c : Char) (line : Nat) (letters : String) (ds : Decorations) :
    letterCount c (append line letters ds) = letterCount c ds + letters.toList.count c := by
  induction ds with
  | nil => simp [append, letterCount]
  | cons entry ds ih =>
    obtain ⟨m, text⟩ := entry
    unfold append
    split
    · rw [letterCount_cons, letterCount_cons]
      omega
    · split
      · rw [letterCount_cons, letterCount_cons, String.toList_append, List.count_append]
        omega
      · rw [letterCount_cons, letterCount_cons, ih]
        omega

end Decorations

/-! ## Sorting letters -/

theorem sortLetters_perm (letters : String) : (sortLetters letters).toList.Perm letters.toList := by
  rw [sortLetters, String.toList_ofList]
  exact List.mergeSort_perm _ _

theorem pairwise_mergeSort_char (cs : List Char) :
    (cs.mergeSort (· ≤ ·)).Pairwise (· ≤ ·) := by
  have h : (cs.mergeSort (· ≤ ·)).Pairwise fun a b => decide (a ≤ b) = true := by
    refine List.pairwise_mergeSort ?_ ?_ cs
    · intro a b c hab hbc
      rw [decide_eq_true_eq] at hab hbc ⊢
      exact Char.le_trans hab hbc
    · intro a b
      rw [Bool.or_eq_true, decide_eq_true_eq, decide_eq_true_eq]
      exact Char.le_total a b
  exact h.imp of_decide_eq_true

/-- **Sorting turns any order of the letters of a run into the run.** -/
theorem sortLetters_eq {letters : String} {count : Counter → Nat}
    (h : letters.toList.Perm (letterRun count)) :
    sortLetters letters = String.ofList (letterRun count) := by
  unfold sortLetters
  rw [List.Perm.eq_of_pairwise (fun _ _ _ _ => Char.le_antisymm) (pairwise_mergeSort_char _)
    (pairwise_letterRun count) ((List.mergeSort_perm _ _).trans h)]

end AbcMetric
