/-!
# Lines of a source text

A line ends at `\n` and at nothing else. `LineIndex` keeps where the newlines are, which is all
that is needed to tell the line of a byte offset.

* `LineIndex.lineOf` counts from one; an offset at a newline belongs to the line it ends. It halves
  the range of newlines in question, and `LineIndex.lineOf_eq_countP` says what it counts: the
  newlines before the offset.
* `pieces` is the text between newlines, so the last piece is what follows the last newline.
-/

namespace AbcMetric

/-- The byte offsets of the newlines in `text`, the first character standing at `offset`. -/
def newlineOffsets (offset : Nat) : List Char → List Nat
  | [] => []
  | c :: rest =>
    if c = '\n' then offset :: newlineOffsets (offset + 1) rest
    else newlineOffsets (offset + c.utf8Size) rest

theorem le_of_mem_newlineOffsets {text : List Char} {offset n : Nat}
    (h : n ∈ newlineOffsets offset text) : offset ≤ n := by
  induction text generalizing offset with
  | nil => cases h
  | cons c rest ih =>
    rw [newlineOffsets] at h
    split at h
    · rcases List.mem_cons.mp h with rfl | h
      · exact Nat.le_refl _
      · exact Nat.le_of_succ_le (ih h)
    · exact Nat.le_trans (Nat.le_add_right _ _) (ih h)

theorem pairwise_newlineOffsets (offset : Nat) (text : List Char) :
    (newlineOffsets offset text).Pairwise (· < ·) := by
  induction text generalizing offset with
  | nil => exact List.Pairwise.nil
  | cons c rest ih =>
    rw [newlineOffsets]
    split
    · exact List.Pairwise.cons (fun _ h => le_of_mem_newlineOffsets h) (ih _)
    · exact ih _

/-- Where the newlines of one source text are. -/
structure LineIndex where
  newlines : Array Nat
  ascending : newlines.toList.Pairwise (· < ·)
  deriving DecidableEq, Repr

/-- The number of marks before `offset`, which is known to be at least `low` and at most `high`. -/
def countBefore (marks : Array Nat) (offset : Nat) : Nat → Nat → Nat → Nat
  | 0, low, _ => low
  | steps + 1, low, high =>
    let middle := (low + high) / 2
    match marks[middle]? with
    | none => low
    | some mark =>
      if high ≤ low then low
      else if mark < offset then countBefore marks offset steps (middle + 1) high
      else countBefore marks offset steps low middle

namespace LineIndex

/-- The index of `source`. -/
def ofSource (source : String) : LineIndex :=
  ⟨(newlineOffsets 0 source.toList).toArray, pairwise_newlineOffsets 0 source.toList⟩

/-- The line, counted from one, that holds the byte at `offset`. -/
def lineOf (index : LineIndex) (offset : Nat) : Nat :=
  let size := index.newlines.size
  countBefore index.newlines offset size 0 size + 1

end LineIndex

/-- A list of which the first `n` members, and no others, pass a test has `n` that pass. -/
theorem countP_eq_of_split {p : Nat → Bool} {l : List Nat} {n : Nat} (hn : n ≤ l.length)
    (hlow : ∀ i (h : i < l.length), i < n → p l[i])
    (hhigh : ∀ i (h : i < l.length), n ≤ i → ¬ p l[i]) : l.countP p = n := by
  induction l generalizing n with
  | nil => exact (Nat.le_zero.mp hn).symm
  | cons a l ih =>
    cases n with
    | zero =>
      rw [List.countP_eq_zero]
      intro x hx
      obtain ⟨i, h, rfl⟩ := List.getElem_of_mem hx
      exact hhigh i h (Nat.zero_le i)
    | succ n =>
      have ha : p a := hlow 0 (Nat.succ_pos _) (Nat.succ_pos _)
      rw [List.countP_cons_of_pos ha, ih (Nat.le_of_succ_le_succ hn)]
      · exact fun i h hi => hlow (i + 1) (Nat.succ_lt_succ h) (Nat.succ_lt_succ hi)
      · exact fun i h hi => hhigh (i + 1) (Nat.succ_lt_succ h) (Nat.succ_le_succ hi)

/-- Halving finds the number of marks before an offset: those below `low` are before it, and those
from `high` on are not. -/
theorem countBefore_eq_countP {marks : Array Nat} {offset : Nat}
    (hs : marks.toList.Pairwise (· < ·)) {steps low high : Nat} (hle : low ≤ high)
    (hsize : high ≤ marks.size) (hsteps : high - low ≤ steps)
    (hlow : ∀ i (h : i < marks.size), i < low → marks[i] < offset)
    (hhigh : ∀ i (h : i < marks.size), high ≤ i → offset ≤ marks[i]) :
    countBefore marks offset steps low high = marks.toList.countP (· < offset) := by
  have mono : ∀ i j (hi : i < marks.size) (hj : j < marks.size), i < j → marks[i] < marks[j] :=
    fun i j hi hj hij => List.pairwise_iff_getElem.mp hs i j hi hj hij
  induction steps generalizing low high with
  | zero =>
    obtain rfl : low = high := by omega
    exact (countP_eq_of_split hsize (by simpa using hlow) (by simpa using hhigh)).symm
  | succ steps ih =>
    rw [countBefore]
    by_cases hlt : low < high
    · have hm : (low + high) / 2 < marks.size := by omega
      simp only [Array.getElem?_eq_getElem hm, Nat.not_le.mpr hlt, if_false]
      split
      · rename_i hbefore
        refine ih (by omega) hsize (by omega) (fun i hi hil => ?_) hhigh
        rcases Nat.lt_or_eq_of_le (Nat.le_of_lt_succ hil) with h | rfl
        · exact Nat.lt_trans (mono i _ hi hm h) hbefore
        · exact hbefore
      · rename_i hafter
        refine ih (by omega) (Nat.le_of_lt hm) (by omega) hlow (fun i hi hil => ?_)
        rcases Nat.lt_or_eq_of_le hil with h | rfl
        · exact Nat.le_trans (Nat.not_lt.mp hafter) (Nat.le_of_lt (mono _ i hm hi h))
        · exact Nat.not_lt.mp hafter
    · obtain rfl : low = high := by omega
      have hcount := countP_eq_of_split (p := (· < offset)) hsize (by simpa using hlow)
        (by simpa using hhigh)
      rw [hcount]
      split
      · rfl
      · simp

/-- The line of an offset is one more than the number of newlines before it. -/
theorem LineIndex.lineOf_eq_countP (index : LineIndex) (offset : Nat) :
    index.lineOf offset = index.newlines.toList.countP (· < offset) + 1 := by
  rw [lineOf, countBefore_eq_countP index.ascending (Nat.zero_le _) (Nat.le_refl _) (Nat.sub_le _ _)
    (fun _ _ h => absurd h (Nat.not_lt_zero _)) (fun _ h hle => absurd h (Nat.not_lt.mpr hle))]

/-- Puts `c` in front of the text cut so far: a newline opens a piece, anything else joins the
first. -/
def cutAt (c : Char) (tail : List (List Char)) : List (List Char) :=
  if c = '\n' then [] :: tail
  else
    match tail with
    | [] => [[c]]
    | first :: rest => (c :: first) :: rest

/-- The text cut at every newline; the newlines themselves are dropped. -/
def pieces (text : List Char) : List (List Char) :=
  text.foldr cutAt [[]]

/-- The lines of a source text, without their newlines. -/
def sourceLines (source : String) : List String :=
  (pieces source.toList).map String.ofList

end AbcMetric
