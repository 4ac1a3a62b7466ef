import AbcMetric.Listing
import AbcMetric.Proofs.Decorations
import AbcMetric.Proofs.Pieces
import Mathlib.Algebra.BigOperators.Group.List.Basic

/-!
# The rows of a listing

A listing is written row by row and joined by newlines. For decorations without newlines it can be
read back: cutting it at the newlines gives the rows (`sourceLines_annotate`), and the decoration of
a row is what stands in its first `columnWidth` characters, up to the blanks (`take_listingRow`).

* `getElem?_listingRows`: row `i` is made of line `i` of the source and of the text of that line.
* `sum_count_listingRows`: if every line with a text is a line of the source, the rows show all the
  letters of the decorations.
-/

namespace AbcMetric

/-! ## One row -/

theorem toList_padRight (width : Nat) (text : String) :
    (padRight width text).toList = text.toList ++ List.replicate (width - text.length) ' ' := by
  rw [padRight, String.toList_append, String.toList_ofList]

theorem toList_listingRow (width : Nat) (decoration line : String) :
    (listingRow width decoration line).toList =
      (decoration.toList ++ List.replicate (width - decoration.length) ' ') ++ " | ".toList ++
        (line.toList ++ List.replicate (listingWidth - (width + 3) - line.length) ' ') := by
  rw [listingRow, String.toList_append, String.toList_append, toList_padRight, toList_padRight]

/-- The column of decorations of a row holds the decoration and then blanks. -/
theorem take_listingRow {width : Nat} {decoration : String} (h : decoration.length ≤ width)
    (line : String) :
    (listingRow width decoration line).toList.take width =
      decoration.toList ++ List.replicate (width - decoration.length) ' ' := by
  rw [toList_listingRow, List.append_assoc]
  apply List.take_left'
  rw [List.length_append, List.length_replicate, String.length_toList]
  omega

theorem newline_not_mem_listingRow {width : Nat} {decoration line : String}
    (hd : '\n' ∉ decoration.toList) (hl : '\n' ∉ line.toList) :
    '\n' ∉ (listingRow width decoration line).toList := by
  have hbar : '\n' ∉ " | ".toList := by decide
  have hblank : ∀ n, '\n' ∉ List.replicate n ' ' := by
    intro n hn
    exact absurd (List.eq_of_mem_replicate hn) (by decide)
  rw [toList_listingRow]
  simp only [List.mem_append, not_or]
  exact ⟨⟨⟨hd, hblank _⟩, hbar⟩, hl, hblank _⟩

/-! ## The width of the column -/

theorem le_foldl_max (ns : List Nat) (m : Nat) :
    m ≤ ns.foldl max m ∧ ∀ n ∈ ns, n ≤ ns.foldl max m := by
  induction ns generalizing m with
  | nil => exact ⟨Nat.le_refl m, fun n hn => absurd hn List.not_mem_nil⟩
  | cons a ns ih =>
    rw [List.foldl_cons]
    obtain ⟨hm, hns⟩ := ih (max m a)
    refine ⟨Nat.le_trans (Nat.le_max_left m a) hm, fun n hn => ?_⟩
    rcases List.mem_cons.mp hn with rfl | hn
    · exact Nat.le_trans (Nat.le_max_right m n) hm
    · exact hns n hn

theorem length_le_byteCount (text : List Char) : text.length ≤ byteCount text := by
  induction text with
  | nil => exact Nat.le_refl _
  | cons c text ih =>
    have := c.utf8Size_pos
    rw [List.length_cons, byteCount_cons]
    omega

theorem length_le_columnWidth {ds : Decorations} {l : Nat} {text : String}
    (h : (l, text) ∈ ds) : text.length ≤ columnWidth ds := by
  have hbytes : text.utf8ByteSize ≤ columnWidth ds :=
    (le_foldl_max _ 0).2 _ (List.mem_map_of_mem (f := (·.2.utf8ByteSize)) h)
  have hlength := length_le_byteCount text.toList
  rw [String.length_toList, byteCount_toList] at hlength
  exact Nat.le_trans hlength hbytes

/-- A line has the text of an entry, or the empty text. -/
theorem Decorations.textAt_cases (ds : Decorations) (l : Nat) :
    ds.textAt l = "" ∨ (l, ds.textAt l) ∈ ds := by
  induction ds with
  | nil => exact Or.inl rfl
  | cons entry ds ih =>
    obtain ⟨m, text⟩ := entry
    rw [textAt_cons]
    split
    · rename_i heq
      subst heq
      exact Or.inr List.mem_cons_self
    · exact ih.imp_right (List.mem_cons_of_mem _)

theorem length_textAt_le (ds : Decorations) (l : Nat) : (ds.textAt l).length ≤ columnWidth ds := by
  rcases ds.textAt_cases l with h | h
  · rw [h]
    exact Nat.zero_le _
  · exact length_le_columnWidth h

/-! ## All rows -/

theorem length_listingRows (source : String) (ds : Decorations) :
    (listingRows source ds).length = (sourceLines source).length := by
  simp [listingRows]

/-- Row `i` shows line `i` of the source with its text. -/
theorem getElem?_listingRows (source : String) (ds : Decorations) (i : Nat) :
    (listingRows source ds)[i]? =
      (sourceLines source)[i]?.map (listingRow (columnWidth ds) (ds.textAt (i + 1))) := by
  simp only [listingRows, List.getElem?_map, List.getElem?_zipIdx, Nat.zero_add, Option.map_map]
  rfl

theorem newline_not_mem_sourceLines {source line : String} (h : line ∈ sourceLines source) :
    '\n' ∉ line.toList := by
  obtain ⟨p, hp, rfl⟩ := List.mem_map.mp h
  rw [String.toList_ofList]
  exact newline_not_mem_of_mem_pieces hp

theorem newline_not_mem_listingRows {source : String} {ds : Decorations}
    (h : ∀ l text, (l, text) ∈ ds → '\n' ∉ text.toList) :
    ∀ row ∈ listingRows source ds, '\n' ∉ row.toList := by
  intro row hrow
  obtain ⟨i, hi⟩ := List.getElem?_of_mem hrow
  rw [getElem?_listingRows] at hi
  obtain ⟨line, hline, rfl⟩ := Option.map_eq_some_iff.mp hi
  refine newline_not_mem_listingRow ?_
    (newline_not_mem_sourceLines (List.mem_of_getElem? hline))
  rcases ds.textAt_cases (i + 1) with he | he
  · rw [he]
    exact List.not_mem_nil
  · exact h _ _ he

/-- **A listing cut at its newlines is its rows**, one for each line of the source. -/
theorem sourceLines_annotate {source : String} {ds : Decorations}
    (h : ∀ l text, (l, text) ∈ ds → '\n' ∉ text.toList) :
    sourceLines (annotate source ds) = listingRows source ds := by
  have hne : (listingRows source ds).map String.toList ≠ [] := by
    intro he
    have hlen := length_listingRows source ds
    rw [List.map_eq_nil_iff.mp he, length_sourceLines] at hlen
    exact absurd hlen (by simp)
  have hnl : ∀ text ∈ (listingRows source ds).map String.toList, '\n' ∉ text := by
    intro text htext
    obtain ⟨row, hrow, rfl⟩ := List.mem_map.mp htext
    exact newline_not_mem_listingRows h row hrow
  rw [sourceLines, annotate, String.toList_intercalate]
  show (pieces (['\n'].intercalate _)).map String.ofList = _
  rw [pieces_intercalate hne hnl, List.map_map]
  simp

/-! ## The letters of all rows -/

theorem sum_range_single (n j x : Nat) :
    ((List.range n).map fun i => if i = j then x else 0).sum = if j < n then x else 0 := by
  induction n with
  | zero => simp
  | succ n ih =>
    rw [List.range_succ, List.map_append, List.sum_append, ih, List.map_singleton,
      List.sum_singleton]
    by_cases hj : n = j
    · rw [if_pos hj, if_neg (by omega), if_pos (by omega), Nat.zero_add]
    · rw [if_neg hj, Nat.add_zero]
      by_cases hlt : j < n
      · rw [if_pos hlt, if_pos (by omega)]
      · rw [if_neg hlt, if_neg (by omega)]

/-- Going through the lines one by one meets every text, if no line is out of range. -/
theorem sum_count_textAt (c : Char) {ds : Decorations} {n : Nat} (hd : ds.lines.Nodup)
    (hl : ∀ l ∈ ds.lines, 0 < l ∧ l ≤ n) :
    ((List.range n).map fun i => (ds.textAt (i + 1)).toList.count c).sum = ds.letterCount c := by
  induction ds with
  | nil => simp [Decorations.textAt, Decorations.letterCount]
  | cons entry ds ih =>
    obtain ⟨l, text⟩ := entry
    rw [Decorations.lines_cons, List.nodup_cons] at hd
    have hl' : ∀ m ∈ Decorations.lines ds, 0 < m ∧ m ≤ n :=
      fun m hm => hl m (List.mem_cons_of_mem l hm)
    obtain ⟨hpos, hle⟩ := hl l List.mem_cons_self
    -- the new entry adds its letters on its own line, where nothing was
    have hsplit : ∀ i, (Decorations.textAt ((l, text) :: ds) (i + 1)).toList.count c =
        (if i = l - 1 then text.toList.count c else 0) +
          (Decorations.textAt ds (i + 1)).toList.count c := by
      intro i
      rw [Decorations.textAt_cons]
      by_cases hi : i + 1 = l
      · rw [if_pos hi, if_pos (by omega), hi, Decorations.textAt_of_not_mem hd.1]
        rfl
      · rw [if_neg hi, if_neg (by omega), Nat.zero_add]
    simp only [hsplit]
    rw [List.sum_map_add, ih hd.2 hl', sum_range_single, if_pos (by omega),
      Decorations.letterCount_cons]

/-- **The rows of a listing show all letters of its decorations**, if every line with a text is a
line of the source. -/
theorem sum_count_listingRows {source : String} {ds : Decorations} {c : Char} (hc : c ≠ ' ')
    (hd : ds.lines.Nodup) (hl : ∀ l ∈ ds.lines, 0 < l ∧ l ≤ (sourceLines source).length) :
    ((listingRows source ds).map fun row => (row.toList.take (columnWidth ds)).count c).sum =
      ds.letterCount c := by
  rw [← sum_count_textAt c hd hl]
  congr 1
  apply List.ext_getElem?
  intro i
  rw [List.getElem?_map, getElem?_listingRows, List.getElem?_map, Option.map_map]
  by_cases hi : i < (sourceLines source).length
  · rw [List.getElem?_eq_getElem hi, List.getElem?_range hi, Option.map_some, Option.map_some,
      Function.comp_apply, take_listingRow (length_textAt_le ds (i + 1)), List.count_append,
      List.count_replicate]
    have hblank : (' ' == c) = false := by simpa using fun h : ' ' = c => hc h.symm
    rw [hblank]
    rfl
  · rw [List.getElem?_eq_none (Nat.not_lt.mp hi), List.getElem?_eq_none (by simpa using hi)]
    rfl

end AbcMetric
