import AbcMetric.Proofs.Listings
import Mathlib.Data.List.DropRight

/-!
# The columns of a listing

Every row of a listing has the same layout: a column of decorations, a bar, the line of the source.
The column is as wide as the longest decoration counts in bytes, and a text has at most as many
characters as bytes, so padding by characters always fits.

* `Decorations.Widest`: what the width of the column is.
* `ShowsLine`: what stands where in a row, in characters. `showsLine_listingRow` is one row.
* `cutRow`, `trimLines`: a listing without its column of decorations is the source, but for blanks
  at the ends of lines.
* `annotate_columns`: all rows together.
-/

namespace AbcMetric

/-! ## The width of the column -/

/-- `width` is the greatest number of bytes of a text, and zero if there is no text. -/
structure Decorations.Widest (ds : Decorations) (width : Nat) : Prop where
  bound : ∀ entry ∈ ds, entry.2.utf8ByteSize ≤ width
  reached : width = 0 ∨ ∃ entry ∈ ds, entry.2.utf8ByteSize = width

theorem foldl_max_reached (ns : List Nat) (m : Nat) :
    ns.foldl max m = m ∨ ns.foldl max m ∈ ns := by
  induction ns generalizing m with
  | nil => exact Or.inl rfl
  | cons n ns ih =>
    rw [List.foldl_cons]
    rcases ih (max m n) with h | h
    · rw [h]
      rcases Nat.le_total m n with hle | hle
      · rw [Nat.max_eq_right hle]
        exact Or.inr List.mem_cons_self
      · exact Or.inl (Nat.max_eq_left hle)
    · exact Or.inr (List.mem_cons_of_mem n h)

theorem widest_columnWidth (ds : Decorations) : ds.Widest (columnWidth ds) where
  bound _ hentry := (le_foldl_max _ 0).2 _ (List.mem_map_of_mem (f := (·.2.utf8ByteSize)) hentry)
  reached := (foldl_max_reached _ 0).imp_right List.mem_map.mp

/-! ## One row -/

/-- What stands where in a row, in characters: the text of the line and blanks in the first `width`
of them, a bar between blanks, then the line and blanks up to the width of a listing. -/
structure ShowsLine (width : Nat) (text line row : String) : Prop where
  decoration : ∃ n, row.toList.take width = text.toList ++ List.replicate n ' '
  bar : (row.toList.drop width).take 3 = " | ".toList
  source : ∃ n, row.toList.drop (width + 3) = line.toList ++ List.replicate n ' '
  length : row.length = width + 3 + max line.length (88 - (width + 3))

theorem length_padRight (width : Nat) (text : String) :
    (padRight width text).length = max text.length width := by
  rw [← String.length_toList, toList_padRight, List.length_append, List.length_replicate,
    String.length_toList]
  omega

/-- **A row shows its line**, if its text fits the column. -/
theorem showsLine_listingRow {width : Nat} {text : String} (h : text.length ≤ width)
    (line : String) : ShowsLine width text line (listingRow width text line) := by
  have hcolumn : (padRight width text).toList.length = width := by
    rw [String.length_toList, length_padRight, Nat.max_eq_right h]
  have hrow : (listingRow width text line).toList =
      (padRight width text).toList ++
        (" | ".toList ++ (padRight (listingWidth - (width + 3)) line).toList) := by
    rw [listingRow, String.toList_append, String.toList_append, List.append_assoc]
  have hdrop : (listingRow width text line).toList.drop width =
      " | ".toList ++ (padRight (listingWidth - (width + 3)) line).toList := by
    rw [hrow, List.drop_left' hcolumn]
  have hbar : " | ".toList.length = 3 := rfl
  refine ⟨⟨_, take_listingRow h line⟩, ?_, ?_, ?_⟩
  · rw [hdrop, List.take_left' hbar]
  · rw [← List.drop_drop, hdrop, List.drop_left' hbar, toList_padRight]
    exact ⟨_, rfl⟩
  · rw [← String.length_toList, hrow, List.length_append, List.length_append, hcolumn,
      String.length_toList, String.length_toList, length_padRight]
    exact (Nat.add_assoc width 3 _).symm

/-! ## Cutting the column off -/

/-- A row without its first characters and the blanks at its end. -/
def cutRow (n : Nat) (row : String) : String :=
  String.ofList ((row.toList.drop n).rdropWhile (· = ' '))

/-- A text without the blanks at the ends of its lines. -/
def trimLines (text : String) : String :=
  String.intercalate "\n" ((sourceLines text).map (cutRow 0))

theorem rdropWhile_append_blanks (text : List Char) (n : Nat) :
    (text ++ List.replicate n ' ').rdropWhile (· = ' ') = text.rdropWhile (· = ' ') := by
  induction n with
  | zero => rw [List.replicate_zero, List.append_nil]
  | succ n ih =>
    rw [List.replicate_succ', ← List.append_assoc, List.rdropWhile_concat_pos _ _ _ (by simp), ih]

theorem ShowsLine.cutRow_eq {width : Nat} {text line row : String}
    (h : ShowsLine width text line row) : cutRow (width + 3) row = cutRow 0 line := by
  obtain ⟨n, hsource⟩ := h.source
  rw [cutRow, hsource, rdropWhile_append_blanks]
  rfl

/-- Rows without the column of decorations are the lines of the source without blanks at their
ends. -/
theorem map_cutRow_listingRows (source : String) (ds : Decorations) :
    (listingRows source ds).map (cutRow (columnWidth ds + 3)) =
      (sourceLines source).map (cutRow 0) := by
  apply List.ext_getElem?
  intro i
  rw [List.getElem?_map, getElem?_listingRows, Option.map_map, List.getElem?_map]
  refine Option.map_congr fun line _ => ?_
  exact (showsLine_listingRow (length_textAt_le ds (i + 1)) line).cutRow_eq

/-- A text none of whose lines ends in a blank has none to lose. -/
theorem trimLines_of_no_blank {text : String}
    (h : ∀ line ∈ sourceLines text, line.toList.getLast? ≠ some ' ') : trimLines text = text := by
  have hkeep : (sourceLines text).map (cutRow 0) = sourceLines text := by
    refine (List.map_congr_left fun line hline => ?_).trans (List.map_id _)
    have hself : line.toList.rdropWhile (· = ' ') = line.toList := by
      rw [List.rdropWhile_eq_self_iff]
      intro hne hblank
      apply h line hline
      rw [List.getLast?_eq_some_getLast hne, of_decide_eq_true hblank]
    rw [cutRow, List.drop_zero, hself, String.ofList_toList]
    rfl
  rw [trimLines, hkeep, intercalate_sourceLines]

/-! ## Main result -/

/-- **A listing shows the source line by line in fixed columns.** For decorations without newlines,
it has a row for every line, and in every row the column of decorations is as wide as the longest of
them counts in bytes. Cutting that column, the bar and the blanks at the end off every row gives the
source back up to blanks at the ends of its lines, and the source itself if it has none there. -/
theorem annotate_columns (source : String) (ds : Decorations)
    (h : ∀ l text, (l, text) ∈ ds → '\n' ∉ text.toList) :
    ∃ width, ds.Widest width ∧
      (sourceLines (annotate source ds)).length = (sourceLines source).length ∧
      (∀ i line, (sourceLines source)[i]? = some line →
        ∃ row, (sourceLines (annotate source ds))[i]? = some row ∧
          ShowsLine width (ds.textAt (i + 1)) line row) ∧
      String.intercalate "\n" ((sourceLines (annotate source ds)).map (cutRow (width + 3))) =
        trimLines source ∧
      ((∀ line ∈ sourceLines source, line.toList.getLast? ≠ some ' ') →
        trimLines source = source) := by
  rw [sourceLines_annotate h]
  refine ⟨columnWidth ds, widest_columnWidth ds, length_listingRows source ds, ?_, ?_, ?_⟩
  · intro i line hline
    refine ⟨listingRow (columnWidth ds) (ds.textAt (i + 1)) line, ?_, ?_⟩
    · rw [getElem?_listingRows, hline]
      rfl
    · exact showsLine_listingRow (length_textAt_le ds (i + 1)) line
  · rw [map_cutRow_listingRows, trimLines]
  · exact trimLines_of_no_blank

/-- A text of two bytes and one character, and one for a line that is not there. -/
theorem annotate_columns_absent :
    let ds : Decorations := [(1, "é"), (9, "abc")]
    ∃ row, (sourceLines (annotate "x = 1 \n" ds))[0]? = some row ∧ ShowsLine 3 "é" "x = 1 " row ∧
      (sourceLines (annotate "x = 1 \n" ds)).length = 2 := by
  intro ds
  have hplain : ∀ entry ∈ ds, '\n' ∉ entry.2.toList := by decide
  obtain ⟨width, hwidest, hlength, hrows, -⟩ :=
    annotate_columns "x = 1 \n" ds fun l text hmem => hplain (l, text) hmem
  obtain rfl : width = 3 := by
    have hbound := hwidest.bound (9, "abc") (by decide)
    rcases hwidest.reached with rfl | ⟨entry, hentry, rfl⟩
    · exact absurd hbound (by decide)
    · simp only [ds, List.mem_cons, List.not_mem_nil, or_false] at hentry
      rcases hentry with rfl | rfl
      · exact absurd hbound (by decide)
      · rfl
  obtain ⟨row, hrow, hshows⟩ := hrows 0 "x = 1 " (by decide)
  exact ⟨row, hrow, hshows, hlength⟩

end AbcMetric
