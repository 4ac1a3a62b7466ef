import AbcMetric.Proofs.Columns
import AbcMetric.Proofs.JsonPrinter
import AbcMetric.Proofs.MagnitudeRange
import AbcMetric.Report.Table

/-!
# The rows of a report's table

A row is a path, a blank and an outcome. The column of paths is as wide as the longest path, so the
outcomes all begin behind the same character. The column of outcomes has a fixed width instead. A
marker for a file without a metric fits it, but a vector with its magnitude may be longer, and then
the row is longer than the others and its outcome ends further to the right.

* `FileResult.wording` is what a row says about the outcome, and `AbcVector.digits` measures it:
  `fits_iff` says which vectors fit.
* `ShowsResult`: what stands where in a row. `showsResult_row` is one row.
* `rows_aligned_iff`: which tables are aligned.
* `long_outcome_breaks_alignment`: a table that is not.
-/

namespace AbcMetric

/-! ## The wording of an outcome -/

/-- The outcome of a file, without the blanks before it. -/
def FileResult.wording (f : FileResult) : String :=
  match f.status with
  | .analyzed v => v.textWithMagnitude
  | .unparseable _ => "Unable to parse AST"
  | .unreadable _ => "Unable to read file"

/-- The number of decimal digits. -/
def digitCount (n : Nat) : Nat := (Nat.toDigits 10 n).length

/-- The digits of the counters and of the whole part of the magnitude. -/
def AbcVector.digits (v : AbcVector) : Nat :=
  digitCount v.assignment.toNat + digitCount v.branch.toNat + digitCount v.condition.toNat +
    digitCount (v.tenths / 10)

theorem AbcVector.toList_textWithMagnitude (v : AbcVector) :
    v.textWithMagnitude.toList =
      '<' :: Nat.toDigits 10 v.assignment.toNat ++ ',' :: ' ' :: Nat.toDigits 10 v.branch.toNat ++
        ',' :: ' ' :: Nat.toDigits 10 v.condition.toNat ++
        '>' :: ' ' :: '(' :: Nat.toDigits 10 (v.tenths / 10) ++
        '.' :: Nat.toDigits 10 (v.tenths % 10) ++ [')'] := by
  show (v.text ++ " (" ++ tenthsText v.tenths ++ ")").toList = _
  have htext : v.text.toList = '<' :: Nat.toDigits 10 v.assignment.toNat ++
      ',' :: ' ' :: Nat.toDigits 10 v.branch.toNat ++
        ',' :: ' ' :: Nat.toDigits 10 v.condition.toNat ++ ['>'] := by
    show ("<" ++ toString v.assignment.toNat ++ ", " ++ toString v.branch.toNat ++ ", " ++
      toString v.condition.toNat ++ ">").toList = _
    simp [String.toList_append]
  simp [String.toList_append, htext, toList_tenthsText]

theorem digitCount_of_lt_ten {n : Nat} (h : n < 10) : digitCount n = 1 := by
  rw [digitCount, Nat.toDigits_of_lt_base h]
  rfl

theorem AbcVector.length_textWithMagnitude (v : AbcVector) :
    v.textWithMagnitude.length = v.digits + 11 := by
  have htenth := digitCount_of_lt_ten (Nat.mod_lt v.tenths (by decide : 0 < 10))
  rw [← String.length_toList, toList_textWithMagnitude]
  simp only [List.length_append, List.length_cons, List.length_nil, digits, digitCount] at *
  omega

/-- **With counters of at most `d` digits and a whole part of at most `e`**, so many digits are
written. -/
theorem AbcVector.digits_le {v : AbcVector} {d e : Nat} (hd : 0 < d) (he : 0 < e)
    (hcounts : ∀ k, v.count k < pow10 d) (hwhole : v.tenths / 10 < pow10 e) :
    v.digits ≤ 3 * d + e := by
  have hcount : ∀ k, digitCount (v.count k) ≤ d := fun k =>
    (Nat.length_toDigits_le_iff (by decide) hd).mpr (hcounts k)
  have ha := hcount .assignment
  have hb := hcount .branch
  have hc := hcount .condition
  have hw : digitCount (v.tenths / 10) ≤ e :=
    (Nat.length_toDigits_le_iff (by decide) he).mpr hwhole
  simp only [digits, count] at *
  omega

/-- No vector has more than forty digits. -/
theorem AbcVector.digits_le_forty (v : AbcVector) : v.digits ≤ 40 := by
  have hcount : ∀ k, v.count k < pow2 32 := fun k => v.count_lt k
  have hwhole := whole_le (by decide) hcount
  refine digits_le (d := 10) (e := 10) (by decide) (by decide) (fun k => ?_) ?_
  · exact Nat.lt_trans (hcount k) (by decide)
  · exact Nat.lt_of_le_of_lt hwhole (by decide)

/-- A vector with counters below a thousand has at most thirteen digits. -/
theorem AbcVector.digits_le_of_small {v : AbcVector} (h : ∀ k, v.count k < 1000) :
    v.digits ≤ 13 := by
  have hcount : ∀ k, v.count k < pow2 10 := fun k => Nat.lt_trans (h k) (by decide)
  have hwhole := whole_le (by decide) hcount
  exact digits_le (d := 3) (e := 4) (by decide) (by decide) h
    (Nat.lt_of_le_of_lt hwhole (by decide))

/-! ## Outcomes that fit their column -/

/-- The wording of the outcome is no longer than the column is wide. -/
def FileResult.Fits (f : FileResult) : Prop := f.wording.length ≤ outcomeWidth

/-- **The markers fit, and a vector fits if it has at most fifteen digits.** -/
theorem FileResult.fits_iff (f : FileResult) : f.Fits ↔ ∀ v ∈ f.vector?, v.digits ≤ 15 := by
  unfold Fits outcomeWidth
  obtain ⟨path, status, listing, debug⟩ := f
  cases status with
  | analyzed v =>
    show v.textWithMagnitude.length ≤ 26 ↔ ∀ w ∈ some v, w.digits ≤ 15
    rw [v.length_textWithMagnitude]
    simp only [Option.mem_some_iff, forall_eq']
    omega
  | unparseable reason =>
    exact iff_of_true (by decide : "Unable to parse AST".length ≤ 26) (by simp [vector?])
  | unreadable reason =>
    exact iff_of_true (by decide : "Unable to read file".length ≤ 26) (by simp [vector?])

theorem FileResult.length_wording_le (f : FileResult) : f.wording.length ≤ 51 := by
  unfold wording
  split
  · rename_i v hstatus
    have := v.digits_le_forty
    rw [v.length_textWithMagnitude]
    omega
  · decide
  · decide

/-! ## One row -/

theorem toList_padLeft (width : Nat) (text : String) :
    (padLeft width text).toList = List.replicate (width - text.length) ' ' ++ text.toList := by
  rw [padLeft, String.toList_append, String.toList_ofList]

theorem length_padLeft (width : Nat) (text : String) :
    (padLeft width text).length = max text.length width := by
  rw [← String.length_toList, toList_padLeft, List.length_append, List.length_replicate,
    String.length_toList]
  omega

theorem FileResult.outcome_plain (f : FileResult) :
    f.outcome false = padLeft outcomeWidth f.wording := by
  obtain ⟨path, status, listing, debug⟩ := f
  cases status <;> rfl

/-- What stands where in a row, in characters: the path and blanks in the first `width` of them, a
blank, then blanks and the wording of the outcome, which ends the row. -/
structure ShowsResult (width : Nat) (f : FileResult) (row : String) : Prop where
  path : ∃ n, row.toList.take width = f.path.toList ++ List.replicate n ' '
  gap : (row.toList.drop width).take 1 = [' ']
  outcome : ∃ n, row.toList.drop (width + 1) = List.replicate n ' ' ++ f.wording.toList
  length : row.length = width + 1 + max f.wording.length outcomeWidth

/-- **A row shows its file**, if its path fits the column of paths. -/
theorem showsResult_row {width : Nat} {f : FileResult} (h : f.path.length ≤ width) :
    ShowsResult width f (f.row false width) := by
  have hcolumn : (padRight width f.path).toList.length = width := by
    rw [String.length_toList, length_padRight, Nat.max_eq_right h]
  have hrow : (f.row false width).toList =
      (padRight width f.path).toList ++ ' ' :: (padLeft outcomeWidth f.wording).toList := by
    rw [FileResult.row, f.outcome_plain, String.toList_append, String.toList_append,
      List.append_assoc]
    rfl
  have hdrop : (f.row false width).toList.drop width =
      ' ' :: (padLeft outcomeWidth f.wording).toList := by
    rw [hrow, List.drop_left' hcolumn]
  refine ⟨⟨width - f.path.length, ?_⟩, ?_, ⟨outcomeWidth - f.wording.length, ?_⟩, ?_⟩
  · rw [hrow, List.take_left' hcolumn, toList_padRight]
  · rw [hdrop]
    rfl
  · rw [← List.drop_drop, hdrop, List.drop_one, List.tail_cons, toList_padLeft]
  · rw [← String.length_toList, hrow, List.length_append, List.length_cons, hcolumn,
      String.length_toList, length_padLeft]
    omega

/-! ## All rows -/

/-- `width` is the greatest number of characters of a path, and zero if there is no file. -/
structure Report.LongestPath (r : Report) (width : Nat) : Prop where
  bound : ∀ f ∈ r.files, f.path.length ≤ width
  reached : width = 0 ∨ ∃ f ∈ r.files, f.path.length = width

theorem longestPath_pathWidth (r : Report) : r.LongestPath r.pathWidth where
  bound _ hf := (le_foldl_max _ 0).2 _ (List.mem_map_of_mem (f := (·.path.length)) hf)
  reached := (foldl_max_reached _ 0).imp_right List.mem_map.mp

/-- All texts have the same number of characters. -/
def Aligned (rows : List String) : Prop :=
  ∀ row ∈ rows, ∀ other ∈ rows, row.length = other.length

section Rows

variable (r : Report)

theorem showsResult_of_mem {f : FileResult} (hf : f ∈ r.files) :
    ShowsResult r.pathWidth f (f.row false r.pathWidth) :=
  showsResult_row ((longestPath_pathWidth r).bound f hf)

theorem forall_mem_rows {p : String → Prop} (color : Bool) :
    (∀ row ∈ r.rows color, p row) ↔ ∀ f ∈ r.files, p (f.row color r.pathWidth) :=
  List.forall_mem_map

/-- Rows have the same length iff their wordings need the same room. -/
theorem aligned_rows_iff : Aligned (r.rows false) ↔
    ∀ f ∈ r.files, ∀ g ∈ r.files,
      max f.wording.length outcomeWidth = max g.wording.length outcomeWidth := by
  unfold Aligned
  rw [forall_mem_rows]
  refine forall_congr' fun f => forall_congr' fun hf => ?_
  rw [forall_mem_rows]
  refine forall_congr' fun g => forall_congr' fun hg => ?_
  rw [(showsResult_of_mem r hf).length, (showsResult_of_mem r hg).length]
  omega

/-- **A table is aligned iff every outcome fits its column or they are all equally long.** -/
theorem aligned_rows_iff_fits : Aligned (r.rows false) ↔ (∀ f ∈ r.files, f.Fits) ∨
    ∀ f ∈ r.files, ∀ g ∈ r.files, f.wording.length = g.wording.length := by
  rw [aligned_rows_iff]
  unfold FileResult.Fits
  constructor
  · intro h
    by_cases hfits : ∀ f ∈ r.files, f.wording.length ≤ outcomeWidth
    · exact Or.inl hfits
    · -- a file that does not fit forces its own length on all the others
      refine Or.inr ?_
      obtain ⟨long, hmem, hlong⟩ : ∃ f ∈ r.files, ¬ f.wording.length ≤ outcomeWidth := by
        simpa using hfits
      intro f hf g hg
      have hleft := h f hf long hmem
      have hright := h g hg long hmem
      omega
  · rintro (hfits | hequal) f hf g hg
    · rw [Nat.max_eq_right (hfits f hf), Nat.max_eq_right (hfits g hg)]
    · rw [hequal f hf g hg]

theorem length_row_of_fits {f : FileResult} (hf : f ∈ r.files) (h : f.Fits) :
    (f.row false r.pathWidth).length = r.pathWidth + 27 := by
  rw [(showsResult_of_mem r hf).length, Nat.max_eq_right h]
  rfl

end Rows

/-! ## Main result -/

/-- **Which tables are aligned.** The text of a report ends in one row for each file, in order. A
row is the path in a column as wide as the longest path, a blank, and the wording of the outcome
aligned to the right in 26 characters or, if it is longer, in as many as it has. So the rows are
aligned iff every outcome fits 26 characters or all outcomes are equally long. The markers fit; a
vector fits iff its counters and the whole part of its magnitude have at most fifteen digits, and
with counters below a thousand all rows have the same length. No row is more than 25 characters
longer. -/
theorem rows_aligned_iff (r : Report) :
    ∃ width, r.LongestPath width ∧
      (∃ blocks, r.text false = blocks ++ String.join ((r.rows false).map (· ++ "\n"))) ∧
      (r.rows false).length = r.files.length ∧
      (∀ (i : Nat) (f : FileResult), r.files[i]? = some f →
        ∃ row, (r.rows false)[i]? = some row ∧ ShowsResult width f row) ∧
      (Aligned (r.rows false) ↔ (∀ f ∈ r.files, f.Fits) ∨
        ∀ f ∈ r.files, ∀ g ∈ r.files, f.wording.length = g.wording.length) ∧
      (∀ f ∈ r.files, f.Fits ↔ ∀ v ∈ f.vector?, v.digits ≤ 15) ∧
      ((∀ f ∈ r.files, ∀ v ∈ f.vector?, ∀ k, v.count k < 1000) →
        ∀ row ∈ r.rows false, row.length = width + 27) ∧
      ∀ row ∈ r.rows false, row.length ≤ width + 27 + 25 := by
  refine ⟨r.pathWidth, longestPath_pathWidth r, ⟨_, rfl⟩, List.length_map _, ?_,
    aligned_rows_iff_fits r, fun f _ => f.fits_iff, ?_, ?_⟩
  · intro i f hf
    refine ⟨f.row false r.pathWidth, ?_, showsResult_of_mem r (List.mem_of_getElem? hf)⟩
    rw [Report.rows, List.getElem?_map, hf]
    rfl
  · intro hsmall
    rw [forall_mem_rows]
    intro f hf
    refine length_row_of_fits r hf (f.fits_iff.mpr fun v hv => ?_)
    exact Nat.le_trans (AbcVector.digits_le_of_small (hsmall f hf v hv)) (by decide)
  · rw [forall_mem_rows]
    intro f hf
    have := f.length_wording_le
    rw [(showsResult_of_mem r hf).length, outcomeWidth]
    omega

/-- **A long outcome breaks the alignment.** A thousand assignments, branches and conditions are
written in 27 characters, so the row of such a file is longer than that of a file that cannot be
parsed. -/
theorem long_outcome_breaks_alignment :
    ∃ r, Report.ofFiles [⟨"a.py", .analyzed (.ofCounts 1000 1000 1000), none, none⟩,
        .ofFault "b.py" (.unparseable "b.py" "x")] = .ok r ∧
      (r.rows false).map String.length = [32, 31] ∧ ¬ Aligned (r.rows false) := by
  refine ⟨_, rfl, ?_, ?_⟩
  · decide +kernel
  · intro haligned
    have h := haligned _ List.mem_cons_self _ (List.mem_cons_of_mem _ List.mem_cons_self)
    exact absurd h (by decide +kernel)

end AbcMetric
