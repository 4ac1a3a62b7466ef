import AbcMetric.Proofs.Listings
import AbcMetric.Proofs.Totals

/-!
# Nothing counted is lost on its way to the listing

Line numbers come from counting newlines before an offset, rows from cutting the source at its
newlines. For a module that lies within its source the two agree, so every letter of a tally is
printed on a row.

* `OnRow source c`: the credit `c` is on a row of the listing if anything is counted, and unless it
  is for an alternative, on the row whose text holds the start of the node it is for.
* `Shows source t`: the printed rows are the lines of the source, each with its decoration, and show
  as many letters as the total of `t` counts.
* `listing_shows_all`: every credit of a module is `OnRow`, and every tally of it is shown.
-/

namespace AbcMetric

/-- Every construct of the module that has a place starts within the source. -/
def Within (source : String) (body : List Stmt) : Prop :=
  ∀ n ∈ occurrences body, ∀ o ∈ n.offset, o ≤ source.utf8ByteSize

instance (source : String) (body : List Stmt) : Decidable (Within source body) :=
  inferInstanceAs (Decidable (∀ n ∈ occurrences body, ∀ o ∈ n.offset, o ≤ source.utf8ByteSize))

/-- Where the vector of a credit is printed. -/
structure OnRow (source : String) (c : Credit) : Prop where
  /-- What is counted is on a line. -/
  counted : (c.vector (.ofSource source)).isNonzero = true →
    (c.vector (.ofSource source)).line.isSome = true
  /-- The line is one of the lines of the source. -/
  range : ∀ l, (c.vector (.ofSource source)).line = some l →
    1 ≤ l ∧ l ≤ (sourceLines source).length
  /-- Unless it is for an alternative, the line is the piece of the source with its origin. -/
  piece : c.isAlternative = false → ∀ l, (c.vector (.ofSource source)).line = some l →
    ∃ origin, (c.vector (.ofSource source)).origin = some origin ∧
      Holds source.toList (l - 1) origin.offset

/-- What the listing of a tally prints. -/
structure Shows (source : String) (t : Tally) : Prop where
  /-- One row for each line of the source. -/
  length : (sourceLines (annotate source t.sorted)).length = (sourceLines source).length
  /-- Row `i` shows line `i` and its decoration. -/
  row : ∀ i line, (sourceLines source)[i]? = some line →
    (sourceLines (annotate source t.sorted))[i]? =
      some (listingRow (columnWidth t.sorted) (t.sorted.textAt (i + 1)) line)
  /-- The column of decorations of row `i` holds the decoration of line `i` and blanks. -/
  column : ∀ i row, (sourceLines (annotate source t.sorted))[i]? = some row →
    row.toList.take (columnWidth t.sorted) = (t.sorted.textAt (i + 1)).toList ++
      List.replicate (columnWidth t.sorted - (t.sorted.textAt (i + 1)).length) ' '
  /-- The rows show as many letters as the total counts. -/
  letters : ∀ k, ((sourceLines (annotate source t.sorted)).map fun row =>
    (row.toList.take (columnWidth t.sorted)).count k.letter).sum = t.total.count k

/-! ## Credits on rows -/

theorem Node.Reach.mem_walk {body : List Stmt} {n m : Node} (h : n.Reach m)
    (hn : n ∈ walk body) : m ∈ walk body := by
  rcases h with rfl | h | ⟨child, hchild, h⟩
  · exact hn
  · exact mem_walk_of_child hn h
  · exact mem_walk_of_child (mem_walk_of_child hn hchild) h

theorem Credit.Sound.node_mem_walk {body : List Stmt} {n : Node} {c : Credit} (h : c.Sound n)
    (hn : n ∈ walk body) : c.node ∈ walk body := by
  rcases h with rfl | ⟨hr, -⟩
  · exact hn
  · exact hr.mem_walk hn

/-- **The line of a credit is a line of the source.** -/
theorem Credit.line_range {source : String} {c : Credit} {l : Nat}
    (h : c.line (.ofSource source) = some l) : 1 ≤ l ∧ l ≤ (sourceLines source).length := by
  cases hline : c.node.line (.ofSource source) with
  | none =>
    rw [line_of_no_line hline] at h
    exact absurd h (by simp)
  | some m =>
    obtain ⟨l', hl', hpos, hle⟩ := line_of_node hline (Node.line_pos hline)
    obtain rfl := Option.some.inj (h.symm.trans hl')
    obtain ⟨o, -, rfl⟩ := Option.map_eq_some_iff.mp hline
    exact ⟨hpos, Nat.le_trans hle (lineOf_le_length source o)⟩

/-- The line of a placed node is the piece that holds its start. -/
theorem Node.holds_line {source : String} {body : List Stmt} (h : Within source body) {n : Node}
    (hn : n ∈ walk body) {l : Nat} (hl : n.line (.ofSource source) = some l) :
    Holds source.toList (l - 1) (n.origin (.ofSource source)).offset := by
  obtain ⟨o, ho, rfl⟩ := Option.map_eq_some_iff.mp hl
  have hstart : (n.origin (.ofSource source)).offset = o := by
    show n.offset.getD 0 = o
    rw [ho]
    rfl
  rw [hstart]
  exact holds_lineOf (h n ((walk_perm_occurrences body).mem_iff.mp hn) o ho)

theorem Credit.isNonzero_vector_of_zero {lines : LineIndex} {c : Credit} (h : c.counters = .zero) :
    (c.vector lines).isNonzero = false := by
  have hv : c.vector lines =
      { AbcVector.zero with line := c.line lines, origin := some (c.node.origin lines) } := by
    rw [Credit.vector, h]
  rw [hv]
  rfl

/-- **Every credit of a module is on its row.** -/
theorem onRow_credit {source : String} {body : List Stmt} (h : Within source body) {n : Node}
    (hn : n ∈ walk body) {c : Credit} (hc : c ∈ n.credits) : OnRow source c where
  counted hnz := by
    rcases counters_eq_zero_or_line hc with hz | hs
    · exact absurd (Credit.isNonzero_vector_of_zero hz) (by rw [hnz]; simp)
    · exact hs
  range l hl := Credit.line_range hl
  piece ha l hl := by
    have hline : c.node.line (.ofSource source) = some l := by
      rw [← Credit.line_eq ha]
      exact hl
    exact ⟨_, rfl, Node.holds_line h ((sound_credits n c hc).node_mem_walk hn) hline⟩

/-! ## The listing of a tally -/

theorem newline_not_mem_letterRun (count : Counter → Nat) : '\n' ∉ letterRun count := by
  simp [letterRun]

section Shows

variable {source : String} {body : List Stmt} {t : Tally}

theorem mem_lines_sorted (ha : t.Accounts (contributions (.ofSource source) body)) {l : Nat}
    (h : l ∈ t.sorted.lines) : 1 ≤ l ∧ l ≤ (sourceLines source).length := by
  obtain ⟨s, hs⟩ := Decorations.mem_lines.mp h
  obtain ⟨⟨v, hv, hline⟩, -⟩ := (ha.entries l s).mp hs
  obtain ⟨c, -, rfl⟩ := List.mem_map.mp hv
  exact Credit.line_range hline

theorem newline_not_mem_sorted {vs : List AbcVector} (ha : t.Accounts vs) (l : Nat)
    (text : String) (h : (l, text) ∈ t.sorted) : '\n' ∉ text.toList := by
  obtain ⟨-, rfl⟩ := (ha.entries l text).mp h
  rw [Tally.lettersAt, String.toList_ofList]
  exact newline_not_mem_letterRun _

/-- **The listing of a tally of a module shows all of it.** -/
theorem shows_of_accounts (ha : t.Accounts (contributions (.ofSource source) body)) :
    Shows source t := by
  have hrows : sourceLines (annotate source t.sorted) = listingRows source t.sorted :=
    sourceLines_annotate (newline_not_mem_sorted ha)
  have hrow : ∀ i line, (sourceLines source)[i]? = some line →
      (sourceLines (annotate source t.sorted))[i]? =
        some (listingRow (columnWidth t.sorted) (t.sorted.textAt (i + 1)) line) := by
    intro i line hline
    rw [hrows, getElem?_listingRows, hline]
    rfl
  refine ⟨?_, hrow, ?_, fun k => ?_⟩
  · rw [hrows, length_listingRows]
  · intro i row h
    rw [hrows, getElem?_listingRows] at h
    obtain ⟨line, -, rfl⟩ := Option.map_eq_some_iff.mp h
    exact take_listingRow (length_textAt_le t.sorted (i + 1)) line
  · have hblank : k.letter ≠ ' ' := by cases k <;> decide
    rw [hrows, sum_count_listingRows hblank (ha.ascending.imp Nat.ne_of_lt)
      fun l hl => mem_lines_sorted ha hl]
    exact ha.letters k

end Shows

/-- **Nothing counted is lost on its way to the listing.** For a module within its source no node
fails to be classified and every vector is on its row. If what is counted fits the counters, the
listing of the tally shows each line with its decoration, and in all rows together the letters of
the total; if it does not fit, there is no tally. -/
theorem listing_shows_all (source : String) (body : List Stmt) (h : Within source body) :
    (∀ n ∈ walk body,
      classify (.ofSource source) n = .ok (n.credits.map (Credit.vector (.ofSource source))) ∧
        ∀ c ∈ n.credits, OnRow source c) ∧
      ((∀ k, constructCount k (occurrences body) < UInt32.size) →
        ∃ t, tally (.ofSource source) body = .ok t ∧ Shows source t) ∧
      ((∃ k, UInt32.size ≤ constructCount k (occurrences body)) →
        tally (.ofSource source) body = .error .overflow) := by
  refine ⟨fun n hn => ⟨classify_eq _ n, fun c hc => onRow_credit h hn hc⟩, ?_, ?_⟩
  · intro hfit
    obtain ⟨t, ht, ha, -⟩ := tally_ok_of_count (.ofSource source) hfit
    exact ⟨t, ht, shows_of_accounts ha⟩
  · rintro ⟨k, hk⟩
    exact tally_overflow_of_count _ hk

/-- A call in each branch of a conditional over four lines. -/
theorem listing_shows_all_conditional :
    let call (start : Nat) : Stmt := .expr ⟨start, start + 3⟩
      (.call ⟨start, start + 3⟩ (.name ⟨start, start + 1⟩ "f" .load) [] [])
    let body := [.ifElse ⟨0, 23⟩ (.name ⟨3, 4⟩ "x" .load) [call 8] [call 20]]
    ∃ t, tally (.ofSource "if x:\n  f()\nelse:\n  f()") body = .ok t ∧
      Shows "if x:\n  f()\nelse:\n  f()" t := by
  intro call body
  obtain ⟨-, hok, -⟩ := listing_shows_all "if x:\n  f()\nelse:\n  f()" body (by decide)
  exact hok (by intro k; cases k <;> decide)

end AbcMetric
