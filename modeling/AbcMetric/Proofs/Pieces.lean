import AbcMetric.Source.Lines
import Mathlib.Algebra.GroupWithZero.Nat

/-!
# Line numbers and pieces of a source

The line of a byte offset is found by counting newlines; a listing cuts the source at the newlines.
Both speak of the same lines.

* `length_pieces`: a text has one piece more than newlines.
* `Holds text i o`: the byte at `o` lies in piece `i`, or is what ends it.
* `holds_lineOf`: the line of an offset within the source, counted from one, is the piece that holds
  the offset.
* `pieces_intercalate`: texts without newlines, joined by newlines, are cut into the same texts.
  `intercalate_pieces`: the pieces of a text make it up again.
-/

namespace AbcMetric

/-- The bytes of a text. -/
def byteCount (text : List Char) : Nat := (text.map Char.utf8Size).sum

@[simp]
theorem byteCount_nil : byteCount [] = 0 := rfl

@[simp]
theorem byteCount_cons (c : Char) (text : List Char) :
    byteCount (c :: text) = c.utf8Size + byteCount text := by
  simp [byteCount]

theorem utf8ByteSize_ofList (text : List Char) :
    (String.ofList text).utf8ByteSize = byteCount text := by
  induction text with
  | nil => rfl
  | cons c text ih =>
    rw [String.ofList_cons, String.utf8ByteSize_append, String.utf8ByteSize_singleton, ih,
      byteCount_cons]

theorem byteCount_toList (s : String) : byteCount s.toList = s.utf8ByteSize := by
  rw [← utf8ByteSize_ofList, String.ofList_toList]

/-! ## Cutting a text into pieces -/

theorem pieces_newline (text : List Char) : pieces ('\n' :: text) = [] :: pieces text := rfl

theorem pieces_ne_nil (text : List Char) : pieces text ≠ [] := by
  induction text with
  | nil => simp [pieces]
  | cons c text ih =>
    show cutAt c (pieces text) ≠ []
    unfold cutAt
    split
    · simp
    · split <;> simp

/-- A character that is no newline joins the first piece. -/
theorem pieces_other {c : Char} (hc : c ≠ '\n') (text : List Char) :
    ∃ first rest, pieces text = first :: rest ∧ pieces (c :: text) = (c :: first) :: rest := by
  cases h : pieces text with
  | nil => exact absurd h (pieces_ne_nil text)
  | cons first rest =>
    refine ⟨first, rest, rfl, ?_⟩
    show cutAt c (pieces text) = _
    rw [h, cutAt, if_neg hc]

/-- **A text has one piece more than newlines.** -/
theorem length_pieces (offset : Nat) (text : List Char) :
    (pieces text).length = (newlineOffsets offset text).length + 1 := by
  induction text generalizing offset with
  | nil => rfl
  | cons c text ih =>
    by_cases hc : c = '\n'
    · subst hc
      rw [pieces_newline, List.length_cons, ih (offset + 1), newlineOffsets, if_pos rfl,
        List.length_cons]
    · obtain ⟨first, rest, hp, hp'⟩ := pieces_other hc text
      have := ih (offset + c.utf8Size)
      rw [hp, List.length_cons] at this
      rw [hp', List.length_cons, this, newlineOffsets, if_neg hc]

/-- No piece holds a newline. -/
theorem newline_not_mem_of_mem_pieces {text p : List Char} (h : p ∈ pieces text) : '\n' ∉ p := by
  induction text generalizing p with
  | nil =>
    obtain rfl := List.mem_singleton.mp h
    exact List.not_mem_nil
  | cons c text ih =>
    by_cases hc : c = '\n'
    · subst hc
      rw [pieces_newline] at h
      rcases List.mem_cons.mp h with rfl | h
      · exact List.not_mem_nil
      · exact ih h
    · obtain ⟨first, rest, hp, hp'⟩ := pieces_other hc text
      rw [hp'] at h
      rw [hp] at ih
      rcases List.mem_cons.mp h with rfl | h
      · intro hmem
        rcases List.mem_cons.mp hmem with heq | hmem
        · exact hc heq.symm
        · exact ih List.mem_cons_self hmem
      · exact ih (List.mem_cons_of_mem first h)

theorem pieces_of_not_mem {text : List Char} (h : '\n' ∉ text) : pieces text = [text] := by
  induction text with
  | nil => rfl
  | cons c text ih =>
    rw [List.mem_cons, not_or] at h
    obtain ⟨first, rest, hp, hp'⟩ := pieces_other (fun hc => h.1 hc.symm) text
    rw [ih h.2] at hp
    obtain ⟨rfl, rfl⟩ := List.cons.inj hp
    exact hp'

theorem pieces_append_newline {text : List Char} (h : '\n' ∉ text) (rest : List Char) :
    pieces (text ++ '\n' :: rest) = text :: pieces rest := by
  induction text with
  | nil => exact pieces_newline rest
  | cons c text ih =>
    rw [List.mem_cons, not_or] at h
    obtain ⟨first, tail, hp, hp'⟩ := pieces_other (fun hc => h.1 hc.symm) (text ++ '\n' :: rest)
    rw [ih h.2] at hp
    obtain ⟨rfl, rfl⟩ := List.cons.inj hp
    exact hp'

/-- **Texts without newlines, joined by newlines, are cut into the same texts.** -/
theorem pieces_intercalate {texts : List (List Char)} (hne : texts ≠ [])
    (h : ∀ text ∈ texts, '\n' ∉ text) : pieces (['\n'].intercalate texts) = texts := by
  induction texts with
  | nil => exact absurd rfl hne
  | cons text texts ih =>
    have htext := h text List.mem_cons_self
    cases texts with
    | nil =>
      rw [List.intercalate_singleton]
      exact pieces_of_not_mem htext
    | cons next texts =>
      rw [List.intercalate_cons_cons, List.append_assoc, List.singleton_append,
        pieces_append_newline htext,
        ih (List.cons_ne_nil _ _) fun t ht => h t (List.mem_cons_of_mem text ht)]

/-- **The pieces of a text, joined by newlines, are the text.** -/
theorem intercalate_pieces (text : List Char) : ['\n'].intercalate (pieces text) = text := by
  induction text with
  | nil => rfl
  | cons c text ih =>
    by_cases hc : c = '\n'
    · subst hc
      obtain ⟨first, rest, hp⟩ := List.exists_cons_of_ne_nil (pieces_ne_nil text)
      rw [pieces_newline, hp, List.intercalate_cons_cons, ← hp, ih]
      rfl
    · obtain ⟨first, rest, hp, hp'⟩ := pieces_other hc text
      rw [hp] at ih
      rw [hp', ← ih]
      cases rest with
      | nil => rw [List.intercalate_singleton, List.intercalate_singleton]
      | cons next rest => rw [List.intercalate_cons_cons, List.intercalate_cons_cons]; rfl

/-! ## The piece that holds an offset -/

/-- Where piece `i` begins: behind the pieces before it and the newline after each of them. -/
def pieceStart (ps : List (List Char)) (i : Nat) : Nat :=
  ((ps.take i).map fun p => byteCount p + 1).sum

/-- The byte at `o` lies in piece `i` of the text, or is the newline or the end right behind it. -/
def Holds (text : List Char) (i o : Nat) : Prop :=
  ∃ p, (pieces text)[i]? = some p ∧ pieceStart (pieces text) i ≤ o ∧
    o ≤ pieceStart (pieces text) i + byteCount p

@[simp]
theorem pieceStart_zero (ps : List (List Char)) : pieceStart ps 0 = 0 := by
  simp [pieceStart]

@[simp]
theorem pieceStart_cons_succ (p : List Char) (ps : List (List Char)) (i : Nat) :
    pieceStart (p :: ps) (i + 1) = byteCount p + 1 + pieceStart ps i := by
  simp [pieceStart]

theorem holds_newline_zero (text : List Char) : Holds ('\n' :: text) 0 0 :=
  ⟨[], rfl, by simp, by simp⟩

theorem Holds.newline_succ {text : List Char} {i o : Nat} (h : Holds text i o) :
    Holds ('\n' :: text) (i + 1) (o + 1) := by
  obtain ⟨p, hp, hle, hge⟩ := h
  refine ⟨p, by rw [pieces_newline, List.getElem?_cons_succ, hp], ?_, ?_⟩
  · rw [pieces_newline, pieceStart_cons_succ, byteCount_nil]
    omega
  · rw [pieces_newline, pieceStart_cons_succ, byteCount_nil]
    omega

/-- An offset before the second character lies in the first piece. -/
theorem holds_other_zero {c : Char} (hc : c ≠ '\n') (text : List Char) {o : Nat}
    (ho : o ≤ c.utf8Size) : Holds (c :: text) 0 o := by
  obtain ⟨first, rest, -, hp'⟩ := pieces_other hc text
  refine ⟨c :: first, by rw [hp']; rfl, by simp, ?_⟩
  rw [pieceStart_zero, byteCount_cons]
  omega

theorem Holds.other {c : Char} (hc : c ≠ '\n') {text : List Char} {i o : Nat}
    (h : Holds text i o) : Holds (c :: text) i (o + c.utf8Size) := by
  obtain ⟨first, rest, hp, hp'⟩ := pieces_other hc text
  obtain ⟨p, hget, hle, hge⟩ := h
  rw [hp] at hget hle hge
  cases i with
  | zero =>
    obtain rfl := Option.some.inj hget
    refine ⟨c :: first, by rw [hp']; rfl, by simp, ?_⟩
    rw [pieceStart_zero] at hge ⊢
    rw [byteCount_cons]
    omega
  | succ i =>
    refine ⟨p, by rw [hp']; exact hget, ?_, ?_⟩
    · rw [pieceStart_cons_succ] at hle
      rw [hp', pieceStart_cons_succ, byteCount_cons]
      omega
    · rw [pieceStart_cons_succ] at hge
      rw [hp', pieceStart_cons_succ, byteCount_cons]
      omega

/-- No newline of a text stands before the text. -/
theorem countP_newlineOffsets_of_le {text : List Char} {base o : Nat} (h : o ≤ base) :
    (newlineOffsets base text).countP (· < o) = 0 := by
  rw [List.countP_eq_zero]
  intro n hn
  have := le_of_mem_newlineOffsets hn
  simp only [decide_eq_true_eq]
  omega

/-- **The newlines before an offset number the piece that holds it**, for a text that begins at
`base`. -/
theorem holds_countP (text : List Char) (base : Nat) {o : Nat} (ho : o ≤ byteCount text) :
    Holds text ((newlineOffsets base text).countP (· < base + o)) o := by
  -- the induction is on the text: each character is dropped with the bytes it covers
  induction text generalizing base o with
  | nil =>
    rw [byteCount_nil, Nat.le_zero] at ho
    subst ho
    exact ⟨[], rfl, by simp [newlineOffsets], by simp⟩
  | cons c text ih =>
    rw [byteCount_cons] at ho
    by_cases hc : c = '\n'
    · subst hc
      have hone : Char.utf8Size '\n' = 1 := rfl
      rw [newlineOffsets, if_pos rfl]
      cases o with
      | zero =>
        rw [List.countP_cons_of_neg (by simp), countP_newlineOffsets_of_le (by omega)]
        exact holds_newline_zero text
      | succ o =>
        rw [List.countP_cons_of_pos (by simp), show base + (o + 1) = base + 1 + o by omega]
        exact (ih (base + 1) (by omega)).newline_succ
    · rw [newlineOffsets, if_neg hc]
      by_cases hlt : o ≤ c.utf8Size
      · rw [countP_newlineOffsets_of_le (by omega)]
        exact holds_other_zero hc text hlt
      · have h := (ih (base + c.utf8Size) (o := o - c.utf8Size) (by omega)).other hc
        rwa [Nat.sub_add_cancel (by omega), show base + c.utf8Size + (o - c.utf8Size) = base + o by
          omega] at h

/-! ## Lines -/

theorem lineOf_ofSource (source : String) (o : Nat) :
    (LineIndex.ofSource source).lineOf o =
      (newlineOffsets 0 source.toList).countP (· < o) + 1 := by
  rw [LineIndex.lineOf_eq_countP]
  rfl

/-- The lines of a source, joined by newlines, are the source. -/
theorem intercalate_sourceLines (source : String) :
    String.intercalate "\n" (sourceLines source) = source := by
  apply String.toList_inj.mp
  rw [String.toList_intercalate, sourceLines, List.map_map]
  show ['\n'].intercalate _ = _
  rw [show (pieces source.toList).map (String.toList ∘ String.ofList) = pieces source.toList by
    simp, intercalate_pieces]

theorem length_sourceLines (source : String) :
    (sourceLines source).length = (newlineOffsets 0 source.toList).length + 1 := by
  rw [sourceLines, List.length_map, length_pieces 0]

/-- **Every line number is that of a line of the source.** -/
theorem lineOf_le_length (source : String) (o : Nat) :
    (LineIndex.ofSource source).lineOf o ≤ (sourceLines source).length := by
  rw [lineOf_ofSource, length_sourceLines]
  exact Nat.succ_le_succ List.countP_le_length

/-- **The line of an offset is the piece that holds it.** -/
theorem holds_lineOf {source : String} {o : Nat} (h : o ≤ source.utf8ByteSize) :
    Holds source.toList ((LineIndex.ofSource source).lineOf o - 1) o := by
  rw [← byteCount_toList] at h
  have hh := holds_countP source.toList 0 h
  rw [Nat.zero_add] at hh
  rwa [lineOf_ofSource, Nat.add_sub_cancel]

end AbcMetric
