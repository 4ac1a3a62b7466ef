import AbcMetric.Proofs.TableRows

/-!
# Color changes nothing but the escapes

A colored report has escape sequences around some of its texts. Blanks are put in before a text is
colored, so a sequence never counts as width, and taking the sequences out again gives the report
without color.

Taking them out is not the same for a text and for its parts: a sequence could begin in one part and
end in the next. So a part is followed by anything (`Colors`), and then parts can be put together
(`Colors.append`, `Colors.join`) until they are the whole report.

* `withoutEscapes` takes the sequences out of a text.
* `FileResult.colors_block`, `FileResult.colors_row`: one file.
* `Report.text_eq`: the texts that a report is written from, in order.
* `color_adds_escapes_only`: both together, for a whole report.
-/

namespace AbcMetric

/-! ## Escape sequences -/

/-- The character that begins an escape sequence. -/
def escapeMark : Char := '\x1b'

/-- What follows an escape sequence, given what follows its first character: a bracket, one or more
digits and an `m` complete the sequence. -/
def behindSequence? : List Char → Option (List Char)
  | '[' :: text =>
    match text.takeWhile Char.isDigit, text.dropWhile Char.isDigit with
    | _ :: _, 'm' :: rest => some rest
    | _, _ => none
  | _ => none

theorem length_behindSequence? {text rest : List Char} (h : behindSequence? text = some rest) :
    rest.length < text.length := by
  unfold behindSequence? at h
  split at h
  · rename_i inner
    split at h
    · rename_i hdrop
      obtain rfl := Option.some.inj h
      have hle := List.length_dropWhile_le Char.isDigit inner
      rw [hdrop, List.length_cons] at hle
      rw [List.length_cons]
      omega
    · exact absurd h (by simp)
  · exact absurd h (by simp)

/-- The text without its escape sequences. -/
def withoutEscapes : List Char → List Char
  | [] => []
  | c :: text =>
    if c = escapeMark then
      match _h : behindSequence? text with
      | some rest => withoutEscapes rest
      | none => c :: withoutEscapes text
    else c :: withoutEscapes text
termination_by text => text.length
decreasing_by
  · have := length_behindSequence? _h
    rw [List.length_cons]
    omega
  · exact Nat.lt_succ_self _
  · exact Nat.lt_succ_self _

/-- The text without its escape sequences. -/
def plainText (text : String) : String := String.ofList (withoutEscapes text.toList)

theorem withoutEscapes_cons {c : Char} (h : c ≠ escapeMark) (text : List Char) :
    withoutEscapes (c :: text) = c :: withoutEscapes text := by
  rw [withoutEscapes, if_neg h]

/-- What precedes the first escape is kept. -/
theorem withoutEscapes_append {text : List Char} (h : escapeMark ∉ text) (rest : List Char) :
    withoutEscapes (text ++ rest) = text ++ withoutEscapes rest := by
  induction text with
  | nil => rfl
  | cons c text ih =>
    rw [List.mem_cons, not_or] at h
    rw [List.cons_append, withoutEscapes_cons (Ne.symm h.1), ih h.2, List.cons_append]

/-- An escape sequence is taken out. -/
theorem withoutEscapes_sequence {digits : List Char} (hne : digits ≠ [])
    (hdigits : ∀ c ∈ digits, c.isDigit = true) (rest : List Char) :
    withoutEscapes (escapeMark :: '[' :: (digits ++ 'm' :: rest)) = withoutEscapes rest := by
  have hend : ∀ c ∈ ('m' :: rest).head?, c.isDigit = false := by
    intro c hc
    obtain rfl := Option.some.inj hc
    rfl
  have hbehind : behindSequence? ('[' :: (digits ++ 'm' :: rest)) = some rest := by
    obtain ⟨htake, hdrop⟩ := takeWhile_dropWhile_append hdigits hend
    obtain ⟨digit, more, rfl⟩ := List.exists_cons_of_ne_nil hne
    rw [behindSequence?, htake, hdrop]
    rfl
  rw [withoutEscapes, if_pos rfl]
  split
  · rename_i found hfound
    obtain rfl := Option.some.inj (hbehind.symm.trans hfound)
    rfl
  · rename_i hnone
    exact absurd (hbehind.symm.trans hnone) (by simp)

/-! ## Colored texts -/

/-- Taking the escape sequences out of `colored` leaves `plain`, whatever follows. -/
def Colors (plain colored : String) : Prop :=
  ∀ rest, withoutEscapes (colored.toList ++ rest) = plain.toList ++ withoutEscapes rest

theorem colors_self {text : String} (h : escapeMark ∉ text.toList) : Colors text text :=
  withoutEscapes_append h

theorem Colors.append {plain colored plain' colored' : String} (h : Colors plain colored)
    (h' : Colors plain' colored') : Colors (plain ++ plain') (colored ++ colored') := by
  intro rest
  rw [String.toList_append, String.toList_append, List.append_assoc, h, h', List.append_assoc]

theorem Colors.join {α : Type} {plain colored : α → String} {items : List α}
    (h : ∀ item ∈ items, Colors (plain item) (colored item)) :
    Colors (String.join (items.map plain)) (String.join (items.map colored)) := by
  induction items with
  | nil => exact colors_self List.not_mem_nil
  | cons item items ih =>
    rw [List.map_cons, List.map_cons, String.join_cons, String.join_cons]
    exact (h item List.mem_cons_self).append (ih fun x hx => h x (List.mem_cons_of_mem item hx))

theorem Colors.plainText_eq {plain colored : String} (h : Colors plain colored) :
    plainText colored = plain := by
  have hwhole := h []
  rw [List.append_nil, withoutEscapes, List.append_nil] at hwhole
  rw [plainText, hwhole, String.ofList_toList]

theorem colors_sequence {digits : String} (hne : digits.toList ≠ [])
    (hdigits : ∀ c ∈ digits.toList, c.isDigit = true) :
    Colors "" ("\x1b[" ++ digits ++ "m") := by
  intro rest
  have htext : ("\x1b[" ++ digits ++ "m").toList ++ rest =
      escapeMark :: '[' :: (digits.toList ++ 'm' :: rest) := by
    simp [escapeMark, String.toList_append]
  rw [htext, withoutEscapes_sequence hne hdigits]
  rfl

/-- **Emphasis is taken out.** -/
theorem colors_emphasize (e : Emphasis) {text : String} (h : escapeMark ∉ text.toList) :
    Colors text (emphasize true e text) := by
  have hcode : e.code.toList ≠ [] ∧ ∀ c ∈ e.code.toList, c.isDigit = true := by
    cases e <;> simp [Emphasis.code, Char.isDigit]
  have hopen : Colors "" ("\x1b[" ++ e.code ++ "m") := colors_sequence hcode.1 hcode.2
  have hclose : Colors "" ("\x1b[" ++ "0" ++ "m") :=
    colors_sequence (by simp) (by simp [Char.isDigit])
  have hwhole := (hopen.append (colors_self h)).append hclose
  rwa [String.empty_append, String.append_empty] at hwhole

/-- A text that may be missing, with something behind it. -/
theorem colors_optional {text : Option String} (h : ∀ t ∈ text, escapeMark ∉ t.toList)
    {tail : String} (htail : escapeMark ∉ tail.toList) :
    Colors ((text.map (· ++ tail)).getD "") ((text.map (· ++ tail)).getD "") := by
  cases text with
  | none => exact colors_self List.not_mem_nil
  | some t => exact (colors_self (h t rfl)).append (colors_self htail)

/-! ## One file -/

namespace FileResult

/-- The texts of a file that are printed as they are. -/
def texts (f : FileResult) : List String := f.path :: f.debug.toList ++ f.listing.toList

/-- None of these texts holds the character that begins an escape sequence. -/
def EscapeFree (f : FileResult) : Prop := ∀ text ∈ f.texts, escapeMark ∉ text.toList

variable {f : FileResult}

theorem EscapeFree.path (h : f.EscapeFree) : escapeMark ∉ f.path.toList :=
  h f.path List.mem_cons_self

theorem EscapeFree.debug (h : f.EscapeFree) : ∀ text ∈ f.debug, escapeMark ∉ text.toList :=
  fun text ht => h text (by simp [texts, Option.mem_def.mp ht])

theorem EscapeFree.listing (h : f.EscapeFree) : ∀ text ∈ f.listing, escapeMark ∉ text.toList :=
  fun text ht => h text (by simp [texts, Option.mem_def.mp ht])

theorem escape_not_mem_wording (f : FileResult) : escapeMark ∉ f.wording.toList := by
  have hdigits : ∀ n, '\x1b' ∉ Nat.toDigits 10 n := fun n hmem =>
    absurd (isDigit_toDigits n '\x1b' hmem) (by decide)
  unfold wording
  split
  · rename_i v hstatus
    rw [v.toList_textWithMagnitude]
    simp [escapeMark, hdigits]
  · decide
  · decide

theorem escape_not_mem_outcome (f : FileResult) :
    escapeMark ∉ (padLeft outcomeWidth f.wording).toList := by
  rw [toList_padLeft, List.mem_append, not_or]
  refine ⟨fun hblank => ?_, f.escape_not_mem_wording⟩
  exact absurd (List.eq_of_mem_replicate hblank) (by decide)

theorem colors_outcome (f : FileResult) : Colors (f.outcome false) (f.outcome true) := by
  have hfree := f.escape_not_mem_outcome
  rw [f.outcome_plain]
  obtain ⟨path, status, listing, debug⟩ := f
  cases status with
  | analyzed v => exact colors_self hfree
  | unparseable reason => exact colors_emphasize .yellow hfree
  | unreadable reason => exact colors_emphasize .red hfree

/-- **The row of a file.** -/
theorem colors_row (h : f.EscapeFree) (width : Nat) :
    Colors (f.row false width) (f.row true width) := by
  have hpath : escapeMark ∉ (padRight width f.path).toList := by
    rw [toList_padRight, List.mem_append, not_or]
    refine ⟨h.path, fun hblank => ?_⟩
    exact absurd (List.eq_of_mem_replicate hblank) (by decide)
  exact ((colors_self hpath).append (colors_self (by decide))).append f.colors_outcome

/-- **The block of a file.** -/
theorem colors_block (h : f.EscapeFree) : Colors (f.block false) (f.block true) := by
  unfold block
  split
  · exact colors_self List.not_mem_nil
  · exact (((colors_emphasize .bold h.path).append (colors_self (by decide))).append
      (colors_optional h.debug (by decide))).append (colors_optional h.listing (by decide))

/-! ## What a report is written from -/

/-- Whether the file has a debug text or a listing. -/
def hasBlock (f : FileResult) : Bool := f.debug.isSome || f.listing.isSome

/-- The texts of a block: the path as its header, the debug text if there is one, then the listing
and a blank line if there is a listing. -/
def blockTexts (color : Bool) (f : FileResult) : List String :=
  emphasize color .bold f.path :: f.debug.toList ++
    (f.listing.map fun listing => [listing, ""]).getD []

end FileResult

/-- Texts one after the other, each with a newline behind it. -/
def onLines (texts : List String) : String := String.join (texts.map (· ++ "\n"))

theorem onLines_append (texts texts' : List String) :
    onLines (texts ++ texts') = onLines texts ++ onLines texts' := by
  rw [onLines, List.map_append, String.join_append]
  rfl

theorem FileResult.block_eq (color : Bool) (f : FileResult) :
    f.block color = if f.hasBlock then onLines (f.blockTexts color) else "" := by
  obtain ⟨path, status, listing, debug⟩ := f
  cases debug <;> cases listing <;>
    simp [block, hasBlock, blockTexts, onLines, String.append_assoc]

namespace Report

variable (r : Report)

/-- None of the texts of its files holds the character that begins an escape sequence. -/
def EscapeFree : Prop := ∀ f ∈ r.files, f.EscapeFree

instance : Decidable r.EscapeFree :=
  inferInstanceAs (Decidable (∀ f ∈ r.files, ∀ text ∈ f.texts, escapeMark ∉ text.toList))

theorem join_blocks (color : Bool) (files : List FileResult) :
    String.join (files.map (FileResult.block color)) =
      onLines ((files.filter FileResult.hasBlock).flatMap (FileResult.blockTexts color)) := by
  induction files with
  | nil => rfl
  | cons f files ih =>
    rw [List.map_cons, String.join_cons, ih, f.block_eq color]
    by_cases hblock : f.hasBlock = true
    · rw [if_pos hblock, List.filter_cons_of_pos hblock, List.flatMap_cons, onLines_append]
    · rw [if_neg hblock, List.filter_cons_of_neg hblock, String.empty_append]

/-- **A report is written from the blocks of the files that have one, and then from the rows.** -/
theorem text_eq (color : Bool) :
    r.text color = onLines ((r.files.filter FileResult.hasBlock).flatMap
      (FileResult.blockTexts color) ++ r.files.map (FileResult.row color r.pathWidth)) := by
  rw [text, join_blocks, onLines_append]
  rfl

theorem colors_text (h : r.EscapeFree) : Colors (r.text false) (r.text true) := by
  have hblocks := Colors.join fun f hf => FileResult.colors_block (h f hf)
  have hrows : Colors (String.join (r.files.map fun f => f.row false r.pathWidth ++ "\n"))
      (String.join (r.files.map fun f => f.row true r.pathWidth ++ "\n")) :=
    Colors.join fun f hf => (FileResult.colors_row (h f hf) r.pathWidth).append
      (colors_self (by decide))
  rw [text, text, rows, rows, List.map_map, List.map_map]
  exact hblocks.append hrows

end Report

/-! ## Main result -/

/-- **Color changes nothing but the escapes.** If no path, listing or debug text holds the character
that begins an escape sequence, the colored report without its sequences is the report without
color. With or without color a report is written from the blocks of the files that have a debug text
or a listing, in order, and then from one row for each file, in order. -/
theorem color_adds_escapes_only (r : Report) (h : r.EscapeFree) :
    plainText (r.text true) = r.text false ∧
      ∀ color, r.text color = onLines ((r.files.filter FileResult.hasBlock).flatMap
        (FileResult.blockTexts color) ++ r.files.map (FileResult.row color r.pathWidth)) :=
  ⟨(r.colors_text h).plainText_eq, r.text_eq⟩

/-- A file with a listing and one that cannot be parsed: a bold header and a yellow marker. -/
theorem color_adds_escapes_only_listing :
    let r : Report := ⟨[⟨"a.py", .analyzed (.ofCounts 1 0 0), some "a | x = 1", none⟩,
      .ofFault "b.py" (.unparseable "b.py" "x")], ⟨2, 1, 1, 0, .ofCounts 1 0 0⟩⟩
    r.EscapeFree ∧ r.text true ≠ r.text false ∧ plainText (r.text true) = r.text false := by
  intro r
  have hfree : r.EscapeFree := by decide
  exact ⟨hfree, by decide +kernel, (color_adds_escapes_only r hfree).1⟩

end AbcMetric
