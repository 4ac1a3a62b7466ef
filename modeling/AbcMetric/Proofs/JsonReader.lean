import AbcMetric.Proofs.JsonGrammar

/-!
# Reading JSON texts

A reader for the whole grammar: `tokensOf` cuts a text into tokens and `readValue` builds the tree.
It finds what a text says, whatever its blanks and escapes (`readJson_eq`). So a text says one tree
at most (`JsonTree.Says.unique`).

The readers stop after a number of steps; the length of what they are given is always enough.
-/

namespace AbcMetric

/-! ## Strings -/

/-- The value of the four digits in front. -/
def readUnit (text : List Char) : Option (Nat × List Char) :=
  (hexUnit? (text.take 4)).map fun unit => (unit, text.drop 4)

/-- The second half of a surrogate pair. -/
def readLow : List Char → Option (Nat × List Char)
  | '\\' :: 'u' :: text => (readUnit text).filter fun unit => isLowSurrogate unit.1
  | _ => none

/-- A character given by its number, or by two of them. -/
def readNumbered (text : List Char) : Option (Char × List Char) := do
  let (unit, text) ← readUnit text
  if isHighSurrogate unit then
    let (low, text) ← readLow text
    return (surrogatePair unit low, text)
  else if isLowSurrogate unit then none
  else return (Char.ofNat unit, text)

/-- What stands behind a backslash. -/
def readEscaped : List Char → Option (Char × List Char)
  | [] => none
  | letter :: text =>
    if letter = 'u' then readNumbered text
    else (shortEscapes.lookup letter).map fun c => (c, text)

/-- One character of a string. -/
def readChar : List Char → Option (Char × List Char)
  | [] => none
  | c :: text =>
    if c = '\\' then readEscaped text
    else if c = '"' ∨ c.toNat < 0x20 then none
    else some (c, text)

/-- The characters of a string up to its closing quote. -/
def readChars : Nat → List Char → Option (List Char × List Char)
  | 0, _ => none
  | steps + 1, text =>
    if text.head? = some '"' then some ([], text.tail)
    else do
      let (c, text) ← readChar text
      let (chars, text) ← readChars steps text
      return (c :: chars, text)

theorem length_of_hexUnit {digits : List Char} {n : Nat} (h : hexUnit? digits = some n) :
    digits.length = 4 := by
  unfold hexUnit? at h
  split at h
  · assumption
  · exact absurd h (by simp)

theorem readUnit_append {digits : List Char} {n : Nat} (h : hexUnit? digits = some n)
    (rest : List Char) : readUnit (digits ++ rest) = some (n, rest) := by
  have hlength := length_of_hexUnit h
  rw [readUnit, ← hlength, List.take_left, List.drop_left, h]
  rfl

/-- **A character is read whatever its spelling.** -/
theorem JsonChar.read {c : Char} {word : List Char} (h : JsonChar c word) (rest : List Char) :
    readChar (word ++ rest) = some (c, rest) := by
  cases h with
  | plain hquote hslash hcontrol =>
    have hplain : ¬(c = '"' ∨ c.toNat < 0x20) := by
      rintro (hc | hc)
      · exact hquote hc
      · omega
    rw [List.singleton_append, readChar, if_neg hslash, if_neg hplain]
  | short h =>
    have hall : ∀ p ∈ shortEscapes, p.1 ≠ 'u' ∧ shortEscapes.lookup p.1 = some p.2 := by decide
    obtain ⟨hu, hlookup⟩ := hall _ h
    rw [List.cons_append, List.singleton_append, readChar, if_pos rfl, readEscaped, if_neg hu,
      hlookup]
    rfl
  | unit h hhigh hlow =>
    rw [List.cons_append, List.cons_append, readChar, if_pos rfl, readEscaped, if_pos rfl,
      readNumbered, readUnit_append h]
    simp [hhigh, hlow]
  | pair h h' hhigh hlow =>
    rw [List.append_assoc, List.cons_append, List.cons_append, readChar, if_pos rfl, readEscaped,
      if_pos rfl, readNumbered, readUnit_append h]
    simp [hhigh, readLow, readUnit_append h', Option.filter_some, hlow]

/-- No spelling of a character begins with a quote. -/
theorem head?_ne_quote_of_readChar {c : Char} {text rest : List Char}
    (h : readChar text = some (c, rest)) : text.head? ≠ some '"' := by
  intro hquote
  obtain ⟨text, rfl⟩ := List.head?_eq_some_iff.mp hquote
  exact absurd h (by simp [readChar])

/-- **A string is read whatever its spelling.** -/
theorem JsonChars.read {chars text : List Char} (h : JsonChars chars text) (steps : Nat)
    (hsteps : text.length < steps) (rest : List Char) :
    readChars steps (text ++ '"' :: rest) = some (chars, rest) := by
  induction h generalizing steps with
  | nil =>
    obtain ⟨steps, rfl⟩ := Nat.exists_eq_add_one_of_ne_zero (Nat.ne_of_gt hsteps)
    rfl
  | cons hc _ ih =>
    rename_i c chars word text _
    have hsome : steps ≠ 0 := Nat.ne_of_gt (Nat.zero_lt_of_lt hsteps)
    obtain ⟨steps, rfl⟩ := Nat.exists_eq_add_one_of_ne_zero hsome
    have hword := hc.read (text ++ '"' :: rest)
    have hne : word ≠ [] := by cases hc <;> simp
    have hpos := List.length_pos_iff.mpr hne
    rw [List.length_append] at hsteps
    rw [List.append_assoc, readChars, if_neg (head?_ne_quote_of_readChar hword), hword]
    simp [ih steps (show text.length < steps by omega)]

/-! ## Tokens -/

/-- The tokens of a text. -/
def tokensOf : Nat → List Char → Option (List JsonToken)
  | _, [] => some []
  | 0, _ :: _ => none
  | steps + 1, c :: text =>
    if isSpacing c then tokensOf steps text
    else match JsonToken.marks.lookup c with
    | some tok => do return tok :: (← tokensOf steps text)
    | none =>
      if c = '"' then do
        let (chars, text) ← readChars text.length text
        return .str (String.ofList chars) :: (← tokensOf steps text)
      else do
        let tok ← bareToken? ((c :: text).takeWhile isBare)
        return tok :: (← tokensOf steps ((c :: text).dropWhile isBare))

theorem isName_of_bareToken {word : List Char} {tok : JsonToken} (h : bareToken? word = some tok) :
    tok.isName = true := by
  unfold bareToken? at h
  split at h
  · obtain rfl := Option.some.inj h
    rfl
  · obtain ⟨before, after, hnames, -⟩ := List.lookup_eq_some_iff.mp h
    have hall : ∀ p ∈ jsonNames, p.2.isName = true := by decide
    refine hall (word, tok) ?_
    rw [hnames]
    exact List.mem_append_right _ List.mem_cons_self

/-- A character of a name or a number is none of those that other words or blanks begin with. -/
theorem isBare_begins {c : Char} (h : isBare c = true) :
    isSpacing c = false ∧ JsonToken.marks.lookup c = none ∧ c ≠ '"' := by
  have hne : ∀ d : Char, isBare d = false → c ≠ d := by
    rintro d hd rfl
    exact absurd h (by rw [hd]; simp)
  refine ⟨?_, ?_, hne '"' (by decide)⟩
  · simp [isSpacing, hne ' ' (by decide), hne '\n' (by decide), hne '\t' (by decide),
      hne '\r' (by decide)]
  · rw [List.lookup_eq_none_iff]
    intro p hp
    have hall : ∀ p ∈ JsonToken.marks, isBare p.1 = false := by decide
    simpa using hne p.1 (hall p hp)

/-- A text is cut where the first character fails a test. -/
theorem takeWhile_dropWhile_append {p : Char → Bool} {word text : List Char}
    (hword : ∀ c ∈ word, p c = true) (htext : ∀ c ∈ text.head?, p c = false) :
    (word ++ text).takeWhile p = word ∧ (word ++ text).dropWhile p = text := by
  rw [List.takeWhile_append_of_pos hword, List.dropWhile_append_of_pos hword]
  cases text with
  | nil => exact ⟨List.append_nil word, rfl⟩
  | cons c text =>
    have hc : p c = false := htext c rfl
    simp [hc]

/-- **The tokens of a row of words are found.** -/
theorem Spells.tokensOf_eq {toks : List JsonToken} {text : List Char} (h : Spells toks text)
    {steps : Nat} (hsteps : text.length ≤ steps) : tokensOf steps text = some toks := by
  induction h generalizing steps with
  | nil => cases steps <;> rfl
  | blank hc _ ih =>
    cases steps with
    | zero => exact absurd hsteps (by simp)
    | succ steps =>
      rw [tokensOf, if_pos hc]
      exact ih (Nat.le_of_succ_le_succ hsteps)
  | word hw hbreak _ ih =>
    rename_i word text _
    cases hw with
    | mark h =>
      have hall : ∀ p ∈ JsonToken.marks, isSpacing p.1 = false ∧
          JsonToken.marks.lookup p.1 = some p.2 := by decide
      obtain ⟨hblank, hlookup⟩ := hall _ h
      cases steps with
      | zero => exact absurd hsteps (by simp)
      | succ steps =>
        rw [List.singleton_append, tokensOf, if_neg (by rw [hblank]; simp), hlookup]
        simp [ih (Nat.le_of_succ_le_succ hsteps)]
    | bare hne hbare h =>
      cases word with
      | nil => exact absurd rfl hne
      | cons c word =>
        obtain ⟨hblank, hlookup, hquote⟩ := isBare_begins (hbare c List.mem_cons_self)
        have hbreaks : Breaks text := hbreak (isName_of_bareToken h)
        obtain ⟨htake, hdrop⟩ := takeWhile_dropWhile_append hbare hbreaks
        cases steps with
        | zero => exact absurd hsteps (by simp)
        | succ steps =>
          have hshort : text.length ≤ steps := by
            simp only [List.length_append, List.length_cons] at hsteps
            omega
          rw [List.cons_append] at htake hdrop ⊢
          rw [tokensOf, if_neg (by rw [hblank]; simp), hlookup]
          simp [hquote, htake, hdrop, h, ih hshort]
    | str h =>
      rename_i chars content
      cases steps with
      | zero => exact absurd hsteps (by simp)
      | succ steps =>
        have hlength : (content ++ '"' :: text).length ≤ steps := by
          simp only [List.length_append, List.length_cons] at hsteps ⊢
          omega
        have hread := h.read (content ++ '"' :: text).length (by simp) text
        have hshort : text.length ≤ steps := by
          simp only [List.length_append, List.length_cons] at hlength
          omega
        have htext : '"' :: content ++ ['"'] ++ text = '"' :: (content ++ '"' :: text) := by simp
        rw [htext, tokensOf, if_neg (by decide), show JsonToken.marks.lookup '"' = none from rfl]
        simp only [if_true, hread]
        simp [ih hshort]

/-! ## Trees -/

/-- One or more parts with commas between them, up to a closing token. -/
def readParts {α : Type} (one : List JsonToken → Option (α × List JsonToken)) (close : JsonToken) :
    Nat → List JsonToken → Option (List α × List JsonToken)
  | 0, _ => none
  | steps + 1, toks => do
    let (part, toks) ← one toks
    match toks with
    | [] => none
    | tok :: toks =>
      if tok = close then some ([part], toks)
      else if tok = .comma then
        let (parts, toks) ← readParts one close steps toks
        return (part :: parts, toks)
      else none

/-- Parts with commas between them, or none at all, up to a closing token. -/
def readGroup {α : Type} (one : List JsonToken → Option (α × List JsonToken)) (close : JsonToken)
    (toks : List JsonToken) : Option (List α × List JsonToken) :=
  if toks.head? = some close then some ([], toks.tail) else readParts one close toks.length toks

/-- A member: its name, a colon, its value. -/
def readMember (value : List JsonToken → Option (JsonTree × List JsonToken)) :
    List JsonToken → Option ((String × JsonTree) × List JsonToken)
  | .str key :: .colon :: toks => (value toks).map fun (tree, toks) => ((key, tree), toks)
  | _ => none

/-- The tree that the tokens begin with. -/
def readValue : Nat → List JsonToken → Option (JsonTree × List JsonToken)
  | 0, _ => none
  | depth + 1, tok :: toks =>
    match tok with
    | .null => some (.null, toks)
    | .bool value => some (.bool value, toks)
    | .number text => some (.number text, toks)
    | .str value => some (.str value, toks)
    | .openArray =>
      (readGroup (readValue depth) .closeArray toks).map fun (items, toks) => (.arr items, toks)
    | .openObject =>
      (readGroup (readMember (readValue depth)) .closeObject toks).map fun (members, toks) =>
        (.obj members, toks)
    | _ => none
  | _ + 1, [] => none

/-- The tree that a text says. -/
def readJson (text : String) : Option JsonTree := do
  let toks ← tokensOf text.length text.toList
  let (tree, rest) ← readValue toks.length toks
  if rest = [] then return tree else none

/-- **Parts are read back** if each of them is, whatever follows it. -/
theorem readParts_eq {α : Type} {one : List JsonToken → Option (α × List JsonToken)}
    {close : JsonToken} (hclose : close ≠ .comma) {write : α → List JsonToken} {parts : List α}
    (hne : parts ≠ []) (h : ∀ a ∈ parts, ∀ rest, one (write a ++ rest) = some (a, rest))
    {steps : Nat} (hsteps : parts.length ≤ steps) (rest : List JsonToken) :
    readParts one close steps ([.comma].intercalate (parts.map write) ++ close :: rest) =
      some (parts, rest) := by
  induction parts generalizing steps with
  | nil => exact absurd rfl hne
  | cons a parts ih =>
    obtain ⟨ha, hparts⟩ := List.forall_mem_cons.mp h
    cases steps with
    | zero => exact absurd hsteps (by simp)
    | succ steps =>
      cases parts with
      | nil =>
        rw [List.map_singleton, List.intercalate_singleton, readParts, ha]
        simp
      | cons b parts =>
        have hmore := ih (by simp) hparts (Nat.le_of_succ_le_succ hsteps)
        rw [List.map_cons] at hmore
        rw [List.map_cons, List.map_cons, List.intercalate_cons_cons, List.append_assoc,
          List.append_assoc, readParts, ha]
        simp [hclose.symm, hmore]

/-- Parts that are not empty fit into the row of them: their number does, and each of them. -/
theorem length_intercalate {α : Type} (sep : List α) {parts : List (List α)}
    (h : ∀ part ∈ parts, part ≠ []) :
    parts.length ≤ (sep.intercalate parts).length ∧
      ∀ part ∈ parts, part.length ≤ (sep.intercalate parts).length := by
  induction parts with
  | nil => simp
  | cons part parts ih =>
    obtain ⟨hpart, hparts⟩ := List.forall_mem_cons.mp h
    have hpos := List.length_pos_iff.mpr hpart
    obtain ⟨hnumber, heach⟩ := ih hparts
    cases parts with
    | nil => simpa using Nat.succ_le_of_lt hpos
    | cons next parts =>
      rw [List.intercalate_cons_cons, List.length_append, List.length_append]
      refine ⟨?_, List.forall_mem_cons.mpr ⟨by omega, fun p hp => ?_⟩⟩
      · rw [List.length_cons]
        omega
      · have := heach p hp
        omega

/-- **A group is read back** if each of its parts is, at a depth that is enough for it, and none
begins like the end of the group. -/
theorem readGroup_eq {α : Type} {one : Nat → List JsonToken → Option (α × List JsonToken)}
    (write : α → List JsonToken) {parts : List α} {close : JsonToken} (hclose : close ≠ .comma)
    (hbegin : ∀ a ∈ parts, ∃ tok toks, write a = tok :: toks ∧ tok ≠ close)
    (h : ∀ a ∈ parts, ∀ depth rest, (write a).length ≤ depth →
      one depth (write a ++ rest) = some (a, rest))
    {depth : Nat} (hdepth : ([.comma].intercalate (parts.map write)).length ≤ depth)
    (rest : List JsonToken) :
    readGroup (one depth) close ([.comma].intercalate (parts.map write) ++ close :: rest) =
      some (parts, rest) := by
  cases parts with
  | nil => simp [readGroup]
  | cons a parts =>
    have hne : ∀ toks ∈ (a :: parts).map write, toks ≠ [] := by
      intro toks htoks
      obtain ⟨b, hb, rfl⟩ := List.mem_map.mp htoks
      obtain ⟨tok, toks, hwrite, -⟩ := hbegin b hb
      rw [hwrite]
      exact List.cons_ne_nil _ _
    obtain ⟨hnumber, heach⟩ := length_intercalate [JsonToken.comma] hne
    have hhead : ([.comma].intercalate ((a :: parts).map write) ++ close :: rest).head? ≠
        some close := by
      obtain ⟨tok, toks, hwrite, htok⟩ := hbegin a List.mem_cons_self
      cases parts with
      | nil => simpa [hwrite] using htok
      | cons b parts => simpa [hwrite, List.intercalate_cons_cons] using htok
    rw [readGroup, if_neg hhead]
    refine readParts_eq hclose (List.cons_ne_nil _ _) (fun b hb rest => ?_) ?_ rest
    · exact h b hb depth rest (Nat.le_trans (heach _ (List.mem_map_of_mem hb)) hdepth)
    · rw [List.length_map] at hnumber
      rw [List.length_append]
      omega

/-- The tokens of a member. -/
def memberToken (member : String × JsonTree) : List JsonToken :=
  .str member.1 :: .colon :: member.2.tokens

theorem itemTokens_eq (items : List JsonTree) : itemTokens items = items.map JsonTree.tokens := by
  induction items with
  | nil => rfl
  | cons item items ih => rw [itemTokens, ih, List.map_cons]

theorem memberTokens_eq (members : List (String × JsonTree)) :
    memberTokens members = members.map memberToken := by
  induction members with
  | nil => rfl
  | cons member members ih =>
    obtain ⟨key, value⟩ := member
    rw [memberTokens, ih, List.map_cons]
    rfl

namespace JsonTree

/-- The tokens of a tree do not begin with the end of a list. -/
theorem tokens_begin (t : JsonTree) :
    ∃ tok toks, t.tokens = tok :: toks ∧ tok ≠ .closeArray := by
  cases t <;> exact ⟨_, _, rfl, by simp⟩

/-- The tree is read from its tokens, whatever follows. -/
def Reads (t : JsonTree) : Prop :=
  ∀ depth rest, t.tokens.length ≤ depth → readValue depth (t.tokens ++ rest) = some (t, rest)

theorem reads_arr {items : List JsonTree} (h : ∀ item ∈ items, item.Reads) :
    (arr items).Reads := by
  intro depth rest hdepth
  simp only [tokens, itemTokens_eq, List.length_append, List.length_cons] at hdepth
  cases depth with
  | zero => exact absurd hdepth (by simp)
  | succ depth =>
    have hgroup := readGroup_eq tokens (show JsonToken.closeArray ≠ .comma by simp)
      (fun item _ => item.tokens_begin) h (show _ ≤ depth by omega) rest
    rw [tokens, itemTokens_eq, List.append_assoc, List.cons_append, List.singleton_append,
      readValue, hgroup]
    rfl

theorem reads_obj {members : List (String × JsonTree)} (h : ∀ member ∈ members, member.2.Reads) :
    (obj members).Reads := by
  intro depth rest hdepth
  simp only [tokens, memberTokens_eq, List.length_append, List.length_cons] at hdepth
  cases depth with
  | zero => exact absurd hdepth (by simp)
  | succ depth =>
    have hmembers : ∀ member ∈ members, ∀ depth rest, (memberToken member).length ≤ depth →
        readMember (readValue depth) (memberToken member ++ rest) = some (member, rest) := by
      intro member hmember depth rest hdepth
      simp only [memberToken, List.length_cons] at hdepth
      rw [memberToken, List.cons_append, List.cons_append, readMember,
        h member hmember depth rest (by omega)]
      rfl
    have hgroup := readGroup_eq memberToken (show JsonToken.closeObject ≠ .comma by simp)
      (fun member _ => ⟨_, _, rfl, by simp⟩) hmembers (show _ ≤ depth by omega) rest
    rw [tokens, memberTokens_eq, List.append_assoc, List.cons_append, List.singleton_append,
      readValue, hgroup]
    rfl

end JsonTree

mutual

/-- **Every tree is read back from its tokens.** -/
theorem JsonTree.reads : ∀ t : JsonTree, t.Reads
  | .null | .bool _ | .number _ | .str _ => fun depth rest hdepth => by
    cases depth with
    | zero => exact absurd hdepth (by simp [JsonTree.tokens])
    | succ depth => rfl
  | .arr items => JsonTree.reads_arr (reads_items items)
  | .obj members => JsonTree.reads_obj (reads_members members)

theorem reads_items : ∀ items : List JsonTree, ∀ item ∈ items, item.Reads
  | [] => List.forall_mem_nil _
  | item :: items => List.forall_mem_cons.mpr ⟨item.reads, reads_items items⟩

theorem reads_members : ∀ members : List (String × JsonTree), ∀ member ∈ members, member.2.Reads
  | [] => List.forall_mem_nil _
  | (_, value) :: members => List.forall_mem_cons.mpr ⟨value.reads, reads_members members⟩

end

/-- **What a text says is read from it.** -/
theorem readJson_eq {tree : JsonTree} {text : String} (h : tree.Says text) :
    readJson text = some tree := by
  have htokens : tokensOf text.length text.toList = some tree.tokens :=
    h.tokensOf_eq (Nat.le_of_eq String.length_toList)
  have hread := tree.reads tree.tokens.length [] (Nat.le_refl _)
  rw [List.append_nil] at hread
  simp [readJson, htokens, hread]

example : readJson "[ \"\\u00e9\\ud83d\\ude00\\/\", -0.5e+3 ]" =
    some (.arr [.str "é😀/", .number "-0.5e+3"]) := rfl

/-- **A text says one tree at most.** -/
theorem JsonTree.Says.unique {tree other : JsonTree} {text : String} (h : tree.Says text)
    (h' : other.Says text) : tree = other :=
  Option.some.inj ((readJson_eq h).symm.trans (readJson_eq h'))

end AbcMetric
