import AbcMetric.Json
import AbcMetric.Proofs.JsonReader
import Mathlib.Data.List.Forall2
import Mathlib.Tactic.SplitIfs

/-!
# Printed values are JSON texts

What `Json.pretty` writes is a JSON text and says the value: `Json.says_pretty`. Line breaks and
indentation are blanks between words, strings are escaped in one of the ways there are
(`JsonChar.escape`), and numbers have the wording of numbers (`isNumber_toDigits_append`).
-/

namespace AbcMetric

mutual

/-- The value as a JSON text says it: numbers by their wording. -/
def Json.tree : Json → JsonTree
  | .nat value => .number (toString value)
  | .tenths value => .number (tenthsText value)
  | .str value => .str value
  | .arr items => .arr (itemTrees items)
  | .obj members => .obj (memberTrees members)

/-- The elements of a list. -/
def itemTrees : List Json → List JsonTree
  | [] => []
  | item :: items => item.tree :: itemTrees items

/-- The members of an object. -/
def memberTrees : List (String × Json) → List (String × JsonTree)
  | [] => []
  | (key, value) :: members => (key, value.tree) :: memberTrees members

end

/-! ## Strings -/

/-- A control is escaped by its number. -/
theorem hexUnit_control : ∀ n < 0x20,
    hexUnit? ['0', '0', Json.hexDigit (n / 16), Json.hexDigit (n % 16)] = some n ∧
      isHighSurrogate n = false ∧ isLowSurrogate n = false := by
  decide

/-- **An escaped character is written as it may be.** -/
theorem JsonChar.escape (c : Char) : JsonChar c (Json.escapeChar c) := by
  have short : ∀ {letter d : Char}, (letter, d) ∈ shortEscapes → c = d →
      JsonChar c ['\\', letter] := by
    rintro letter d h rfl
    exact .short h
  unfold Json.escapeChar
  split_ifs with hquote hslash hbackspace hfeed hnewline hreturn htab hcontrol
  · exact short (by decide) hquote
  · exact short (by decide) hslash
  · exact short (by decide) hbackspace
  · exact short (by decide) hfeed
  · exact short (by decide) hnewline
  · exact short (by decide) hreturn
  · exact short (by decide) htab
  · obtain ⟨hunit, hhigh, hlow⟩ := hexUnit_control c.toNat hcontrol
    have h := JsonChar.unit hunit hhigh hlow
    rwa [Char.ofNat_toNat] at h
  · exact .plain hquote hslash (Nat.not_lt.mp hcontrol)

theorem JsonChars.escape (chars : List Char) : JsonChars chars (chars.flatMap Json.escapeChar) := by
  induction chars with
  | nil => exact .nil
  | cons c chars ih => exact .cons (.escape c) ih

theorem JsonToken.word_quote (s : String) : (JsonToken.str s).Word (Json.quote s).toList := by
  have h := Word.str (JsonChars.escape s.toList)
  rw [String.ofList_toList] at h
  rwa [Json.quote, String.toList_ofList]

/-! ## Numbers -/

theorem isDigit_toDigits (n : Nat) : ∀ c ∈ Nat.toDigits 10 n, c.isDigit = true :=
  fun _ hc => Nat.isDigit_of_mem_toDigits (by decide) (by decide) hc

/-- Only the digits of zero begin with a zero. -/
theorem toDigits_begin (n : Nat) :
    ∃ digit rest, Nat.toDigits 10 n = digit :: rest ∧ (digit = '0' → n = 0) := by
  induction n using Nat.strongRecOn with
  | ind n ih =>
    rw [Nat.toDigits_eq_if (by decide)]
    split
    · rename_i hn
      have hall : ∀ n < 10, Nat.digitChar n = '0' → n = 0 := by decide
      exact ⟨_, [], rfl, hall n hn⟩
    · rename_i hn
      obtain ⟨digit, rest, hdigits, hzero⟩ := ih (n / 10) (by omega)
      refine ⟨digit, rest ++ [Nat.digitChar (n % 10)], by rw [hdigits]; rfl, fun hdigit => ?_⟩
      have := hzero hdigit
      omega

theorem isDigits_toDigits (n : Nat) : isDigits (Nat.toDigits 10 n) = true := by
  obtain ⟨digit, rest, hbegin, -⟩ := toDigits_begin n
  rw [isDigits, List.all_eq_true.mpr (isDigit_toDigits n), hbegin]
  rfl

/-- **A number goes on behind its digits as a number may.** -/
theorem isNumber_toDigits_append (n : Nat) {tail : List Char}
    (htail : ∀ c ∈ tail.head?, c.isDigit = false) :
    isNumber (Nat.toDigits 10 n ++ tail) = isFraction tail := by
  obtain ⟨digit, rest, hdigits, hzero⟩ := toDigits_begin n
  have hall := isDigit_toDigits n
  rw [hdigits] at hall ⊢
  obtain ⟨hdigit, hrest⟩ := List.forall_mem_cons.mp hall
  have hsign : digit ≠ '-' := by
    rintro rfl
    exact absurd hdigit (by decide)
  have hnumber : isNumber (digit :: rest ++ tail) = isUnsigned (digit :: rest ++ tail) := by
    unfold isNumber
    split
    · rename_i h
      exact absurd (List.cons.inj h).1 hsign
    · rfl
  rw [hnumber, List.cons_append, isUnsigned]
  split
  · rename_i h
    obtain rfl := hzero h
    obtain rfl : rest = [] := (List.cons.inj hdigits).2.symm
    rfl
  · rw [hdigit, Bool.true_and, (takeWhile_dropWhile_append hrest htail).2]

theorem toList_tenthsText (k : Nat) :
    (tenthsText k).toList = Nat.toDigits 10 (k / 10) ++ '.' :: Nat.toDigits 10 (k % 10) := by
  show (toString (k / 10) ++ "." ++ toString (k % 10)).toList = _
  rw [String.toList_append, String.toList_append, List.append_assoc]
  simp

theorem isBare_of_isDigit {c : Char} (h : c.isDigit = true) : isBare c = true := by
  simp [isBare, Char.isAlphanum, h]

/-- A word for a number of digits, perhaps with some decimal places. -/
theorem JsonToken.word_number {text : String} {n : Nat} {tail : List Char}
    (htext : text.toList = Nat.toDigits 10 n ++ tail)
    (htail : ∀ c ∈ tail.head?, c.isDigit = false) (hbare : ∀ c ∈ tail, isBare c = true)
    (hfraction : isFraction tail = true) : (JsonToken.number text).Word text.toList := by
  refine .bare ?_ ?_ ?_
  · obtain ⟨digit, rest, hdigits, -⟩ := toDigits_begin n
    rw [htext, hdigits]
    exact List.cons_ne_nil _ _
  · rw [htext]
    refine List.forall_mem_append.mpr ⟨fun c hc => ?_, hbare⟩
    exact isBare_of_isDigit (isDigit_toDigits n c hc)
  · rw [bareToken?, String.ofList_toList, htext, isNumber_toDigits_append n htail, if_pos hfraction]

theorem JsonToken.word_nat (n : Nat) :
    (JsonToken.number (toString n)).Word (toString n).toList := by
  have htext : (toString n).toList = Nat.toDigits 10 n ++ [] := by
    rw [Nat.toString_eq_ofList_toDigits, String.toList_ofList, List.append_nil]
  exact word_number htext (by simp) (by simp) rfl

theorem JsonToken.word_tenths (k : Nat) :
    (JsonToken.number (tenthsText k)).Word (tenthsText k).toList := by
  have hdigits := isDigit_toDigits (k % 10)
  refine word_number (toList_tenthsText k) (fun c hc => ?_) ?_ ?_
  · obtain rfl := Option.some.inj hc
    rfl
  · exact List.forall_mem_cons.mpr ⟨rfl, fun c hc => isBare_of_isDigit (hdigits c hc)⟩
  · have hend : ∀ c ∈ ([] : List Char).head?, c.isDigit = false := by simp
    have hcut := takeWhile_dropWhile_append hdigits hend
    rw [List.append_nil] at hcut
    simp only [isFraction, hcut.1, hcut.2, isExponent, isDigits_toDigits, Bool.and_true]

/-! ## Lists and objects -/

theorem isSpacing_newline (depth : Nat) :
    ∀ c ∈ (Json.newline depth).toList, isSpacing c = true := by
  rw [Json.newline, String.toList_ofList]
  refine List.forall_mem_cons.mpr ⟨rfl, fun c hc => ?_⟩
  rw [List.eq_of_mem_replicate hc]
  rfl

/-- Entries with commas and blanks between them. -/
theorem spells_intercalate {blank : List Char} (hblank : ∀ c ∈ blank, isSpacing c = true)
    {parts : List (List JsonToken)} {entries : List (List Char)}
    (h : List.Forall₂ Spells parts entries) :
    Spells ([.comma].intercalate parts) ((',' :: blank).intercalate entries) := by
  induction h with
  | nil => exact .nil
  | cons hentry hrest ih =>
    cases hrest with
    | nil =>
      rw [List.intercalate_singleton, List.intercalate_singleton]
      exact hentry
    | cons hnext hrest =>
      rw [List.intercalate_cons_cons, List.intercalate_cons_cons, List.append_assoc,
        List.append_assoc]
      refine hentry.append (.mark (by decide) (ih.blanks hblank)) ?_
      intro c hc
      obtain rfl := Option.some.inj hc
      rfl

/-- **Entries on lines of their own, between brackets.** -/
theorem spells_layout {opening closing : JsonToken} {o c : Char} {left right : String}
    (ho : (o, opening) ∈ JsonToken.marks) (hleft : left.toList = [o])
    (hc : (c, closing) ∈ JsonToken.marks) (hright : right.toList = [c]) (depth : Nat)
    {parts : List (List JsonToken)} {entries : List String}
    (h : List.Forall₂ (fun toks entry => Spells toks entry.toList) parts entries) :
    Spells (opening :: [.comma].intercalate parts ++ [closing])
      (Json.layout left right depth entries).toList := by
  have hclosing : Spells [closing] [c] := .single (.mark hc)
  cases h with
  | nil =>
    have htext : (Json.layout left right depth []).toList = [o, c] := by
      simp [Json.layout, hleft, hright]
    rw [htext]
    exact .mark ho hclosing
  | cons hentry hrest =>
    rename_i part entry parts entries
    have hentries : List.Forall₂ Spells (part :: parts) ((entry :: entries).map String.toList) :=
      List.forall₂_map_right_iff.mpr (.cons hentry hrest)
    have hinner := spells_intercalate (isSpacing_newline (depth + 1)) hentries
    have htext : (Json.layout left right depth (entry :: entries)).toList =
        o :: ((Json.newline (depth + 1)).toList ++
          ((',' :: (Json.newline (depth + 1)).toList).intercalate
            ((entry :: entries).map String.toList) ++ ((Json.newline depth).toList ++ [c]))) := by
      simp [Json.layout, hleft, hright]
    rw [htext]
    refine .mark ho (.blanks (isSpacing_newline _) (hinner.append ?_ ?_))
    · exact hclosing.blanks (isSpacing_newline depth)
    · intro d hd
      rw [Json.newline, String.toList_ofList] at hd
      obtain rfl := Option.some.inj hd
      rfl

theorem spells_member (depth : Nat) (key : String) {value : Json}
    (h : Spells value.tree.tokens (value.prettyAt depth).toList) :
    Spells (.str key :: .colon :: value.tree.tokens)
      (Json.quote key ++ ": " ++ value.prettyAt depth).toList := by
  have htext : (Json.quote key ++ ": " ++ value.prettyAt depth).toList =
      (Json.quote key).toList ++ ':' :: ' ' :: (value.prettyAt depth).toList := by
    simp [String.toList_append]
  rw [htext]
  refine .word (JsonToken.word_quote key) (fun hname => ?_) (.mark (by decide) (.blank rfl h))
  exact absurd hname (by simp [JsonToken.isName])

mutual

/-- **A printed value is a row of the words of its tree.** -/
theorem Json.spells_prettyAt (depth : Nat) :
    ∀ j : Json, Spells j.tree.tokens (j.prettyAt depth).toList
  | .nat n => .single (JsonToken.word_nat n)
  | .tenths k => .single (JsonToken.word_tenths k)
  | .str s => .single (JsonToken.word_quote s)
  | .arr items =>
    spells_layout (o := '[') (c := ']') (by decide) rfl (by decide) rfl depth
      (spells_prettyItems (depth + 1) items)
  | .obj members =>
    spells_layout (o := '\x7b') (c := '\x7d') (by decide) rfl (by decide) rfl depth
      (spells_prettyMembers (depth + 1) members)

theorem spells_prettyItems (depth : Nat) : ∀ items : List Json,
    List.Forall₂ (fun toks entry => Spells toks entry.toList) (itemTokens (itemTrees items))
      (Json.prettyItems depth items)
  | [] => .nil
  | item :: items => .cons (item.spells_prettyAt depth) (spells_prettyItems depth items)

theorem spells_prettyMembers (depth : Nat) : ∀ members : List (String × Json),
    List.Forall₂ (fun toks entry => Spells toks entry.toList) (memberTokens (memberTrees members))
      (Json.prettyMembers depth members)
  | [] => .nil
  | (key, value) :: members =>
    .cons (spells_member depth key (value.spells_prettyAt depth))
      (spells_prettyMembers depth members)

end

/-- **A printed value is a JSON text that says it.** -/
theorem Json.says_pretty (j : Json) : j.tree.Says j.pretty := j.spells_prettyAt 0

end AbcMetric
