import AbcMetric.Proofs.ByteOrder
import AbcMetric.Proofs.Exclusions
import AbcMetric.Proofs.Paths
import Mathlib.Data.Char

/-!
# What the built-in exclusions match

A built-in pattern is a name between `**/` and `/**`. It matches the paths that lead through a
directory of that name, and no others.

Patterns are matched byte by byte. Bytes and characters agree on where a path can be taken apart: no
encoding of a character starts that of another (`charBytes_append_inj`), and the byte of a slash is
part of no other character (`slashByte_not_mem_charBytes`).

* `Path.Enters`: a path starts with a name and a slash, or has the name between two slashes;
  `Path.mem_dropLast_names`: the name is one of those before the last slash.
* `accepts_anywhere`: what `**/name/**` matches, for any name of plain characters.
* `builtIn_globs_match`: what the built-in exclusions match.
-/

namespace AbcMetric

/-! ## Directories of a path -/

namespace Path

/-- The path starts with the name and a slash, or has the name between two slashes. -/
def Enters (name path : String) : Prop :=
  (∃ rest, path = name ++ "/" ++ rest) ∨ ∃ before rest, path = before ++ "/" ++ name ++ "/" ++ rest

variable {name path : String}

theorem Enters.append_slash (h : Enters name path) (dir : String) :
    Enters name (dir ++ "/" ++ path) := by
  rcases h with ⟨rest, rfl⟩ | ⟨before, rest, rfl⟩
  · exact Or.inr ⟨dir, rest, by simp only [String.append_assoc]⟩
  · exact Or.inr ⟨dir ++ "/" ++ before, rest, by simp only [String.append_assoc]⟩

theorem mem_dropLast_names_of_enters (hname : '/' ∉ name.toList) (h : Enters name path) :
    name ∈ (names path).dropLast := by
  rcases h with ⟨rest, rfl⟩ | ⟨before, rest, rfl⟩
  · rw [names_append_slash, names_of_no_slash hname,
      List.dropLast_append_of_ne_nil (names_ne_nil rest)]
    simp
  · rw [names_append_slash, names_append_slash, names_of_no_slash hname,
      List.dropLast_append_of_ne_nil (names_ne_nil rest)]
    simp

theorem exists_first_slash (h : '/' ∈ path.toList) :
    ∃ dir rest, path = dir ++ "/" ++ rest ∧ '/' ∉ dir.toList := by
  obtain ⟨dir, rest, hsplit, hdir⟩ := List.eq_append_cons_of_mem h
  refine ⟨String.ofList dir, String.ofList rest, String.toList_inj.mp ?_, ?_⟩
  · simp [String.toList_append, hsplit]
  · rwa [String.toList_ofList]

theorem enters_of_mem_dropLast_names (path : String) (h : name ∈ (names path).dropLast) :
    Enters name path := by
  by_cases hslash : '/' ∈ path.toList
  · obtain ⟨dir, rest, hpath, hdir⟩ := exists_first_slash hslash
    rw [hpath, names_append_slash, names_of_no_slash hdir,
      List.dropLast_append_of_ne_nil (names_ne_nil rest), List.singleton_append] at h
    rcases List.mem_cons.mp h with rfl | h
    · exact Or.inl ⟨rest, hpath⟩
    · rw [hpath]
      exact (enters_of_mem_dropLast_names rest h).append_slash dir
  · rw [names_of_no_slash hslash] at h
    exact absurd h (by simp)
termination_by path.length
decreasing_by
  rw [hpath, String.length_append, String.length_append]
  have : "/".length = 1 := rfl
  omega

/-- **A path leads through a directory iff its name stands before the last slash.** -/
theorem mem_dropLast_names (hname : '/' ∉ name.toList) :
    name ∈ (names path).dropLast ↔ Enters name path :=
  ⟨enters_of_mem_dropLast_names path, mem_dropLast_names_of_enters hname⟩

theorem enters_iff :
    Enters name path ↔ (∃ rest, path.toList = name.toList ++ '/' :: rest) ∨
      ∃ before after, path.toList = before ++ '/' :: after ∧
        ∃ rest, after = name.toList ++ '/' :: rest := by
  constructor
  · rintro (⟨rest, rfl⟩ | ⟨before, rest, rfl⟩)
    · exact Or.inl ⟨rest.toList, by simp⟩
    · exact Or.inr ⟨before.toList, _, by simp, rest.toList, rfl⟩
  · rintro (⟨rest, h⟩ | ⟨before, _, h, rest, rfl⟩)
    · exact Or.inl ⟨String.ofList rest, String.toList_inj.mp (by simp [h])⟩
    · exact Or.inr ⟨String.ofList before, String.ofList rest, String.toList_inj.mp (by simp [h])⟩

end Path

/-! ## Characters as bytes -/

/-- **No encoding of a character starts that of another.** -/
theorem charBytes_append_inj {c d : Char} {xs ys : List UInt8} :
    charBytes c ++ xs = charBytes d ++ ys ↔ c = d ∧ xs = ys := by
  constructor
  · intro h
    -- encodings of two characters differ before either ends
    rcases lt_trichotomy c d with hlt | rfl | hlt
    · exact absurd (h ▸ lex_encodeChar hlt xs ys) (List.lt_irrefl _)
    · exact ⟨rfl, List.append_cancel_left h⟩
    · exact absurd (h ▸ lex_encodeChar hlt ys xs) (List.lt_irrefl _)
  · rintro ⟨rfl, rfl⟩
    rfl

theorem slashByte_not_mem_cons {n : Nat} {bytes : List UInt8} (hn : n < 256) (hne : n ≠ 47)
    (h : slashByte ∉ bytes) : slashByte ∉ UInt8.ofNat n :: bytes := by
  rw [List.mem_cons, not_or]
  refine ⟨fun heq => ?_, h⟩
  have hval : slashByte.toNat = n := by rw [heq, UInt8.toNat_ofNat_of_lt' hn]
  exact hne hval.symm

/-- **The byte of a slash is part of no other character.** -/
theorem slashByte_not_mem_charBytes {c : Char} (h : c ≠ '/') : slashByte ∉ charBytes c := by
  have hmax := codePoint_lt c
  have hne : c.val.toNat ≠ 47 := fun hval => h (Char.ext (UInt32.toNat_inj.mp hval))
  unfold charBytes String.utf8EncodeChar
  generalize c.val.toNat = v at hmax hne
  dsimp only
  -- one byte is the character itself, and each of several is at least 128
  have htail : ∀ w bytes, slashByte ∉ bytes → slashByte ∉ UInt8.ofNat (w % 64 + 128) :: bytes :=
    fun w bytes => slashByte_not_mem_cons (by omega) (by omega)
  split
  · exact slashByte_not_mem_cons (by omega) hne List.not_mem_nil
  · split
    · exact slashByte_not_mem_cons (by omega) (by omega) (htail _ _ List.not_mem_nil)
    · split
      · refine slashByte_not_mem_cons (by omega) (by omega) ?_
        exact htail _ _ (htail _ _ List.not_mem_nil)
      · refine slashByte_not_mem_cons (by omega) (by omega) ?_
        exact htail _ _ (htail _ _ (htail _ _ List.not_mem_nil))

theorem flatMap_charBytes_eq_append {cs : List Char} {c : Char} {tail : List UInt8} :
    cs.flatMap charBytes = charBytes c ++ tail ↔
      ∃ ds, cs = c :: ds ∧ ds.flatMap charBytes = tail := by
  cases cs with
  | nil => simp [charBytes]
  | cons d ds =>
    rw [List.flatMap_cons, charBytes_append_inj]
    constructor
    · rintro ⟨rfl, htail⟩
      exact ⟨ds, rfl, htail⟩
    · rintro ⟨es, heq, htail⟩
      obtain ⟨rfl, rfl⟩ := List.cons.inj heq
      exact ⟨rfl, htail⟩

/-! ## Pieces of a pattern -/

theorem dropLead_eq_some {lead bytes tail : List UInt8} :
    dropLead lead bytes = some tail ↔ bytes = lead ++ tail := by
  fun_induction dropLead lead bytes with
  | case1 bytes => simp
  | case2 l lead => simp
  | case3 l lead bytes ih => simp [ih]
  | case4 l lead b bytes hne => simp [Ne.symm hne]

section

variable {separated : Bool} {rest : List UInt8 → Bool} {bytes : List UInt8}

/-- A literal matches the encoding of its character. -/
theorem accepts_literal {c : Char} :
    (GlobPiece.literal c).accepts separated rest bytes = true ↔
      ∃ tail, bytes = charBytes c ++ tail ∧ rest tail = true := by
  rw [GlobPiece.accepts]
  simp only [← dropLead_eq_some]
  cases dropLead (charBytes c) bytes <;> simp

theorem acceptsAfterMany_any : acceptsAfterMany (fun _ => true) List.isEmpty bytes = true := by
  induction bytes with
  | nil => rfl
  | cons b bytes ih => rw [acceptsAfterMany, ih]; simp

/-- A trailing `/**` matches a slash and anything behind it. -/
theorem accepts_under :
    GlobPiece.under.accepts separated List.isEmpty bytes = true ↔
      ∃ tail, bytes = charBytes '/' ++ tail := by
  rw [GlobPiece.accepts]
  cases bytes with
  | nil => simp [acceptsByte, charBytes]
  | cons b bytes =>
    rw [acceptsByte, acceptsAfterMany_any, Bool.and_true, beq_iff_eq]
    constructor
    · rintro rfl
      exact ⟨bytes, rfl⟩
    · rintro ⟨tail, htail⟩
      exact (List.cons.inj htail).1

theorem acceptsAfterSlash_append {lead : List UInt8} (h : slashByte ∉ lead) :
    acceptsAfterSlash rest (lead ++ bytes) = acceptsAfterSlash rest bytes := by
  induction lead with
  | nil => rfl
  | cons b lead ih =>
    obtain ⟨hb, hlead⟩ := not_or.mp (mt List.mem_cons.mpr h)
    rw [List.cons_append, acceptsAfterSlash, ih hlead, beq_eq_false_iff_ne.mpr (Ne.symm hb),
      Bool.false_and, Bool.false_or]

theorem acceptsAfterSlash_slash :
    acceptsAfterSlash rest (charBytes '/' ++ bytes) =
      (rest bytes || acceptsAfterSlash rest bytes) :=
  rfl

/-- A leading `**/` is as good as a slash in front of the path. -/
theorem accepts_leadingDirs :
    GlobPiece.leadingDirs.accepts separated rest bytes =
      acceptsAfterSlash rest (charBytes '/' ++ bytes) := by
  rw [GlobPiece.accepts, acceptsAfterSlash_slash]

theorem exists_slash_cons {c : Char} {cs : List Char} {p : List Char → Prop} :
    (∃ before after, c :: cs = before ++ '/' :: after ∧ p after) ↔
      c = '/' ∧ p cs ∨ ∃ before after, cs = before ++ '/' :: after ∧ p after := by
  constructor
  · rintro ⟨before, after, heq, hp⟩
    rcases List.cons_eq_append_iff.mp heq with ⟨-, hhead⟩ | ⟨before, -, htail⟩
    · obtain ⟨rfl, rfl⟩ := List.cons.inj hhead
      exact Or.inl ⟨rfl, hp⟩
    · exact Or.inr ⟨before, after, htail, hp⟩
  · rintro (⟨rfl, hp⟩ | ⟨before, after, rfl, hp⟩)
    · exact ⟨[], cs, rfl, hp⟩
    · exact ⟨c :: before, after, rfl, hp⟩

/-- **What follows a slash among the bytes follows a slash of the text.** -/
theorem acceptsAfterSlash_iff {cs : List Char} :
    acceptsAfterSlash rest (cs.flatMap charBytes) = true ↔
      ∃ before after, cs = before ++ '/' :: after ∧ rest (after.flatMap charBytes) = true := by
  induction cs with
  | nil => simp [acceptsAfterSlash]
  | cons c cs ih =>
    rw [exists_slash_cons, ← ih, List.flatMap_cons]
    by_cases hc : c = '/'
    · rw [hc, acceptsAfterSlash_slash, Bool.or_eq_true]
      simp
    · rw [acceptsAfterSlash_append (slashByte_not_mem_charBytes hc)]
      simp [hc]

/-- A name and `/**` match a text that starts with the name and a slash. -/
theorem acceptsPieces_name {name cs : List Char} :
    acceptsPieces separated (name.map .literal ++ [.under]) List.isEmpty (cs.flatMap charBytes) =
        true ↔ ∃ rest, cs = name ++ '/' :: rest := by
  induction name generalizing cs with
  | nil =>
    rw [List.map_nil, List.nil_append, acceptsPieces]
    have hrest : acceptsPieces separated [] List.isEmpty = List.isEmpty := by
      funext bytes
      rw [acceptsPieces]
    rw [hrest, accepts_under]
    simp [flatMap_charBytes_eq_append]
  | cons c name ih =>
    rw [List.map_cons, List.cons_append, acceptsPieces, accepts_literal]
    simp only [flatMap_charBytes_eq_append]
    constructor
    · rintro ⟨tail, ⟨ds, rfl, rfl⟩, haccepts⟩
      obtain ⟨rest, rfl⟩ := ih.mp haccepts
      exact ⟨rest, rfl⟩
    · rintro ⟨rest, rfl⟩
      exact ⟨_, ⟨_, rfl, rfl⟩, ih.mpr ⟨rest, rfl⟩⟩

end

/-! ## A directory of a name anywhere in a path -/

/-- A character that stands for itself in a pattern. -/
def IsPlain (c : Char) : Prop := c ∉ ['?', '*', '[', '{', '}', ',', '\\']

instance : DecidablePred IsPlain := fun _ => inferInstanceAs (Decidable (_ ∉ _))

/-- Adds literals. -/
def GlobScan.spell (s : GlobScan) (chars : List Char) : GlobScan :=
  chars.foldl (fun s c => s.push (.literal c) c) s

theorem GlobScan.spell_eq (s : GlobScan) (chars : List Char) (c : Char) :
    s.spell (chars ++ [c]) =
      { s with
        pieces := .literal c :: ((chars.map .literal).reverse ++ s.pieces)
        previous := some c } := by
  induction chars generalizing s with
  | nil => rfl
  | cons d chars ih =>
    show (s.push (.literal d) d).spell (chars ++ [c]) = _
    rw [ih]
    simp [push]

theorem scanGlob_plain {loose : Bool} {c : Char} (h : IsPlain c) (rest : List Char)
    (s : GlobScan) :
    scanGlob loose (c :: rest) s none = scanGlob loose rest (s.push (.literal c) c) none := by
  simp only [IsPlain, List.mem_cons, List.not_mem_nil, or_false, not_or] at h
  obtain ⟨hany, hstar, hclass, hopen, hclose, hcomma, hescape⟩ := h
  rw [scanGlob.eq_def]
  simp only [hany, hstar, hclass, hopen, hclose, hcomma, hescape, false_and, if_false]

theorem scanGlob_spell {loose : Bool} {chars : List Char} (h : ∀ c ∈ chars, IsPlain c)
    (rest : List Char) (s : GlobScan) :
    scanGlob loose (chars ++ rest) s none = scanGlob loose rest (s.spell chars) none := by
  induction chars generalizing s with
  | nil => rfl
  | cons c chars ih =>
    obtain ⟨hc, hchars⟩ := List.forall_mem_cons.mp h
    rw [List.cons_append, scanGlob_plain hc, ih hchars]
    rfl

theorem scanGlob_leading (loose : Bool) (rest : List Char) :
    scanGlob loose ('*' :: '*' :: '/' :: rest) {} none =
      scanGlob loose rest ⟨[.leadingDirs], [], some '/', false⟩ none :=
  rfl

theorem scanGlob_trailing (loose : Bool) (pieces : List GlobPiece) :
    scanGlob loose ['*', '*'] ⟨.literal '/' :: pieces, [], some '/', false⟩ none =
      .ok ⟨.under :: pieces, [], some '*', false⟩ :=
  rfl

/-- The glob of a directory of some name, anywhere in a path. -/
def Glob.anywhere (name : String) : Glob :=
  ⟨false, .leadingDirs :: (name.toList.map .literal ++ [.under])⟩

/-- The pieces of `**/name/**`. -/
theorem ofPattern_anywhere {name : String} (h : ∀ c ∈ name.toList, IsPlain c) :
    Glob.ofPattern ("**/" ++ name ++ "/**") = .ok (.anywhere name) := by
  have hchars : ("**/" ++ name ++ "/**").toList =
      '*' :: '*' :: '/' :: ((name.toList ++ ['/']) ++ ['*', '*']) := by
    simp [String.toList_append]
  have hplain : ∀ c ∈ name.toList ++ ['/'], IsPlain c := by
    intro c hc
    rcases List.mem_append.mp hc with hc | hc
    · exact h c hc
    · obtain rfl := List.mem_singleton.mp hc
      decide
  unfold Glob.ofPattern globPieces Glob.anywhere
  rw [hchars, scanGlob_leading, scanGlob_spell hplain, GlobScan.spell_eq, scanGlob_trailing]
  simp [pure, bind, Except.pure, Except.bind]

/-- **A name between `**/` and `/**` matches the paths that lead through a directory of that
name.** -/
theorem accepts_anywhere {name path : String} :
    (Glob.anywhere name).accepts path = true ↔ Path.Enters name path := by
  have hglob : (Glob.anywhere name).accepts path =
      acceptsAfterSlash (acceptsPieces false (name.toList.map .literal ++ [.under]) List.isEmpty)
        (('/' :: path.toList).flatMap charBytes) := by
    unfold Glob.accepts Glob.acceptsBytes Glob.anywhere
    split
    · rename_i hpieces
      exact absurd hpieces (by simp)
    · rw [acceptsPieces, accepts_leadingDirs]
      rfl
  rw [hglob, acceptsAfterSlash_iff]
  simp only [acceptsPieces_name]
  rw [exists_slash_cons, Path.enters_iff]
  simp

namespace Exclusion

/-- The names of the directories that are left out unless the project says otherwise. -/
def builtInNames : List String := ["__pycache__", ".venv", "venv", "site-packages", ".tox"]

theorem defaultPatterns_eq :
    defaultPatterns = builtInNames.map fun name => "**/" ++ name ++ "/**" := by
  decide

theorem plain_of_mem_builtInNames {name : String} (h : name ∈ builtInNames) :
    '/' ∉ name.toList ∧ ∀ c ∈ name.toList, IsPlain c := by
  have hall : (builtInNames.all fun name =>
      !name.toList.contains '/' && name.toList.all fun c => decide (IsPlain c)) = true := by
    decide
  simpa using List.all_eq_true.mp hall name h

theorem catches_builtIn {path : String} :
    catches {} path = true ↔ ∃ name ∈ builtInNames, Path.Enters name path := by
  rw [catches_eq_true_iff]
  have hpatterns : patterns {} = builtInNames.map fun name => "**/" ++ name ++ "/**" :=
    defaultPatterns_eq
  rw [hpatterns]
  simp only [List.mem_map, exists_exists_and_eq_and]
  refine exists_congr fun name => and_congr_right fun hname => ?_
  rw [ofPattern_anywhere (plain_of_mem_builtInNames hname).2, ← accepts_anywhere]
  simp

end Exclusion

/-- **The built-in exclusions match what lies below a directory of one of their names**: the paths
that start with such a name and a slash or have it between two slashes, which are those with such a
name before the last slash. So the last name of a path, and a name that only contains one of them,
exclude nothing. The globs are the same for every builder that takes them. -/
theorem builtIn_globs_match :
    ∃ globs, Exclusion.globs {} = .ok globs ∧
      (∀ builder others, Exclusion.globs {} builder = .ok others → others = globs) ∧
      (∀ path, matchesAny globs path = true ↔
        ∃ name ∈ Exclusion.builtInNames,
          (∃ rest, path = name ++ "/" ++ rest) ∨
            ∃ before rest, path = before ++ "/" ++ name ++ "/" ++ rest) ∧
      (∀ path, matchesAny globs path = true ↔
        ∃ name ∈ Exclusion.builtInNames, name ∈ (Path.names path).dropLast) ∧
      ∀ dirs file, (∀ n ∈ dirs ++ [file], Path.IsName n) →
        (matchesAny globs (Path.relative (dirs ++ [file])) = true ↔
          ∃ name ∈ Exclusion.builtInNames, name ∈ dirs) := by
  have hglobs : Exclusion.globs {} = .ok (Exclusion.parsed {}) :=
    Exclusion.globs_eq_ok_iff.mpr ⟨by decide +kernel, rfl⟩
  have hmatch : ∀ path, matchesAny (Exclusion.parsed {}) path = true ↔
      ∃ name ∈ Exclusion.builtInNames, Path.Enters name path := by
    intro path
    rw [Exclusion.matchesAny_parsed, Exclusion.catches_builtIn]
  have hnames : ∀ path, matchesAny (Exclusion.parsed {}) path = true ↔
      ∃ name ∈ Exclusion.builtInNames, name ∈ (Path.names path).dropLast := by
    intro path
    rw [hmatch]
    refine exists_congr fun name => and_congr_right fun hname => ?_
    rw [Path.mem_dropLast_names (Exclusion.plain_of_mem_builtInNames hname).1]
  refine ⟨_, hglobs, fun builder others h => (Exclusion.globs_eq_ok_iff.mp h).2, hmatch, hnames,
    fun dirs file hn => ?_⟩
  obtain ⟨first, rest, hcons⟩ := List.exists_cons_of_ne_nil (List.concat_ne_nil file dirs)
  rw [hcons] at hn
  rw [hnames, hcons, Path.names_relative hn, ← hcons, List.dropLast_concat]

/-- Below a directory of such a name, at the name itself, and below names that only contain it. -/
example : Exclusion.catches {} "src/venv/a.py" = true ∧ Exclusion.catches {} "src/venv" = false ∧
    Exclusion.catches {} "myvenv/a.py" = false ∧ Exclusion.catches {} "venv2/a.py" = false := by
  decide +kernel

end AbcMetric
