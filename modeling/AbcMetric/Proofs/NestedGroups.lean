import AbcMetric.Proofs.Exclusions
import AbcMetric.Settings

/-!
# Groups in groups

A character in any number of groups is a valid pattern, and each group is one level of its
expression. So the standard builder takes such patterns up to its limit and refuses them beyond it,
without a word about the pattern.

* `ofPattern_nestedPattern`: what the pattern is read as.
* `globs_nestedPattern`: beyond the limit the builder is the one to fail.
* `ofText?_nestedSettings`: a settings file with such a pattern is read as one.

Reading follows the text: opening brackets stack up groups, closing ones take them off again, each
wrapping what was read inside.
-/

namespace AbcMetric

/-- A character in a number of groups. -/
def nestedPattern (depth : Nat) : String :=
  String.ofList (List.replicate depth '{' ++ 'a' :: List.replicate depth '}')

/-- What a character in a number of groups is read as. -/
def nestedPiece : Nat → GlobPiece
  | 0 => .literal 'a'
  | depth + 1 => .alternatives [[nestedPiece depth]]

/-! ## Reading -/

/-- Opening brackets stack up empty groups. -/
theorem scanGlob_opening (depth : Nat) (rest : List Char) :
    ∀ s : GlobScan, s.pieces = [] →
      ∃ previous, scanGlob false (List.replicate depth '{' ++ rest) s none = scanGlob false rest
        { s with
          groups := List.replicate depth ([], []) ++ s.groups
          previous := previous } none := by
  induction depth with
  | zero => exact fun s _ => ⟨s.previous, rfl⟩
  | succ depth ih =>
    intro s hs
    obtain ⟨previous, h⟩ := ih s.openGroup rfl
    refine ⟨previous, ?_⟩
    rw [List.replicate_succ, List.cons_append, scanGlob.eq_def]
    simp only [Char.reduceEq, if_false, false_and, if_true]
    rw [h, GlobScan.openGroup, hs, List.replicate_succ', List.append_assoc, List.singleton_append]

theorem group_nestedPiece (depth : Nat) :
    GlobPiece.group [[nestedPiece depth]] = nestedPiece (depth + 1) := by
  cases depth <;> rfl

/-- Closing brackets wrap what was read. -/
theorem scanGlob_closing (left : Nat) :
    ∀ (depth : Nat) (previous : Option Char), ∃ last, scanGlob false (List.replicate left '}')
      ⟨[nestedPiece depth], List.replicate left ([], []), previous, false⟩ none =
        .ok ⟨[nestedPiece (depth + left)], [], last, false⟩ := by
  induction left with
  | zero => exact fun depth previous => ⟨previous, rfl⟩
  | succ left ih =>
    intro depth previous
    obtain ⟨last, h⟩ := ih (depth + 1) (some '}')
    refine ⟨last, ?_⟩
    rw [List.replicate_succ, List.replicate_succ, scanGlob.eq_def]
    simp only [Char.reduceEq, if_false, false_and, if_true, GlobScan.closeGroup]
    show scanGlob false _ ⟨[GlobPiece.group [[nestedPiece depth]]], _, _, _⟩ none = _
    rw [group_nestedPiece, h, Nat.add_right_comm, Nat.add_assoc]

/-- **A nested pattern is valid**, however deep. -/
theorem ofPattern_nestedPattern (depth : Nat) :
    Glob.ofPattern (nestedPattern depth) = .ok ⟨false, [nestedPiece depth]⟩ := by
  obtain ⟨previous, hopen⟩ := scanGlob_opening depth ('a' :: List.replicate depth '}') {} rfl
  obtain ⟨last, hclose⟩ := scanGlob_closing depth 0 (some 'a')
  have hscan : scanGlob false (nestedPattern depth).toList {} none =
      .ok ⟨[nestedPiece depth], [], last, false⟩ := by
    rw [nestedPattern, String.toList_ofList, hopen, scanGlob.eq_def]
    simp only [Char.reduceEq, if_false, false_and, List.append_nil]
    rw [Nat.zero_add] at hclose
    exact hclose
  rw [Glob.ofPattern, globPieces, hscan]
  rfl

/-! ## Building -/

/-- Each group is one level. -/
theorem depth_nestedPiece (depth : Nat) : (nestedPiece depth).depth false = depth := by
  induction depth with
  | zero => rfl
  | succ depth ih =>
    have hbranch : levelOf ([nestedPiece depth].map GlobPiece.items).sum = 0 := by
      cases depth <;> rfl
    show 1 + levelOf 1 + max (levelOf ([nestedPiece depth].map GlobPiece.items).sum +
      max ((nestedPiece depth).depth false) 0) 0 = depth + 1
    rw [hbranch, ih, show levelOf 1 = 0 from rfl]
    omega

/-- The only pattern of a project that switches the built-in ones off. -/
def nestedExclusion (depth : Nat) : Exclusion :=
  { paths := [nestedPattern depth], skipDefaults := true }

theorem patterns_nestedExclusion (depth : Nat) :
    (nestedExclusion depth).patterns = [nestedPattern depth] := rfl

theorem valid_nestedExclusion (depth : Nat) :
    ∀ p ∈ (nestedExclusion depth).patterns, ∃ g, Glob.ofPattern p = .ok g := by
  rw [patterns_nestedExclusion]
  exact List.forall_mem_singleton.mpr ⟨_, ofPattern_nestedPattern depth⟩

/-- **Beyond the limit the standard builder refuses the pattern.** -/
theorem globs_nestedPattern {depth : Nat} (h : nestingLimit ≤ depth) :
    (nestedExclusion depth).globs = .error (.build ⟨none, .syntaxAt 0⟩) := by
  obtain ⟨depth, rfl⟩ : ∃ d, depth = d + 1 := ⟨depth - 1, by unfold nestingLimit at h; omega⟩
  have hparsed : (nestedExclusion (depth + 1)).parsed = [⟨false, [nestedPiece (depth + 1)]⟩] := by
    unfold Exclusion.parsed
    rw [patterns_nestedExclusion, List.filterMap_cons, ofPattern_nestedPattern]
    rfl
  have hdeep : Glob.isTooDeep ⟨false, [nestedPiece (depth + 1)]⟩ = true := by
    refine decide_eq_true ?_
    show nestingLimit < 1 + max ((nestedPiece (depth + 1)).depth false) 0
    rw [depth_nestedPiece]
    omega
  rw [Exclusion.globs_eq_error_iff, Exclusion.fault?,
    Exclusion.bad?_eq_none.mpr (valid_nestedExclusion _), hparsed]
  show Option.map ExclusionFault.build (Option.map _
    (if Glob.isTooDeep ⟨false, [nestedPiece (depth + 1)]⟩ then _ else _)) = _
  rw [hdeep]
  rfl

/-! ## In the settings of a project -/

namespace Toml

/-- A string of plain characters is read as it stands. -/
theorem basicTail_plain {plain : List Char}
    (h : ∀ c ∈ plain, isPlain c = true ∧ c ≠ '"' ∧ c ≠ '\\') (more : List Char) :
    ∀ {fuel : Nat} (read : List Char), plain.length < fuel →
      basicTail fuel read (plain ++ '"' :: more) =
        some (String.ofList (read.reverse ++ plain), more) := by
  induction plain with
  | nil =>
    intro fuel read hfuel
    obtain ⟨fuel, rfl⟩ := Nat.exists_eq_add_one_of_ne_zero (Nat.ne_zero_of_lt hfuel)
    rw [List.append_nil]
    rfl
  | cons c plain ih =>
    intro fuel read hfuel
    obtain ⟨fuel, rfl⟩ := Nat.exists_eq_add_one_of_ne_zero (Nat.ne_zero_of_lt hfuel)
    obtain ⟨⟨hc, hquote, hslash⟩, hplain⟩ := List.forall_mem_cons.mp h
    have hstep : basicTail (fuel + 1) read (c :: plain ++ '"' :: more) =
        if isPlain c then basicTail fuel (c :: read) (plain ++ '"' :: more) else none := by
      rw [List.cons_append, basicTail]
      · exact hquote
      · exact hslash
    rw [hstep, if_pos hc, ih hplain (c :: read) (Nat.lt_of_succ_lt_succ hfuel),
      List.reverse_cons, List.append_assoc, List.singleton_append]

theorem document?_of_toList {text : String} {more : List Char} (h : text.toList = '[' :: more) :
    document? text = (lines (more.length + 2) [] [] ('[' :: more)).map (·.1) := by
  unfold document?
  rw [h]
  rfl

section

variable {quoted more : List Char} {text : String}

/-- A list of one string. -/
theorem value_one (h : string ('"' :: quoted) = some (text, ']' :: more)) :
    value 79 ('[' :: '"' :: quoted) = some (.array [.string text], more) := by
  have hitem : value 78 ('"' :: quoted) = some (.string text, ']' :: more) := by
    show (string ('"' :: quoted)).map _ = _
    rw [h]
    rfl
  have htail (n : Nat) :
      arrayTail (value 78) (n + 1) ('"' :: quoted) = some ([.string text], more) := by
    show (value 78 ('"' :: quoted)).bind _ = _
    rw [hitem]
    rfl
  show (arrayTail (value 78) _ ('"' :: quoted)).bind _ = _
  rw [htail]
  rfl

/-- The line of a header. -/
theorem lines_header (fuel : Nat) :
    lines (fuel + 1) [] [] (['[', 'e', 'x', 'c', 'l', 'u', 'd', 'e', ']', '\n'] ++ more) =
      lines fuel [("exclude", .table .header [])] ["exclude"] more :=
  rfl

/-- The line of a key for such a list. -/
theorem lines_paths (h : string ('"' :: quoted) = some (text, ']' :: '\n' :: more)) (fuel : Nat) :
    let line := ['p', 'a', 't', 'h', 's', ' ', '=', ' ', '[', '"'] ++ quoted
    lines (fuel + 1) [("exclude", .table .header [])] ["exclude"] line =
      lines fuel [("exclude", .table .header [("paths", .array [.string text])])] ["exclude"]
        more := by
  intro line
  have hpair : pair (value 79) line =
      some (([], "paths", .array [.string text]), '\n' :: more) := by
    show (value 79 ('[' :: '"' :: quoted)).bind _ = _
    rw [value_one h]
    rfl
  show (pair (value 79) line).bind _ = _
  rw [hpair]
  rfl

end

end Toml

/-- A settings file that excludes what matches such a pattern, and nothing else. -/
def nestedSettings (depth : Nat) : String :=
  "[exclude]\npaths = [\"" ++ nestedPattern depth ++ "\"]\nskip_defaults = true\n"

/-- What such a file holds. -/
def nestedTable (depth : Nat) : TomlTable :=
  [("exclude", .table .header
    [("paths", .array [.string (nestedPattern depth)]), ("skip_defaults", .boolean true)])]

theorem string_nestedPattern (depth : Nat) (more : List Char) :
    Toml.string ('"' :: ((nestedPattern (depth + 1)).toList ++ '"' :: more)) =
      some (nestedPattern (depth + 1), more) := by
  have hplain : ∀ c ∈ (nestedPattern (depth + 1)).toList,
      Toml.isPlain c = true ∧ c ≠ '"' ∧ c ≠ '\\' := by
    intro c hc
    rw [nestedPattern, String.toList_ofList, List.mem_append, List.mem_cons] at hc
    rcases hc with hc | rfl | hc
    · rw [List.eq_of_mem_replicate hc]
      decide
    · decide
    · rw [List.eq_of_mem_replicate hc]
      decide
  obtain ⟨inner, hinner⟩ : ∃ inner, (nestedPattern (depth + 1)).toList = '{' :: inner :=
    ⟨_, String.toList_ofList⟩
  have hpattern : nestedPattern (depth + 1) = String.ofList ('{' :: inner) := by
    rw [← hinner, String.ofList_toList]
  rw [hinner] at hplain ⊢
  rw [hpattern]
  exact Toml.basicTail_plain hplain more [] <|
    Nat.lt_succ_of_le (List.prefix_append ('{' :: inner) _).length_le

/-- **Such a file is read as such an exclusion.** -/
theorem ofText?_nestedSettings (depth : Nat) :
    Settings.ofText? (nestedSettings (depth + 1)) =
      some { exclude := nestedExclusion (depth + 1) } := by
  have hchars : (nestedSettings (depth + 1)).toList =
      ['[', 'e', 'x', 'c', 'l', 'u', 'd', 'e', ']', '\n'] ++
        (['p', 'a', 't', 'h', 's', ' ', '=', ' ', '[', '"'] ++
          ((nestedPattern (depth + 1)).toList ++
            '"' :: ']' :: '\n' :: "skip_defaults = true\n".toList)) := by
    unfold nestedSettings
    simp
  have hlines (fuel : Nat) : Toml.lines (fuel + 4) [] [] (nestedSettings (depth + 1)).toList =
      some (nestedTable (depth + 1), []) := by
    rw [hchars, Toml.lines_header, Toml.lines_paths (string_nestedPattern depth _)]
    simp only [String.reduceToList]
    rfl
  have hdocument : Toml.document? (nestedSettings (depth + 1)) =
      some (nestedTable (depth + 1)) := by
    obtain ⟨more, hmore⟩ : ∃ more,
        (nestedSettings (depth + 1)).toList = '[' :: 'e' :: 'x' :: more := ⟨_, hchars⟩
    rw [Toml.document?_of_toList hmore, ← hmore]
    show (Toml.lines (more.length + 4) _ _ _).map _ = _
    rw [hlines]
    rfl
  rw [Settings.ofText?, hdocument]
  rfl

end AbcMetric
