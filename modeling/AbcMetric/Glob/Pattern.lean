/-!
# Glob patterns

A pattern is read into pieces, each of which matches part of a path.

* `?` is one byte and `*` any number of them.
* `[..]` is one byte of a class, `[!..]` or `[^..]` one byte outside it; a closing bracket or a dash
  in the first place stands for itself, as does a dash in the last.
* `**/` at the start, `/**/` between and `/**` at the end stand for directories; any other `**` is a
  `*`.
* `{..}` holds alternatives between commas and may be nested.
* `\` takes the next character as it is.

Main definition: `globPieces`, which fails with a `GlobFault` on a pattern that is malformed.

These are the rules of the library that the program reads patterns with, with its options as they
are by default: stars match slashes, a backslash escapes, and an empty alternative is dropped. Not
modelled: the other settings of these options.
-/

namespace AbcMetric

/-- Why a pattern is malformed. -/
inductive GlobFault where
  | unclosedClass
  | invalidRange (low high : Char)
  | unclosedGroup
  | unopenedGroup
  | danglingEscape
  deriving DecidableEq, Repr

/-- The wording of a fault. -/
def GlobFault.reason : GlobFault → String
  | .unclosedClass => "unclosed character class; missing ']'"
  | .invalidRange low high => s!"invalid range; '{low}' > '{high}'"
  | .unclosedGroup =>
    "unclosed alternate group; missing '\x7d' (maybe escape '\x7b' with '[\x7b]'?)"
  | .unopenedGroup =>
    "unopened alternate group; missing '\x7b' (maybe escape '\x7d' with '[\x7d]'?)"
  | .danglingEscape => "dangling '\\'"

/-- A piece of a pattern. -/
inductive GlobPiece where
  | literal (char : Char)
  | anyByte
  | star
  | oneOf (negated : Bool) (ranges : List (Char × Char))
  /-- `**/` at the start: no directory or several. -/
  | leadingDirs
  /-- `/**/` between: a slash, or a slash, directories and another slash. -/
  | innerDirs
  /-- `/**` at the end: a slash and all that follows. -/
  | under
  /-- One of several; without any of them, nothing at all. -/
  | alternatives (branches : List (List GlobPiece))

namespace GlobPiece

/-- Whether the piece matches only the empty text because it is a group without alternatives. -/
def isVoid : GlobPiece → Bool
  | .alternatives [] => true
  | _ => false

/-- A group; empty alternatives are left out. -/
def group (branches : List (List GlobPiece)) : GlobPiece :=
  .alternatives (branches.filter fun branch => !branch.all isVoid)

end GlobPiece

/-! ## Classes -/

/-- A class that is being read: its ranges, the last first, whether nothing of it was read yet, and
whether a dash waits for the end of its range. -/
structure ClassScan where
  negated : Bool
  ranges : List (Char × Char) := []
  first : Bool := true
  inRange : Bool := false

namespace ClassScan

/-- Reads one more character. -/
def read (c : ClassScan) (char : Char) : Except GlobFault ClassScan :=
  if char = '-' ∧ ¬c.first ∧ ¬c.inRange then .ok { c with inRange := true }
  else
    match c.inRange, c.ranges with
    | true, (low, _) :: ranges =>
      if char < low then .error (.invalidRange low char)
      else .ok { c with ranges := (low, char) :: ranges, first := false, inRange := false }
    | _, ranges => .ok { c with ranges := (char, char) :: ranges, first := false }

/-- The piece for the whole class. -/
def close (c : ClassScan) : GlobPiece :=
  .oneOf c.negated (if c.inRange then ('-', '-') :: c.ranges else c.ranges)

end ClassScan

/-- Whether a class that starts here is closed. -/
def classCloses (chars : List Char) : Bool :=
  let body := match chars with
    | '!' :: rest => rest
    | '^' :: rest => rest
    | _ => chars
  (body.drop 1).contains ']'

/-! ## Patterns -/

/-- A pattern that is being read: the pieces of the innermost branch, the last first; around it, for
each open group, its finished branches, the last first, and the pieces before it; the character
read last; and whether brackets stand for themselves from here on. -/
structure GlobScan where
  pieces : List GlobPiece := []
  groups : List (List (List GlobPiece) × List GlobPiece) := []
  previous : Option Char := none
  plainBrackets : Bool := false

/-- What a double star stands for. -/
inductive DoubleStar where
  | plain
  | leading
  | inner
  | trailing
  deriving DecidableEq, Repr

namespace GlobScan

/-- Adds a piece that was read up to a character. -/
def push (s : GlobScan) (piece : GlobPiece) (char : Char) : GlobScan :=
  { s with pieces := piece :: s.pieces, previous := some char }

/-- Adds a star; a star behind another adds nothing. -/
def pushStar (s : GlobScan) : GlobScan :=
  match s.pieces with
  | .star :: _ => { s with previous := some '*' }
  | _ => s.push .star '*'

/-- Opens a group. -/
def openGroup (s : GlobScan) : GlobScan :=
  { s with pieces := [], groups := ([], s.pieces) :: s.groups, previous := some '{' }

/-- A comma divides the branches of a group and stands for itself outside of groups. -/
def comma (s : GlobScan) : GlobScan :=
  match s.groups with
  | [] => s.push (.literal ',') ','
  | (branches, outer) :: groups =>
    { s with
      pieces := []
      groups := (s.pieces.reverse :: branches, outer) :: groups
      previous := some ',' }

/-- Closes a group. -/
def closeGroup (s : GlobScan) : Except GlobFault GlobScan :=
  match s.groups with
  | [] => .error .unopenedGroup
  | (branches, outer) :: groups =>
    let branches := (s.pieces.reverse :: branches).reverse
    .ok { s with pieces := .group branches :: outer, groups, previous := some '}' }

/-- What a double star stands for, from what is before it and the character behind it. -/
def doubleStar (s : GlobScan) (next : Option Char) : DoubleStar :=
  let inGroup := !s.groups.isEmpty
  if s.pieces.isEmpty then
    if next = none ∨ next = some '/' then .leading else .plain
  else if s.previous = some '/' ∨ inGroup ∧ (s.previous = some ',' ∨ s.previous = some '{') then
    if next = none ∨ inGroup ∧ (next = some ',' ∨ next = some '}') then .trailing
    else if next = some '/' then .inner
    else .plain
  else .plain

/-- Puts a piece for directories in the place of the slash before it; directories at the start and
at the end take further ones in. -/
def widen (s : GlobScan) (piece : GlobPiece) (char : Char) : GlobScan :=
  match s.pieces with
  | .leadingDirs :: _ => { s with previous := some char }
  | .under :: _ => { s with previous := some char }
  | _ :: rest => { s with pieces := piece :: rest, previous := some char }
  | [] => s.push piece char

end GlobScan

/-- Reads a pattern on from a state, inside a class or outside of one. With `loose`, a bracket that
is never closed stands for itself, and so do those behind it. -/
def scanGlob (loose : Bool) : List Char → GlobScan → Option ClassScan → Except GlobFault GlobScan
  | [], s, none => if s.groups.isEmpty then .ok s else .error .unclosedGroup
  | [], _, some _ => .error .unclosedClass
  | c :: rest, s, some cls => do
    if c = ']' ∧ ¬cls.first then scanGlob loose rest (s.push cls.close ']') none
    else scanGlob loose rest s (some (← cls.read c))
  | c :: rest, s, none => do
    if c = '?' then scanGlob loose rest (s.push .anyByte '?') none
    else if c = '*' then
      match rest with
      | '*' :: more =>
        match s.doubleStar more.head?, more with
        | .leading, '/' :: tail => scanGlob loose tail (s.push .leadingDirs '/') none
        | .leading, tail => scanGlob loose tail (s.push .leadingDirs '*') none
        | .inner, '/' :: tail => scanGlob loose tail (s.widen .innerDirs '/') none
        | .trailing, tail => scanGlob loose tail (s.widen .under '*') none
        | _, tail => scanGlob loose tail s.pushStar none
      | tail => scanGlob loose tail s.pushStar none
    else if c = '[' ∧ ¬s.plainBrackets then
      if loose ∧ ¬classCloses rest then
        scanGlob loose rest { s.push (.literal '[') '[' with plainBrackets := true } none
      else
        match rest with
        | '!' :: more => scanGlob loose more s (some { negated := true })
        | '^' :: more => scanGlob loose more s (some { negated := true })
        | tail => scanGlob loose tail s (some { negated := false })
    else if c = '{' then scanGlob loose rest s.openGroup none
    else if c = '}' then scanGlob loose rest (← s.closeGroup) none
    else if c = ',' then scanGlob loose rest s.comma none
    else if c = '\\' then
      match rest with
      | [] => .error .danglingEscape
      | escaped :: more => scanGlob loose more (s.push (.literal escaped) escaped) none
    else scanGlob loose rest (s.push (.literal c) c) none

/-- The pieces of a pattern. -/
def globPieces (loose : Bool) (pattern : String) : Except GlobFault (List GlobPiece) := do
  return (← scanGlob loose pattern.toList {} none).pieces.reverse

end AbcMetric
