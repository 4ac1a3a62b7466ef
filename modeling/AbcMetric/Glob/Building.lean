import AbcMetric.Glob.Matching

/-!
# One matcher for several globs

Before any path is matched, globs are built into one matcher. A glob whose pieces are characters but
for a star or directories at an end is looked up by its text. Any other becomes an expression: one
of its own if it ends in a plain extension, else one of a common set. Building fails if an
expression is refused, and the fault tells expressions by their place, not by their pattern.

* `GlobBuilder` is the builder as a parameter: whether it takes globs, and if not, why.
* `GlobPiece.depth` is how deep the expression of a piece is nested.
* `GlobBuilder.standard` refuses expressions that are nested more than `nestingLimit` levels deep.

Premises: a builder that takes globs matches a path iff one of the globs does (`Glob.accepts`).

Not modelled: the size of an expression, which has a limit too. `GlobBuilder.standard` has none; a
builder that has one is another value of the parameter. Of several expressions of their own that are
refused, the standard builder reports the first.
-/

namespace AbcMetric

/-- Why an expression is refused. -/
inductive ExpressionFault where
  /-- The expression at a place is malformed, or nested too deep. -/
  | syntaxAt (place : Nat)
  | size
  deriving DecidableEq, Repr

/-- The wording of a fault. -/
def ExpressionFault.message : ExpressionFault → String
  | .syntaxAt place => s!"error parsing pattern {place}"
  | .size => "error building NFA"

/-- Why globs are not built into one matcher: an expression of its own is refused, or the set of the
others. -/
structure BuildFault where
  own : Option String
  fault : ExpressionFault
  deriving DecidableEq, Repr

/-- The wording of a fault. -/
def BuildFault.message (f : BuildFault) : String :=
  match f.own with
  | some text => s!"error parsing glob '{text}': {f.fault.message}"
  | none => f.fault.message

/-- Builds globs into one matcher, unless there is a fault. -/
structure GlobBuilder where
  fault? : List Glob → Option BuildFault

/-! ## Expressions -/

/-- A byte of a character in an expression. -/
def escapedByte (b : UInt8) : String :=
  let hex := String.ofList (Nat.toDigits 16 b.toNat)
  if 0x80 ≤ b then "\\x" ++ hex
  else
    let c := Char.ofNat b.toNat
    if c ∈ "\\.+*?()|[]\x7b\x7d^$#&-~".toList then String.ofList ['\\', c] else c.toString

/-- A character in an expression. -/
def escapedText (c : Char) : String := String.join ((charBytes c).map escapedByte)

/-- A range of a class in an expression. -/
def rangeText (range : Char × Char) : String :=
  if range.1 = range.2 then escapedText range.1
  else escapedText range.1 ++ "-" ++ escapedText range.2

/-- How many bytes and ranges of bytes the ranges of a class are. -/
def rangeItems (ranges : List (Char × Char)) : Nat :=
  ranges.foldl (fun items range =>
    items + if range.1 = range.2 then (charBytes range.1).length
      else (charBytes range.1).length + (charBytes range.2).length - 1) 0

mutual

/-- The expression of a piece. -/
def GlobPiece.expression (separated : Bool) : GlobPiece → String
  | .literal c => escapedText c
  | .anyByte => if separated then "[^/]" else "."
  | .star => if separated then "[^/]*" else ".*"
  | .oneOf negated ranges =>
    "[" ++ (if negated then "^" else "") ++ String.join (ranges.reverse.map rangeText) ++ "]"
  | .leadingDirs => "(?:/?|.*/)"
  | .innerDirs => "(?:/|/.*/)"
  | .under => "/.*"
  | .alternatives [] => ""
  | .alternatives (branch :: branches) =>
    "(?:" ++ branchExpression separated branch ++ otherExpressions separated branches ++ ")"

/-- The expression of pieces one after the other. -/
def branchExpression (separated : Bool) : List GlobPiece → String
  | [] => ""
  | piece :: pieces => piece.expression separated ++ branchExpression separated pieces

/-- The expressions of further branches, each behind a bar. -/
def otherExpressions (separated : Bool) : List (List GlobPiece) → String
  | [] => ""
  | branch :: branches =>
    "|" ++ branchExpression separated branch ++ otherExpressions separated branches

end

/-! ## Nesting -/

/-- How many items a piece adds to the expression that it stands in. -/
def GlobPiece.items : GlobPiece → Nat
  | .literal c => (charBytes c).length
  | .under => 2
  | .alternatives [] => 0
  | _ => 1

/-- Several items in a row are one level. -/
def levelOf (items : Nat) : Nat := if 1 < items then 1 else 0

mutual

/-- How deep the expression of a piece is nested. -/
def GlobPiece.depth (separated : Bool) : GlobPiece → Nat
  | .literal _ => 0
  | .anyByte => if separated then 1 else 0
  | .star => if separated then 2 else 1
  | .oneOf _ ranges => 1 + levelOf (rangeItems ranges)
  | .leadingDirs => 4
  | .innerDirs => 4
  | .under => 1
  | .alternatives branches =>
    if branches.isEmpty then 0
    else 1 + levelOf branches.length + branchesDepth separated branches

/-- How deep the deepest of pieces is nested. -/
def piecesDepth (separated : Bool) : List GlobPiece → Nat
  | [] => 0
  | piece :: pieces => max (piece.depth separated) (piecesDepth separated pieces)

/-- How deep the deepest of branches is nested. -/
def branchesDepth (separated : Bool) : List (List GlobPiece) → Nat
  | [] => 0
  | branch :: branches =>
    max (levelOf (branch.map GlobPiece.items).sum + piecesDepth separated branch)
      (branchesDepth separated branches)

end

namespace Glob

/-- The expression of a glob, from the start to the end of a path. -/
def expression (g : Glob) : String :=
  match g.pieces with
  | [.leadingDirs] => "(?-u)^.*$"
  | pieces => "(?-u)^" ++ branchExpression g.separated pieces ++ "$"

/-- How deep the expression of a glob is nested; the start and the end make it a row. -/
def depth (g : Glob) : Nat :=
  match g.pieces with
  | [.leadingDirs] => 2
  | pieces => 1 + piecesDepth g.separated pieces

/-! ## Looking up by text -/

/-- The text of pieces that are all characters. -/
def plainText? (pieces : List GlobPiece) : Option (List Char) :=
  pieces.mapM fun
    | .literal c => some c
    | _ => none

/-- Whether the glob is the start of a path: a text, and behind it perhaps a star or all below. -/
def isStart (g : Glob) : Bool :=
  match g.pieces.reverse with
  | .star :: lead => !g.separated && (plainText? lead).any (· ≠ [])
  | .under :: lead => (plainText? lead).isSome
  | pieces => (plainText? pieces).any (· ≠ [])

/-- Whether the glob is the end of a path: a text, and before it directories or a star. -/
def isEnd (g : Glob) : Bool :=
  let (rooted, pieces) := match g.pieces with
    | .leadingDirs :: pieces => (true, pieces)
    | pieces => (false, pieces)
  match pieces with
  | .star :: text => !g.separated && (plainText? text).any fun t => t ≠ [] ∧ t ≠ ['/']
  | .literal _ :: _ => rooted && (plainText? pieces).isSome
  | _ => false

/-- Whether the last characters of the glob are an extension. -/
def endsInExtension (g : Glob) : Bool :=
  go g.pieces.reverse
where
  /-- The characters from the last on, up to the dot. -/
  go : List GlobPiece → Bool
    | .literal c :: rest => c = '.' || c ≠ '/' && go rest
    | _ => false

end Glob

/-! ## The standard builder -/

/-- How deep an expression may be nested. -/
def nestingLimit : Nat := 250

/-- Whether the expression of a glob is nested too deep. -/
def Glob.isTooDeep (g : Glob) : Bool := nestingLimit < g.depth

/-- Builds globs unless an expression is nested too deep. -/
def GlobBuilder.standard : GlobBuilder where
  fault? globs :=
    let expressions := globs.filter fun g => !g.isStart && !g.isEnd
    match (expressions.filter Glob.endsInExtension).find? Glob.isTooDeep with
    | some g => some ⟨some g.expression, .syntaxAt 0⟩
    | none =>
      ((expressions.filter (!·.endsInExtension)).findIdx? Glob.isTooDeep).map fun place =>
        ⟨none, .syntaxAt place⟩

end AbcMetric
