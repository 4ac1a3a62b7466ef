import AbcMetric.Glob.Pattern

/-!
# Matching paths against patterns

A path matches a pattern if the pieces of the pattern match consecutive parts that make up the whole
path. Paths are matched as bytes of UTF-8, so one `?` is less than a character outside ASCII.

* `GlobPiece.accepts` matches one piece and leaves the rest to what follows.
* `Glob.accepts` matches a whole path.

Premise: matching the expression of a pattern is matching its pieces. Not modelled: matching without
regard to case.
-/

namespace AbcMetric

/-- The bytes of a character. -/
def charBytes (c : Char) : List UInt8 := String.utf8EncodeChar c

/-- The bytes of a text. -/
def textBytes (s : String) : List UInt8 := s.toList.flatMap charBytes

/-- The slash as a byte. -/
def slashByte : UInt8 := 47

/-- What is left behind `lead`, if the bytes start with it. -/
def dropLead : List UInt8 → List UInt8 → Option (List UInt8)
  | [], bytes => some bytes
  | _ :: _, [] => none
  | l :: lead, b :: bytes => if l = b then dropLead lead bytes else none

/-- The ranges of bytes that a range of characters stands for: the bytes of both ends, and all
between the last byte of the lower end and the first of the upper. -/
def byteRanges (range : Char × Char) : List (UInt8 × UInt8) :=
  let low := charBytes range.1
  let high := charBytes range.2
  let single := (low ++ high).map fun b => (b, b)
  match low.getLast?, high.head? with
  | some lower, some upper => if range.1 = range.2 then single else (lower, upper) :: single
  | _, _ => single

/-- Whether a byte is in a class. -/
def inClass (ranges : List (Char × Char)) (b : UInt8) : Bool :=
  ranges.any fun range => (byteRanges range).any fun (low, high) => low ≤ b && b ≤ high

/-- Whether the rest is accepted after some number of bytes that satisfy `ok`. -/
def acceptsAfterMany (ok : UInt8 → Bool) (rest : List UInt8 → Bool) : List UInt8 → Bool
  | [] => rest []
  | b :: bytes => rest (b :: bytes) || (ok b && acceptsAfterMany ok rest bytes)

/-- Whether the rest is accepted right after some slash. -/
def acceptsAfterSlash (rest : List UInt8 → Bool) : List UInt8 → Bool
  | [] => false
  | b :: bytes => (b == slashByte && rest bytes) || acceptsAfterSlash rest bytes

/-- Whether the first byte satisfies `ok` and the bytes behind it are accepted. -/
def acceptsByte (ok : UInt8 → Bool) (rest : List UInt8 → Bool) : List UInt8 → Bool
  | [] => false
  | b :: bytes => ok b && rest bytes

mutual

/-- Whether a piece matches some first bytes and the rest accepts what is left. With `separated`,
`?` and `*` match no slash. -/
def GlobPiece.accepts (separated : Bool) :
    GlobPiece → (List UInt8 → Bool) → List UInt8 → Bool
  | .literal c, rest, bytes => ((dropLead (charBytes c) bytes).map rest).getD false
  | .anyByte, rest, bytes => acceptsByte (fun b => !separated || b != slashByte) rest bytes
  | .star, rest, bytes => acceptsAfterMany (fun b => !separated || b != slashByte) rest bytes
  | .oneOf negated ranges, rest, bytes =>
    acceptsByte (fun b => inClass ranges b != negated) rest bytes
  | .leadingDirs, rest, bytes => rest bytes || acceptsAfterSlash rest bytes
  | .innerDirs, rest, bytes =>
    acceptsByte (· == slashByte) (fun bs => rest bs || acceptsAfterSlash rest bs) bytes
  | .under, rest, bytes =>
    acceptsByte (· == slashByte) (acceptsAfterMany (fun _ => true) rest) bytes
  | .alternatives branches, rest, bytes =>
    (branches.isEmpty && rest bytes) || acceptsBranch separated branches rest bytes

/-- Whether pieces match some first bytes one after the other and the rest accepts what is left. -/
def acceptsPieces (separated : Bool) :
    List GlobPiece → (List UInt8 → Bool) → List UInt8 → Bool
  | [], rest, bytes => rest bytes
  | piece :: pieces, rest, bytes =>
    piece.accepts separated (acceptsPieces separated pieces rest) bytes

/-- Whether one of several branches matches some first bytes and the rest accepts what is left. -/
def acceptsBranch (separated : Bool) :
    List (List GlobPiece) → (List UInt8 → Bool) → List UInt8 → Bool
  | [], _, _ => false
  | branch :: branches, rest, bytes =>
    acceptsPieces separated branch rest bytes || acceptsBranch separated branches rest bytes

end

/-- A pattern ready to be matched. -/
structure Glob where
  separated : Bool
  pieces : List GlobPiece

namespace Glob

/-- The glob of a pattern; its wildcards match slashes too. -/
def ofPattern (pattern : String) : Except GlobFault Glob := do
  return ⟨false, ← globPieces false pattern⟩

/-- Whether the glob matches the whole of the bytes. A pattern of nothing but a double star matches
everything. -/
def acceptsBytes (g : Glob) (bytes : List UInt8) : Bool :=
  match g.pieces with
  | [.leadingDirs] => true
  | pieces => acceptsPieces g.separated pieces List.isEmpty bytes

/-- Whether the glob matches the whole path. -/
def accepts (g : Glob) (path : String) : Bool := g.acceptsBytes (textBytes path)

end Glob

end AbcMetric
