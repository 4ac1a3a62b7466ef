import AbcMetric.Source.Lines
import AbcMetric.Tally

/-!
# Decorated listings

The source with the decoration of each line in a column to its left. The column is as wide as the
longest decoration counts in bytes, while padding counts characters.

This is the program's listing of one text. Not modelled: a limit on the width of a column, which
some versions of the formatter have.
-/

namespace AbcMetric

/-- Blanks behind a text up to `width` characters. -/
def padRight (width : Nat) (text : String) : String :=
  text ++ String.ofList (List.replicate (width - text.length) ' ')

/-- Blanks before a text up to `width` characters. -/
def padLeft (width : Nat) (text : String) : String :=
  String.ofList (List.replicate (width - text.length) ' ') ++ text

/-- The width of a listing, its decorations included. -/
def listingWidth : Nat := 88

/-- The width of the column of decorations. -/
def columnWidth (ds : Decorations) : Nat :=
  (ds.map (·.2.utf8ByteSize)).foldl max 0

/-- One row of a listing. -/
def listingRow (width : Nat) (decoration line : String) : String :=
  padRight width decoration ++ " | " ++ padRight (listingWidth - (width + 3)) line

/-- The source with its decorations, row by row. -/
def listingRows (source : String) (ds : Decorations) : List String :=
  let width := columnWidth ds
  (sourceLines source).zipIdx.map fun (line, i) => listingRow width (ds.textAt (i + 1)) line

/-- The source with its decorations. -/
def annotate (source : String) (ds : Decorations) : String :=
  String.intercalate "\n" (listingRows source ds)

end AbcMetric
