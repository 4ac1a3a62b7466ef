import AbcMetric.Report

/-!
# Reports as text

First a block for each file that has a debug text or a listing, then a table with one row for each
file: the path, padded to the longest one, and a column of fixed width aligned to the right.

This is the program's text report. Whether there are colors is a parameter. Not modelled: how a
terminal and the environment decide that.
-/

namespace AbcMetric

/-- The emphasis of a piece of text on a terminal. -/
inductive Emphasis where
  | bold
  | yellow
  | red
  deriving DecidableEq, Repr

/-- The number of an emphasis in an escape sequence. -/
def Emphasis.code : Emphasis → String
  | .bold => "1"
  | .yellow => "33"
  | .red => "31"

/-- The text with an emphasis, if colors are on. -/
def emphasize (color : Bool) (e : Emphasis) (text : String) : String :=
  if color then "\x1b[" ++ e.code ++ "m" ++ text ++ "\x1b[0m" else text

/-- The width of the column behind the paths. -/
def outcomeWidth : Nat := 26

namespace FileResult

/-- What the column behind the path says. -/
def outcome (color : Bool) (r : FileResult) : String :=
  match r.status with
  | .analyzed v => padLeft outcomeWidth v.textWithMagnitude
  | .unparseable _ => emphasize color .yellow (padLeft outcomeWidth "Unable to parse AST")
  | .unreadable _ => emphasize color .red (padLeft outcomeWidth "Unable to read file")

/-- The row of a file. -/
def row (color : Bool) (width : Nat) (r : FileResult) : String :=
  padRight width r.path ++ " " ++ r.outcome color

/-- The debug text and the listing of a file under its path, if it has any of them. -/
def block (color : Bool) (r : FileResult) : String :=
  if r.debug.isNone && r.listing.isNone then ""
  else
    emphasize color .bold r.path ++ "\n" ++
      (r.debug.map (· ++ "\n")).getD "" ++ (r.listing.map (· ++ "\n\n")).getD ""

end FileResult

namespace Report

/-- The length of the longest path. -/
def pathWidth (r : Report) : Nat :=
  (r.files.map (·.path.length)).foldl max 0

/-- The rows of the table. -/
def rows (r : Report) (color : Bool) : List String :=
  r.files.map (FileResult.row color r.pathWidth)

/-- The report as text. -/
def text (r : Report) (color : Bool) : String :=
  String.join (r.files.map (FileResult.block color)) ++ String.join ((r.rows color).map (· ++ "\n"))

end Report

end AbcMetric
