import AbcMetric.Toml.Scalar

/-!
# TOML documents

A document is a list of lines: comments, headers, and keys with their values. `Toml.document?` reads
a whole text into its root table; a text that breaks a rule has no reading. Values may be nested up
to `Toml.depthLimit`.

These are the rules of the format's version 1.0, with the limits of the library that the program
uses. Not modelled: which rule a text breaks, since a text without a reading is just passed over.
-/

namespace AbcMetric

namespace Toml

/-- Values and keys with this many levels are refused. -/
def depthLimit : Nat := 80

/-- The characters that are left. -/
def rest : TomlReader (List Char) := get

/-- Skips blanks. -/
def skipBlank : TomlReader Unit := modify (·.dropWhile isBlank)

/-- Reads a character that has to be there. -/
def expect (c : Char) : TomlReader Unit := fun chars => (behind c chars).map ((), ·)

/-- Whether a character is next. -/
def nextIs (c : Char) : TomlReader Bool := do return (← rest).head? = some c

/-- What is behind a comment, if there is one here. -/
def skipComment (chars : List Char) : List Char :=
  match chars with
  | '#' :: more => more.dropWhile isPlain
  | _ => chars

/-- What is behind the end of a line. -/
def behindNewline : List Char → Option (List Char)
  | '\n' :: more => some more
  | '\r' :: '\n' :: more => some more
  | _ => none

/-- The end of a line: blanks, a comment, and a line's end or the end of the text. -/
def lineEnd : TomlReader Unit := fun chars =>
  match skipComment (chars.dropWhile isBlank) with
  | [] => some ((), [])
  | more => (behindNewline more).map ((), ·)

/-- What is behind blanks, comments and ends of lines. -/
def skipLines : Nat → List Char → List Char
  | 0, chars => chars
  | fuel + 1, chars =>
    let more := skipComment (chars.dropWhile isBlank)
    match behindNewline more with
    | some more => skipLines fuel more
    | none => more

/-- Skips blanks, comments and ends of lines. -/
def skipSpace : TomlReader Unit := modify fun chars => skipLines (chars.length + 1) chars

/-! ## Keys -/

/-- Whether a character can be part of a key without quotes. -/
def isKeyChar (c : Char) : Bool := c.isAlphanum || c = '_' || c = '-'

/-- One part of a key. -/
def keyPart : TomlReader String := fun chars =>
  match chars with
  | '"' :: _ => lineString chars
  | '\'' :: _ => lineString chars
  | _ =>
    let part := chars.takeWhile isKeyChar
    if part.isEmpty then none else some (String.ofList part, chars.drop part.length)

/-- The further parts of a dotted key. -/
def keyTail : Nat → TomlReader (List String)
  | 0 => return []
  | fuel + 1 => do
    skipBlank
    if ← nextIs '.' then
      expect '.'
      skipBlank
      let part ← keyPart
      return part :: (← keyTail fuel)
    else return []

/-- A key: the parts before the last one, and the last. -/
def key : TomlReader (List String × String) := do
  let first ← keyPart
  let parts := first :: (← keyTail (← rest).length)
  if depthLimit ≤ parts.length then failure
  return (parts.dropLast, parts.getLastD first)

/-! ## Values -/

/-- The further items of an array, after one of them or after its opening bracket. -/
def arrayTail (item : TomlReader TomlItem) : Nat → TomlReader (List TomlItem)
  | 0 => failure
  | fuel + 1 => do
    skipSpace
    if ← nextIs ']' then
      expect ']'
      return []
    let first ← item
    skipSpace
    if ← nextIs ',' then
      expect ','
      return first :: (← arrayTail item fuel)
    expect ']'
    return [first]

/-- An array. -/
def array (item : TomlReader TomlItem) : TomlReader TomlItem := do
  expect '['
  return .array (← arrayTail item ((← rest).length + 1))

/-- A key with its value. -/
def pair (item : TomlReader TomlItem) : TomlReader (List String × String × TomlItem) := do
  let (path, key) ← key
  skipBlank
  expect '='
  skipBlank
  return (path, key, ← item)

/-- The pairs of an inline table. -/
def pairs (item : TomlReader TomlItem) :
    Nat → TomlReader (List (List String × String × TomlItem))
  | 0 => failure
  | fuel + 1 => do
    skipBlank
    let first ← pair item
    skipBlank
    if ← nextIs ',' then
      expect ','
      return first :: (← pairs item fuel)
    expect '}'
    return [first]

/-- An inline table. -/
def inlineTable (item : TomlReader TomlItem) : TomlReader TomlItem := do
  expect '{'
  skipBlank
  if ← nextIs '}' then
    expect '}'
    return .table .inline []
  let entries ← pairs item ((← rest).length + 1)
  match TomlTable.ofPairs entries with
  | some t => return .table .inline t
  | none => failure

/-- A value of so many levels at most, besides those without parts. -/
def value : Nat → TomlReader TomlItem
  | 0 => scalar
  | depth + 1 => do
    if ← nextIs '[' then array (value depth)
    else if ← nextIs '{' then inlineTable (value depth)
    else scalar

/-! ## Documents -/

/-- A header: whether it is of an array of tables, and its key. -/
def header : TomlReader (Bool × List String × String) := do
  expect '['
  let ofArray ← nextIs '['
  if ofArray then expect '['
  skipBlank
  let (path, key) ← key
  skipBlank
  expect ']'
  if ofArray then expect ']'
  lineEnd
  return (ofArray, path, key)

/-- The lines of a document, from a root table and the path of the header in force. -/
def lines : Nat → TomlTable → List String → TomlReader TomlTable
  | 0, root, _ => return root
  | fuel + 1, root, current => do
    skipSpace
    match ← rest with
    | [] => return root
    | '[' :: _ =>
      let (ofArray, path, key) ← header
      let root ← StateT.lift (if ofArray then root.addElement path key else root.define path key)
      lines fuel root (path ++ [key])
    | _ =>
      let (path, key, item) ← pair (value (depthLimit - 1))
      lineEnd
      let root ← StateT.lift (root.atHeader (TomlTable.insertDotted key item path) current)
      lines fuel root current

/-- The root table of a document; a byte order mark before it is skipped. -/
def document? (text : String) : Option TomlTable :=
  let chars := match text.toList with
    | '\ufeff' :: more => more
    | more => more
  (lines (chars.length + 1) [] [] chars).map (·.1)

end Toml

end AbcMetric
