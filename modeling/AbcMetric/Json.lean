/-!
# JSON documents

The values a report is made of, and their two layouts.

* `Json.compact` writes a value without blanks.
* `Json.pretty` writes every member and element on a line of its own, two spaces a level.

In strings the quote, the backslash and the controls below the space are escaped, and nothing else.

Only values that a report is made of are modelled: no signs, no exponents, no `true`, `false` or
`null`. Reading is not modelled here.
-/

namespace AbcMetric

/-- A JSON value; numbers are naturals or have exactly one decimal place. -/
inductive Json where
  | nat (value : Nat)
  | tenths (value : Nat)
  | str (value : String)
  | arr (items : List Json)
  | obj (members : List (String × Json))

/-- A number of tenths with its one decimal place. -/
def tenthsText (k : Nat) : String := s!"{k / 10}.{k % 10}"

namespace Json

/-- A lower-case hexadecimal digit. -/
def hexDigit (n : Nat) : Char :=
  if n < 10 then Char.ofNat ('0'.toNat + n) else Char.ofNat ('a'.toNat + n - 10)

/-- One character of a string. -/
def escapeChar (c : Char) : List Char :=
  if c = '"' then ['\\', '"']
  else if c = '\\' then ['\\', '\\']
  else if c = '\x08' then ['\\', 'b']
  else if c = '\x0c' then ['\\', 'f']
  else if c = '\n' then ['\\', 'n']
  else if c = '\r' then ['\\', 'r']
  else if c = '\t' then ['\\', 't']
  else if c.toNat < 0x20 then
    ['\\', 'u', '0', '0', hexDigit (c.toNat / 16), hexDigit (c.toNat % 16)]
  else [c]

/-- A string in quotes. -/
def quote (s : String) : String :=
  String.ofList ('"' :: s.toList.flatMap escapeChar ++ ['"'])

mutual

/-- The value without blanks. -/
def compact : Json → String
  | .nat n => toString n
  | .tenths k => tenthsText k
  | .str s => quote s
  | .arr items => "[" ++ String.intercalate "," (compactItems items) ++ "]"
  | .obj members => "\x7b" ++ String.intercalate "," (compactMembers members) ++ "\x7d"

/-- The elements of a list without blanks. -/
def compactItems : List Json → List String
  | [] => []
  | item :: items => item.compact :: compactItems items

/-- The members of an object without blanks. -/
def compactMembers : List (String × Json) → List String
  | [] => []
  | (key, value) :: members => (quote key ++ ":" ++ value.compact) :: compactMembers members

end

/-- A new line with its indentation. -/
def newline (depth : Nat) : String := String.ofList ('\n' :: List.replicate (2 * depth) ' ')

/-- Entries between brackets, each on a line of its own, or the empty brackets. -/
def layout (opening closing : String) (depth : Nat) (entries : List String) : String :=
  if entries.isEmpty then opening ++ closing
  else
    let inner := newline (depth + 1)
    opening ++ inner ++ String.intercalate ("," ++ inner) entries ++ newline depth ++ closing

mutual

/-- The value over several lines, at a depth of indentation. -/
def prettyAt (depth : Nat) : Json → String
  | .nat n => toString n
  | .tenths k => tenthsText k
  | .str s => quote s
  | .arr items => layout "[" "]" depth (prettyItems (depth + 1) items)
  | .obj members => layout "\x7b" "\x7d" depth (prettyMembers (depth + 1) members)

/-- The elements of a list. -/
def prettyItems (depth : Nat) : List Json → List String
  | [] => []
  | item :: items => item.prettyAt depth :: prettyItems depth items

/-- The members of an object. -/
def prettyMembers (depth : Nat) : List (String × Json) → List String
  | [] => []
  | (key, value) :: members =>
    (quote key ++ ": " ++ value.prettyAt depth) :: prettyMembers depth members

end

/-- The value over several lines. -/
def pretty (j : Json) : String := j.prettyAt 0

end Json

end AbcMetric
