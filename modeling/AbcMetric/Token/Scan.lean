import AbcMetric.Text.Identifier
import AbcMetric.Text.Emoji
import AbcMetric.Token.Number

/-!
# From letters to tokens

`scan` reads a source text into lexemes up to its end or to the first lexical fault. A round of the
scanner settles the indentation if a line starts, then takes one token or skips blanks; a fault
discards what the round has found so far, so a fault on a line comes before the indentation of
that line.

* Indentation is counted as tabs and spaces apart (`Indentation.compare?`).
* Newlines and indentation do not count inside brackets.
* At the end of the text an open line is closed and all blocks are left.
-/

namespace AbcMetric

/-! ## Indentation -/

/-- The width of an indentation: tabs, then spaces. -/
structure Indentation where
  tabs : Nat
  spaces : Nat
  deriving DecidableEq, Repr

/-- Compares two widths whatever the size of a tab; `none` when that size would decide. -/
def Indentation.compare? (a b : Indentation) : Option Ordering :=
  match compare a.tabs b.tabs with
  | .lt => if a.spaces ≤ b.spaces then some .lt else none
  | .gt => if b.spaces ≤ a.spaces then some .gt else none
  | .eq => some (compare a.spaces b.spaces)

/-- Passes over blank lines, comments and the indentation of the next line that has tokens. A form
feed starts the count anew, and at the end of the text the width is zero. -/
def skipIndentation (tabs spaces : Nat) (comment : Bool) :
    List Letter → Except Fault (Indentation × List Letter)
  | [] => .ok (⟨0, 0⟩, [])
  | l :: rest =>
    if l.char = '\n' || l.char = '\x0c' && !comment then skipIndentation 0 0 false rest
    else if comment || l.char = '#' then skipIndentation 0 0 true rest
    else if l.char = ' ' then skipIndentation tabs (spaces + 1) false rest
    else if l.char = '\t' then
      if spaces ≠ 0 then .error ⟨.tabAfterSpace, l.start⟩
      else skipIndentation (tabs + 1) 0 false rest
    else .ok (⟨tabs, spaces⟩, l :: rest)

/-- Leaves the blocks that are deeper than `width`: how many, and the blocks still open. -/
def leaveBlocks (width : Indentation) (place : Nat) :
    List Indentation → Except Fault (Nat × List Indentation)
  | [] =>
    match width.compare? ⟨0, 0⟩ with
    | some .eq => .ok (0, [])
    | some _ => .error ⟨.unknownIndent, place⟩
    | none => .error ⟨.mixedIndent, place⟩
  | top :: below =>
    match width.compare? top with
    | some .lt => do
      let (left, blocks) ← leaveBlocks width place below
      return (left + 1, blocks)
    | some .eq => .ok (0, top :: below)
    | some .gt => .error ⟨.unknownIndent, place⟩
    | none => .error ⟨.mixedIndent, place⟩

/-! ## The state of the scanner -/

/-- What is left to read, and what the letters read so far have opened. -/
structure Scanner where
  rest : List Letter
  atLineStart : Bool
  nesting : Nat
  blocks : List Indentation

/-- Settles the indentation of a line that starts: blocks entered or left become tokens. -/
def Scanner.indentation (stop : Nat) (s : Scanner) : Except Fault (List Lexeme × Scanner) := do
  let (width, rest) ← skipIndentation 0 0 false s.rest
  let s := { s with rest, atLineStart := rest.isEmpty }
  if s.nesting ≠ 0 then return ([], s)
  let place := placeOf stop rest
  match width.compare? (s.blocks.headD ⟨0, 0⟩) with
  | none => throw ⟨.mixedIndent, place⟩
  | some .eq => return ([], s)
  | some .gt =>
    return ([⟨.indent, place - width.spaces - width.tabs, place⟩],
      { s with blocks := width :: s.blocks })
  | some .lt =>
    let (left, blocks) ← leaveBlocks width place s.blocks
    return (List.replicate left ⟨.dedent, place, place⟩, { s with blocks })

/-! ## Single tokens -/

/-- The text of a string literal after its opening quotes, reversed onto `done`. A backslash keeps
the letter after it from closing the literal. -/
def stringBody (stop : Nat) (quote : Char) (triple : Bool) (done : List Char) :
    List Letter → Except Fault (List Char × List Letter)
  | [] => .error ⟨if triple then .unfinished else .brokenString, stop⟩
  | l :: rest =>
    if l.char = '\\' then
      match rest with
      | [] => .error ⟨if triple then .unfinished else .brokenString, stop⟩
      | next :: rest' => stringBody stop quote triple (next.char :: '\\' :: done) rest'
    else if l.char = '\n' && !triple then .error ⟨.newlineInString, l.stop⟩
    else if l.char = quote && !triple then .ok (done.reverse, rest)
    else if l.char = quote && (rest.take 2).map (·.char) = [quote, quote] then
      .ok (done.reverse, rest.drop 2)
    else stringBody stop quote triple (l.char :: done) rest

/-- A string literal whose kind takes up `lead` letters, and what follows it. -/
def scanString (stop : Nat) (kind : StringKind) (rest : List Letter) :
    Except Fault (Token × List Letter) := do
  let opening := rest.drop kind.lead.length
  let quote := (firstChar opening).getD '"'
  let triple := (opening.take 3).map (·.char) = [quote, quote, quote]
  let (text, after) ←
    stringBody stop quote triple [] (opening.drop (if triple then 3 else 1))
  return (.string ⟨kind, triple, String.ofList text⟩, after)

/-- The kind of the string literal that starts here with letters before its quote. -/
def stringLead? (rest : List Letter) : Option StringKind :=
  let isQuote (c : Char) : Bool := c == '"' || c == '\''
  match (rest.take 3).map (·.char) with
  | c :: d :: more =>
    if isQuote d then StringKind.ofLetter? c
    else if more.any isQuote then StringKind.ofLetters? c d
    else none
  | _ => none

/-- A name or reserved word, and what follows it. -/
def scanName (rest : List Letter) : Token × List Letter :=
  let text := String.ofList ((rest.takeWhile (isIdentRest ·.char)).map (·.char))
  let after := rest.dropWhile (isIdentRest ·.char)
  match Word.ofSpelling? text with
  | some word => (.word word, after)
  | none => (.name text, after)

/-- The tokens of one letter and those that belong to it, outside names. -/
def Scanner.symbol (stop : Nat) (s : Scanner) (l : Letter) (after : List Letter) :
    Except Fault (List Lexeme × Scanner) := do
  let emit (token : Token) (rest : List Letter) (nesting : Nat) : List Lexeme × Scanner :=
    ([⟨token, l.start, placeOf stop rest⟩], { s with rest, nesting })
  if l.char.isDigit || l.char = '.' && ((firstChar after).map Char.isDigit).getD false then
    let (token, rest) ← scanNumber stop s.rest
    return emit token rest s.nesting
  else if l.char = '"' || l.char = '\'' then
    let (token, rest) ← scanString stop .plain s.rest
    return emit token rest s.nesting
  else if l.char = '#' then
    return ([], { s with rest := after.dropWhile (·.char ≠ '\n') })
  else if l.char = '\n' then
    if s.nesting = 0 then
      return ([⟨.newline, l.start, l.stop⟩], { s with rest := after, atLineStart := true })
    else return ([], { s with rest := after })
  else if l.char = ' ' || l.char = '\t' || l.char = '\x0c' then
    return ([], { s with rest := after })
  else if l.char = '\\' then
    if firstChar after ≠ some '\n' then throw ⟨.strayContinuation, l.stop⟩
    else if (after.drop 1).isEmpty then throw ⟨.unfinished, stop⟩
    else return ([], { s with rest := after.drop 1 })
  else
    match Punct.leading? ((s.rest.take 3).map (·.char)) with
    | some p =>
      let rest := s.rest.drop p.spelling.length
      match p with
      | .lpar | .lsqb | .lbrace => return emit (.punct p) rest (s.nesting + 1)
      | .rpar | .rsqb | .rbrace =>
        if s.nesting = 0 then throw ⟨.unopenedBracket, l.stop⟩
        else return emit (.punct p) rest (s.nesting - 1)
      | _ => return emit (.punct p) rest s.nesting
    | none => throw ⟨.strayCharacter l.char, if l.char = '!' then l.start else l.stop⟩

/-- The next token, or none for blanks and comments. -/
def Scanner.token (stop : Nat) (s : Scanner) (l : Letter) (after : List Letter) :
    Except Fault (List Lexeme × Scanner) := do
  if isIdentStart l.char then
    let (token, rest) ←
      match stringLead? s.rest with
      | some kind => scanString stop kind s.rest
      | none => .ok (scanName s.rest)
    return ([⟨token, l.start, placeOf stop rest⟩], { s with rest })
  else if isEmoji l.char then
    return ([⟨.name l.char.toString, l.start, l.stop⟩], { s with rest := after })
  else s.symbol stop l after

/-- What is emitted at the end of the text. -/
def Scanner.finish (stop : Nat) (s : Scanner) : Except Fault (List Lexeme) :=
  if s.nesting ≠ 0 then .error ⟨.unfinished, stop⟩
  else
    .ok ((if s.atLineStart then [] else [⟨.newline, stop, stop⟩]) ++
      List.replicate s.blocks.length ⟨.dedent, stop, stop⟩)

/-! ## Rounds -/

/-- One round: the tokens found, and the state to go on from unless the text has ended. -/
def Scanner.round (stop : Nat) (s : Scanner) : Except Fault (List Lexeme × Option Scanner) := do
  let (opened, s) ← if s.atLineStart then s.indentation stop else .ok ([], s)
  match s.rest with
  | [] =>
    let closing ← s.finish stop
    return (opened ++ closing, none)
  | l :: after =>
    let (found, s) ← s.token stop l after
    return (opened ++ found, some s)

/-- How a scan ends: at the end of the text, or at a fault. -/
structure Scan where
  lexemes : List Lexeme
  fault : Option Fault
  deriving Repr

/-- At most `fuel` rounds, what they find being reversed onto `done`. -/
def Scanner.run (stop : Nat) (done : List Lexeme) : Nat → Scanner → Scan
  | 0, _ => ⟨done.reverse, none⟩
  | fuel + 1, s =>
    match s.round stop with
    | .error fault => ⟨done.reverse, some fault⟩
    | .ok (found, none) => ⟨(found.reverse ++ done).reverse, none⟩
    | .ok (found, some s) => s.run stop (found.reverse ++ done) fuel

/-- Scans a text that starts at byte `offset`, the first letter being at the start of a line. Every
round but the last takes a letter, so the fuel suffices. -/
def scan (offset : Nat) (text : List Char) : Scan :=
  let all := letters offset text
  let stop := ((all.getLast?).map (·.stop)).getD offset
  Scanner.run stop [] (all.length + 1) ⟨all, true, 0, []⟩

/-- Scans a whole source text; a byte order mark at its start is passed over. -/
def scanSource (source : String) : Scan :=
  match source.toList with
  | '\uFEFF' :: text => scan 3 text
  | text => scan 0 text

end AbcMetric
