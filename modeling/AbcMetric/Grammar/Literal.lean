import AbcMetric.Syntax.Expr
import AbcMetric.Text.Blank
import AbcMetric.Grammar.Stream

/-!
# String literals

Reads the escapes and the replacement fields of a run of adjacent string literals. What the text
between quotes is read with is a parameter (`LiteralReader`): the table of the characters' Unicode
names, which is as large as Unicode, and the parser of the expressions in replacement fields.

* `readEscape` is one backslash escape.
* `Fields.content` reads text with replacement fields; the format of a field may hold fields of
  its own, one level deep.
* `joinLiterals` makes one expression of the whole run: all bytes or none; with a formatted literal
  among them, neighbouring texts become one.

Premise: the table has the names of the Unicode version at hand. Not modelled: the names themselves;
`CharNames.basic` has a few of them.
-/

namespace AbcMetric

/-! ## Escapes -/

/-- The first `count` letters as hexadecimal digits. -/
def hexRun (count : Nat) (rest : List Letter) : Option (Nat × List Letter) :=
  let digits := (rest.take count).map (·.char)
  if digits.length = count && digits.all (isDigitOf 16) then
    some (digitsValue 16 digits, rest.drop count)
  else none

/-- A character given by `count` hexadecimal digits. A surrogate becomes the replacement
character. -/
def readCodePoint (stop count : Nat) (rest : List Letter) :
    Except Fault (List Char × List Letter) :=
  let fault : Fault := ⟨.badCodePoint, placeOf stop rest⟩
  match hexRun count rest with
  | none => .error fault
  | some (n, after) =>
    if 0xd800 ≤ n && n ≤ 0xdfff then .ok (['\uFFFD'], after)
    else if n < 0x110000 then .ok ([Char.ofNat n], after)
    else .error fault

/-- A table of characters by their Unicode names. -/
abbrev CharNames := String → Option Char

/-- The names of the ten digits. -/
def digitNames : List String :=
  ["ZERO", "ONE", "TWO", "THREE", "FOUR", "FIVE", "SIX", "SEVEN", "EIGHT", "NINE"]

/-- The table of the digits and the Latin letters alone. Case does not matter. -/
def CharNames.basic : CharNames := fun name =>
  match (String.ofList (name.toList.map Char.toUpper)).splitOn " " with
  | ["DIGIT", digit] => (digitNames.idxOf? digit).map fun i => Char.ofNat (i + '0'.toNat)
  | ["LATIN", "SMALL", "LETTER", letter] =>
    match letter.toList with
    | [c] => if c.isUpper then some c.toLower else none
    | _ => none
  | ["LATIN", "CAPITAL", "LETTER", letter] =>
    match letter.toList with
    | [c] => if c.isUpper then some c else none
    | _ => none
  | _ => none

/-- The longest name a character can have, in bytes. -/
def maxNameSize : Nat := 88

/-- A character given by its name in braces. -/
def readNamed (table : CharNames) (stop : Nat) (rest : List Letter) :
    Except Fault (List Char × List Letter) :=
  if firstChar rest ≠ some '{' then .error ⟨.brokenString, placeOf stop rest⟩
  else
    let inner := rest.drop 1
    let name := String.ofList ((inner.takeWhile (·.char ≠ '}')).map (·.char))
    match inner.dropWhile (·.char ≠ '}') with
    | [] => .error ⟨.brokenString, stop⟩
    | _ :: after =>
      if maxNameSize < name.utf8ByteSize then .error ⟨.badCodePoint, placeOf stop after⟩
      else
        match table name with
        | some c => .ok ([c], after)
        | none => .error ⟨.badCodePoint, placeOf stop inner⟩

/-- The character that a single letter after a backslash stands for. -/
def simpleEscape? (c : Char) : Option Char :=
  match c with
  | '\\' | '\'' | '"' => some c
  | 'a' => some '\x07'
  | 'b' => some '\x08'
  | 'f' => some '\x0c'
  | 'n' => some '\n'
  | 'r' => some '\r'
  | 't' => some '\t'
  | 'v' => some '\x0b'
  | _ => none

/-- What the letters after a backslash stand for, and what follows them. -/
def readEscape (table : CharNames) (bytes : Bool) (stop : Nat) (rest : List Letter) :
    Except Fault (List Char × List Letter) :=
  match rest with
  | [] => .error ⟨.brokenString, stop⟩
  | l :: after =>
    match simpleEscape? l.char with
    | some c => .ok ([c], after)
    | none =>
      if isDigitOf 8 l.char then
        let more := (after.take 2).takeWhile (isDigitOf 8 ·.char)
        let value := digitsValue 8 (l.char :: more.map (·.char))
        .ok ([Char.ofNat value], after.drop more.length)
      else if l.char = 'x' then readCodePoint stop 2 after
      else if l.char = 'u' && !bytes then readCodePoint stop 4 after
      else if l.char = 'U' && !bytes then readCodePoint stop 8 after
      else if l.char = 'N' && !bytes then readNamed table stop after
      else if l.char = '\n' then .ok ([], after)
      else if bytes && 0x7f < l.char.toNat then .error ⟨.nonAsciiBytes, l.stop⟩
      else .ok (['\\', l.char], after)

/-- The text of a literal without replacement fields, reversed onto `done`. -/
def readPlain (table : CharNames) (kind : StringKind) (stop : Nat) (done : List Char) :
    Nat → List Letter → Except Fault (List Char)
  | 0, _ => .ok done.reverse
  | _, [] => .ok done.reverse
  | fuel + 1, l :: rest =>
    if l.char = '\\' && !kind.isRaw then do
      let (chars, after) ← readEscape table kind.isBytes stop rest
      readPlain table kind stop (chars.reverse ++ done) fuel after
    else if kind.isBytes && 0x7f < l.char.toNat then .error ⟨.nonAsciiBytes, l.stop⟩
    else readPlain table kind stop (l.char :: done) fuel rest

/-! ## Replacement fields -/

/-- What the text between quotes is read with: the characters that names stand for, and how the
expression of a replacement field is parsed, given where it starts. -/
structure LiteralReader where
  table : CharNames
  expression : Nat → List Char → Except Fault Expr

/-- What reading replacement fields needs to know besides: the range that the parts of the literal
carry, whether backslashes stand for themselves, and where the literal's text stops. -/
structure Fields extends LiteralReader where
  span : Span
  isRaw : Bool
  stop : Nat

namespace Fields

/-- A piece of text. -/
def text (f : Fields) (chars : List Char) : Expr :=
  .constant f.span (.str (String.ofList chars)) none

/-- Text read so far (reversed), as a part of its own unless it is empty. -/
def flush (f : Fields) (content : List Char) (parts : List Expr) : List Expr :=
  if content = [] then parts else f.text content.reverse :: parts

/-- A fault in a field. -/
def fault (cause : FieldCause) (offset : Nat) : Fault := ⟨.field cause, offset⟩

/-- The state of reading one field: what has been read of it, most recent first. -/
structure Field where
  expression : List Char := []
  brackets : List Char := []
  conversion : Conversion := .none
  spec : Option (List Expr) := none
  documented : Bool := false
  trailing : List Char := []

/-- The bracket that a closing one belongs to. -/
def openingOf (c : Char) : Char :=
  if c = ')' then '(' else if c = ']' then '[' else '{'

/-- The parts that a finished field contributes, most recent first. A documented field is shown
with its own text before it. -/
def finish (f : Fields) (offset : Nat) (field : Field) (place : Nat) :
    Except Fault (List Expr) := do
  if field.expression.all isBlank then throw (fault .empty place)
  let source := field.expression.reverse
  let value ← (f.expression (offset - 1) ('(' :: source ++ [')'])).mapError
    fun inner => ⟨.inField inner.cause, offset⟩
  let spec := field.spec.map (.joinedStr f.span ·)
  if field.documented then
    let conversion :=
      if field.conversion = .none && field.spec.isNone then .repr else field.conversion
    return [.formattedValue f.span value conversion spec, f.text field.trailing.reverse,
      f.text (source ++ ['='])]
  else return [.formattedValue f.span value field.conversion spec]

/-- The conversion after an exclamation mark; a brace or a colon has to follow it. -/
def conversion (f : Fields) (rest : List Letter) : Except Fault (Conversion × List Letter) := do
  match rest with
  | [] => throw (fault .unclosed f.stop)
  | l :: after =>
    let conversion ←
      match l.char with
      | 's' => pure Conversion.str
      | 'a' => pure Conversion.ascii
      | 'r' => pure Conversion.repr
      | _ => throw (fault .badConversion l.stop)
    match firstChar after with
    | some '}' | some ':' => return (conversion, after)
    | _ => throw (fault .unclosed (placeOf f.stop after))

/-- The format of a field: text and, through `nested`, fields; most recent first. -/
def spec (f : Fields) (nested : List Letter → Except Fault (List Expr × List Letter))
    (content : List Char) (parts : List Expr) :
    Nat → List Letter → Except Fault (List Expr × List Letter)
  | 0, rest => .ok (f.flush content parts, rest)
  | _, [] => .ok (f.flush content parts, [])
  | fuel + 1, l :: rest =>
    if l.char = '{' then do
      let (inner, after) ← nested (l :: rest)
      f.spec nested [] (inner.reverse ++ f.flush content parts) fuel after
    else if l.char = '}' then .ok (f.flush content parts, l :: rest)
    else f.spec nested (l.char :: content) parts fuel rest

/-- One field after its opening brace, which stopped at `offset`: its parts, most recent first. -/
def field (f : Fields) (nested : List Letter → Except Fault (List Expr × List Letter))
    (offset : Nat) (state : Field) :
    Nat → List Letter → Except Fault (List Expr × List Letter)
  | 0, _ => .error (fault .unclosed f.stop)
  | _, [] =>
    if state.expression.all isBlank then .error (fault .empty f.stop)
    else .error (fault .unclosed f.stop)
  | fuel + 1, l :: rest =>
    let c := l.char
    let go (state : Field) (rest : List Letter) := f.field nested offset state fuel rest
    if (c = '!' || c = '=' || c = '>' || c = '<') && firstChar rest = some '=' then
      go { state with expression := '=' :: c :: state.expression } (rest.drop 1)
    else if c = '!' && state.brackets.isEmpty then do
      if state.expression.all isBlank then throw (fault .empty l.stop)
      let (conversion, after) ← f.conversion rest
      go { state with conversion } after
    else if c = '=' && state.brackets.isEmpty then go { state with documented := true } rest
    else if c = ':' && state.brackets.isEmpty then do
      let (parts, after) ← f.spec nested [] [] (rest.length + 1) rest
      go { state with spec := some parts.reverse } after
    else if c = '(' || c = '{' || c = '[' then
      go { state with expression := c :: state.expression, brackets := c :: state.brackets } rest
    else if c = ')' || c = ']' || c = '}' then
      match state.brackets with
      | opening :: outer =>
        if opening = openingOf c then
          go { state with expression := c :: state.expression, brackets := outer } rest
        else .error (fault (.mismatched c opening) l.stop)
      | [] =>
        if c = '}' then do
          let parts ← f.finish offset state l.stop
          return (parts, rest)
        else .error (fault (.unmatched c) l.stop)
    else if c = '"' || c = '\'' then
      let inside := rest.takeWhile (·.char ≠ c)
      match rest.dropWhile (·.char ≠ c) with
      | [] => .error (fault .unterminatedString f.stop)
      | _ :: after =>
        let read := c :: (inside.map (·.char)).reverse ++ c :: state.expression
        go { state with expression := read } after
    else if c = ' ' && state.documented then
      go { state with trailing := c :: state.trailing } rest
    else if c = '\\' then .error (fault .unterminatedString l.stop)
    else if state.documented then .error (fault .unclosed l.stop)
    else go { state with expression := c :: state.expression } rest

/-- Text with fields. At the outer level a doubled brace stands for one brace and a single closing
brace is a fault; inside a format a closing brace ends the text. -/
def content (f : Fields) (outer : Bool)
    (nested : List Letter → Except Fault (List Expr × List Letter))
    (chars : List Char) (parts : List Expr) :
    Nat → List Letter → Except Fault (List Expr × List Letter)
  | 0, rest => .ok ((f.flush chars parts).reverse, rest)
  | _, [] => .ok ((f.flush chars parts).reverse, [])
  | fuel + 1, l :: rest =>
    if l.char = '{' then
      if outer && firstChar rest = some '{' then
        f.content outer nested ('{' :: chars) parts fuel (rest.drop 1)
      else if outer && rest.isEmpty then .error (fault .unclosed f.stop)
      else do
        let (found, after) ← f.field nested l.stop {} (rest.length + 1) rest
        f.content outer nested [] (found ++ f.flush chars parts) fuel after
    else if l.char = '}' then
      if !outer then .ok ((f.flush chars parts).reverse, l :: rest)
      else if firstChar rest = some '}' then
        f.content outer nested ('}' :: chars) parts fuel (rest.drop 1)
      else .error (fault .singleBrace l.stop)
    else if l.char = '\\' && !f.isRaw then
      if firstChar rest = some '{' || firstChar rest = some '}' then
        f.content outer nested ('\\' :: chars) parts fuel rest
      else do
        let (escaped, after) ← readEscape f.table false f.stop rest
        f.content outer nested (escaped.reverse ++ chars) parts fuel after
    else f.content outer nested (l.char :: chars) parts fuel rest

/-- A third level of fields is refused. -/
def refused (f : Fields) (rest : List Letter) : Except Fault (List Expr × List Letter) :=
  .error (fault .tooDeep (placeOf f.stop rest))

/-- The fields inside a format. -/
def inner (f : Fields) (rest : List Letter) : Except Fault (List Expr × List Letter) :=
  f.content false f.refused [] [] (rest.length + 1) rest

/-- The parts of a whole literal. -/
def read (f : Fields) (rest : List Letter) : Except Fault (List Expr) := do
  let (parts, _) ← f.content true f.inner [] [] (rest.length + 1) rest
  return parts

end Fields

/-! ## Runs of literals -/

/-- A string literal and where it stands. -/
structure PlacedLiteral where
  literal : StringLiteral
  span : Span

namespace PlacedLiteral

/-- The letters between the quotes. -/
def letters (p : PlacedLiteral) : List Letter :=
  AbcMetric.letters (p.span.start + p.literal.leadLength) p.literal.text.toList

/-- Where the text between the quotes stops, as its letters count it. -/
def textStop (p : PlacedLiteral) : Nat :=
  p.span.start + p.literal.leadLength + p.literal.text.utf8ByteSize

/-- The text of a literal without fields. -/
def plain (table : CharNames) (p : PlacedLiteral) : Except Fault (List Char) :=
  readPlain table p.literal.kind p.textStop [] (p.letters.length + 1) p.letters

/-- The parts of a literal: its text, or its texts and fields. -/
def parts (reader : LiteralReader) (p : PlacedLiteral) : Except Fault (List Expr) :=
  if p.literal.kind.isFormatted then
    Fields.read ⟨reader, p.span, p.literal.kind.isRaw, p.textStop⟩ p.letters
  else do
    let chars ← p.plain reader.table
    return [.constant p.span (.str (String.ofList chars)) none]

end PlacedLiteral

/-- Joins neighbouring texts; `pending` are the texts read since the last field, most recent
first. -/
def mergeTexts (whole : Span) (mark : Option String) (pending : List String) :
    List Expr → List Expr
  | [] => joined
  | .constant _ (.str s) _ :: rest => mergeTexts whole mark (s :: pending) rest
  | part :: rest => joined ++ part :: mergeTexts whole mark [] rest
where
  joined : List Expr :=
    if pending.isEmpty then []
    else [.constant whole (.str (String.join pending.reverse)) mark]

/-- The expression that a run of adjacent literals denotes. -/
def joinLiterals (reader : LiteralReader) (run : List PlacedLiteral) : Except Fault Expr := do
  let whole : Span :=
    ⟨(run.head?.map (·.span.start)).getD 0, (run.getLast?.map (·.span.stop)).getD 0⟩
  let mark := if run.head?.map (·.literal.kind) = some .unicode then some "u" else none
  if run.any (·.literal.kind.isBytes) then
    if !run.all (·.literal.kind.isBytes) then throw ⟨.mixedBytes, whole.start⟩
    let texts ← run.mapM (·.plain reader.table)
    return .constant whole (.bytes (texts.flatten.map fun c => c.toNat.toUInt8)) none
  else if run.any (·.literal.kind.isFormatted) then
    let parts ← run.mapM (·.parts reader)
    return .joinedStr whole (mergeTexts whole mark [] parts.flatten)
  else
    let texts ← run.mapM (·.plain reader.table)
    return .constant whole (.str (String.ofList texts.flatten)) mark

end AbcMetric
