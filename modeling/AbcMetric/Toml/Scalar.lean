import AbcMetric.Number.Binary64
import AbcMetric.Number.Digits
import AbcMetric.Toml.Item

/-!
# TOML scalars

Readers for strings, numbers, booleans and dates. A reader takes characters and gives what it read
and the characters behind it, or nothing.

Not modelled: the values of floats and dates, which no setting has; that a text is one is all that
is kept.
-/

namespace AbcMetric

/-- Reads from a list of characters. -/
abbrev TomlReader := StateT (List Char) Option

namespace Toml

/-- Whether a character may stand in a comment or a string on one line. -/
def isPlain (c : Char) : Bool := c = '\t' || (' ' ≤ c && c ≠ '\x7f')

/-- A space or a tab. -/
def isBlank (c : Char) : Bool := c = ' ' || c = '\t'

export AbcMetric (digitsValue?)

/-! ## Strings -/

/-- The character of a Unicode escape, unless it is a surrogate or too large. -/
def escapedChar? (digits : List Char) : Option Char := do
  let code ← digitsValue? 16 digits
  if code < 0xd800 ∨ 0xdfff < code ∧ code < 0x110000 then some (Char.ofNat code) else none

/-- What a one-letter escape stands for. -/
def shortEscape? (c : Char) : Option Char :=
  if c = 'b' then some '\x08'
  else if c = 't' then some '\t'
  else if c = 'n' then some '\n'
  else if c = 'f' then some '\x0c'
  else if c = 'r' then some '\r'
  else if c = '"' then some '"'
  else if c = '\\' then some '\\'
  else none

/-- An escape behind its backslash. -/
def escape : List Char → Option (Char × List Char)
  | [] => none
  | c :: rest =>
    if c = 'u' ∧ 4 ≤ rest.length then
      (escapedChar? (rest.take 4)).map fun char => (char, rest.drop 4)
    else if c = 'U' ∧ 8 ≤ rest.length then
      (escapedChar? (rest.take 8)).map fun char => (char, rest.drop 8)
    else (shortEscape? c).map fun char => (char, rest)

/-- The rest of a string in double quotes, behind what was read of it, the last first. -/
def basicTail : Nat → List Char → List Char → Option (String × List Char)
  | 0, _, _ => none
  | fuel + 1, read, chars =>
    match chars with
    | [] => none
    | '"' :: rest => some (String.ofList read.reverse, rest)
    | '\\' :: rest => do
      let (char, rest) ← escape rest
      basicTail fuel (char :: read) rest
    | c :: rest => if isPlain c then basicTail fuel (c :: read) rest else none

/-- The rest of a string in single quotes. -/
def literalTail (chars : List Char) : Option (String × List Char) :=
  match chars.dropWhile (fun c => isPlain c && c ≠ '\'') with
  | '\'' :: rest =>
    some (String.ofList (chars.takeWhile fun c => isPlain c && c ≠ '\''), rest)
  | _ => none

/-- The quotes that may stand directly before the three that close a string over several lines, and
what is behind them all; at least three quotes were there already. -/
def closingQuotes (quote : Char) : List Char → List Char × List Char
  | a :: b :: rest =>
    if a = quote ∧ b = quote then ([a, b], rest)
    else if a = quote then ([a], b :: rest)
    else ([], a :: b :: rest)
  | [a] => if a = quote then ([a], []) else ([], [a])
  | [] => ([], [])

/-- What is behind a backslash at the end of a line: blanks, a line's end and further blanks and
ends of lines. -/
def continuation? (chars : List Char) : Option (List Char) :=
  match chars.dropWhile isBlank with
  | '\n' :: rest => some (skipLines rest)
  | '\r' :: '\n' :: rest => some (skipLines rest)
  | _ => none
where
  /-- Skips blanks and ends of lines. -/
  skipLines : List Char → List Char
    | '\r' :: '\n' :: rest => skipLines rest
    | c :: rest => if isBlank c ∨ c = '\n' then skipLines rest else c :: rest
    | [] => []

/-- The rest of a string over several lines, with or without escapes. -/
def blockTail (quote : Char) : Nat → List Char → List Char → Option (String × List Char)
  | 0, _, _ => none
  | fuel + 1, read, chars =>
    match chars with
    | [] => none
    | '\r' :: '\n' :: rest => blockTail quote fuel ('\n' :: read) rest
    | '\n' :: rest => blockTail quote fuel ('\n' :: read) rest
    | c :: rest =>
      if c = quote ∧ rest.take 2 = [quote, quote] then
        let (more, rest) := closingQuotes quote (rest.drop 2)
        some (String.ofList (more ++ read).reverse, rest)
      else if c = '\\' ∧ quote = '"' then
        match continuation? rest with
        | some rest => blockTail quote fuel read rest
        | none => do
          let (char, rest) ← escape rest
          blockTail quote fuel (char :: read) rest
      else if isPlain c then blockTail quote fuel (c :: read) rest
      else none

/-- A string over several lines, behind its opening quotes; a line's end directly behind them is
left out. -/
def block (quote : Char) (chars : List Char) : Option (String × List Char) :=
  let chars := match chars with
    | '\n' :: rest => rest
    | '\r' :: '\n' :: rest => rest
    | _ => chars
  blockTail quote (chars.length + 1) [] chars

/-- A string on one line, in quotes of either kind. -/
def lineString : List Char → Option (String × List Char)
  | '"' :: rest => basicTail (rest.length + 1) [] rest
  | '\'' :: rest => literalTail rest
  | _ => none

/-- A string of any kind. -/
def string : List Char → Option (String × List Char)
  | '"' :: '"' :: '"' :: rest => block '"' rest
  | '\'' :: '\'' :: '\'' :: rest => block '\'' rest
  | chars => lineString chars

/-! ## Numbers -/

/-- The digits of a group without the underscores between them; one that is not between two digits
has no reading. -/
def ungroup (isDigit : Char → Bool) : List Char → Option (List Char)
  | [] => none
  | [c] => if isDigit c then some [c] else none
  | c :: '_' :: rest => if isDigit c then (ungroup isDigit rest).map (c :: ·) else none
  | c :: rest => if isDigit c then (ungroup isDigit rest).map (c :: ·) else none

/-- The sign of a number, true for a minus, and what is behind it. -/
def signed : List Char → Bool × List Char
  | '-' :: rest => (true, rest)
  | '+' :: rest => (false, rest)
  | chars => (false, chars)

/-- A decimal number without sign; zero leads no other digit. -/
def decimal? (chars : List Char) : Option Nat := do
  let digits ← ungroup (isDigitOf 10) chars
  if digits.head? = some '0' ∧ 1 < digits.length then none else digitsValue? 10 digits

/-- An integer of 64 bits. -/
def integer? (token : List Char) : Option Int := do
  let value : Int ← match token with
    | '0' :: 'x' :: rest => Int.ofNat <$> (ungroup (isDigitOf 16) rest >>= digitsValue? 16)
    | '0' :: 'o' :: rest => Int.ofNat <$> (ungroup (isDigitOf 8) rest >>= digitsValue? 8)
    | '0' :: 'b' :: rest => Int.ofNat <$> (ungroup (isDigitOf 2) rest >>= digitsValue? 2)
    | _ =>
      let (negative, digits) := signed token
      (decimal? digits).map fun n => if negative then -(n : Int) else n
  if Int64.minValue.toInt ≤ value ∧ value ≤ Int64.maxValue.toInt then some value else none

/-- The exponent behind its letter. -/
def exponent? (chars : List Char) : Option Int := do
  let (negative, digits) := signed chars
  let value ← ungroup (isDigitOf 10) digits >>= digitsValue? 10
  return if negative then -(value : Int) else value

/-- Whether the text is a float. One that is too large for the format is none, unless it is
negative. -/
def isFloat (token : List Char) : Bool :=
  let (negative, body) := signed token
  if body = "inf".toList ∨ body = "nan".toList then true
  else
    let mantissa := body.takeWhile fun c => c ≠ 'e' && c ≠ 'E'
    let power := body.drop mantissa.length
    let whole := mantissa.takeWhile (· ≠ '.')
    let fraction := mantissa.drop whole.length
    let value : Option Binary64 := do
      let _ ← decimal? whole
      let wholeDigits ← ungroup (isDigitOf 10) whole
      let fractionDigits ← if fraction.isEmpty then some [] else
        ungroup (isDigitOf 10) (fraction.drop 1)
      let scale ← if power.isEmpty then some 0 else exponent? (power.drop 1)
      if fraction.isEmpty ∧ power.isEmpty then none
      let digits ← digitsValue? 10 (wholeDigits ++ fractionDigits)
      return .ofDecimal digits (scale - fractionDigits.length)
    match value with
    | none => false
    | some .infinite => negative
    | some _ => true

/-! ## Dates -/

/-- A number of exactly `count` decimal digits, within limits. -/
def fixedDigits (count low high : Nat) (chars : List Char) : Option (Nat × List Char) := do
  let digits := chars.take count
  if digits.length < count then none
  let value ← digitsValue? 10 digits
  if low ≤ value ∧ value ≤ high then some (value, chars.drop count) else none

/-- What is behind a character that has to be there. -/
def behind (c : Char) : List Char → Option (List Char)
  | d :: rest => if d = c then some rest else none
  | [] => none

/-- The number of days in a month. -/
def daysIn (year month : Nat) : Nat :=
  if month = 2 then
    if year % 4 = 0 ∧ (year % 100 ≠ 0 ∨ year % 400 = 0) then 29 else 28
  else if month = 4 ∨ month = 6 ∨ month = 9 ∨ month = 11 then 30
  else 31

/-- A day of the calendar. -/
def calendarDay (chars : List Char) : Option (List Char) := do
  let (year, rest) ← fixedDigits 4 0 9999 chars
  let (month, rest) ← fixedDigits 2 1 12 (← behind '-' rest)
  let (_, rest) ← fixedDigits 2 1 (daysIn year month) (← behind '-' rest)
  return rest

/-- A time of day. -/
def timeOfDay (chars : List Char) : Option (List Char) := do
  let (_, rest) ← fixedDigits 2 0 23 chars
  let (_, rest) ← fixedDigits 2 0 59 (← behind ':' rest)
  let (_, rest) ← fixedDigits 2 0 60 (← behind ':' rest)
  match rest with
  | '.' :: d :: more => if d.isDigit then some (more.dropWhile Char.isDigit) else none
  | '.' :: [] => none
  | _ => some rest

/-- The offset from universal time, if there is one. -/
def timeOffset (chars : List Char) : Option (List Char) :=
  match chars with
  | [] => some []
  | c :: rest =>
    if c = 'Z' ∨ c = 'z' then some rest
    else if c = '+' ∨ c = '-' then do
      let (_, rest) ← fixedDigits 2 0 23 rest
      let (_, rest) ← fixedDigits 2 0 59 (← behind ':' rest)
      return rest
    else some chars

/-- A date, a time, or both. -/
def date (chars : List Char) : Option (List Char) :=
  match calendarDay chars with
  | none => timeOfDay chars
  | some rest =>
    match rest with
    | c :: more =>
      if c = 'T' ∨ c = 't' then timeOfDay more >>= timeOffset
      else if c = ' ' then
        match timeOfDay more with
        | some rest => timeOffset rest
        | none => some rest
      else some rest
    | [] => some []

/-! ## Scalars -/

/-- Whether a character can be part of a number. -/
def isNumberChar (c : Char) : Bool :=
  c.isAlphanum || c = '_' || c = '+' || c = '-' || c = '.'

/-- A number, a date or a word. -/
def word (chars : List Char) : Option (TomlItem × List Char) :=
  match date chars with
  | some rest => some (.date, rest)
  | none =>
    let token := chars.takeWhile isNumberChar
    let rest := chars.drop token.length
    if token = "true".toList then some (.boolean true, rest)
    else if token = "false".toList then some (.boolean false, rest)
    else if isFloat token then some (.float, rest)
    else (integer? token).map fun value => (.integer value, rest)

/-- A value without parts. -/
def scalar (chars : List Char) : Option (TomlItem × List Char) :=
  match chars with
  | '"' :: _ => (string chars).map fun (text, rest) => (.string text, rest)
  | '\'' :: _ => (string chars).map fun (text, rest) => (.string text, rest)
  | _ => word chars

end Toml

end AbcMetric
