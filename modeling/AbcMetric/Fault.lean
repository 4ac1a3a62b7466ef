import AbcMetric.Token.Basic

/-!
# Faults of a source text

Why a source text is no module. A fault has a cause and the byte offset it is reported at;
`Fault.message` is the one place where the wording stands.

These are the faults of the parser that the program uses, with its wording. Not modelled: faults
that only interactive input or single expressions can have.
-/

namespace AbcMetric

/-- What is wrong with a replacement field of a formatted string. -/
inductive FieldCause where
  | unclosed
  | empty
  | badConversion
  | singleBrace
  | unmatched (closing : Char)
  | mismatched (closing opening : Char)
  | tooDeep
  | unterminatedString
  deriving DecidableEq, Repr

/-- The wording of a cause in a replacement field. -/
def FieldCause.text : FieldCause → String
  | .unclosed => "expecting '\x7d'"
  | .empty => "empty expression not allowed"
  | .badConversion => "invalid conversion character"
  | .singleBrace => "single '\x7d' is not allowed"
  | .unmatched closing => s!"unmatched '{closing}'"
  | .mismatched closing opening =>
    s!"closing parenthesis '{closing}' does not match opening parenthesis '{opening}'"
  | .tooDeep => "expressions nested too deeply"
  | .unterminatedString => "unterminated string"

/-- What is wrong with a source text. -/
inductive Cause where
  | unexpectedToken (token : Token)
  | missingBlock
  | unexpectedEnd
  | strayCharacter (char : Char)
  | unopenedBracket
  | unfinished
  | brokenString
  | newlineInString
  | badCodePoint
  | unknownIndent
  | mixedIndent
  | tabAfterSpace
  | strayContinuation
  | leadingZero
  | strayUnderscore
  | badDecimal
  | missingDigits
  | nonAsciiBytes
  | mixedBytes
  | defaultOrder
  | duplicateArgument (name : String)
  | bareStar
  | repeatedKeyword (name : String)
  | positionalAfterKeyword
  | starAfterDoubleStar
  | starredHere
  | doubleStarredHere
  | underscoreTarget
  | nestingLimit
  | field (cause : FieldCause)
  | inField (cause : Cause)
  deriving DecidableEq, Repr

/-- The wording of a cause. -/
def Cause.text : Cause → String
  | .unexpectedToken .indent => "unexpected indent"
  | .unexpectedToken token => s!"invalid syntax. Got unexpected token {token.text}"
  | .missingBlock => "expected an indented block"
  | .unexpectedEnd => "Got unexpected EOF"
  | .strayCharacter char => s!"Got unexpected token {char}"
  | .unopenedBracket => "Got unexpected nesting"
  | .unfinished => "unexpected EOF while parsing"
  | .brokenString => "Got unexpected string"
  | .newlineInString => "EOL while scanning string literal"
  | .badCodePoint => "Got unexpected unicode"
  | .unknownIndent => "unindent does not match any outer indentation level"
  | .mixedIndent => "inconsistent use of tabs and spaces in indentation"
  | .tabAfterSpace => "Tabs not allowed as part of indentation after spaces"
  | .strayContinuation => "unexpected character after line continuation character"
  | .leadingZero => "Invalid Token"
  | .strayUnderscore => "Invalid Syntax"
  | .badDecimal => "Invalid decimal literal"
  | .missingDigits => "ParseBigIntError \x7b kind: Empty \x7d"
  | .nonAsciiBytes => "bytes can only contain ASCII literal characters"
  | .mixedBytes => "cannot mix bytes and nonbytes literals"
  | .defaultOrder => "non-default argument follows default argument"
  | .duplicateArgument name => s!"duplicate argument '{name}' in function definition"
  | .bareStar => "named arguments must follow bare *"
  | .repeatedKeyword name => s!"keyword argument repeated: {name}"
  | .positionalAfterKeyword => "positional argument follows keyword argument"
  | .starAfterDoubleStar => "iterable argument unpacking follows keyword argument unpacking"
  | .starredHere => "cannot use starred expression here"
  | .doubleStarredHere => "cannot use double starred expression here"
  | .underscoreTarget => "cannot use '_' as a target"
  | .nestingLimit => "too many nested constructs"
  | .field cause => s!"f-string: {cause.text}"
  | .inField cause => s!"f-string: {cause.text}"

/-- A cause and the byte offset it is reported at. -/
structure Fault where
  cause : Cause
  offset : Nat
  deriving DecidableEq, Repr

/-- The message of a fault. -/
def Fault.message (fault : Fault) : String :=
  s!"{fault.cause.text} at byte offset {fault.offset}"

end AbcMetric
