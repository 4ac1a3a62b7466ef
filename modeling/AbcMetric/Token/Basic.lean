import AbcMetric.Source.Span
import AbcMetric.Number.Shortest

/-!
# Tokens

What the scanner makes of a source text. A token's `text` is how a fault message names it.
-/

namespace AbcMetric

/-- A reserved word. The last three are words only where a line can start with them. -/
inductive Word where
  | andKw
  | asKw
  | assertKw
  | asyncKw
  | awaitKw
  | breakKw
  | classKw
  | continueKw
  | defKw
  | delKw
  | elifKw
  | elseKw
  | exceptKw
  | falseKw
  | finallyKw
  | forKw
  | fromKw
  | globalKw
  | ifKw
  | importKw
  | inKw
  | isKw
  | lambdaKw
  | noneKw
  | nonlocalKw
  | notKw
  | orKw
  | passKw
  | raiseKw
  | returnKw
  | trueKw
  | tryKw
  | whileKw
  | withKw
  | yieldKw
  | matchKw
  | caseKw
  | typeKw
  deriving DecidableEq, Repr

namespace Word

/-- How a reserved word is written. -/
def spelling : Word → String
  | .andKw => "and"
  | .asKw => "as"
  | .assertKw => "assert"
  | .asyncKw => "async"
  | .awaitKw => "await"
  | .breakKw => "break"
  | .classKw => "class"
  | .continueKw => "continue"
  | .defKw => "def"
  | .delKw => "del"
  | .elifKw => "elif"
  | .elseKw => "else"
  | .exceptKw => "except"
  | .falseKw => "False"
  | .finallyKw => "finally"
  | .forKw => "for"
  | .fromKw => "from"
  | .globalKw => "global"
  | .ifKw => "if"
  | .importKw => "import"
  | .inKw => "in"
  | .isKw => "is"
  | .lambdaKw => "lambda"
  | .noneKw => "None"
  | .nonlocalKw => "nonlocal"
  | .notKw => "not"
  | .orKw => "or"
  | .passKw => "pass"
  | .raiseKw => "raise"
  | .returnKw => "return"
  | .trueKw => "True"
  | .tryKw => "try"
  | .whileKw => "while"
  | .withKw => "with"
  | .yieldKw => "yield"
  | .matchKw => "match"
  | .caseKw => "case"
  | .typeKw => "type"

/-- All reserved words. -/
def all : List Word :=
  [.andKw, .asKw, .assertKw, .asyncKw, .awaitKw, .breakKw, .classKw, .continueKw, .defKw, .delKw,
   .elifKw, .elseKw, .exceptKw, .falseKw, .finallyKw, .forKw, .fromKw, .globalKw, .ifKw,
   .importKw, .inKw, .isKw, .lambdaKw, .noneKw, .nonlocalKw, .notKw, .orKw, .passKw, .raiseKw,
   .returnKw, .trueKw, .tryKw, .whileKw, .withKw, .yieldKw, .matchKw, .caseKw, .typeKw]

/-- The reserved word that is written `text`. -/
def ofSpelling? (text : String) : Option Word :=
  all.find? (·.spelling == text)

end Word

/-- An operator or delimiter. -/
inductive Punct where
  | lpar
  | rpar
  | lsqb
  | rsqb
  | lbrace
  | rbrace
  | colon
  | comma
  | semi
  | plus
  | minus
  | star
  | slash
  | vbar
  | amper
  | less
  | greater
  | equal
  | dot
  | percent
  | eqEqual
  | notEqual
  | lessEqual
  | greaterEqual
  | tilde
  | caret
  | leftShift
  | rightShift
  | doubleStar
  | plusEqual
  | minusEqual
  | starEqual
  | slashEqual
  | percentEqual
  | amperEqual
  | vbarEqual
  | caretEqual
  | leftShiftEqual
  | rightShiftEqual
  | doubleStarEqual
  | doubleSlash
  | doubleSlashEqual
  | atSign
  | atEqual
  | arrow
  | ellipsis
  | colonEqual
  deriving DecidableEq, Repr

/-- How an operator or delimiter is written. -/
def Punct.spelling : Punct → String
  | .lpar => "("
  | .rpar => ")"
  | .lsqb => "["
  | .rsqb => "]"
  | .lbrace => "\x7b"
  | .rbrace => "\x7d"
  | .colon => ":"
  | .comma => ","
  | .semi => ";"
  | .plus => "+"
  | .minus => "-"
  | .star => "*"
  | .slash => "/"
  | .vbar => "|"
  | .amper => "&"
  | .less => "<"
  | .greater => ">"
  | .equal => "="
  | .dot => "."
  | .percent => "%"
  | .eqEqual => "=="
  | .notEqual => "!="
  | .lessEqual => "<="
  | .greaterEqual => ">="
  | .tilde => "~"
  | .caret => "^"
  | .leftShift => "<<"
  | .rightShift => ">>"
  | .doubleStar => "**"
  | .plusEqual => "+="
  | .minusEqual => "-="
  | .starEqual => "*="
  | .slashEqual => "/="
  | .percentEqual => "%="
  | .amperEqual => "&="
  | .vbarEqual => "|="
  | .caretEqual => "^="
  | .leftShiftEqual => "<<="
  | .rightShiftEqual => ">>="
  | .doubleStarEqual => "**="
  | .doubleSlash => "//"
  | .doubleSlashEqual => "//="
  | .atSign => "@"
  | .atEqual => "@="
  | .arrow => "->"
  | .ellipsis => "..."
  | .colonEqual => ":="

/-- All operators and delimiters, longer ones first. -/
def Punct.all : List Punct :=
  [.leftShiftEqual, .rightShiftEqual, .doubleStarEqual, .doubleSlashEqual, .ellipsis, .eqEqual,
   .notEqual, .lessEqual, .greaterEqual, .leftShift, .rightShift, .doubleStar, .plusEqual,
   .minusEqual, .starEqual, .slashEqual, .percentEqual, .amperEqual, .vbarEqual, .caretEqual,
   .doubleSlash, .atEqual, .arrow, .colonEqual, .lpar, .rpar, .lsqb, .rsqb, .lbrace, .rbrace,
   .colon, .comma, .semi, .plus, .minus, .star, .slash, .vbar, .amper, .less, .greater, .equal,
   .dot, .percent, .tilde, .caret, .atSign]

/-- The longest operator or delimiter that `text` starts with. -/
def Punct.leading? (text : List Char) : Option Punct :=
  Punct.all.find? fun p => p.spelling.toList.isPrefixOf text

/-- The kind of a string literal, given by the letters before its quote. -/
inductive StringKind where
  | plain
  | unicode
  | bytes
  | formatted
  | raw
  | rawBytes
  | rawFormatted
  deriving DecidableEq, Repr

namespace StringKind

/-- The letters before the quote, in lower case and one order. -/
def lead : StringKind → String
  | .plain => ""
  | .unicode => "u"
  | .bytes => "b"
  | .formatted => "f"
  | .raw => "r"
  | .rawBytes => "rb"
  | .rawFormatted => "rf"

/-- Whether backslashes stand for themselves. -/
def isRaw : StringKind → Bool
  | .raw | .rawBytes | .rawFormatted => true
  | _ => false

/-- Whether the literal denotes bytes. -/
def isBytes : StringKind → Bool
  | .bytes | .rawBytes => true
  | _ => false

/-- Whether the literal has replacement fields. -/
def isFormatted : StringKind → Bool
  | .formatted | .rawFormatted => true
  | _ => false

/-- The kind that one letter before the quote gives. -/
def ofLetter? (c : Char) : Option StringKind :=
  match c.toLower with
  | 'r' => some .raw
  | 'f' => some .formatted
  | 'u' => some .unicode
  | 'b' => some .bytes
  | _ => none

/-- The kind that two letters before the quote give. -/
def ofLetters? (c d : Char) : Option StringKind :=
  match c.toLower, d.toLower with
  | 'r', 'f' | 'f', 'r' => some .rawFormatted
  | 'r', 'b' | 'b', 'r' => some .rawBytes
  | _, _ => none

end StringKind

/-- A string literal before its escapes are read. -/
structure StringLiteral where
  kind : StringKind
  triple : Bool
  text : String
  deriving DecidableEq, Repr

namespace StringLiteral

/-- The closing quotes in a fault message. -/
def quotes (lit : StringLiteral) : String :=
  if lit.triple then "\"\"\"" else "\""

/-- How many characters stand before the text: the kind's letters and the opening quotes. -/
def leadLength (lit : StringLiteral) : Nat :=
  lit.kind.lead.length + (if lit.triple then 3 else 1)

end StringLiteral

/-- A token. -/
inductive Token where
  | name (text : String)
  | int (value : Nat)
  | float (value : Binary64)
  | imaginary (value : Binary64)
  | string (literal : StringLiteral)
  | newline
  | indent
  | dedent
  | word (word : Word)
  | punct (punct : Punct)
  deriving DecidableEq, Repr

/-- How a fault message names the token. -/
def Token.text : Token → String
  | .name text => s!"'{text}'"
  | .int value => s!"'{value}'"
  | .float value => s!"'{value.positional}'"
  | .imaginary value => s!"0j{value.positional}"
  | .string lit => lit.kind.lead ++ lit.quotes ++ lit.text ++ lit.quotes
  | .newline => "Newline"
  | .indent => "Indent"
  | .dedent => "Dedent"
  | .word w => s!"'{w.spelling}'"
  | .punct p => s!"'{p.spelling}'"

/-- A token and where it stands. -/
structure Lexeme where
  token : Token
  span : Span
  deriving DecidableEq, Repr

end AbcMetric
