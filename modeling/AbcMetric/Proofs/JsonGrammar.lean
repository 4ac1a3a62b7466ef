import AbcMetric.Number.Digits
import Mathlib.Data.List.Basic

/-!
# The grammar of JSON texts

A JSON text is a row of words with blanks between them. Each word says one token, and the tokens say
a tree. Blanks may stand anywhere between words, strings may be escaped in any of the ways there
are, and numbers keep their wording.

* `JsonToken.Word`: how a token is written. A character of a string has several spellings
  (`JsonChar`), and a number any that `isNumber` takes.
* `Spells tokens text`: the text is a row of such words.
* `JsonTree.tokens`: the tokens of a tree, and `JsonTree.Says`: the text says the tree.
-/

namespace AbcMetric

/-- What a word of a JSON text says. -/
inductive JsonToken where
  | openArray
  | closeArray
  | openObject
  | closeObject
  | colon
  | comma
  | null
  | bool (value : Bool)
  | number (text : String)
  | str (value : String)
  deriving DecidableEq, Repr

/-! ## Strings -/

/-- The letters that stand for a character behind a backslash. -/
def shortEscapes : List (Char × Char) :=
  [('"', '"'), ('\\', '\\'), ('/', '/'), ('b', '\x08'), ('f', '\x0c'), ('n', '\n'), ('r', '\r'),
    ('t', '\t')]

/-- The value of four hexadecimal digits. -/
def hexUnit? (digits : List Char) : Option Nat :=
  if digits.length = 4 then digitsValue? 16 digits else none

/-- The first half of a surrogate pair. -/
def isHighSurrogate (unit : Nat) : Bool := 0xD800 ≤ unit && unit < 0xDC00

/-- The second half of a surrogate pair. -/
def isLowSurrogate (unit : Nat) : Bool := 0xDC00 ≤ unit && unit < 0xE000

/-- The character of a surrogate pair. -/
def surrogatePair (high low : Nat) : Char :=
  Char.ofNat (0x10000 + (high - 0xD800) * 0x400 + (low - 0xDC00))

/-- The ways to write a character in a string. -/
inductive JsonChar : Char → List Char → Prop
  /-- As itself, unless it is a quote, a backslash or a control. -/
  | plain {c : Char} (hquote : c ≠ '"') (hslash : c ≠ '\\') (hcontrol : 0x20 ≤ c.toNat) :
      JsonChar c [c]
  /-- By a letter. -/
  | short {c letter : Char} (h : (letter, c) ∈ shortEscapes) : JsonChar c ['\\', letter]
  /-- By its number. -/
  | unit {digits : List Char} {n : Nat} (h : hexUnit? digits = some n)
      (hhigh : isHighSurrogate n = false) (hlow : isLowSurrogate n = false) :
      JsonChar (Char.ofNat n) ('\\' :: 'u' :: digits)
  /-- By the two numbers of a surrogate pair. -/
  | pair {digits digits' : List Char} {high low : Nat} (h : hexUnit? digits = some high)
      (h' : hexUnit? digits' = some low) (hhigh : isHighSurrogate high = true)
      (hlow : isLowSurrogate low = true) :
      JsonChar (surrogatePair high low) ('\\' :: 'u' :: digits ++ '\\' :: 'u' :: digits')

/-- The ways to write the characters of a string. -/
inductive JsonChars : List Char → List Char → Prop
  | nil : JsonChars [] []
  | cons {c : Char} {chars word text : List Char} (hc : JsonChar c word)
      (h : JsonChars chars text) : JsonChars (c :: chars) (word ++ text)

/-! ## Numbers and names -/

/-- Digits only, and at least one. -/
def isDigits (text : List Char) : Bool := !text.isEmpty && text.all Char.isDigit

/-- What may stand behind the last decimal place: nothing, or an exponent. -/
def isExponent : List Char → Bool
  | [] => true
  | mark :: rest =>
    (mark = 'e' || mark = 'E') &&
      match rest with
      | sign :: digits => if sign = '+' ∨ sign = '-' then isDigits digits else isDigits rest
      | [] => false

/-- What may stand behind the units: decimal places, and an exponent. -/
def isFraction (text : List Char) : Bool :=
  match text with
  | '.' :: rest =>
    isDigits (rest.takeWhile Char.isDigit) && isExponent (rest.dropWhile Char.isDigit)
  | _ => isExponent text

/-- A number without a sign: no zero stands in front of other digits. -/
def isUnsigned : List Char → Bool
  | [] => false
  | digit :: rest =>
    if digit = '0' then isFraction rest
    else digit.isDigit && isFraction (rest.dropWhile Char.isDigit)

/-- The wording of a number. -/
def isNumber (text : List Char) : Bool :=
  match text with
  | '-' :: rest => isUnsigned rest
  | _ => isUnsigned text

/-- The characters of names and numbers. -/
def isBare (c : Char) : Bool := c.isAlphanum || c = '+' || c = '-' || c = '.'

/-- The words that are names. -/
def jsonNames : List (List Char × JsonToken) :=
  [(['n', 'u', 'l', 'l'], .null), (['t', 'r', 'u', 'e'], .bool true),
    (['f', 'a', 'l', 's', 'e'], .bool false)]

/-- What a word without quotes says. -/
def bareToken? (word : List Char) : Option JsonToken :=
  if isNumber word then some (.number (String.ofList word)) else jsonNames.lookup word

/-! ## Words and rows of words -/

namespace JsonToken

/-- The tokens that are written as a mark. -/
def marks : List (Char × JsonToken) :=
  [('[', .openArray), (']', .closeArray), ('\x7b', .openObject), ('\x7d', .closeObject),
    (':', .colon), (',', .comma)]

/-- The ways to write a token. -/
inductive Word : JsonToken → List Char → Prop
  | mark {tok : JsonToken} {c : Char} (h : (c, tok) ∈ marks) : Word tok [c]
  | bare {tok : JsonToken} {word : List Char} (hne : word ≠ [])
      (hbare : ∀ c ∈ word, isBare c = true) (h : bareToken? word = some tok) : Word tok word
  | str {chars text : List Char} (h : JsonChars chars text) :
      Word (.str (String.ofList chars)) ('"' :: text ++ ['"'])

/-- Whether the token is a name or a number. -/
def isName : JsonToken → Bool
  | .null | .bool _ | .number _ => true
  | _ => false

end JsonToken

/-- What may stand between words. -/
def isSpacing (c : Char) : Bool := c = ' ' || c = '\n' || c = '\t' || c = '\r'

/-- The text does not go on with a name or a number. -/
def Breaks (text : List Char) : Prop := ∀ c ∈ text.head?, isBare c = false

/-- The text is a row of words for the tokens. A name or a number ends where none of its characters
follows. -/
inductive Spells : List JsonToken → List Char → Prop
  | nil : Spells [] []
  | blank {c : Char} {toks : List JsonToken} {text : List Char} (hc : isSpacing c = true)
      (h : Spells toks text) : Spells toks (c :: text)
  | word {tok : JsonToken} {toks : List JsonToken} {word text : List Char} (hw : tok.Word word)
      (hbreak : tok.isName = true → Breaks text) (h : Spells toks text) :
      Spells (tok :: toks) (word ++ text)

namespace Spells

theorem append {toks toks' : List JsonToken} {text text' : List Char} (h : Spells toks text)
    (h' : Spells toks' text') (hbreak : Breaks text') : Spells (toks ++ toks') (text ++ text') := by
  induction h with
  | nil => exact h'
  | blank hc _ ih => exact .blank hc ih
  | word hw hb _ ih =>
    rename_i text _
    rw [List.cons_append, List.append_assoc]
    refine .word hw (fun hname => ?_) ih
    cases text with
    | nil => exact hbreak
    | cons c text => exact hb hname

theorem mark {tok : JsonToken} {c : Char} (hmark : (c, tok) ∈ JsonToken.marks)
    {toks : List JsonToken} {text : List Char} (h : Spells toks text) :
    Spells (tok :: toks) (c :: text) := by
  have hname : tok.isName = false := by
    have hall : ∀ p ∈ JsonToken.marks, p.2.isName = false := by decide
    exact hall _ hmark
  exact .word (.mark hmark) (fun hn => absurd hn (by rw [hname]; simp)) h

theorem single {tok : JsonToken} {word : List Char} (hw : tok.Word word) : Spells [tok] word := by
  have h : Spells [tok] (word ++ []) := .word hw (fun _ c hc => absurd hc (by simp)) .nil
  rwa [List.append_nil] at h

theorem blanks {cs : List Char} (hcs : ∀ c ∈ cs, isSpacing c = true) {toks : List JsonToken}
    {text : List Char} (h : Spells toks text) : Spells toks (cs ++ text) := by
  induction cs with
  | nil => exact h
  | cons c cs ih =>
    obtain ⟨hc, hcs⟩ := List.forall_mem_cons.mp hcs
    exact .blank hc (ih hcs)

end Spells

/-! ## Trees -/

/-- What a JSON text says. -/
inductive JsonTree where
  | null
  | bool (value : Bool)
  | number (text : String)
  | str (value : String)
  | arr (items : List JsonTree)
  | obj (members : List (String × JsonTree))

mutual

/-- The tokens of a tree. -/
def JsonTree.tokens : JsonTree → List JsonToken
  | .null => [.null]
  | .bool value => [.bool value]
  | .number text => [.number text]
  | .str value => [.str value]
  | .arr items => .openArray :: [.comma].intercalate (itemTokens items) ++ [.closeArray]
  | .obj members => .openObject :: [.comma].intercalate (memberTokens members) ++ [.closeObject]

/-- The tokens of each element. -/
def itemTokens : List JsonTree → List (List JsonToken)
  | [] => []
  | item :: items => item.tokens :: itemTokens items

/-- The tokens of each member. -/
def memberTokens : List (String × JsonTree) → List (List JsonToken)
  | [] => []
  | (key, value) :: members => (.str key :: .colon :: value.tokens) :: memberTokens members

end

/-- The text is a well-formed JSON text, and says the tree. -/
def JsonTree.Says (tree : JsonTree) (text : String) : Prop := Spells tree.tokens text.toList

mutual

/-- No object of the tree has two members of one name. -/
def JsonTree.KeysOnce : JsonTree → Prop
  | .arr items => itemsOnce items
  | .obj members => (members.map Prod.fst).Nodup ∧ membersOnce members
  | _ => True

/-- None of the elements has an object with two members of one name. -/
def itemsOnce : List JsonTree → Prop
  | [] => True
  | item :: items => item.KeysOnce ∧ itemsOnce items

/-- None of the members has an object with two members of one name. -/
def membersOnce : List (String × JsonTree) → Prop
  | [] => True
  | (_, value) :: members => value.KeysOnce ∧ membersOnce members

end

end AbcMetric
