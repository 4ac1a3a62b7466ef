import AbcMetric.Token.Scan

/-!
# Words that are reserved only at the start of a line

`match`, `case` and `type` are names unless the logical line they start has the shape of the
statement they introduce. The shape is judged on the tokens up to the end of the line:

* `match` and `case` need a colon outside brackets that is neither the very next token nor the one
  that belongs to a `lambda`;
* `type` needs a name after it and then an equals sign, with at most bracketed tokens between.
-/

namespace AbcMetric

/-- How an opening or closing bracket changes the depth. -/
def bracketStep : Token → Int
  | .punct .lpar | .punct .lsqb | .punct .lbrace => 1
  | .punct .rpar | .punct .rsqb | .punct .rbrace => -1
  | _ => 0

/-- Whether the rest of the line has a colon of its own at depth zero. `first` tells that no token
has been passed yet, `lambda` that a `lambda` still waits for its colon. -/
def hasBlockColon (depth : Int) (first lambda : Bool) : List Lexeme → Bool
  | [] => false
  | ⟨token, _⟩ :: rest =>
    if token = .newline then false
    else if token = .punct .colon && depth = 0 then
      if lambda then hasBlockColon depth false false rest
      else !first || hasBlockColon depth false false rest
    else if token = .word .lambdaKw && depth = 0 then hasBlockColon depth false true rest
    else hasBlockColon (depth + bracketStep token) false lambda rest

/-- Whether an equals sign follows with only square-bracketed tokens before it. -/
def hasAliasEquals (depth : Int) : List Lexeme → Bool
  | [] => false
  | ⟨token, _⟩ :: rest =>
    if token = .newline then false
    else if token = .punct .equal && depth = 0 then true
    else if token = .punct .lsqb then hasAliasEquals (depth + 1) rest
    else if token = .punct .rsqb then hasAliasEquals (depth - 1) rest
    else if 0 < depth then hasAliasEquals depth rest
    else false

/-- Whether a token can be the name of a type alias. -/
def isAliasName : Token → Bool
  | .name _ | .word .matchKw | .word .caseKw | .word .typeKw => true
  | _ => false

/-- Whether a soft word that starts a line is reserved there, given the tokens after it. -/
def isReservedHere (word : Word) (after : List Lexeme) : Bool :=
  match word with
  | .matchKw | .caseKw => hasBlockColon 0 true false after
  | .typeKw =>
    match after with
    | ⟨token, _⟩ :: rest => isAliasName token && hasAliasEquals 0 rest
    | [] => false
  | _ => true

/-- Whether a logical line starts after the token. -/
def startsLine : Token → Bool
  | .newline | .indent | .dedent => true
  | _ => false

/-- Turns soft words that are not reserved where they stand into names. -/
def settleSoftWords (done : List Lexeme) (atStart : Bool) : List Lexeme → List Lexeme
  | [] => done.reverse
  | ⟨token, span⟩ :: rest =>
    let settled : Token :=
      match token with
      | .word word =>
        match word with
        | .matchKw | .caseKw | .typeKw =>
          if atStart && isReservedHere word rest then token else .name word.spelling
        | _ => token
      | _ => token
    settleSoftWords (⟨settled, span⟩ :: done) (startsLine token) rest

/-- The tokens of a scan with its soft words settled; `atStart` tells whether the scan begins at
the start of a line of statements. -/
def Scan.settle (s : Scan) (atStart : Bool) : Scan :=
  { s with lexemes := settleSoftWords [] atStart s.lexemes }

end AbcMetric
