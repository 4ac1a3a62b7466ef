/-!
# Letters

The source text as the scanner reads it: a carriage return, alone or before a newline, counts as
one newline, and every letter knows the bytes it stands for.
-/

namespace AbcMetric

/-- One character as read, with the bytes it covers. -/
structure Letter where
  char : Char
  start : Nat
  stop : Nat
  deriving DecidableEq, Repr

/-- The letters of a text that starts at `offset`, put in front of `done` reversed. -/
def lettersOnto (done : List Letter) (offset : Nat) : List Char → List Letter
  | [] => done.reverse
  | '\r' :: '\n' :: rest => lettersOnto (⟨'\n', offset, offset + 2⟩ :: done) (offset + 2) rest
  | '\r' :: rest => lettersOnto (⟨'\n', offset, offset + 1⟩ :: done) (offset + 1) rest
  | c :: rest => lettersOnto (⟨c, offset, offset + c.utf8Size⟩ :: done) (offset + c.utf8Size) rest

/-- The letters of a text that starts at `offset`. -/
def letters (offset : Nat) (text : List Char) : List Letter :=
  lettersOnto [] offset text

/-- The offset of the next letter, or `stop` when none is left. -/
def placeOf (stop : Nat) : List Letter → Nat
  | [] => stop
  | l :: _ => l.start

end AbcMetric
