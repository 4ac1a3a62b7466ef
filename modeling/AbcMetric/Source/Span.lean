/-!
# Places in a source text

A place is a byte offset into the UTF-8 text, and a construct covers a half-open range of them.
-/

namespace AbcMetric

/-- The bytes from `start` up to, and without, `stop`. -/
structure Span where
  start : Nat
  stop : Nat
  deriving DecidableEq, Repr, Inhabited

namespace Span

/-- The range written `3..7`. -/
def text (s : Span) : String := s!"{s.start}..{s.stop}"

end Span

end AbcMetric
