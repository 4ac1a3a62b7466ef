import AbcMetric.Grammar.Stmt
import AbcMetric.Listing
import AbcMetric.Trace
import AbcMetric.Vector.Magnitude

/-!
# Analysing a source text

Parses a module, tallies its contributions and renders what was asked for besides.

This is the program's analysis of one text, from parsing to the total, the decorations and the two
optional texts. Not modelled: reading the text from a file, which is `analyzeFile`'s; what is logged
about a text is in the result of the run.
-/

namespace AbcMetric

/-- What to produce besides the total. -/
structure AnalysisOptions where
  debug : Bool := false
  verbose : Bool := false

/-- The metric of one source text. -/
structure Analysis where
  vector : AbcVector
  decorations : Decorations
  listing : Option String
  debug : Option String
  /-- How many statements stand at the top level. -/
  statements : Nat

/-- Why a source text has no metric. -/
inductive AnalysisFault where
  | parse (fault : Fault)
  | count (fault : CountFault)
  deriving DecidableEq, Repr

/-- The metric of a parsed module. -/
def analyzeBody (source : String) (body : List Stmt) (options : AnalysisOptions) :
    Except CountFault Analysis := do
  let lines := LineIndex.ofSource source
  let t ← tally lines body
  let decorations := t.sorted
  let debug ← if options.debug then some <$> debugText lines body else pure none
  let listing := if options.verbose then some (annotate source decorations) else none
  return ⟨t.total, decorations, listing, debug, body.length⟩

/-- The metric of a source text. -/
def analyze (source : String) (options : AnalysisOptions) (table : CharNames := .basic) :
    Except AnalysisFault Analysis := do
  let body ← (parseModule source table).mapError .parse
  (analyzeBody source body options).mapError .count

end AbcMetric
