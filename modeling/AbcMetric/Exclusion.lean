import AbcMetric.Glob.Building

/-!
# Exclusions

Which paths a run leaves out: those that match one of the effective patterns, which are the built-in
ones, unless they are switched off, and then the project's own in their order, each once.

The patterns are turned into globs one by one, and the globs are built into one matcher. Either step
may fail: `ExclusionFault` says which, and only the first names a pattern.

This is the part of the settings that says what to leave out, with its matcher. Not modelled: how a
matcher is laid out; `GlobBuilder` only says whether there is one.
-/

namespace AbcMetric

/-- What a project says about the paths to leave out. -/
structure Exclusion where
  paths : List String := []
  skipDefaults : Bool := false
  includeHidden : Bool := false
  includeIgnored : Bool := false
  deriving DecidableEq, Repr

/-- A pattern that is malformed. -/
structure BadPattern where
  pattern : String
  fault : GlobFault
  deriving DecidableEq, Repr

namespace BadPattern

/-- That the pattern is invalid. -/
def summary (b : BadPattern) : String := s!"Invalid glob: {b.pattern}"

/-- Why the pattern is invalid. -/
def cause (b : BadPattern) : String := s!"error parsing glob '{b.pattern}': {b.fault.reason}"

end BadPattern

/-- Why there is no matcher for the effective patterns: one is malformed, or the globs of all are
not built into one. -/
inductive ExclusionFault where
  | pattern (bad : BadPattern)
  | build (fault : BuildFault)
  deriving DecidableEq, Repr

namespace ExclusionFault

/-- What failed. -/
def summary : ExclusionFault → String
  | .pattern bad => bad.summary
  | .build _ => "Failed to build globset"

/-- Why it failed. -/
def cause : ExclusionFault → String
  | .pattern bad => bad.cause
  | .build fault => fault.message

end ExclusionFault

namespace Exclusion

/-- The built-in patterns: virtual environments and caches. -/
def defaultPatterns : List String :=
  ["**/__pycache__/**", "**/.venv/**", "**/venv/**", "**/site-packages/**", "**/.tox/**"]

/-- Adds a pattern that is not there yet. -/
def addPattern (patterns : List String) (pattern : String) : List String :=
  if pattern ∈ patterns then patterns else patterns ++ [pattern]

/-- The effective patterns. -/
def patterns (e : Exclusion) : List String :=
  e.paths.foldl addPattern (if e.skipDefaults then [] else defaultPatterns)

/-- A pattern as a glob. -/
def glob (pattern : String) : Except BadPattern Glob :=
  (Glob.ofPattern pattern).mapError (⟨pattern, ·⟩)

/-- The effective patterns as globs, built into one matcher. The first malformed pattern is the
fault; if there is none, the builder's. -/
def globs (e : Exclusion) (builder : GlobBuilder := .standard) :
    Except ExclusionFault (List Glob) := do
  let globs ← (e.patterns.mapM glob).mapError .pattern
  match builder.fault? globs with
  | some fault => .error (.build fault)
  | none => return globs

end Exclusion

/-- Whether one of the globs matches a path. -/
def matchesAny (globs : List Glob) (path : String) : Bool := globs.any (·.accepts path)

end AbcMetric
