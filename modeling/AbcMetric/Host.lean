import AbcMetric.Files.Ignore
import AbcMetric.Glob.Building
import AbcMetric.Grammar.Literal

/-!
# What a run takes from outside

A run depends on more than its arguments and the file tree. What it takes from libraries and from
the machine is one record, and every theorem about runs holds for all of its values.

The defaults are those of a machine on which every name is text and no user has excludes, with the
standard builder and a small table of names.

Not modelled: the pool of workers, whose results come back in the order of the files; the progress
bar; variables of the environment that set the level of the log.
-/

namespace AbcMetric

/-- What a run takes from outside the program. -/
structure Host where
  /-- The characters that Unicode names stand for in string literals. -/
  names : CharNames := .basic
  /-- How globs are built into one matcher. -/
  builder : GlobBuilder := .standard
  /-- What the user's own excludes say. -/
  excludes : UserExcludes := fun _ _ => none
  /-- Whether a path is text. A path that is not is shown with replacement characters. -/
  isText : String → Bool := fun _ => true

end AbcMetric
