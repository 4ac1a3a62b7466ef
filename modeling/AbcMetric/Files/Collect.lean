import AbcMetric.Exclusion
import AbcMetric.Files.Walker
import AbcMetric.Host

/-!
# Finding the files of a run

A path to a file stands for that file, whatever its name. A path to a directory stands for the
source files that a walker finds below it, less those that match an exclusion, by the path below the
directory or by the whole path.

* `Exclusion.walker` is the walker that a project asks for.
* `collect` is the whole rule.
-/

namespace AbcMetric

/-- The extension of the files to look for. -/
def sourceExtension : String := "py"

/-- Why there are no files to look at. -/
inductive CollectFault where
  | missing (path : String)
  | exclusion (fault : ExclusionFault)
  deriving DecidableEq, Repr

/-- The files of a run, and those left out by exclusions. -/
structure Collection where
  files : List String
  excluded : List String
  deriving DecidableEq, Repr

/-- The walker that a project asks for: hidden entries and ignore files are two switches of a
project, and the second is five of the walker. -/
def Exclusion.walker (e : Exclusion) : Walker where
  hidden := !e.includeHidden
  ignore := !e.includeIgnored
  parents := !e.includeIgnored
  gitIgnore := !e.includeIgnored
  gitGlobal := !e.includeIgnored
  gitExclude := !e.includeIgnored

/-- Whether the last name is that of a source file. -/
def isSource (names : List String) : Bool :=
  names.getLast?.any (Path.hasExtension sourceExtension)

/-- Whether an exclusion matches a file, by its path below the root or by its whole path. -/
def isExcluded (globs : List Glob) (root : String) (names : List String) : Bool :=
  matchesAny globs (Path.relative names) || matchesAny globs (Path.below root names)

/-- The files that a path stands for. -/
def collect (e : Exclusion) (cwd : Place) (path : String) (host : Host := {}) :
    Except CollectFault Collection :=
  if cwd.isFile path then .ok ⟨[path], []⟩
  else
    match cwd.resolve path with
    | .error _ => .error (.missing path)
    | .ok root => do
      let globs ← (e.globs host.builder).mapError .exclusion
      let found := (filesBelow e.walker host.excludes root path).filter isSource
      let (excluded, files) := found.partition (isExcluded globs path)
      return ⟨files.map (Path.below path), excluded.map (Path.below path)⟩

end AbcMetric
