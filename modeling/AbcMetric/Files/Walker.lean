import AbcMetric.Files.Ignore

/-!
# Walking a directory

A walker lists the files in the tree below a directory. Entries that are ignored or hidden are left
out, with all below them. Links to files are listed; links to directories are not entered.

* `Walker` holds the walker's switches.
* `Walker.isVisible` is whether an entry is looked at.
* `filesBelow` lists the files below a directory.

Premises: the walk is depth first; the entries of a directory are taken in the order of their names;
an entry that cannot be looked at is left out and the walk goes on; what ignore files say goes
before an entry's being hidden; a match in any `.ignore` goes before one in any `.gitignore`, which
goes before one in any `.git/info/exclude`, which goes before the user's own excludes.

Not modelled: limits of depth or size, and other file systems below the directory, which are entered
like any directory.
-/

namespace AbcMetric

/-- A walker's switches: whether it leaves out hidden entries, and which ignore files it goes by. -/
structure Walker where
  hidden : Bool
  /-- Files `.ignore`. -/
  ignore : Bool
  /-- Ignore files above the directory. -/
  parents : Bool
  /-- Files `.gitignore`. -/
  gitIgnore : Bool
  /-- The user's own excludes. -/
  gitGlobal : Bool
  /-- Files `.git/info/exclude`. -/
  gitExclude : Bool
  deriving DecidableEq, Repr

namespace Walker

/-- What the files that the walker goes by say about an entry of the first of the directories, which
is walked as `dir`. -/
def verdict? (w : Walker) (user : UserExcludes) (levels : List IgnoreLevel) (dir name : String)
    (isDirectory : Bool) : Option Verdict :=
  let said (switch : Bool) (kind : DirectoryRules → List IgnoreRule) :=
    if switch then levelVerdict? kind isDirectory name levels else none
  (((said w.ignore (·.general)).or (said w.gitIgnore (·.versioned))).or
    (said w.gitExclude (·.unshared))).or
    (if w.gitGlobal then user (Path.join dir name) isDirectory else none)

/-- Whether an entry is looked at. -/
def isVisible (w : Walker) (user : UserExcludes) (levels : List IgnoreLevel) (dir name : String)
    (isDirectory : Bool) : Bool :=
  match w.verdict? user levels dir name isDirectory with
  | some .ignored => false
  | some .kept => true
  | none => !(w.hidden && Path.isHidden name)

end Walker

/-- Finds by name, in ascending order. -/
def inNameOrder (found : List (String × List (List String))) : List (List String) :=
  (found.mergeSort (·.1 ≤ ·.1)).flatMap (·.2)

mutual

/-- The names that lead from a directory to the files at or below one of its entries. -/
def filesAt (w : Walker) (user : UserExcludes) (p : Place) (levels : List IgnoreLevel)
    (dir name : String) : Entry → List (List String)
  | .file _ => if w.isVisible user levels dir name false then [[name]] else []
  | .link _ =>
    if w.isVisible user levels dir name false && p.isFile name then
      [[name]]
    else []
  | .directory entries =>
    if w.isVisible user levels dir name true then
      let inner := p.child name (.directory entries)
      let level : IgnoreLevel := ⟨name, .ofPlace inner⟩
      (inNameOrder (filesOf w user inner (level :: levels) (Path.join dir name) entries)).map
        (name :: ·)
    else []
  | .closed _ => []

/-- The files at or below each entry of a directory. -/
def filesOf (w : Walker) (user : UserExcludes) (p : Place) (levels : List IgnoreLevel)
    (dir : String) : List (String × Entry) → List (String × List (List String))
  | [] => []
  | (name, entry) :: rest =>
    (name, filesAt w user p levels dir name entry) :: filesOf w user p levels dir rest

end

/-- The files below a directory that is walked as `path`, as names from the directory on. A dash is
not walked: it stands for the standard input, which is no file. -/
def filesBelow (w : Walker) (user : UserExcludes) (p : Place) (path : String) :
    List (List String) :=
  if Path.isStandardInput path then []
  else
    match p.entry with
    | .directory entries => inNameOrder (filesOf w user p (ignoreLevels w.parents p) path entries)
    | _ => []

end AbcMetric
