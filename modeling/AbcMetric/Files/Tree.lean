import AbcMetric.Files.Path

/-!
# File trees

A tree of files, directories and symbolic links, and how a path is followed through it. A link is
replaced by its target where it stands; a path that leads through too many links is refused. What
the system does not let a run read is in the tree as such, with the system's reason: a file that is
refused is still a file, and a closed directory still a directory.

* `Place.resolve` follows a path from a directory.
* `Place.read` gives the text of the file a path leads to.

Not modelled: entries that are neither files, directories nor links; a directory that can be listed
but not entered, or the other way round; changes to the tree during a run.
-/

namespace AbcMetric

/-- What a file holds, or the system's reason for not letting it be read. -/
inductive FileContent where
  | bytes (content : ByteArray)
  | refused (reason : String)

instance : Coe ByteArray FileContent := ⟨.bytes⟩

/-- An entry of a file tree. A closed directory can neither be listed nor entered. -/
inductive Entry where
  | file (content : FileContent)
  | link (target : String)
  | directory (entries : List (String × Entry))
  | closed (reason : String)

/-- Why a file cannot be read. -/
inductive ReadFault where
  | missing
  | notDirectory
  | isDirectory
  | tooManyLinks
  | notText
  | refused (reason : String)
  deriving DecidableEq, Repr

/-- The wording of a read fault. -/
def ReadFault.message : ReadFault → String
  | .missing => "No such file or directory (os error 2)"
  | .notDirectory => "Not a directory (os error 20)"
  | .isDirectory => "Is a directory (os error 21)"
  | .tooManyLinks => "Too many levels of symbolic links (os error 40)"
  | .notText => "stream did not contain valid UTF-8"
  | .refused reason => reason

/-- A place in a tree: the root, and the entries on the way down from it, the last first. -/
structure Place where
  root : Entry
  trail : List (String × Entry) := []

/-- How far names lead without following a link: to a place, or to a link in a directory with names
left over. -/
inductive Reached where
  | place (place : Place)
  | link (dir : Place) (target : String) (left : List String)

namespace Place

/-- The entry at a place. -/
def entry (p : Place) : Entry :=
  match p.trail with
  | [] => p.root
  | (_, e) :: _ => e

/-- The place of an entry under this one. -/
def child (p : Place) (name : String) (e : Entry) : Place :=
  { p with trail := (name, e) :: p.trail }

/-- The place above; the root is above itself. -/
def parent (p : Place) : Place := { p with trail := p.trail.drop 1 }

/-- The root of the tree. -/
def top (p : Place) : Place := { p with trail := [] }

/-- Goes from name to name up to the first link. -/
def advance (p : Place) : List String → Except ReadFault Reached
  | [] => .ok (.place p)
  | name :: left =>
    match p.entry with
    | .directory entries =>
      if name = "" ∨ name = "." then p.advance left
      else if name = ".." then p.parent.advance left
      else
        match entries.lookup name with
        | none => .error .missing
        | some (.link target) => .ok (.link p target left)
        | some e => (p.child name e).advance left
    | .closed reason => if name = "" then p.advance left else .error (.refused reason)
    | _ => .error .notDirectory

/-- Follows names through at most so many links. -/
def follow : Nat → Place → List String → Except ReadFault Place
  | 0, _, _ => .error .tooManyLinks
  | links + 1, p, names => do
    match ← p.advance names with
    | .place q => return q
    | .link dir target left =>
      follow links (if Path.isAbsolute target then dir.top else dir) (Path.names target ++ left)

/-- The number of links that a path may lead through. -/
def linkLimit : Nat := 40

/-- The place a path leads to. -/
def resolve (p : Place) (path : String) : Except ReadFault Place :=
  follow (linkLimit + 1) (if Path.isAbsolute path then p.top else p) (Path.names path)

/-- The bytes of the file a path leads to. -/
def readBytes (p : Place) (path : String) : Except ReadFault ByteArray := do
  match (← p.resolve path).entry with
  | .file (.bytes content) => return content
  | .file (.refused reason) => .error (.refused reason)
  | .closed reason => .error (.refused reason)
  | _ => .error .isDirectory

/-- The text of the file a path leads to. -/
def read (p : Place) (path : String) : Except ReadFault String := do
  match String.fromUTF8? (← p.readBytes path) with
  | some text => return text
  | none => .error .notText

/-- Whether a path leads to a file. -/
def isFile (p : Place) (path : String) : Bool :=
  match p.resolve path with
  | .ok q => match q.entry with
    | .file _ => true
    | _ => false
  | .error _ => false

/-- Whether a path leads to a directory. -/
def isDirectory (p : Place) (path : String) : Bool :=
  match p.resolve path with
  | .ok q => match q.entry with
    | .directory _ | .closed _ => true
    | _ => false
  | .error _ => false

end Place

namespace Entry

/-- Puts an entry under a name, in the place of one that is there. -/
def put (name : String) (e : Entry) : List (String × Entry) → List (String × Entry)
  | [] => [(name, e)]
  | (n, old) :: rest => if n = name then (n, e) :: rest else (n, old) :: put name e rest

/-- A tree with an entry put under a list of names; directories on the way are made, and a directory
that is there already is kept. -/
def insert : Entry → List String → Entry → Entry
  | old, [], e =>
    match e, old with
    | .directory [], .directory entries => .directory entries
    | _, _ => e
  | old, name :: names, e =>
    let entries := match old with
      | .directory entries => entries
      | _ => []
    let inner := (entries.lookup name).getD (.directory [])
    .directory (put name (inner.insert names e) entries)

end Entry

end AbcMetric
