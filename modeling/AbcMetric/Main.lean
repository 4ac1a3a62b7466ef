import AbcMetric.Command.Run

/-!
# The command

The outer layer: takes a snapshot of the files that a run can look at, runs on it, and prints what
the run leaves behind. Everything that is decided is decided by `execute`. Of the user's own
excludes the file in its usual place is read, and not one that other settings name.
-/

namespace AbcMetric

/-- The ignore files of a directory. -/
def ignoreFileNames : List String := [".ignore", ".gitignore", ".git/info/exclude"]

/-- Whether the content of a file can matter to a run. -/
def isRelevant (name : String) : Bool :=
  Path.hasExtension sourceExtension name || name = settingsFileName || name = ".ignore" ||
    name = ".gitignore" || name = "exclude"

/-- Names without empty ones and single dots, where two dots take the name before them back. -/
def plainNames (names : List String) : List String :=
  (names.foldl (fun done name =>
    if name = "" || name = "." then done
    else if name = ".." then done.drop 1
    else name :: done) []).reverse

/-- The system's reason for refusing something. -/
def reasonOf : IO.Error → String
  | .permissionDenied _ code _ => s!"Permission denied (os error {code})"
  | e => toString e

/-- What a file holds, or the system's reason for not letting it be read. -/
def contentAt (path : String) : IO FileContent := do
  match ← (IO.FS.readBinFile path).toBaseIO with
  | .ok content => return .bytes content
  | .error e => return .refused (reasonOf e)

/-- A file or a directory with all below it, or nothing. A link to a file is taken as a file, and
any other link below the start as one that leads nowhere. -/
partial def snapshot (path name : String) (isStart : Bool) : IO (Option Entry) := do
  try
    let real ← IO.FS.realPath path
    if ← real.isDir then
      match ← real.readDir.toBaseIO with
      | .error e => return some (.closed (reasonOf e))
      | .ok found =>
        let mut entries := []
        for d in found do
          let inner := Path.join path d.fileName
          let isLink := (← d.path.symlinkMetadata).type matches .symlink
          let isDir ← d.path.isDir
          if isLink && isDir then entries := (d.fileName, .link d.fileName) :: entries
          else if let some e ← snapshot inner d.fileName false then
            entries := (d.fileName, e) :: entries
        return some (.directory entries)
    else if isStart || isRelevant name then return some (.file (← contentAt path))
    else return some (.file (.bytes .empty))
  catch _ => return none

/-- Adds the file at a path to a tree, if there is one. -/
def addFile (tree : Entry) (path : String) : IO Entry := do
  match ← snapshot path path true with
  | some (.file content) => return tree.insert (plainNames (Path.names path)) (.file content)
  | _ => return tree

/-- The directories above a path of plain names, from the root on. -/
def ancestors (names : List String) : List String :=
  (List.range names.length).map fun depth => "/" ++ Path.relative (names.take depth)

/-- The tree that a run on a path can look at. -/
def treeFor (cwd path : String) : IO Entry := do
  let start := if Path.isAbsolute path then [] else Path.names cwd
  let lexical := plainNames (start ++ Path.names path)
  let absolute := "/" ++ Path.relative lexical
  let mut tree := Entry.insert (.directory []) (plainNames (Path.names cwd)) (.directory [])
  if let some e ← snapshot absolute "" true then
    let target := toString (← IO.FS.realPath absolute)
    let real := plainNames (Path.names target)
    tree := tree.insert real e
    if real ≠ lexical then tree := tree.insert lexical (.link target)
    for dir in ancestors real do
      for name in ignoreFileNames do
        tree ← addFile tree (Path.join dir name)
  addFile tree (Path.join (Path.directory absolute) settingsFileName)

/-- What the file of the user's own excludes says, if it stands in its usual place. -/
def userExcludes : IO UserExcludes := do
  let home ← IO.getEnv "HOME"
  let settings ← IO.getEnv "XDG_CONFIG_HOME"
  let dir := (settings.filter (· ≠ "")).getD (Path.join (home.getD "") ".config")
  match ← contentAt (Path.join dir "git/ignore") with
  | .bytes content => return .ofRules (ignoreRules content)
  | .refused _ => return fun _ _ => none

/-- How a level is shown in the log. -/
def LogLevel.shown : LogLevel → String
  | .error => "ERROR"
  | .warn => "WARN"
  | .info => "INFO"
  | .debug => "DEBUG"
  | .trace => "TRACE"

end AbcMetric

open AbcMetric in
/-- Runs the command. -/
def main (arguments : List String) : IO UInt32 := do
  let cwd := toString (← IO.currentDir)
  let tree ← match Command.ofArguments arguments with
    | .ok (.run options) => treeFor cwd (options.path.getD ".")
    | _ => pure (.directory [])
  let root : Place := ⟨tree, []⟩
  let place := (root.resolve cwd).toOption.getD root
  let stdout ← IO.getStdout
  let stderr ← IO.getStderr
  let host : Host := { excludes := ← userExcludes }
  let e := execute place (← stdout.isTty) arguments host
  for entry in e.log do
    stderr.putStrLn (entry.level.shown ++ " " ++ entry.message)
  if let some complaint := e.complaint then stderr.putStr complaint
  stdout.putStr e.output
  return e.exitCode.toUInt32
