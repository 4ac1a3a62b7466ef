import AbcMetric.Files.Tree
import AbcMetric.Glob.Matching
import AbcMetric.Text.Blank

/-!
# Ignore files

A line of an ignore file is a pattern for paths below the file's directory. A pattern with a slash
before its end is for whole paths, any other for names at every depth. A slash at the end restricts
it to directories, and an exclamation mark at the start turns it into an exception. Of the lines
that match a path the last one counts.

Three files of a directory are consulted, for every directory from that of an entry up to the root
of the tree: `.ignore`, `.gitignore` and `.git/info/exclude`. Among files of one kind the deepest
goes first. A file that cannot be read says nothing.

Premises: a line that is no text ends the file, a malformed line says nothing, and a file counts
whether or not its directory belongs to a repository.

Not modelled: further names of ignore files, and the text of the user's own excludes, which stand
outside the tree (`UserExcludes` is what they say).
-/

namespace AbcMetric

/-- One line of an ignore file. -/
structure IgnoreRule where
  glob : Glob
  exception : Bool
  onlyDirectories : Bool

/-- What ignore files say about an entry that they mention. -/
inductive Verdict where
  | ignored
  | kept
  deriving DecidableEq, Repr

namespace IgnoreRule

/-- The line without blanks at its end, unless the last is escaped. -/
def trimmed (line : List Char) : List Char :=
  if [' ', '\\'].isPrefixOf line.reverse then line
  else (line.reverse.dropWhile isBlank).reverse

/-- The pattern without a slash at its end or an escape of it, and whether there was one. -/
def withoutFinalSlash (pattern : List Char) : List Char × Bool :=
  match pattern.reverse with
  | '/' :: '\\' :: rest => (rest.reverse, true)
  | '/' :: rest => (rest.reverse, true)
  | _ => (pattern, false)

/-- The pattern to match: one for names is given leading directories, and one for all below a
directory is made to leave out the directory itself. -/
def spelled (anchored : Bool) (pattern : List Char) : List Char :=
  let leading := "**/".toList
  let spread :=
    if anchored || pattern.contains '/' || pattern = "**".toList then pattern
    else leading ++ pattern
  if "/**".toList.isSuffixOf spread then spread ++ "/*".toList else spread

/-- The rule of a line; comments, empty lines and malformed patterns have none. -/
def ofLine? (line : String) : Option IgnoreRule := do
  if line.toList.head? = some '#' then none
  let text := trimmed line.toList
  if text.isEmpty then none
  let escaped := text.head? = some '\\' && (text[1]? = some '!' || text[1]? = some '#')
  let exception := text.head? = some '!'
  let text := if escaped || exception then text.drop 1 else text
  let anchored := !escaped && text.head? = some '/'
  let text := if anchored then text.drop 1 else text
  let (text, onlyDirectories) := withoutFinalSlash text
  match globPieces true (String.ofList (spelled anchored text)) with
  | .ok pieces => some ⟨⟨true, pieces⟩, exception, onlyDirectories⟩
  | .error _ => none

/-- Whether the rule mentions a path. -/
def mentions (r : IgnoreRule) (path : String) (isDirectory : Bool) : Bool :=
  (!r.onlyDirectories || isDirectory) && r.glob.accepts path

end IgnoreRule

/-- What rules say about a path: the last that mentions it decides. -/
def verdict? (rules : List IgnoreRule) (path : String) (isDirectory : Bool) : Option Verdict :=
  (rules.reverse.find? (·.mentions path isDirectory)).map fun r =>
    if r.exception then .kept else .ignored

/-! ## Reading ignore files -/

/-- Bytes cut at every line's end. -/
def byteLines (bytes : List UInt8) : List (List UInt8) :=
  bytes.foldr (fun b lines =>
    if b = 10 then [] :: lines
    else
      match lines with
      | [] => [[b]]
      | first :: rest => (b :: first) :: rest) [[]]

/-- A line of bytes as text, without a carriage return at its end. -/
def lineText? (bytes : List UInt8) : Option String := do
  let text ← String.fromUTF8? ⟨bytes.toArray⟩
  match text.toList.reverse with
  | '\r' :: rest => some (String.ofList rest.reverse)
  | _ => some text

/-- The lines up to the first that is not text. -/
def textLines : List (List UInt8) → List String
  | [] => []
  | bytes :: rest =>
    match lineText? bytes with
    | some line => line :: textLines rest
    | none => []

/-- The rules that the bytes of a file hold; a byte order mark before them is skipped. -/
def ignoreRules (content : ByteArray) : List IgnoreRule :=
  let lines := match textLines (byteLines content.toList) with
    | [] => []
    | first :: rest => String.ofList (first.toList.dropWhile (· = '\ufeff')) :: rest
  lines.filterMap IgnoreRule.ofLine?

/-- The rules of a directory, by kind of file. -/
structure DirectoryRules where
  general : List IgnoreRule := []
  versioned : List IgnoreRule := []
  unshared : List IgnoreRule := []

namespace DirectoryRules

/-- The rules of an ignore file at a path, if it can be read. -/
def rulesAt (p : Place) (path : String) : List IgnoreRule :=
  match p.readBytes path with
  | .ok content => ignoreRules content
  | .error _ => []

/-- The rules of the directory at a place. -/
def ofPlace (p : Place) : DirectoryRules :=
  ⟨rulesAt p ".ignore", rulesAt p ".gitignore", rulesAt p ".git/info/exclude"⟩

end DirectoryRules

/-! ## Verdicts -/

/-- A directory's name and rules. -/
structure IgnoreLevel where
  name : String
  rules : DirectoryRules

/-- The directories from a place up to the root of its tree, or that of the place alone. -/
def ignoreLevels (parents : Bool) (p : Place) : List IgnoreLevel :=
  if parents then go p.root p.trail else (go p.root p.trail).take 1
where
  /-- The directories along a trail. -/
  go (root : Entry) : List (String × Entry) → List IgnoreLevel
    | [] => [⟨"", .ofPlace ⟨root, []⟩⟩]
    | (name, e) :: rest => ⟨name, .ofPlace ⟨root, (name, e) :: rest⟩⟩ :: go root rest

/-- What the files of one kind say about a path below the first of the directories. -/
def levelVerdict? (kind : DirectoryRules → List IgnoreRule) (isDirectory : Bool) :
    String → List IgnoreLevel → Option Verdict
  | _, [] => none
  | path, level :: levels =>
    (verdict? (kind level.rules) path isDirectory).or
      (levelVerdict? kind isDirectory (level.name ++ "/" ++ path) levels)

/-- What the user's own excludes say about a path, given as it is walked. -/
abbrev UserExcludes := String → Bool → Option Verdict

/-- The rules of a file of excludes, for paths from the current directory on. -/
def UserExcludes.ofRules (rules : List IgnoreRule) : UserExcludes := fun path isDirectory =>
  let chars := path.toList
  let plain := if ['.', '/'].isPrefixOf chars then chars.drop 2 else chars
  verdict? rules (String.ofList plain) isDirectory

end AbcMetric
