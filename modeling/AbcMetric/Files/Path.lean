/-!
# Paths as text

A path is names divided by slashes; one that starts with a slash is absolute.

Not modelled: names that are no text, which stand here as they are shown, and systems with drives or
another separator.
-/

namespace AbcMetric

namespace Path

/-- Puts a character in front of names cut so far: a slash opens a name, anything else joins the
first. -/
def cutAt (c : Char) (names : List (List Char)) : List (List Char) :=
  if c = '/' then [] :: names
  else
    match names with
    | [] => [[c]]
    | first :: rest => (c :: first) :: rest

/-- The names between the slashes, empty ones included. -/
def names (path : String) : List String :=
  (path.toList.foldr cutAt [[]]).map String.ofList

/-- Whether the path starts at the root. -/
def isAbsolute (path : String) : Bool := path.toList.head? = some '/'

/-- The path of an entry in a directory. -/
def join (dir name : String) : String :=
  if dir.isEmpty || dir.toList.getLast? = some '/' then dir ++ name else dir ++ "/" ++ name

/-- Names from a directory on, as a path. -/
def below (dir : String) (names : List String) : String := names.foldl join dir

/-- Names as a relative path. -/
def relative (names : List String) : String := String.intercalate "/" names

/-- Drops slashes, and names of one dot behind a slash, from the end of a reversed path. -/
def trimEnd : List Char → List Char
  | '/' :: rest => trimEnd rest
  | '.' :: '/' :: rest => trimEnd rest
  | chars => chars

/-- The path of the directory that a path names an entry of; the directory of a bare name is the
current one. -/
def directory (path : String) : String :=
  let named := trimEnd path.toList.reverse
  let before := named.dropWhile (· ≠ '/')
  let dir := String.ofList (trimEnd before).reverse
  if !dir.isEmpty then dir else if before.isEmpty then "." else "/"

/-- Whether a name has the given extension: something, a dot and the extension. -/
def hasExtension (extension name : String) : Bool :=
  let tail := '.' :: extension.toList
  tail.isSuffixOf name.toList && tail ≠ name.toList

/-- Whether a path stands for the standard input when it is walked: a dash, however it ends. -/
def isStandardInput (path : String) : Bool :=
  match names path with
  | first :: rest => first = "-" && rest.all fun name => name = "" || name = "."
  | [] => false

/-- Whether a name is hidden. -/
def isHidden (name : String) : Bool := name.toList.head? = some '.'

end Path

end AbcMetric
