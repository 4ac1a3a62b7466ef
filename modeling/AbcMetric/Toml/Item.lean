/-!
# TOML tables

The items of a document and the rules by which keys and headers extend a table. A table remembers
how it came about, because that decides how it may be extended:

* a header may pass through any table but an inline one, and may define a table only once;
* a dotted key may extend only tables that dotted keys made;
* a key stands for one item.

An operation that breaks a rule has no result.
-/

namespace AbcMetric

/-- How a table came about: as part of the path of a header, by a dotted key, by its own header, or
in braces. -/
inductive TableOrigin where
  | implied
  | dotted
  | header
  | inline
  deriving DecidableEq, Repr

/-- An item of a document. The elements of an array of tables stand with the last one first. -/
inductive TomlItem where
  | string (text : String)
  | integer (value : Int)
  | float
  | boolean (value : Bool)
  | date
  | array (items : List TomlItem)
  | table (origin : TableOrigin) (entries : List (String × TomlItem))
  | tables (items : List (List (String × TomlItem)))

/-- The entries of a table, in the order of their keys' first mention. -/
abbrev TomlTable := List (String × TomlItem)

namespace TomlTable

/-- Puts the result of `f` on the item of a key in its place; a new key comes last. -/
def alter (key : String) (f : Option TomlItem → Option TomlItem) : TomlTable → Option TomlTable
  | [] => (f none).map fun item => [(key, item)]
  | (k, item) :: rest =>
    if k = key then (f (some item)).map fun new => (k, new) :: rest
    else (alter key f rest).map ((k, item) :: ·)

/-- Adds an entry for a key that is not there. -/
def insert (key : String) (item : TomlItem) : TomlTable → Option TomlTable :=
  alter key fun
    | none => some item
    | some _ => none

/-- Adds an entry under a dotted key: `path`, then `key`. -/
def insertDotted (key : String) (item : TomlItem) : List String → TomlTable → Option TomlTable
  | [], t => t.insert key item
  | step :: path, t =>
    t.alter step fun
      | none => (insertDotted key item path []).map (.table .dotted)
      | some (.table .dotted t) => (insertDotted key item path t).map (.table .dotted)
      | some (.table .implied t) =>
        if path.isEmpty then none else (insertDotted key item path t).map (.table .implied)
      | some (.tables (t :: ts)) =>
        if path.isEmpty then none
        else (insertDotted key item path t).map fun new => .tables (new :: ts)
      | _ => none

/-- Changes the table at the path of a header; missing tables on the way are implied. -/
def atHeader (f : TomlTable → Option TomlTable) : List String → TomlTable → Option TomlTable
  | [], t => f t
  | step :: path, t =>
    t.alter step fun
      | none => (atHeader f path []).map (.table .implied)
      | some (.table .inline _) => none
      | some (.table origin t) => (atHeader f path t).map (.table origin)
      | some (.tables (t :: ts)) => (atHeader f path t).map fun new => .tables (new :: ts)
      | _ => none

/-- Defines a table by its header. -/
def define (path : List String) (key : String) : TomlTable → Option TomlTable :=
  atHeader (alter key fun
    | none => some (.table .header [])
    | some (.table .implied t) => some (.table .header t)
    | _ => none) path

/-- Adds an element to an array of tables by its header. -/
def addElement (path : List String) (key : String) : TomlTable → Option TomlTable :=
  atHeader (alter key fun
    | none => some (.tables [[]])
    | some (.tables ts) => some (.tables ([] :: ts))
    | _ => none) path

/-- An inline table of dotted keys and items. -/
def ofPairs (pairs : List (List String × String × TomlItem)) : Option TomlTable :=
  pairs.foldlM (fun t (path, key, item) => insertDotted key item path t) []

end TomlTable

end AbcMetric
