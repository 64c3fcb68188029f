/-! # Paths

Paths as text, with slashes between the names: joining two of them and finding the
directory that holds an entry.  Nothing here looks at a disk. -/

namespace Ballroom.Path

/-- Whether a path starts at the root. -/
def isAbsolute (path : String) : Bool :=
  match path.toList with
  | '/' :: _ => true
  | _ => false

/-- The path `path` as seen from the directory `base`. -/
def join (base path : String) : String :=
  if isAbsolute path then path
  else if base.isEmpty || base.toList.getLast? = some '/' then base ++ path
  else base ++ "/" ++ path

/-- The names of a path between its slashes, empty ones included. -/
def split : List Char → List (List Char)
  | [] => [[]]
  | '/' :: rest => [] :: split rest
  | c :: rest =>
    match split rest with
    | [] => [[c]]
    | name :: later => (c :: name) :: later

/-- The names of a path that lead anywhere: empty names and dots do not. -/
def names (path : String) : List String :=
  ((split path.toList).map String.ofList).filter fun name => name != "" && name != "."

/-- Drops slashes and dots that name nothing from the end of the reversed `cs`. -/
def dropIdle : List Char → List Char
  | [] => []
  | ['/'] => ['/']
  | '/' :: rest => dropIdle rest
  -- A dot behind a slash names the directory itself.
  | '.' :: '/' :: rest => dropIdle ('/' :: rest)
  | cs => cs

/-- The path of the directory that holds an entry: the path without its last name.  The
root and the empty path are in no directory. -/
def parent? (path : String) : Option String :=
  match dropIdle path.toList.reverse with
  | [] => none
  | ['/'] => none
  | cs =>
    -- The last name goes, and with it the slashes in front of it.
    let rest := cs.dropWhile (· ≠ '/')
    some (String.ofList (dropIdle rest).reverse)

end Ballroom.Path
