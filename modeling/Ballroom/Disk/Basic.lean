import Ballroom.Disk.Content
import Ballroom.Disk.Path
import Ballroom.Fault
import Std.Data.ExtHashMap

/-! # The disk

The files and directories that the library touches, as a value: what stands at each place
of the directory tree.  A path is followed name by name from the root or from the working
directory, and every request says which of the causes of `DiskFault` stops it.  A
request that fails leaves the disk as it is, except that directories which were made on
the way to a missing one stay. -/

namespace Ballroom

/-- A place in the directory tree: the names that lead there from the root. -/
abbrev Place := List String

/-- What stands at a place. -/
inductive Entry where
  | directory
  | file (content : Content)
  deriving DecidableEq

/-- Files and directories. -/
@[ext] structure Disk where
  /-- What stands at the places where something does. -/
  entries : Std.ExtHashMap Place Entry

namespace Disk

/-- What stands at a place, if anything does. -/
def entryAt? (disk : Disk) (place : Place) : Option Entry := disk.entries[place]?

/-- Two disks are the same if the same stands at every place. -/
theorem ext_entryAt? {a b : Disk} (h : ∀ place, a.entryAt? place = b.entryAt? place) : a = b :=
  Disk.ext (Std.ExtHashMap.ext_getElem? h)

/-- The place from which relative paths lead. -/
def workingDirectory : Place := ["home", "library"]

/-- Puts an entry at a place. -/
def put (disk : Disk) (place : Place) (entry : Entry) : Disk where
  entries := disk.entries.insert place entry

/-- An entry that was put is at its place, and the others are where they were. -/
@[simp] theorem entryAt_put (disk : Disk) (place p : Place) (entry : Entry) :
    (disk.put place entry).entryAt? p = if p = place then some entry else disk.entryAt? p := by
  simp only [entryAt?, put, Std.ExtHashMap.getElem?_insert, beq_iff_eq]
  grind

/-- Of two entries at one place the last one stays. -/
theorem put_put (disk : Disk) (place : Place) (entry entry' : Entry) :
    (disk.put place entry).put place entry' = disk.put place entry' := by
  apply ext_entryAt?
  intro p
  simp only [entryAt_put]
  split <;> rfl

/-- The disk with an empty working directory. -/
def empty : Disk :=
  let root : Disk := ⟨{}⟩
  ((root.put [] .directory).put ["home"] .directory).put workingDirectory .directory

/-- An empty disk has the directories down to the working directory and nothing else. -/
theorem entryAt_empty (p : Place) :
    empty.entryAt? p =
      if p = [] ∨ p = ["home"] ∨ p = workingDirectory then some .directory else none := by
  simp only [empty, entryAt_put]
  grind [entryAt?]

/-- Whether a directory stands at a place. -/
def isDirectory (disk : Disk) (place : Place) : Bool := disk.entryAt? place = some .directory

/-- What the file at a place holds; nothing where there is no file. -/
def content (disk : Disk) (place : Place) : Content :=
  match disk.entryAt? place with
  | some (.file content) => content
  | _ => .empty

/-- The longest name, in bytes. -/
def maxNameSize : Nat := 255

/-- The bytes that a path has to stay below. -/
def maxPathSize : Nat := 4096

/-- Goes from a directory to one of its names. -/
def enter (disk : Disk) (place : Place) (name : String) : Except DiskFault Place :=
  match disk.entryAt? place with
  | none => .error .notFound
  | some (.file _) => .error .notADirectory
  | some .directory =>
    -- Neither moves on, but both ask for a directory to stay in.
    if name = "" ∨ name = "." then .ok place
    else if name = ".." then .ok place.dropLast
    else if maxNameSize < Text.size name then .error .nameTooLong
    else .ok (place ++ [name])

/-- Follows names from a place. -/
def follow (disk : Disk) (place : Place) : List String → Except DiskFault Place
  | [] => .ok place
  | name :: rest =>
    match disk.enter place name with
    | .error fault => .error fault
    | .ok place => disk.follow place rest

/-- The place where a path starts and the names that it leads along, empty ones included.
What cannot be a path at all is refused before anything is looked at. -/
def route (path : String) : Except DiskFault (Place × List String) :=
  if path.toList.contains '\x00' then .error .invalidInput
  else if path.isEmpty then .error .notFound
  else if maxPathSize ≤ Text.size path then .error .nameTooLong
  else .ok (if Path.isAbsolute path then [] else workingDirectory,
    (Path.split path.toList).map String.ofList)

/-- The place that a path leads to, whether or not anything stands there. -/
def locate (disk : Disk) (path : String) : Except DiskFault Place :=
  (route path).bind fun (start, names) => disk.follow start names

/-- What a path leads to. -/
def stat (disk : Disk) (path : String) : Except DiskFault (Place × Entry) :=
  match disk.locate path with
  | .error fault => .error fault
  | .ok place => match disk.entryAt? place with
    | some entry => .ok (place, entry)
    | none => .error .notFound

/-- Whether anything stands where a path leads. -/
def pathExists (disk : Disk) (path : String) : Except DiskFault Bool :=
  match disk.stat path with
  | .ok _ => .ok true
  | .error .notFound => .ok false
  | .error fault => .error fault

/-- Names without the empty ones at their end, which closing slashes leave. -/
def unclosed (names : List String) : List String := (names.reverse.dropWhile (· = "")).reverse

/-- The place that a path leads to without its closing slashes. -/
def locateNew (disk : Disk) (path : String) : Except DiskFault Place :=
  (route path).bind fun (start, names) => disk.follow start (unclosed names)

/-- Makes a directory in an existing one. -/
def makeDirectory (disk : Disk) (path : String) : Except DiskFault Disk :=
  match disk.locateNew path with
  | .error fault => .error fault
  | .ok place => match disk.entryAt? place with
    | some _ => .error .alreadyExists
    | none => .ok (disk.put place .directory)

/-- Whether a path leads to a directory. -/
def leadsToDirectory (disk : Disk) (path : String) : Bool :=
  match disk.stat path with
  | .ok (_, .directory) => true
  | _ => false

/-- Follows names from a directory and makes every directory that is missing on the way. -/
def makeWay (disk : Disk) (place : Place) : List String → Except DiskFault Unit × Disk
  | [] => (.ok (), disk)
  | name :: rest =>
    if name = ".." then disk.makeWay place.dropLast rest
    else if maxNameSize < Text.size name then (.error .nameTooLong, disk)
    else
      let next := place ++ [name]
      match disk.entryAt? next with
      | none => (disk.put next .directory).makeWay next rest
      | some .directory => disk.makeWay next rest
      | some (.file _) => (.error .alreadyExists, disk)

/-- Makes a directory and those that are missing on the way to it. -/
def makeDirectories (disk : Disk) (path : String) : Except DiskFault Unit × Disk :=
  -- A directory that is there already is as good as a new one.
  let settle (disk : Disk) : Except DiskFault Unit × Disk :=
    match disk.makeDirectory path with
    | .ok disk => (.ok (), disk)
    | .error fault => (if disk.leadsToDirectory path then .ok () else .error fault, disk)
  if path.isEmpty then (.ok (), disk)
  else match disk.makeDirectory path, Path.parent? path with
    | .error .notFound, some parent =>
      let start := if Path.isAbsolute path then [] else workingDirectory
      match disk.makeWay start (Path.names parent) with
      | (.error fault, disk) => (.error fault, disk)
      | (.ok (), disk) => settle disk
    | _, _ => settle disk

/-- Makes the directories that a file at `path` needs. -/
def makeParents (disk : Disk) (path : String) : Except DiskFault Unit × Disk :=
  match Path.parent? path with
  | none => (.ok (), disk)
  | some parent => disk.makeDirectories parent

/-- Opens a file for writing, making an empty one if there is none. -/
def openFile (disk : Disk) (path : String) : Except DiskFault Place × Disk :=
  match route path with
  | .error fault => (.error fault, disk)
  | .ok (start, names) =>
    -- A path with a slash at its end can name a directory only; its last name is not
    -- looked at, but the directory that would hold it is.
    let closed := names.getLast? = some ""
    match disk.follow start (if closed then (unclosed names).dropLast ++ ["."] else names) with
    | .error fault => (.error fault, disk)
    | .ok place =>
      if closed then (.error .isADirectory, disk)
      else match disk.entryAt? place with
        | some .directory => (.error .isADirectory, disk)
        | some (.file _) => (.ok place, disk)
        | none => (.ok place, disk.put place (.file .empty))

/-- What a file holds. -/
def fetch (disk : Disk) (path : String) : Except DiskFault Content :=
  match disk.stat path with
  | .error fault => .error fault
  | .ok (_, .directory) => .error .isADirectory
  | .ok (_, .file content) => .ok content

/-- Replaces what a file holds, making the file if there is none. -/
def writeFile (disk : Disk) (path : String) (content : Content) : Except DiskFault Unit × Disk :=
  match disk.openFile path with
  | (.error fault, disk) => (.error fault, disk)
  | (.ok place, disk) => (.ok (), disk.put place (.file content))

/-- Writes into the file at a place. -/
def writeAt (disk : Disk) (place : Place) (offset : Nat) (data : Content) : Disk :=
  disk.put place (.file ((disk.content place).overwrite offset data))

/-- A file that was put holds what it was put with; other files hold what they held. -/
theorem content_put_file (disk : Disk) (place p : Place) (content : Content) :
    (disk.put place (.file content)).content p = if p = place then content else disk.content p := by
  by_cases h : p = place <;> simp [Disk.content, h]

end Disk

end Ballroom
