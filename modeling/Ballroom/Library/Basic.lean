import Std.Data.HashMap
import Ballroom.Store.Handle
import Ballroom.Record.Codec

/-! # The library

The songs of a record store in memory.  Songs that are on record are indexed from 0 in
the byte order of their paths; temporary songs come after them, last for the session and
are never written.  The parts of a library are kept in step with each other:

* `byPath` leads from the path of a song on record to its index,
* `danceCounts` counts the songs on record of each dance of the table,
* `nextTemporary` is above the index of every temporary song. -/

namespace Ballroom

/-- The songs of a record store in memory. -/
structure Library (σ : Type) where
  handle : StoreHandle σ
  tables : Tables
  /-- The songs on record, in the order of their paths. -/
  songs : Array Song := #[]
  /-- The index of the song of each path. -/
  byPath : Std.HashMap String Nat := {}
  /-- The temporary songs by index. -/
  temporary : Std.HashMap Int Song := {}
  /-- The least index that the next temporary song can have. -/
  nextTemporary : Int := 0
  /-- The number of songs on record of each dance of the table. -/
  danceCounts : Array Nat := #[]

/-- A step on a library and the world around it. -/
abbrev LibraryStep (σ ω α : Type) := Step LibraryFault (Library σ × ω) α

namespace Library

variable {σ ω α : Type}

/-- A step on the store handle of a library. -/
def onHandle (step : HandleStep σ ω α) : LibraryStep σ ω α :=
  Step.focus (fun s => (s.1.handle, s.2)) (fun s t => ({ s.1 with handle := t.1 }, t.2)) id step

/-- Changes a library without touching its store. -/
def change (f : Library σ → Library σ) : LibraryStep σ ω Unit :=
  modify fun (lib, w) => (f lib, w)

/-- A library without songs. -/
def empty (handle : StoreHandle σ) (tables : Tables) : Library σ where
  handle := handle
  tables := tables
  danceCounts := Array.replicate (tables.size .dance) 0

/-- The place of a song's dance among the counts. -/
def dancePlace? (song : Song) : Option Nat := (song.number? .dance).bind place?

/-- Counts one more song of a dance, up to the greatest number of 32 bits. -/
def countIn (counts : Array Nat) (song : Song) : Array Nat :=
  match dancePlace? song with
  | some d => counts.modify d fun n => min (n + 1) Number.maxUInt32
  | none => counts

/-- Counts one song of a dance less, down to zero. -/
def countOut (counts : Array Nat) (song : Song) : Array Nat :=
  match dancePlace? song with
  | some d => counts.modify d (· - 1)
  | none => counts

/-- The number of songs on record. -/
def count (lib : Library σ) : Nat := lib.songs.size

/-- The song on record of a path. -/
def getByPath? (lib : Library σ) (path : String) : Option Song :=
  (lib.byPath[path]?).bind fun i => lib.songs[i]?

/-- The song of an index: one on record or a temporary one. -/
def getByIndex? (lib : Library σ) (index : Int) : Option Song :=
  if index < 0 then none
  -- Songs on record come first, whatever temporary songs there are.
  else if index.toNat < lib.songs.size then lib.songs[index.toNat]?
  else lib.temporary[index]?

/-- The songs on record with their indices, in order. -/
def entries (lib : Library σ) : List (Int × Song) :=
  lib.songs.toList.zipIdx.map fun (song, i) => ((i : Int), song)

/-- The number of temporary songs. -/
def temporaryCount (lib : Library σ) : Nat := lib.temporary.size

/-- The name of the dance of a song, as the table or the song itself gives it. -/
def danceName? (lib : Library σ) (index : Int) : Option String :=
  (lib.getByIndex? index).bind fun song =>
    match song.number? .dance with
    | some d => lib.tables.name? .dance d
    | none => song.text? .dance

/-- Puts a song in the place of the one at index `i`, and brings counts and paths in step. -/
def replace (lib : Library σ) (i : Nat) (song : Song) : Library σ :=
  match lib.songs[i]? with
  | none => lib
  | some old =>
    { lib with
      songs := lib.songs.setIfInBounds i song
      danceCounts := countIn (countOut lib.danceCounts old) song
      byPath :=
        -- The old path is dropped before the new one leads to the place.
        if old.path? = song.path? then lib.byPath
        else
          let byPath := match old.path? with
            | some path => lib.byPath.erase path
            | none => lib.byPath
          match song.path? with
          | some path => byPath.insert path i
          | none => byPath }

/-- Adds a temporary song and tells its index.  An index is one more than the last one, or
the number of songs on record, which has 32 bits.  Indices of 64 bits with a sign run out
after more than 2^62 additions, which take over a hundred years at one in a nanosecond, so
that they are not bounded here. -/
def addTemporary (lib : Library σ) (song : Song) : Int × Library σ :=
  let index := max lib.nextTemporary lib.songs.size
  let song := { song with temporary := true, index? := some index }
  (index, { lib with
    nextTemporary := index + 1
    temporary := lib.temporary.insert index song })

/-- Takes a temporary song away.  Its index is not used again. -/
def removeTemporary (lib : Library σ) (index : Int) : Option Song × Library σ :=
  (lib.temporary[index]?, { lib with temporary := lib.temporary.erase index })

/-- Forgets every song. -/
def clear (lib : Library σ) : Library σ :=
  { lib with
    songs := #[]
    byPath := {}
    temporary := {}
    nextTemporary := 0
    danceCounts := lib.danceCounts.map fun _ => 0 }

variable [RecordStore σ ω]

/-- Closes the store and forgets every song. -/
def close : LibraryStep σ ω Unit := do
  onHandle StoreHandle.close
  change clear

/-- Starts a batch of writes. -/
def startBatch : LibraryStep σ ω Unit := onHandle StoreHandle.startBatch

/-- Ends a batch of writes and closes the store. -/
def endBatch : LibraryStep σ ω Unit := onHandle StoreHandle.endBatch

end Library

end Ballroom
