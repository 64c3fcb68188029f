import Ballroom.Library.Basic

/-! # Writing and reading single songs

`Library.writeSong` writes the record of a song and brings the song and the library in
step with it; `Library.loadEntry` brings one song of the library in step with its record.
A song keeps its record: it is the one whose number the song carries, or else the one of
the song on record with the same path, or else a new one. -/

namespace Ballroom.Library

variable {σ ω α : Type}

/-- A step on a song of the caller, a library and the world around it. -/
abbrev SongStep (σ ω α : Type) := Step LibraryFault (Song × Library σ × ω) α

/-- A step on the library. -/
def onLibrary (step : LibraryStep σ ω α) : SongStep σ ω α :=
  Step.focus (fun s => s.2) (fun s t => (s.1, t)) id step

/-- Changes the song. -/
def changeSong (f : Song → Song) : SongStep σ ω Unit :=
  modify fun (song, s) => (f song, s)

/-- The song on record with the path of a song. -/
def onRecord? (lib : Library σ) (song : Song) : Option Song := song.path?.bind lib.getByPath?

/-- Takes the date of a song on record over to a song of the same path that has none. -/
def adoptDate (old : Song) (song : Song) : Song :=
  match old.text? .addDate with
  | some date => if song.has .addDate then song else song.set .addDate (.text date)
  | none => song

/-- What a song looks like after its record has been written: the stamp, and the status
that the record has for a song without one. -/
def stamped (tables : Tables) (stamp : Record.Stamp) (song : Song) : Song :=
  let song := song.setRecordNumber stamp.number
  let song := song.set .lastUpdated (.number stamp.now.timestamp)
  let song := if stamp.isNew then song.set .addDate (.text stamp.dateText) else song
  if song.has .status then song
  else song.set .status (Record.parseValue tables .status tables.defaultStatus)

/-- Brings the library in step with a song that has been written; the song learns its
index. -/
def refresh : SongStep σ ω Unit :=
  modify fun (song, lib, w) =>
    match song.path?.bind fun path => lib.byPath[path]? with
    | some i => (song.withIndex i, lib.replace i (song.withIndex i), w)
    | none => (song, lib, w)

variable [RecordStore σ ω]

/-- The number of the record that a song is written to, and whether the record is new. -/
def chooseRecord : SongStep σ ω (Nat × Bool) := do
  let (song, lib, _) ← get
  match song.recordNumber?, lib.onRecord? song with
  -- A number of its own counts even if another song has the path on record.
  | some number, _ => return (number, false)
  | none, some old =>
    match old.recordNumber? with
    | some number =>
      changeSong (adoptDate old)
      return (number, false)
    -- Songs are loaded with their numbers, so that this is only for completeness.
    | none => return (← onLibrary (onHandle StoreHandle.allocate), true)
  | none, none => return (← onLibrary (onHandle StoreHandle.allocate), true)

/-- Writes the record of a song and tells its length in bytes.  A temporary song is not
written. -/
def writeSong (now : Instant) : SongStep σ ω Nat := do
  let (song, lib, _) ← get
  if song.temporary then return 0
  let (number, isNew) ← chooseRecord
  let stamp : Record.Stamp := ⟨number, isNew, now⟩
  -- The song may have taken a date over.
  let (song, _, _) ← get
  let data := Text.bytes (Record.encode lib.tables stamp song)
  onLibrary (onHandle (StoreHandle.write number data))
  changeSong (stamped lib.tables stamp)
  refresh
  return data.length

/-- Reads the record of the song on record at an index again and tells the song.  Nothing
changes if the slot is empty or holds a song of another path. -/
def loadEntry (index : Int) : LibraryStep σ ω (Option Song) := do
  let (lib, _) ← get
  if index < 0 then return none
  let i := index.toNat
  match lib.songs[i]? with
  | none => return none
  | some old =>
    match old.recordNumber? with
    | none => return none
    | some number =>
      match ← onHandle (StoreHandle.readSingle number) with
      | none => return none
      | some data =>
        match Record.decode lib.tables data with
        | .error fault => Step.fail (.undecodable fault)
        | .ok song =>
          -- The slot has been given to another song.
          if song.path? ≠ old.path? then return none
          let song := (song.setRecordNumber number).withIndex index
          change (·.replace i song)
          return some song

end Ballroom.Library
