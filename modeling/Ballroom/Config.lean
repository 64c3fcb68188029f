import Ballroom.Disk.Basic
import Ballroom.Logging
import Ballroom.Text.Classes

/-! # Configuration

What a library needs to know before anything touches the disk: where the store and the
settings are, where the audio files are, and how large the slots of a new store are.
`ConfigOptions.build` fills in what was left open and refuses what cannot work; of
several things that are wrong the first in the order of the checks is reported.  Paths of
songs are seen from the music directory unless they start at the root. -/

namespace Ballroom

/-- The directory from which the paths of songs are seen. -/
structure MusicDirectory where
  path : String
  deriving DecidableEq, Repr

namespace MusicDirectory

/-- The path of a song's audio file. -/
def resolve (dir : MusicDirectory) (path : String) : String := Path.join dir.path path

/-- Whether the audio file of a song is there. -/
def hasAudio (dir : MusicDirectory) (disk : Disk) (path : String) : Except HostFault Bool :=
  match disk.pathExists (dir.resolve path) with
  | .ok found => .ok found
  | .error fault => .error (.disk fault)

end MusicDirectory

/-- Who answers whether an audio file is there. -/
inductive AudioSource where
  /-- The disk, below the music directory. -/
  | directory (dir : MusicDirectory)
  /-- The host, by a check of its own. -/
  | host (check : String → Except HostFault Bool)

namespace AudioSource

/-- Whether an audio file is there. -/
def hasAudio (source : AudioSource) (disk : Disk) (path : String) : Except HostFault Bool :=
  match source with
  | directory dir => dir.hasAudio disk path
  | host check => check path

end AudioSource

/-- The configuration of a library. -/
structure Config where
  databasePath : String
  musicDir : String
  settingsPath : String
  /-- The size of the slots of a new store. -/
  recordSize : Nat
  storeVersion : Nat
  logging : LoggingConfig
  audio : AudioSource

/-- How a store is to be opened. -/
structure StoreConfig where
  path : String
  version : Nat
  recordSize : Nat
  deriving DecidableEq, Repr

namespace Config

/-- The least size of slots. -/
def minRecordSize : Nat := 256

/-- The greatest size of slots. -/
def maxRecordSize : Nat := 65536

/-- The size of slots where nothing else is said. -/
def defaultRecordSize : Nat := 2048

/-- The version of stores where nothing else is said. -/
def defaultVersion : Nat := 10

/-- The name of the settings file where nothing else is said. -/
def settingsName : String := "filterdisplay.json"

/-- How the store is to be opened. -/
def store (c : Config) : StoreConfig := ⟨c.databasePath, c.storeVersion, c.recordSize⟩

/-- Checks that a configuration can work. -/
def validate (c : Config) : Except ConfigFault Unit :=
  if c.databasePath.isEmpty then .error .databasePathEmpty
  else if c.musicDir.isEmpty then .error .musicDirEmpty
  else if c.settingsPath.isEmpty then .error .settingsPathEmpty
  else if c.recordSize < minRecordSize ∨ maxRecordSize < c.recordSize then
    .error (.recordSizeOutOfRange c.recordSize minRecordSize maxRecordSize)
  else if c.storeVersion = 0 then .error .versionZero
  else .ok ()

/-- The settings file beside a store. -/
def settingsBeside (databasePath : String) : String :=
  match Path.parent? databasePath with
  | some parent => Path.join parent settingsName
  | none => settingsName

/-- The words for a truth value. -/
def flagText (b : Bool) : String := if b then "true" else "false"

/-- A configuration for a reader: logging settings. -/
def loggingText (l : LoggingConfig) : String :=
  "LoggingConfig \x7b format: " ++ l.format.name ++ ", level: " ++ l.level.name ++ ", filter: "
    ++ (match l.filter? with
      | some filter => "Some(" ++ Text.quoted filter ++ ")"
      | none => "None")
    ++ ", enable_spans: " ++ flagText l.enableSpans
    ++ ", display_target: " ++ flagText l.displayTarget
    ++ ", display_thread_info: " ++ flagText l.displayThreadInfo ++ " \x7d"

/-- A configuration for a reader, on one line. -/
def describe (c : Config) : String :=
  "CoreConfig \x7b database_path: " ++ Text.quoted c.databasePath
    ++ ", music_dir: " ++ Text.quoted c.musicDir
    ++ ", settings_path: " ++ Text.quoted c.settingsPath
    ++ ", record_size: " ++ toString c.recordSize
    ++ ", store_version: " ++ toString c.storeVersion
    ++ ", logging: " ++ loggingText c.logging
    ++ ", file_system: \"FileSystemAccess \x7b ... \x7d\" \x7d"

end Config

/-- The parts of a configuration that have been said. -/
structure ConfigOptions where
  databasePath? : Option String := none
  musicDir? : Option String := none
  settingsPath? : Option String := none
  recordSize? : Option Nat := none
  storeVersion? : Option Nat := none
  logging? : Option LoggingConfig := none
  audio? : Option AudioSource := none

/-- The configuration that results from what has been said. -/
def ConfigOptions.build (o : ConfigOptions) : Except ConfigFault Config :=
  match o.databasePath?, o.musicDir? with
  | none, _ => .error .databasePathMissing
  | _, none => .error .musicDirMissing
  | some databasePath, some musicDir =>
    let config : Config := {
      databasePath := databasePath
      musicDir := musicDir
      settingsPath := o.settingsPath?.getD (Config.settingsBeside databasePath)
      recordSize := o.recordSize?.getD Config.defaultRecordSize
      storeVersion := o.storeVersion?.getD Config.defaultVersion
      logging := o.logging?.getD {}
      audio := o.audio?.getD (.directory ⟨musicDir⟩) }
    match config.validate with
    | .error fault => .error fault
    | .ok () => .ok config

end Ballroom
