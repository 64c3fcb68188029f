import Ballroom.Json.Value
import Ballroom.Record.Layout
import Ballroom.Text.Classes

/-! # Faults

Everything that can go wrong, by cause, and the wording of each cause.  A fault of the
host (its disk, its record store, its settings) becomes a fault of the library that asked
for it, and that one a fault of the whole service. -/

namespace Ballroom

/-- Why the disk refuses a request. -/
inductive DiskFault where
  | notFound
  | notADirectory
  | isADirectory
  | alreadyExists
  /-- A file ends before all bytes asked for. -/
  | endOfFile
  /-- A path holds a NUL, or a place in a file is beyond what a file can have. -/
  | invalidInput
  /-- A name is too long. -/
  | nameTooLong
  /-- A file of text is not UTF-8. -/
  | notText
  deriving DecidableEq, Repr

/-- Why a record store refuses a request. -/
inductive StoreFault where
  | closed
  | numberZero
  | recordTooLong (number size slotSize : Nat)
  | headerNotText (fault : Text.Utf8.Fault)
  | malformedHeader (text : String)
  | versionMismatch (path : String) (found expected : Nat)
  /-- A fault in the words of the host. -/
  | other (message : String)

/-- Why settings refuse a request, or a host cannot do what it was asked. -/
inductive SettingsFault where
  | notAnObject (path : String)
  | notJson
  | notABool
  | typeMismatch (key : String) (value : Json)
  /-- A fault in the words of the host. -/
  | other (message : String)

/-- A fault of the host. -/
inductive HostFault where
  /-- The host cannot do this at all. -/
  | unavailable (what : String)
  | settings (fault : SettingsFault)
  | store (fault : StoreFault)
  | disk (fault : DiskFault)

/-- A fault of the library. -/
inductive LibraryFault where
  | host (fault : HostFault)
  | invalidInput (field message : String)
  | storeClosed
  | recordTooLarge (number size slotSize : Nat)
  | undecodable (fault : Record.Fault)

/-- A fault of a configuration. -/
inductive ConfigFault where
  | databasePathMissing
  | musicDirMissing
  | databasePathEmpty
  | musicDirEmpty
  | settingsPathEmpty
  | recordSizeOutOfRange (size low high : Nat)
  | versionZero
  deriving DecidableEq, Repr

/-- A fault of the service. -/
inductive ServiceFault where
  | library (fault : LibraryFault)
  | config (fault : ConfigFault)
  | host (fault : HostFault)

/-- The wording of a fault of a record store. -/
def StoreFault.message : StoreFault → String
  | closed => "Record store is not open"
  | numberZero => "Record numbers start at 1"
  | recordTooLong number size slotSize =>
    "Record " ++ toString number ++ " is " ++ toString size ++ " bytes, slot size is "
      ++ toString slotSize
  | headerNotText fault => "Header is not UTF-8: " ++ fault.message
  | malformedHeader text => "Malformed header: " ++ Text.quoted text
  | versionMismatch path found expected =>
    "Version mismatch in " ++ path ++ ": found " ++ toString found ++ ", expected "
      ++ toString expected
  | other message => message

/-- The wording of a fault of settings. -/
def SettingsFault.message : SettingsFault → String
  | notAnObject path => "Settings file " ++ path ++ " is not a JSON object"
  | notJson => "Parse error"
  | notABool => "Parse error: provided string was not `true` or `false`"
  | typeMismatch key value =>
    "Type mismatch for " ++ key ++ ": expected bool, got " ++ value.compact
  | other message => message

/-- The name of a fault of the disk. -/
def DiskFault.name : DiskFault → String
  | notFound => "NotFound"
  | notADirectory => "NotADirectory"
  | isADirectory => "IsADirectory"
  | alreadyExists => "AlreadyExists"
  | endOfFile => "UnexpectedEof"
  | invalidInput => "InvalidInput"
  | nameTooLong => "InvalidFilename"
  | notText => "InvalidData"

/-- The wording of a fault of the host. -/
def HostFault.message : HostFault → String
  | unavailable what => "Bridge capability not available: " ++ what
  | settings fault => "Bridge operation failed: " ++ fault.message
  | store fault => "Record store error: " ++ fault.message
  | disk fault => "IO error: " ++ fault.name

/-- The wording of a fault of the library. -/
def LibraryFault.message : LibraryFault → String
  | host fault => "Bridge error: " ++ fault.message
  | invalidInput field message => "Invalid input: " ++ field ++ " - " ++ message
  | storeClosed => "Record store is not open"
  | recordTooLarge number size slotSize =>
    "Record " ++ toString number ++ " is " ++ toString size ++ " bytes, slot size is "
      ++ toString slotSize
  | undecodable fault => "Cannot decode record: " ++ fault.message

/-- What is wrong with a configuration. -/
def ConfigFault.reason : ConfigFault → String
  | databasePathMissing => "Database path is required. Use .database_path() to set it."
  | musicDirMissing => "Music directory is required. Use .music_dir() to set it."
  | databasePathEmpty => "Database path cannot be empty"
  | musicDirEmpty => "Music directory cannot be empty"
  | settingsPathEmpty => "Settings path cannot be empty"
  | recordSizeOutOfRange size low high =>
    "Record size " ++ toString size ++ " is out of range. Use a value between " ++ toString low
      ++ " and " ++ toString high ++ " bytes."
  | versionZero => "Store version must be greater than 0"

/-- The wording of a fault of a configuration. -/
def ConfigFault.message (fault : ConfigFault) : String := "Configuration error: " ++ fault.reason

/-- The wording of a fault of the service. -/
def ServiceFault.message : ServiceFault → String
  | library fault => "Library error: " ++ fault.message
  | config fault => "Runtime error: " ++ fault.message
  | host fault => "Bridge error: " ++ fault.message

end Ballroom
