import Ballroom.Disk.Basic
import Ballroom.Json.Parser
import Ballroom.Settings.Basic

/-! # Settings in a file

Settings that are kept as the members of one JSON object in a file.  Changes stay in
memory until they are flushed, and a flush without changes leaves the file alone.
Members of other kinds are kept as they are.  In a truth value's place a number that is
not zero counts as true, and so do the words for the two values. -/

namespace Ballroom

/-- Settings from a file, or in memory only. -/
structure FileSettings where
  path? : Option String := none
  values : Json.Members := []
  /-- Whether there are changes that have not been flushed. -/
  dirty : Bool := false

namespace FileSettings

/-- Reads the settings of a file; a file that is missing has none. -/
def openAt (path : String) (disk : Disk) : Except HostFault FileSettings :=
  match disk.pathExists path with
  | .ok true =>
    match disk.fetch path with
    | .error fault => .error (.disk fault)
    | .ok content => match Text.Utf8.decode content.toBytes with
      | .error _ => .error (.disk .notText)
      | .ok text => match Json.parse text with
        | .ok (.object values) => .ok ⟨some path, values, false⟩
        | .ok _ => .error (.settings (.notAnObject path))
        | .error _ => .error (.settings .notJson)
  -- A path that cannot be followed leads to no file either.
  | _ => .ok ⟨some path, [], false⟩

/-- The truth value that a number stands for: whole numbers of 64 bits other than zero are
true. -/
def boolOfNumber : Json.Number → Bool
  | .whole n => n != 0 && n ≤ Int64.maxValue.toInt
  | .floating _ => false

/-- The truth value of a key. -/
def getBool (s : FileSettings) (key : String) : Except HostFault (Option Bool) :=
  match Json.Members.get? key s.values with
  | none => .ok none
  | some (.bool b) => .ok (some b)
  | some (.number n) => .ok (some (boolOfNumber n))
  | some (.text "true") => .ok (some true)
  | some (.text "false") => .ok (some false)
  | some (.text _) => .error (.settings .notABool)
  | some other => .error (.settings (.typeMismatch key other))

/-- Sets the truth value of a key. -/
def setBool (s : FileSettings) (key : String) (value : Bool) : FileSettings :=
  { s with values := Json.Members.insert key (.bool value) s.values, dirty := true }

/-- The text of the file. -/
def text (s : FileSettings) : String := (Json.object s.values).pretty

/-- Writes the file if there are changes. -/
def flush : HostStep FileSettings Disk Unit := fun (s, disk) =>
  match s.path? with
  | none => .ok () ({ s with dirty := false }, disk)
  | some path =>
    if !s.dirty then .ok () (s, disk)
    else match disk.makeParents path with
      | (.error fault, disk) => .error (.fault (.disk fault)) (s, disk)
      | (.ok (), disk) =>
        match disk.writeFile path (.ofBytes (Text.bytes s.text)) with
        | (.error fault, disk) => .error (.fault (.disk fault)) (s, disk)
        | (.ok (), disk) => .ok () ({ s with dirty := false }, disk)

instance : SettingsStore FileSettings Disk where
  getBool s _ key := s.getBool key
  setBool key value := modify fun (s, disk) => (s.setBool key value, disk)
  flush := flush

end FileSettings

end Ballroom
