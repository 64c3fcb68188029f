import Ballroom.Config
import Ballroom.Filter.Process
import Ballroom.Library.Load
import Ballroom.Library.Write
import Ballroom.Settings.File
import Ballroom.Store.SlotFile

/-! # The service

A library together with its settings and playlists, as a host uses it.  The service works
over any record store and any settings; `Service.openDesktop` sets it up over files. -/

namespace Ballroom

/-- A library with its settings and playlists. -/
structure Service (σ τ : Type) where
  library : Library σ
  settings : τ
  display : FilterDisplay
  playlists? : Option PlaylistSource := none

/-- A step on a service and the world around it. -/
abbrev ServiceStep (σ τ ω α : Type) := Step ServiceFault (Service σ τ × ω) α

namespace Service

variable {σ τ ω α : Type}

/-- A filter over the tables and playlists of the service. -/
def newFilter (s : Service σ τ) : SongFilter := SongFilter.new s.library.tables s.playlists?

/-- Runs a filter and tells the songs that it finds, in order. -/
def query (s : Service σ τ) (f : SongFilter) : SongFilter × List (Int × Song) :=
  let f := f.process s.library
  let found := (List.range f.count).filterMap fun position =>
    (f.row? position).bind fun index =>
      (s.library.getByIndex? index).map fun song => (index, song)
  (f, found)

/-- A step on the library. -/
def onLibrary (step : LibraryStep σ ω α) : ServiceStep σ τ ω α :=
  Step.focus (fun s => (s.1.library, s.2)) (fun s t => ({ s.1 with library := t.1 }, t.2))
    ServiceFault.library step

/-- A step on the settings. -/
def onSettings (step : Step LibraryFault (τ × ω) α) : ServiceStep σ τ ω α :=
  Step.focus (fun s => (s.1.settings, s.2)) (fun s t => ({ s.1 with settings := t.1 }, t.2))
    ServiceFault.library step

/-- What a service is made of. -/
structure Parts (σ τ ω : Type) where
  store : σ
  audio : ω → String → Except HostFault Bool
  settings : τ
  tables : Tables := .standard
  playlists? : Option PlaylistSource := none

variable [RecordStore σ ω] [SettingsStore τ ω]

/-- Loads the library that a configuration describes, and the display from the settings. -/
def openWith (config : Config) (parts : Parts σ τ ω) : Step ServiceFault ω (Service σ τ) := fun w =>
  match config.validate with
  | .error fault => .error (.fault (.config fault)) w
  | .ok () =>
    let handle : StoreHandle σ := ⟨parts.store, config.databasePath, config.storeVersion, false⟩
    match Library.load parts.audio handle parts.tables w with
    | .error stop w => .error (stop.map .library) w
    | .ok library w =>
      match FilterDisplay.load parts.settings w with
      | .error fault => .error (.fault (.library fault)) w
      | .ok display => .ok ⟨library, parts.settings, display, parts.playlists?⟩ w

/-- Shows or hides a category and saves the display. -/
def setVisible (key : DisplayKey) (visible : Bool) : ServiceStep σ τ ω Unit := do
  -- The display has changed even if it cannot be saved.
  modify fun (s, w) => ({ s with display := s.display.setVisible key visible }, w)
  let (s, _) ← get
  onSettings s.display.save

/-- Closes the library. -/
def close : ServiceStep σ τ ω Unit := onLibrary Library.close

variable [Allocator]

/-- Sets a service up over the files that a configuration names, with the given tables and
playlists.  The settings are read before the store is touched. -/
def openFiles (config : Config) (tables : Tables) (playlists? : Option PlaylistSource) :
    Step ServiceFault Disk (Service SlotFile FileSettings) := fun disk =>
  match FileSettings.openAt config.settingsPath disk with
  | .error fault => .error (.fault (.host fault)) disk
  | .ok settings =>
    openWith config
      { store := { slotSize := config.recordSize }
        audio := fun disk path => config.audio.hasAudio disk path
        settings := settings
        tables := tables
        playlists? := playlists? } disk

/-- Sets a service up over the files that a configuration names, with the standard tables
and without playlists. -/
def openDesktop (config : Config) : Step ServiceFault Disk (Service SlotFile FileSettings) :=
  openFiles config .standard none

end Service

end Ballroom
