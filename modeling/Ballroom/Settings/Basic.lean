import Ballroom.Store.Basic
import Ballroom.Display

/-! # Settings

What the library asks of a store of settings, and how the displayed categories are kept
there: one truth value for each category, all of them written before the store is
flushed. -/

namespace Ballroom

/-- A store of settings with a handle `τ` in a world `ω`. -/
class SettingsStore (τ : Type) (ω : outParam Type) where
  /-- The truth value of a key, if the key has one. -/
  getBool : τ → ω → String → Except HostFault (Option Bool)
  /-- Sets the truth value of a key. -/
  setBool : String → Bool → HostStep τ ω Unit
  /-- Makes the settings permanent. -/
  flush : HostStep τ ω Unit

namespace FilterDisplay

variable {τ ω : Type} [SettingsStore τ ω]

/-- Takes the settings of categories over into a display, in order. -/
def readKeys (settings : τ) (w : ω) : List DisplayKey → FilterDisplay →
    Except LibraryFault FilterDisplay
  | [], display => .ok display
  | key :: keys, display =>
    match SettingsStore.getBool settings w key.settingsKey with
    | .error fault => .error (.host fault)
    | .ok none => readKeys settings w keys display
    | .ok (some visible) => readKeys settings w keys (display.setVisible key visible)

/-- The display that settings describe; what they do not mention is as by default. -/
def load (settings : τ) (w : ω) : Except LibraryFault FilterDisplay :=
  readKeys settings w DisplayKey.all .default

/-- Writes the settings of categories, in order. -/
def writeKeys : List (DisplayKey × Bool) → HostStep τ ω Unit
  | [] => return ()
  | (key, visible) :: rest => do
    SettingsStore.setBool key.settingsKey visible
    writeKeys rest

/-- Writes every category to the settings and flushes them. -/
def save (display : FilterDisplay) : Step LibraryFault (τ × ω) Unit :=
  Step.focus id (fun _ t => t) LibraryFault.host do
    writeKeys display.entries
    SettingsStore.flush

end FilterDisplay

end Ballroom
