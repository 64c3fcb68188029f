/-! # Displayed filter categories

Which categories of filters a host shows to its user.  Two of them are shown unless the
settings say otherwise. -/

namespace Ballroom

/-- A category of filters. -/
inductive DisplayKey where
  | dance
  | danceLevel
  | danceRating
  | favorite
  | genre
  | status
  | statusPlayable
  deriving DecidableEq, Repr

namespace DisplayKey

/-- Every category, in the order in which they are saved. -/
def all : List DisplayKey :=
  [dance, danceLevel, danceRating, favorite, genre, status, statusPlayable]

/-- The key of the category in the settings. -/
def settingsKey : DisplayKey → String
  | dance => "DANCE"
  | danceLevel => "DANCELEVEL"
  | danceRating => "DANCERATING"
  | favorite => "FAVORITE"
  | genre => "GENRE"
  | status => "STATUS"
  | statusPlayable => "STATUSPLAYABLE"

/-- The name of the category. -/
def name : DisplayKey → String
  | dance => "Dance"
  | danceLevel => "DanceLevel"
  | danceRating => "DanceRating"
  | favorite => "Favorite"
  | genre => "Genre"
  | status => "Status"
  | statusPlayable => "StatusPlayable"

/-- Whether the category is shown when the settings do not mention it. -/
def isShownByDefault : DisplayKey → Bool
  | dance => true
  | danceRating => true
  | _ => false

/-- `all` lists every category. -/
theorem mem_all (key : DisplayKey) : key ∈ all := by cases key <;> decide

end DisplayKey

/-- Which categories are shown. -/
structure FilterDisplay where
  isVisible : DisplayKey → Bool

namespace FilterDisplay

/-- The display of a host without settings. -/
def default : FilterDisplay := ⟨DisplayKey.isShownByDefault⟩

/-- Shows or hides a category. -/
def setVisible (display : FilterDisplay) (key : DisplayKey) (visible : Bool) : FilterDisplay :=
  ⟨fun k => if k = key then visible else display.isVisible k⟩

/-- The categories and whether they are shown, in order. -/
def entries (display : FilterDisplay) : List (DisplayKey × Bool) :=
  DisplayKey.all.map fun key => (key, display.isVisible key)

/-- Displays are compared category by category. -/
instance : DecidableEq FilterDisplay := fun a b =>
  decidable_of_iff (∀ key ∈ DisplayKey.all, a.isVisible key = b.isVisible key)
    ⟨fun h => by
      obtain ⟨f⟩ := a
      obtain ⟨g⟩ := b
      exact congrArg _ (funext fun key => h key key.mem_all),
      fun h => by subst h; exact fun _ _ => rfl⟩

end FilterDisplay

end Ballroom
