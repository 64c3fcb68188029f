import Ballroom.Proofs.Record.RoundTrip

/-!
# Values that a record keeps

A value is storable if it is read back from the text that is written for it.  The record of
a song of storable values is read as that song, apart from the tags that the writer
replaces (`StorableSong.value?_recorded`).
-/

namespace Ballroom.Record

/-- A value that is read back as it was written. -/
def Storable (tables : Tables) (tag : Tag) (value : TagValue) : Prop :=
  parseValue tables tag (formatValue tables tag value) = value

/-- Every value of a song is storable, apart from those that the writer replaces. -/
def StorableSong (tables : Tables) (song : Song) : Prop :=
  ∀ tag value, tag ≠ .lastUpdated → tag ≠ .recordNumber → song.value? tag = some value →
    Storable tables tag value

variable {tables : Tables} {stamp : Stamp} {song : Song} {path : String}

/-- The path of a song is the text of its FILE tag. -/
theorem value?_of_path? (hpath : song.path? = some path) :
    song.value? .file = some (.text path) := by
  obtain ⟨value, hvalue, htext⟩ := Option.bind_eq_some_iff.1 hpath
  cases value with
  | text s =>
    obtain rfl := Option.some.inj htext
    exact hvalue
  | number n => cases htext
  | words ws => cases htext

/-- A storable path is plain already. -/
theorem StorableSong.flatten_path (h : StorableSong tables song) (hpath : song.path? = some path) :
    flatten path = path := by
  have hfile := h .file (.text path) (by decide) (by decide) (value?_of_path? hpath)
  exact TagValue.text.inj hfile

/-- A storable value comes back from the text of its tag. -/
theorem StorableSong.map_own (h : StorableSong tables song) (tag : Tag)
    (htime : tag ≠ .lastUpdated) (hnumber : tag ≠ .recordNumber) :
    (written?.own tables song tag).map (parseValue tables tag) = song.value? tag := by
  rw [written?.own, Option.map_map]
  cases hvalue : song.value? tag with
  | none => rfl
  | some value => exact congrArg some (h tag value htime hnumber hvalue)

/-- The record of a song of storable values is read as the song with the stamp, the date of
a new song, and a status. -/
theorem StorableSong.value?_recorded (h : StorableSong tables song)
    (hpath : song.path? = some path) (hnumber : stamp.number ≤ maxRecordNumber) (tag : Tag) :
    (recorded tables stamp song).value? tag =
      match tag with
      | .recordNumber => some (.number (Int64.ofInt stamp.number))
      | .lastUpdated => some (.number stamp.now.timestamp)
      | .addDate => if stamp.isNew then some (.text stamp.dateText) else song.value? .addDate
      | .status =>
        some ((song.value? .status).getD (parseValue tables .status tables.defaultStatus))
      | tag => song.value? tag := by
  rw [Record.value?_recorded]
  -- The writer sets some of the tags; every other one is the song's own.
  cases tag
  case file =>
    simp [written?, hpath, h.flatten_path hpath, parseValue, Tag.kind, value?_of_path? hpath]
  case lastUpdated => exact congrArg some (parseValue_timeText tables stamp)
  case recordNumber => exact congrArg some (parseValue_recordNumber tables hnumber)
  case addDate =>
    cases hnew : stamp.isNew with
    | true => simp [written?, hnew, parseValue, Tag.kind]
    | false => simpa [written?, hnew] using h.map_own .addDate (by decide) (by decide)
  case status =>
    have hown := h.map_own .status (by decide) (by decide)
    cases hvalue : song.value? .status with
    | none => simp [written?, written?.own, hvalue]
    | some value =>
      rw [hvalue] at hown
      simpa [written?, written?.own, hvalue] using hown
  all_goals exact h.map_own _ (by decide) (by decide)

end Ballroom.Record
