import Ballroom.Record.Codec
import Ballroom.Proofs.Number.Decimal

/-!
# The pairs of a record

Which pairs the record of a song consists of: `mem_pairs_iff` lists them, `nodup_pairs`
says that no tag comes twice, and `plain_of_mem_pairs` that every text is plain.
`written?` is the text of each tag.
-/

namespace Ballroom

/-- The entries of a song are the tags that have a value, with their values. -/
theorem Song.mem_entries {song : Song} {tag : Tag} {value : TagValue} :
    (tag, value) ∈ song.entries ↔ song.value? tag = some value := by
  simp only [entries, List.mem_filterMap, Option.map_eq_some_iff, Prod.mk.injEq]
  constructor
  · rintro ⟨_, _, _, h, rfl, rfl⟩
    exact h
  · intro h
    exact ⟨tag, tag.mem_all, value, h, rfl, rfl⟩

/-- The entries of a song are listed in record order, each tag once. -/
theorem Song.map_fst_entries (song : Song) :
    song.entries.map Prod.fst = Tag.all.filter song.has := by
  unfold entries
  induction Tag.all with
  | nil => rfl
  | cons tag rest ih =>
    cases h : song.value? tag <;> simp [Song.has, h, ih]

namespace Record

variable (tables : Tables) (stamp : Stamp) (song : Song)

/-- The text that the record of a song has for a tag, if it has one. -/
def written? (tag : Tag) : Option String :=
  match tag with
  | .file => some (flatten (song.path?.getD ""))
  | .lastUpdated => some stamp.timeText
  | .recordNumber => some (toString stamp.number)
  | .addDate => if stamp.isNew then some stamp.dateText else own .addDate
  | .status => some ((own .status).getD tables.defaultStatus)
  | tag => own tag
where
  /-- The text of a value of the song. -/
  own (tag : Tag) : Option String := (song.value? tag).map (formatValue tables tag)

/-- The pairs of a record: the path, the song's own tags and what the writer adds. -/
theorem mem_pairs_iff {tag : Tag} {text : String} :
    (tag, text) ∈ pairs tables stamp song ↔
      tag = .file ∧ flatten (song.path?.getD "") = text ∨
      isOwn stamp tag ∧ written?.own tables song tag = some text ∨
      tag = .addDate ∧ stamp.isNew ∧ stamp.dateText = text ∨
      tag = .status ∧ song.has .status = false ∧ tables.defaultStatus = text ∨
      tag = .lastUpdated ∧ stamp.timeText = text ∨
      tag = .recordNumber ∧ toString stamp.number = text := by
  -- The parts of the record are looked at one by one: own tags, the date, the status.
  have hown : (tag, text) ∈ ((song.entries.filter fun entry => isOwn stamp entry.1).map
      fun entry => (entry.1, formatValue tables entry.1 entry.2)) ↔
      isOwn stamp tag ∧ written?.own tables song tag = some text := by
    simp only [List.mem_map, List.mem_filter, Prod.exists, Prod.mk.injEq, Song.mem_entries,
      written?.own, Option.map_eq_some_iff]
    constructor
    · rintro ⟨_, value, ⟨hvalue, hisOwn⟩, rfl, rfl⟩
      exact ⟨hisOwn, value, hvalue, rfl⟩
    · rintro ⟨hisOwn, value, hvalue, rfl⟩
      exact ⟨tag, value, ⟨hvalue, hisOwn⟩, rfl, rfl⟩
  have hdate : (tag, text) ∈ (if stamp.isNew then [(Tag.addDate, stamp.dateText)] else []) ↔
      tag = .addDate ∧ stamp.isNew ∧ stamp.dateText = text := by
    cases stamp.isNew <;> simp [eq_comm (a := text)]
  have hstatus : (tag, text) ∈
      (if song.has .status then [] else [(Tag.status, tables.defaultStatus)]) ↔
      tag = .status ∧ song.has .status = false ∧ tables.defaultStatus = text := by
    cases song.has .status <;> simp [eq_comm (a := text)]
  simp only [pairs, List.mem_append, List.mem_cons, Prod.mk.injEq, List.not_mem_nil, or_false,
    hown, hdate, hstatus, or_assoc, eq_comm (a := text)]

/-- `written?` gives the text of each pair of the record. -/
theorem mem_pairs_iff_written? {tag : Tag} {text : String} :
    (tag, text) ∈ pairs tables stamp song ↔ written? tables stamp song tag = some text := by
  rw [mem_pairs_iff]
  -- Only the date and the status can come from either side.
  cases tag
  case addDate => cases h : stamp.isNew <;> simp [written?, isOwn, h]
  case status =>
    cases h : song.value? .status <;> simp [written?, written?.own, isOwn, Song.has, h]
  all_goals simp [written?, isOwn]

/-- The tags of a record, in order. -/
theorem map_fst_pairs :
    (pairs tables stamp song).map Prod.fst =
      .file :: (Tag.all.filter song.has).filter (isOwn stamp)
        ++ (if stamp.isNew then [.addDate] else [])
        ++ (if song.has .status then [] else [.status]) ++ [.lastUpdated, .recordNumber] := by
  have hown : ((song.entries.filter fun entry => isOwn stamp entry.1).map fun entry =>
      (entry.1, formatValue tables entry.1 entry.2)).map Prod.fst =
      (Tag.all.filter song.has).filter (isOwn stamp) := by
    rw [List.map_map, ← Song.map_fst_entries, List.filter_map]
    rfl
  simp only [pairs, List.map_append, List.map_cons, hown, List.map_nil]
  cases stamp.isNew <;> cases song.has .status <;> rfl

/-- No tag comes twice in a record. -/
theorem nodup_pairs : ((pairs tables stamp song).map Prod.fst).Nodup := by
  rw [map_fst_pairs]
  have hown : ((Tag.all.filter song.has).filter (isOwn stamp)).Nodup :=
    (Tag.nodup_all.filter _).filter _
  have hmem : ∀ tag ∈ (Tag.all.filter song.has).filter (isOwn stamp),
      isOwn stamp tag ∧ song.has tag := by
    intro tag h
    simp only [List.mem_filter] at h
    exact ⟨h.2, h.1.2⟩
  generalize (Tag.all.filter song.has).filter (isOwn stamp) = own at hown hmem
  -- What the writer adds is either no tag of its own or a tag that the song lacks.
  have hfile : .file ∉ own := fun h => absurd (hmem _ h).1 (by simp [isOwn])
  have hadded : ∀ tag ∈ own, tag ≠ .lastUpdated ∧ tag ≠ .recordNumber ∧
      (stamp.isNew → tag ≠ .addDate) ∧ (song.has .status = false → tag ≠ .status) := by
    intro tag h
    obtain ⟨hisOwn, hhas⟩ := hmem tag h
    refine ⟨?_, ?_, fun hnew => ?_, fun hlacks => ?_⟩
    · rintro rfl
      simp [isOwn] at hisOwn
    · rintro rfl
      simp [isOwn] at hisOwn
    · rintro rfl
      simp [isOwn, hnew] at hisOwn
    · rintro rfl
      rw [hlacks] at hhas
      exact absurd hhas (by decide)
  cases hnew : stamp.isNew <;> cases hhas : song.has .status <;>
    simp +contextual [List.nodup_append, hown, hfile, hadded, hnew, hhas]

/-! ### Plain texts -/

/-- A written date is plain. -/
theorem plain_dateText : Text.Plain stamp.dateText := by
  -- The year may have a sign in front; the other numbers have none.
  have hyear : ∀ year, Text.Plain (Date.yearText year) := by
    intro year
    unfold Date.yearText
    split
    · exact Number.plain_padded _ _
    · split
      · exact Text.plain_append (by decide) (Number.plain_padded _ _)
      · exact Text.plain_append (by decide) (Number.plain_padded _ _)
  have hdash : Text.Plain "-" := by decide
  unfold Stamp.dateText Date.text
  exact Text.plain_append (Text.plain_append (Text.plain_append (Text.plain_append (hyear _) hdash)
    (Number.plain_padded _ _)) hdash) (Number.plain_padded _ _)

/-- The texts of a record are plain, but for the name of the default status. -/
theorem plain_or_default_of_mem_pairs {tag : Tag} {text : String}
    (h : (tag, text) ∈ pairs tables stamp song) :
    Text.Plain text ∨ song.has .status = false ∧ text = tables.defaultStatus := by
  rw [mem_pairs_iff] at h
  -- The path, own tags, the date, the status, the time and the number.
  rcases h with ⟨_, rfl⟩ | ⟨_, hown⟩ | ⟨_, _, rfl⟩ | ⟨_, hlacks, rfl⟩ | ⟨_, rfl⟩ | ⟨_, rfl⟩
  · exact .inl (Text.plain_flatten _)
  · obtain ⟨value, _, rfl⟩ := Option.map_eq_some_iff.1 hown
    exact .inl (Text.plain_flatten _)
  · exact .inl (plain_dateText stamp)
  · exact .inr ⟨hlacks, rfl⟩
  · exact .inl (Number.plain_toString_int _)
  · exact .inl (Number.plain_toString _)

/-- The texts of a record are plain if the name of the default status is. -/
theorem plain_of_mem_pairs (hstatus : Text.Plain tables.defaultStatus) {tag : Tag}
    {text : String} (h : (tag, text) ∈ pairs tables stamp song) : Text.Plain text := by
  rcases plain_or_default_of_mem_pairs tables stamp song h with hplain | ⟨_, rfl⟩
  · exact hplain
  · exact hstatus

end Record

end Ballroom
