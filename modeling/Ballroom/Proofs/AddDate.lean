import Ballroom.Proofs.Calendar.Reading
import Ballroom.Proofs.KeyOrder
import Ballroom.Proofs.Library.Restart

/-!
# Dates of new songs

The date that a new song gets is the day on which it is written, and sort keys read it as that
day, whatever the year (`DatedBy`).  New songs come in the order of these days, the newest first,
and those of one day in the order of their titles (`newest_first`).
-/

namespace Ballroom.SortKey

/-- A song as it is after it was written for the first time. -/
inductive WrittenNew (now : Instant) (song : Song) : Song → Prop
  /-- A library that has no record for the song has written it. -/
  | library {σ ω : Type} [RecordStore σ ω] {lib lib' : Library σ} {w w' : ω} {written : Song}
      {length : Nat} : song.temporary = false → lib.recordOf? song = none →
      Library.writeSong now (song, lib, w) = .ok length (written, lib', w') →
      WrittenNew now song written
  /-- Its first record has been read again. -/
  | record {tables : Tables} {number : Nat} {read : Song} : Text.Plain tables.defaultStatus →
      Record.decode tables (Text.bytes (Record.encode tables ⟨number, true, now⟩ song)) =
        .ok read → WrittenNew now song read

/-- The titles of songs that are texts without line breaks and NULs. -/
def PlainTitle (song : Song) : Prop :=
  ∀ value, song.value? .title = some value → ∃ title, value = .text title ∧ Text.Plain title

/-- The title of a song, empty if it has none. -/
def titleOf (song : Song) : String := (song.text? .title).getD ""

variable {now now' : Instant} {song song' a b : Song}

/-! ### The tags of a new song -/

/-- A song that was written as a new one has the date of the day. -/
theorem WrittenNew.value?_addDate (h : WrittenNew now song a) :
    a.value? .addDate = some (.text now.date.text) := by
  cases h with
  | library hlasting hrecord hwrite =>
    obtain ⟨number, hvalue⟩ := Library.stamped_of_writeSong hlasting hrecord hwrite
    rw [hvalue, Library.value?_stamped]
    rfl
  | record hstatus hread =>
    rw [Record.eq_recorded_of_decode _ _ _ hstatus hread, Record.value?_recorded]
    rfl

/-- A title of one line is kept. -/
theorem WrittenNew.value?_title (h : WrittenNew now song a) (hplain : PlainTitle song) :
    a.value? .title = song.value? .title := by
  cases h with
  | library hlasting hrecord hwrite =>
    obtain ⟨number, hvalue⟩ := Library.stamped_of_writeSong hlasting hrecord hwrite
    rw [hvalue, Library.value?_stamped]
  | record hstatus hread =>
    rw [Record.eq_recorded_of_decode _ _ _ hstatus hread, Record.value?_recorded]
    cases hvalue : song.value? .title with
    | none => simp [Record.written?, Record.written?.own, hvalue]
    | some value =>
      obtain ⟨title, rfl, htitle⟩ := hplain value hvalue
      simp [Record.written?, Record.written?.own, hvalue, Record.formatValue, Record.valueText,
        Record.parseValue, Tag.kind, TagValue.toText, Text.flatten_eq_self htitle]

/-- The title stands in the key as it is. -/
theorem WrittenNew.segment_title (h : WrittenNew now song a) (hplain : PlainTitle song)
    (tables : Tables) : segment tables a .title = titleOf song := by
  have htitle := h.value?_title hplain
  simp only [segment, titleOf, Song.text?]
  rw [htitle]
  cases hvalue : song.value? .title with
  | none => rfl
  | some value =>
    obtain ⟨title, rfl, hplain⟩ := hplain value hvalue
    simp [Record.formatValue, Record.valueText, Tag.kind, TagValue.toText, TagValue.text?,
      Text.flatten_eq_self hplain]

/-! ### The date of a new song -/

/-- The date of a moment is the one that a new song gets and that sort keys read. -/
structure DatedBy (now : Instant) (song : Song) (date : Date) : Prop where
  /-- It is the date of the day, in universal time. -/
  day : Date.IsDay (now.seconds / 86400) date
  /-- The first record of the song has one date, which is read as this one. -/
  record : ∀ tables number, ∃ text, Date.read? text = some date ∧
    ∀ t, (Tag.addDate, t) ∈ Record.pairs tables ⟨number, true, now⟩ song ↔ t = text
  /-- So has the song itself, once it is written. -/
  song : ∀ a, WrittenNew now song a → addDate? a = some date

/-- The day of writing is the date of the song in the library and of its record. -/
theorem datedBy (now : Instant) (song : Song) : DatedBy now song now.date where
  day := Date.isDay_ofDays _
  record tables number := by
    refine ⟨now.date.text, Date.read?_text now.isValid_date, ?_⟩
    intro t
    rw [Record.mem_pairs_iff_written?]
    exact ⟨fun h => (Option.some.inj h).symm, fun h => congrArg some h.symm⟩
  song a h := by
    rw [addDate?, Song.text?, h.value?_addDate]
    exact Date.read?_text now.isValid_date

/-! ### The order of new songs -/

/-- Under a specification of dates songs are compared by their dates and then by their titles. -/
theorem compareBytes_key_addDate (tables : Tables)
    (ha : ∀ date, addDate? a = some date → 0 ≤ date.year ∧ date.year ≤ 9999)
    (hb : ∀ date, addDate? b = some date → 0 ≤ date.year ∧ date.year ≤ 9999) :
    Text.compareBytes (key tables (SortSpec.parse "DBADDDATE") a)
        (key tables (SortSpec.parse "DBADDDATE") b) =
      (compareNewest (addDate? a) (addDate? b)).then
        (Text.compareBytes (segment tables a .title) (segment tables b .title)) := by
  have hspec : SortSpec.parse "DBADDDATE" = [.addDate, .title] := by decide +kernel
  -- Segments of a date have one length, so that the first byte to differ lies in both or in
  -- neither.
  have hlength : (Text.bytes (segment tables a .addDate)).length =
      (Text.bytes (segment tables b .addDate)).length := by
    rw [length_bytes_segment_addDate tables ha, length_bytes_segment_addDate tables hb]
  rw [hspec, compareBytes_key_cons_of_length hlength, compareBytes_segment_addDate tables ha hb,
    compareBytes_key_singleton]

/-- A new song has the date of the day on which it is written.  Of two new songs from the years 0
to 9999 the one of the later day comes first, and those of one day are in the order of their
titles. -/
theorem newest_first (tables : Tables) (now now' : Instant) (song song' : Song) :
    ∃ date date', DatedBy now song date ∧ DatedBy now' song' date' ∧
      (0 ≤ date.year ∧ date.year ≤ 9999 → 0 ≤ date'.year ∧ date'.year ≤ 9999 →
        ∀ a b, WrittenNew now song a → WrittenNew now' song' b →
          (now'.seconds / 86400 < now.seconds / 86400 →
            Text.compareBytes (key tables (SortSpec.parse "DBADDDATE") a)
              (key tables (SortSpec.parse "DBADDDATE") b) = .lt) ∧
          (now.seconds / 86400 = now'.seconds / 86400 → PlainTitle song → PlainTitle song' →
            Text.compareBytes (key tables (SortSpec.parse "DBADDDATE") a)
                (key tables (SortSpec.parse "DBADDDATE") b) =
              Text.compareBytes (titleOf song) (titleOf song'))) := by
  refine ⟨now.date, now'.date, datedBy now song, datedBy now' song', ?_⟩
  intro hyear hyear' a b ha hb
  have hdate := (datedBy now song).song a ha
  have hdate' := (datedBy now' song').song b hb
  have hkeys := compareBytes_key_addDate tables
    (fun date h => Option.some.inj (hdate.symm.trans h) ▸ hyear)
    (fun date h => Option.some.inj (hdate'.symm.trans h) ▸ hyear')
  -- The newest date comes first, so that the days change places.
  have hdays : Date.order now'.date now.date =
      compare (now'.seconds / 86400) (now.seconds / 86400) := Date.order_ofDays _ _
  rw [hdate, hdate', compareNewest, hdays] at hkeys
  constructor
  · intro hlater
    rw [hkeys, compare_lt_iff_lt.2 hlater]
    rfl
  · intro hsame htitle htitle'
    rw [hkeys, hsame, compare_eq_iff_eq.2 rfl, ha.segment_title htitle, hb.segment_title htitle']
    rfl

/-- A song with a title. -/
private def songOf (title : String) : Song :=
  (Song.empty.set .file (.text "a.mp3")).set .title (.text title)

/-- A library without songs writes a song whose record fits a slot. -/
private theorem exists_written_songOf (now : Instant) (title : String)
    (hfits : (Text.bytes (Record.encode .standard ⟨1, true, now⟩ (songOf title))).length ≤ 256) :
    ∃ a, WrittenNew now (songOf title) a := by
  obtain ⟨place, slots, disk, lib, _, _, hhas, _, hclosed, _, htables, hsongs⟩ :=
    Library.exists_loaded_empty .standard
  have hnumber : lib.numberOf? "a.mp3" = none := by
    rw [Library.numberOf?, hsongs, Option.bind_none]
  have hrecord : lib.recordOf? (songOf title) = none := Library.recordOf?_eq_none rfl rfl hnumber
  rw [← htables] at hfits
  obtain ⟨a, lib', disk', hwrite⟩ := Library.exists_writeSong_new hhas
    (StoreHandle.handedOut_of_closed hclosed) rfl hrecord (by decide) ⟨by decide, by decide⟩ hfits
  exact ⟨a, .library rfl hrecord hwrite⟩

/-- The last second of a leap day. -/
private def leapDay : Instant := ⟨1709251199, by decide, by decide⟩

/-- The second after it. -/
private def afterLeapDay : Instant := ⟨1709251200, by decide, by decide⟩

/-- A song that is written a second after a leap day comes before one that is written on it. -/
theorem newest_first_leapDay :
    ∃ a b, WrittenNew afterLeapDay (songOf "Tango") a ∧ WrittenNew leapDay (songOf "Moon") b ∧
      addDate? a = some ⟨2024, 3, 1⟩ ∧ addDate? b = some ⟨2024, 2, 29⟩ ∧
      Text.compareBytes (key .standard (SortSpec.parse "DBADDDATE") a)
        (key .standard (SortSpec.parse "DBADDDATE") b) = .lt := by
  obtain ⟨a, ha⟩ := exists_written_songOf afterLeapDay "Tango" (by decide +kernel)
  have hpath : (songOf "Moon").path? = some "a.mp3" := rfl
  have hb : WrittenNew leapDay (songOf "Moon") _ := .record (by decide)
    (Record.decode_encode .standard ⟨1, true, leapDay⟩ _ hpath (by decide) (by decide))
  obtain ⟨date, date', hdate, hdate', horder⟩ :=
    newest_first .standard afterLeapDay leapDay (songOf "Tango") (songOf "Moon")
  obtain rfl : date = ⟨2024, 3, 1⟩ := (Date.isDay_iff.1 hdate.day).trans (by decide)
  obtain rfl : date' = ⟨2024, 2, 29⟩ := (Date.isDay_iff.1 hdate'.day).trans (by decide)
  exact ⟨a, _, ha, hb, hdate.song a ha, hdate'.song _ hb,
    (horder (by decide) (by decide) a _ ha hb).1 (by decide)⟩

end Ballroom.SortKey
