import Ballroom.Proofs.SortKey
import Mathlib.Order.Compare

/-!
# Keys in the order of values

Numbers, times and dates have segments of one width as long as they are within the bounds that
the segments are made for (`InRange`), so that songs come in the order of their values
(`compareBytes_segment`), and those of several tags in the order of the first in which the songs
differ (`compareBytes_key_of_values`).  Times and dates are inverted: the newest comes first.
-/

namespace Ballroom

/-- Two orders that agree on two pairs compare them alike. -/
theorem compare_eq_compare {α β : Type*} [LinearOrder α] [LinearOrder β] {a b : α} {c d : β}
    (hlt : a < b ↔ c < d) (hgt : b < a ↔ d < c) : compare a b = compare c d := by
  rcases lt_trichotomy a b with h | h | h
  · rw [compare_lt_iff_lt.2 h, compare_lt_iff_lt.2 (hlt.1 h)]
  · have hne : ¬c < d ∧ ¬d < c := by
      rw [← hlt, ← hgt, h]
      exact ⟨lt_irrefl b, lt_irrefl b⟩
    rw [compare_eq_iff_eq.2 h, compare_eq_iff_eq.2 (le_antisymm (not_lt.1 hne.2) (not_lt.1 hne.1))]
  · rw [compare_gt_iff_gt.2 h, compare_gt_iff_gt.2 (hgt.1 h)]

namespace SortKey

variable {tables : Tables} {a b song : Song}

/-! ### Values -/

/-- The date of a song, if it has one that can be read. -/
def addDate? (song : Song) : Option Date := (song.text? .addDate).bind Date.read?

/-- The order of dates that may be unknown: the newest first, unknown ones last. -/
def compareNewest : Option Date → Option Date → Ordering
  | some d, some e => Date.order e d
  | some _, none => .lt
  | none, some _ => .gt
  | none, none => .eq

/-- The text of a song for a tag: the name of its dance or what its record has for the tag. -/
def textOf (tables : Tables) (tag : Tag) (song : Song) : String :=
  match tag, song.value? tag with
  | .dance, some (.number d) => (tables.name? .dance d).getD ""
  | .dance, some (.text name) => name
  | .dance, _ => ""
  | tag, some value => Record.formatValue tables tag value
  | _, none => ""

/-- The order of two songs by their values of a tag. -/
def compareValues (tables : Tables) (tag : Tag) (a b : Song) : Ordering :=
  match tag with
  | .danceLevel | .danceRating | .genre => compare (numberOr a tag 0) (numberOr b tag 0)
  | .bpm => compare (numberOr a .bpm 1) (numberOr b .bpm 1)
  | .trackNumber =>
    (compare (numberOr a .discNumber 1) (numberOr b .discNumber 1)).then
      (compare (numberOr a .trackNumber 1) (numberOr b .trackNumber 1))
  -- The newest comes first.
  | .lastUpdated => compare (numberOr b .lastUpdated 0) (numberOr a .lastUpdated 0)
  | .addDate => compareNewest (addDate? a) (addDate? b)
  | tag => Text.compareBytes (textOf tables tag a) (textOf tables tag b)

/-- The order of two songs by their values of several tags, the most important first. -/
def compareSongs (tables : Tables) : List Tag → Song → Song → Ordering
  | [], _, _ => .eq
  | tag :: rest, a, b => (compareValues tables tag a b).then (compareSongs tables rest a b)

/-- The greatest number that the segment of a tag has room for. -/
def bound? : Tag → Option Int
  | .danceLevel | .danceRating | .genre => some 99
  | .discNumber | .bpm => some 999
  | .trackNumber => some 9999
  | .lastUpdated => some Int64.maxValue.toInt
  | _ => none

/-- A song whose numbers and date the segments of a key have room for. -/
structure InRange (song : Song) : Prop where
  number : ∀ tag bound n, bound? tag = some bound → song.number? tag = some n →
    0 ≤ n.toInt ∧ n.toInt ≤ bound
  year : ∀ date, addDate? song = some date → 0 ≤ date.year ∧ date.year ≤ 9999

/-! ### Segments of one width -/

/-- A number in its range, or its default, is a natural number within the bound. -/
theorem exists_numberOr (h : InRange song) (tag : Tag) (default : Int64) {bound : Int}
    (hbound : bound? tag = some bound) (hdefault : 0 ≤ default.toInt ∧ default.toInt ≤ bound) :
    ∃ n : Nat, numberOr song tag default = n ∧ n ≤ bound := by
  have hrange : 0 ≤ numberOr song tag default ∧ numberOr song tag default ≤ bound := by
    unfold numberOr
    cases hnumber : song.number? tag with
    | none => exact hdefault
    | some n => exact h.number tag bound n hbound hnumber
  exact ⟨(numberOr song tag default).toNat, by omega, by omega⟩

/-- A number within the width of its segment is written in that width. -/
theorem exists_padded_numberOr (h : InRange song) (tag : Tag) (width : Nat) (default : Int64)
    (hwidth : 0 < width) (hbound : bound? tag = some (10 ^ width - 1))
    (hdefault : 0 ≤ default.toInt ∧ default.toInt ≤ 10 ^ width - 1) :
    ∃ n : Nat, numberOr song tag default = n ∧ n < 10 ^ width ∧
      (Text.bytes (Number.padded width (numberOr song tag default))).length = width := by
  obtain ⟨n, hn, hle⟩ := exists_numberOr h tag default hbound hdefault
  have hlt : n < 10 ^ width := by
    have hint : (n : Int) < (10 ^ width : Nat) := by
      push_cast
      omega
    exact_mod_cast hint
  exact ⟨n, hn, hlt, by rw [hn, Number.length_bytes_padded hwidth hlt]⟩

/-- Numbers in their range are ordered by their padded texts. -/
theorem compareBytes_padded_numberOr (ha : InRange a) (hb : InRange b) (tag : Tag) (width : Nat)
    (default : Int64) (hwidth : 0 < width) (hbound : bound? tag = some (10 ^ width - 1))
    (hdefault : 0 ≤ default.toInt ∧ default.toInt ≤ 10 ^ width - 1) :
    Text.compareBytes (Number.padded width (numberOr a tag default))
      (Number.padded width (numberOr b tag default)) =
        compare (numberOr a tag default) (numberOr b tag default) := by
  obtain ⟨m, hm, hmlt, _⟩ := exists_padded_numberOr ha tag width default hwidth hbound hdefault
  obtain ⟨n, hn, hnlt, _⟩ := exists_padded_numberOr hb tag width default hwidth hbound hdefault
  rw [hm, hn, Number.compareBytes_padded hwidth hmlt hnlt]
  exact compare_eq_compare (by omega) (by omega)

/-- Times from 1970 on are inverted. -/
theorem compareBytes_timeSegment {m n : Int64} (hm : 0 ≤ m.toInt) (hn : 0 ≤ n.toInt) :
    Text.compareBytes (timeSegment m) (timeSegment n) = compare n.toInt m.toInt := by
  -- From 1970 on a time is the same number with and without a sign.
  have hbits : ∀ {k : Int64}, 0 ≤ k.toInt →
      (k.toUInt64.toNat : Int) = k.toInt ∧ k.toUInt64.toNat ≤ Number.maxUInt64 := by
    intro k hk
    have htoInt : k.toInt = (k.toUInt64.toNat : Int).bmod (2 ^ 64) :=
      BitVec.toInt_eq_toNat_bmod k.toBitVec
    have hlt : k.toUInt64.toNat < 2 ^ 64 := k.toUInt64.toNat_lt
    unfold Number.maxUInt64
    rw [Int.bmod_def] at htoInt
    omega
  obtain ⟨hm, hmle⟩ := hbits hm
  obtain ⟨hn, hnle⟩ := hbits hn
  rw [timeSegment, timeSegment, Number.compareBytes_hex64 (Nat.sub_le _ _) (Nat.sub_le _ _)]
  exact compare_eq_compare (by omega) (by omega)

/-- The text of a date segment: three numbers with marks between them. -/
def dateFields (year month day : Nat) : String :=
  Number.padded 4 year ++ "-" ++ Number.padded 2 month ++ "-" ++ Number.padded 2 day

/-- A date is its three fields with dashes between them. -/
theorem bytes_dateFields (year month day : Nat) :
    Text.bytes (dateFields year month day) = Text.bytes (Number.padded 4 year) ++
      (0x2D :: Text.bytes (Number.padded 2 month) ++ 0x2D :: Text.bytes (Number.padded 2 day)) := by
  have hmark : Text.bytes "-" = [0x2D] := by decide
  simp only [dateFields, Text.bytes_append, hmark, List.append_assoc, List.cons_append,
    List.nil_append]

/-- Fields that fit their widths make ten bytes. -/
theorem length_bytes_dateFields {year month day : Nat} (hyear : year < 10 ^ 4)
    (hmonth : month < 10 ^ 2) (hday : day < 10 ^ 2) :
    (Text.bytes (dateFields year month day)).length = 10 := by
  simp only [bytes_dateFields, List.length_append, List.length_cons,
    Number.length_bytes_padded (by decide : 0 < 4) hyear,
    Number.length_bytes_padded (by decide : 0 < 2) hmonth,
    Number.length_bytes_padded (by decide : 0 < 2) hday]

/-- Dates are ordered by year, month and day. -/
theorem compareBytes_dateFields {y y' m m' d d' : Nat} (hy : y < 10 ^ 4) (hy' : y' < 10 ^ 4)
    (hm : m < 10 ^ 2) (hm' : m' < 10 ^ 2) (hd : d < 10 ^ 2) (hd' : d' < 10 ^ 2) :
    Text.compareBytes (dateFields y m d) (dateFields y' m' d') =
      (compare y y').then ((compare m m').then (compare d d')) := by
  have hyears := Number.compareBytes_padded (by decide) hy hy'
  have hmonths := Number.compareBytes_padded (by decide) hm hm'
  have hdays := Number.compareBytes_padded (by decide) hd hd'
  unfold Text.compareBytes at *
  -- The dashes are equal, and each field before the last ends at the same place in both.
  rw [bytes_dateFields, bytes_dateFields, compare_append_of_length_eq, List.cons_append,
    List.cons_append, List.compare_cons_cons, compare_append_of_length_eq, List.compare_cons_cons,
    hyears, hmonths, hdays, Std.ReflOrd.compare_self]
  · rfl
  · rw [Number.length_bytes_padded (by decide) hm, Number.length_bytes_padded (by decide) hm']
  · rw [Number.length_bytes_padded (by decide) hy, Number.length_bytes_padded (by decide) hy']

/-- The text of the segment of a date. -/
def dateText (date : Date) : String :=
  dateFields (9999 - date.year.toNat) (99 - date.month) (99 - date.day)

/-- A date of the calendar with a year of four digits. -/
structure Fits (date : Date) : Prop where
  year : 0 ≤ date.year ∧ date.year ≤ 9999
  month : 1 ≤ date.month ∧ date.month ≤ 12
  day : 1 ≤ date.day ∧ date.day ≤ 31

/-- A date of the calendar fits its fields if its year has four digits. -/
theorem fits_of_isValid {date : Date} (hvalid : date.isValid)
    (hyear : 0 ≤ date.year ∧ date.year ≤ 9999) : Fits date := by
  have hmonthLength := Date.monthLength_le date.year date.month
  simp only [Date.isValid, Bool.and_eq_true, decide_eq_true_eq] at hvalid
  exact ⟨hyear, by omega, by omega⟩

/-- The segment of a date that fits is its inverted text. -/
theorem dateSegment_eq {date : Date} (h : Fits date) : dateSegment date = dateText date := by
  obtain ⟨hyear, hmonth, hday⟩ := h
  have hyear : 9999 - date.year = ((9999 - date.year.toNat : Nat) : Int) := by omega
  have hmonth : 99 - (date.month : Int) = ((99 - date.month : Nat) : Int) := by omega
  have hday : 99 - (date.day : Int) = ((99 - date.day : Nat) : Int) := by omega
  rw [dateSegment, hyear, hmonth, hday, dateText, dateFields]

/-- A song without a date is put behind every date. -/
theorem unknownDate_eq : unknownDate = dateFields 9999 99 99 := by decide +kernel

/-- The inverted text of a date has ten bytes. -/
theorem length_bytes_dateText {date : Date} (h : Fits date) :
    (Text.bytes (dateText date)).length = 10 := by
  obtain ⟨hyear, hmonth, hday⟩ := h
  exact length_bytes_dateFields (by omega) (by omega) (by omega)

/-- Later dates come first. -/
theorem compareBytes_dateText {d e : Date} (hd : Fits d) (he : Fits e) :
    Text.compareBytes (dateText d) (dateText e) = Date.order e d := by
  obtain ⟨hyear, hmonth, hday⟩ := hd
  obtain ⟨hyear', hmonth', hday'⟩ := he
  -- Each field is the difference to its maximum, which turns the order around.
  have hyears : compare (9999 - d.year.toNat) (9999 - e.year.toNat) = compare e.year d.year :=
    compare_eq_compare (by omega) (by omega)
  have hmonths : compare (99 - d.month) (99 - e.month) = compare e.month d.month :=
    compare_eq_compare (by omega) (by omega)
  have hdays : compare (99 - d.day) (99 - e.day) = compare e.day d.day :=
    compare_eq_compare (by omega) (by omega)
  rw [dateText, dateText, compareBytes_dateFields (by omega) (by omega) (by omega) (by omega)
    (by omega) (by omega), hyears, hmonths, hdays, Date.order]

/-- A date comes before the segment of a song without one. -/
theorem compareBytes_dateText_unknown {date : Date} (h : Fits date) :
    Text.compareBytes (dateText date) unknownDate = .lt := by
  obtain ⟨hyear, hmonth, hday⟩ := h
  have hmonths : compare (99 - date.month) 99 = .lt := Nat.compare_eq_lt.2 (by omega)
  rw [unknownDate_eq, dateText, compareBytes_dateFields (by omega) (by omega) (by omega) (by omega)
    (by omega) (by omega), hmonths]
  -- The year 0 is decided by the month.
  rcases Nat.eq_zero_or_pos date.year.toNat with hzero | hpos
  · rw [hzero]
    rfl
  · rw [Nat.compare_eq_lt.2 (by omega : 9999 - date.year.toNat < 9999)]
    rfl

/-- The segment of a song that has a date, or of one that has none. -/
theorem segment_addDate_cases (tables : Tables)
    (hyear : ∀ date, addDate? song = some date → 0 ≤ date.year ∧ date.year ≤ 9999) :
    addDate? song = none ∧ segment tables song .addDate = unknownDate ∨
      ∃ date, addDate? song = some date ∧ Fits date ∧
        segment tables song .addDate = dateText date := by
  -- The segment looks at the date as `addDate?` does.
  have hsegment : segment tables song .addDate =
      (addDate? song).elim unknownDate dateSegment := by
    unfold segment addDate?
    cases (song.text? .addDate).bind Date.read? <;> rfl
  cases hdate : addDate? song with
  | none =>
    rw [hdate] at hsegment
    exact .inl ⟨rfl, hsegment⟩
  | some date =>
    rw [hdate] at hsegment
    obtain ⟨text, _, hread⟩ := Option.bind_eq_some_iff.1 hdate
    have hfits := fits_of_isValid (valid_of_read? hread) (hyear date hdate)
    exact .inr ⟨date, rfl, hfits, hsegment.trans (dateSegment_eq hfits)⟩

/-- The segment of the date has ten bytes, whether or not there is one. -/
theorem length_bytes_segment_addDate (tables : Tables)
    (hyear : ∀ date, addDate? song = some date → 0 ≤ date.year ∧ date.year ≤ 9999) :
    (Text.bytes (segment tables song .addDate)).length = 10 := by
  rcases segment_addDate_cases tables hyear with ⟨_, hsegment⟩ | ⟨date, _, hfits, hsegment⟩
  · rw [hsegment]
    decide +kernel
  · rw [hsegment, length_bytes_dateText hfits]

/-- The segments of dates are in the order of the dates, the newest first. -/
theorem compareBytes_segment_addDate (tables : Tables)
    (ha : ∀ date, addDate? a = some date → 0 ≤ date.year ∧ date.year ≤ 9999)
    (hb : ∀ date, addDate? b = some date → 0 ≤ date.year ∧ date.year ≤ 9999) :
    Text.compareBytes (segment tables a .addDate) (segment tables b .addDate) =
      compareNewest (addDate? a) (addDate? b) := by
  rcases segment_addDate_cases tables ha with ⟨hna, hsa⟩ | ⟨d, hda, hd, hsa⟩
  · rcases segment_addDate_cases tables hb with ⟨hnb, hsb⟩ | ⟨e, heb, he, hsb⟩
    · rw [hsa, hsb, hna, hnb, Text.compareBytes_self, compareNewest]
    · rw [hsa, hsb, hna, heb, ← Text.compareBytes_swap, compareBytes_dateText_unknown he,
        compareNewest]
      rfl
  · rcases segment_addDate_cases tables hb with ⟨hnb, hsb⟩ | ⟨e, heb, he, hsb⟩
    · rw [hsa, hsb, hda, hnb, compareBytes_dateText_unknown hd, compareNewest]
    · rw [hsa, hsb, hda, heb, compareBytes_dateText hd he, compareNewest]

/-! ### Segments in the order of values -/

/-- Whether the segment of a tag is a number or a time. -/
def isNumeric : Tag → Bool
  | .danceLevel | .danceRating | .genre | .lastUpdated | .trackNumber | .bpm => true
  | _ => false

/-- The width of the segment of a tag whose segments all have one width. -/
def width? : Tag → Option Nat
  | .danceLevel | .danceRating | .genre => some 2
  | .bpm => some 3
  | .trackNumber => some 8
  | .addDate => some 10
  | .lastUpdated => some 16
  | _ => none

/-- The segment of a track is the number of its disc, a slash and its own. -/
theorem bytes_segment_trackNumber (tables : Tables) (song : Song) :
    Text.bytes (segment tables song .trackNumber) =
      Text.bytes (Number.padded 3 (numberOr song .discNumber 1)) ++
        slash :: Text.bytes (Number.padded 4 (numberOr song .trackNumber 1)) := by
  have hmark : Text.bytes "/" = [slash] := by decide
  simp only [segment, Text.bytes_append, hmark, List.append_assoc, List.cons_append,
    List.nil_append]

/-- A segment of a tag with a width has that width. -/
theorem length_bytes_segment (h : InRange song) {tag : Tag} {width : Nat}
    (hwidth : width? tag = some width) :
    (Text.bytes (segment tables song tag)).length = width := by
  -- Each numeric tag has its width and its default.
  have hnumber : ∀ (tag : Tag) (width : Nat) (default : Int64), 0 < width →
      bound? tag = some (10 ^ width - 1) →
      0 ≤ default.toInt ∧ default.toInt ≤ 10 ^ width - 1 →
      (Text.bytes (Number.padded width (numberOr song tag default))).length = width := by
    intro tag width default hwidth hbound hdefault
    obtain ⟨_, _, _, hlength⟩ := exists_padded_numberOr h tag width default hwidth hbound hdefault
    exact hlength
  cases tag <;> cases hwidth
  case danceLevel => exact hnumber .danceLevel 2 0 (by decide) rfl (by decide)
  case danceRating => exact hnumber .danceRating 2 0 (by decide) rfl (by decide)
  case genre => exact hnumber .genre 2 0 (by decide) rfl (by decide)
  case bpm => exact hnumber .bpm 3 1 (by decide) rfl (by decide)
  case lastUpdated => exact length_bytes_timeSegment _
  case addDate => exact length_bytes_segment_addDate tables h.year
  case trackNumber =>
    rw [bytes_segment_trackNumber, List.length_append, List.length_cons,
      hnumber .discNumber 3 1 (by decide) rfl (by decide),
      hnumber .trackNumber 4 1 (by decide) rfl (by decide)]

/-- Tracks are compared on their discs first. -/
theorem compareBytes_segment_trackNumber (ha : InRange a) (hb : InRange b) :
    Text.compareBytes (segment tables a .trackNumber) (segment tables b .trackNumber) =
      compareValues tables .trackNumber a b := by
  have hdiscs := compareBytes_padded_numberOr ha hb .discNumber 3 1 (by decide) rfl (by decide)
  have htracks := compareBytes_padded_numberOr ha hb .trackNumber 4 1 (by decide) rfl (by decide)
  -- Discs of one width: the slash behind them stands at the same place.
  obtain ⟨_, _, _, hdisc⟩ := exists_padded_numberOr ha .discNumber 3 1 (by decide) rfl (by decide)
  obtain ⟨_, _, _, hdisc'⟩ := exists_padded_numberOr hb .discNumber 3 1 (by decide) rfl (by decide)
  unfold Text.compareBytes at *
  rw [bytes_segment_trackNumber, bytes_segment_trackNumber,
    compare_append_of_length_eq (hdisc.trans hdisc'.symm), List.compare_cons_cons, hdiscs, htracks,
    Std.ReflOrd.compare_self]
  rfl

/-- A tag that is neither a number nor a time nor a date has its text for its segment. -/
theorem segment_eq_textOf {tag : Tag} (h : isFreeText tag) (tables : Tables) (song : Song) :
    segment tables song tag = textOf tables tag song := by
  cases tag
  -- Only a dance has a text of its own, the name that the tables give it.
  case dance =>
    unfold segment textOf Song.number? Song.text?
    cases song.value? .dance with
    | none => rfl
    | some value =>
      cases value with
      | number d => cases hname : tables.name? .dance d <;> simp [hname, TagValue.number?,
          TagValue.text?]
      | _ => rfl
  case danceLevel | danceRating | genre | addDate | lastUpdated | trackNumber | bpm => cases h
  all_goals
    simp only [segment, textOf]
    split <;> simp_all

/-- The segments of a tag are in the order of its values. -/
theorem compareBytes_segment (ha : InRange a) (hb : InRange b) (tag : Tag) :
    Text.compareBytes (segment tables a tag) (segment tables b tag) =
      compareValues tables tag a b := by
  cases tag
  case danceLevel =>
    exact compareBytes_padded_numberOr ha hb .danceLevel 2 0 (by decide) rfl (by decide)
  case danceRating =>
    exact compareBytes_padded_numberOr ha hb .danceRating 2 0 (by decide) rfl (by decide)
  case genre => exact compareBytes_padded_numberOr ha hb .genre 2 0 (by decide) rfl (by decide)
  case bpm => exact compareBytes_padded_numberOr ha hb .bpm 3 1 (by decide) rfl (by decide)
  case addDate => exact compareBytes_segment_addDate tables ha.year hb.year
  case lastUpdated =>
    -- A song without a time counts as written at 0.
    have htime : ∀ {song}, InRange song → 0 ≤ ((song.number? .lastUpdated).getD 0).toInt := by
      intro song hsong
      obtain ⟨n, hn, _⟩ := exists_numberOr hsong .lastUpdated 0 rfl (by decide)
      unfold numberOr at hn
      omega
    exact compareBytes_timeSegment (htime ha) (htime hb)
  case trackNumber => exact compareBytes_segment_trackNumber ha hb
  all_goals
    rw [segment_eq_textOf rfl, segment_eq_textOf rfl]
    rfl

/-! ### Keys in the order of values -/

/-- Segments of one length are compared before what follows them. -/
theorem compareBytes_key_cons_of_length {tag : Tag}
    (h : (Text.bytes (segment tables a tag)).length = (Text.bytes (segment tables b tag)).length)
    (rest : SortSpec) :
    Text.compareBytes (key tables (tag :: rest) a) (key tables (tag :: rest) b) =
      (Text.compareBytes (segment tables a tag) (segment tables b tag)).then
        (Text.compareBytes (key tables rest a) (key tables rest b)) := by
  unfold Text.compareBytes
  rw [bytes_key_cons, bytes_key_cons, List.compare_cons_cons, compare_append_of_length_eq h,
    Std.ReflOrd.compare_self]
  rfl

/-- Keys are in the order of the values if only the last segment may have any width. -/
theorem compareBytes_key_append (ha : InRange a) (hb : InRange b) {tags last : List Tag}
    (htags : ∀ tag ∈ tags, (width? tag).isSome) (hlast : last.length ≤ 1) :
    Text.compareBytes (key tables (tags ++ last) a) (key tables (tags ++ last) b) =
      compareSongs tables (tags ++ last) a b := by
  -- On the tags with widths: only the last segment may end before the other one does.
  induction tags with
  | nil =>
    cases last with
    | nil => rfl
    | cons tag rest =>
      -- Nothing follows the last tag, so that no slash is compared with a text.
      obtain rfl : rest = [] := List.eq_nil_of_length_eq_zero (by simpa using hlast)
      rw [List.nil_append, compareBytes_key_singleton, compareBytes_segment ha hb, compareSongs,
        compareSongs, Ordering.then_eq]
  | cons tag tags ih =>
    obtain ⟨width, hwidth⟩ := Option.isSome_iff_exists.1 (htags tag (by simp))
    have hlength : (Text.bytes (segment tables a tag)).length =
        (Text.bytes (segment tables b tag)).length := by
      rw [length_bytes_segment ha hwidth, length_bytes_segment hb hwidth]
    rw [List.cons_append, compareBytes_key_cons_of_length hlength, compareBytes_segment ha hb,
      compareSongs, ih fun tag htag => htags tag (by simp [htag])]

/-- A word that names a tag stands for the tag, and for the title behind a date. -/
def withTitle : Tag → List Tag
  | .addDate => [.addDate, .title]
  | tag => [tag]

/-- Words that name no tag are passed over. -/
theorem parse_eq_flatMap (spec : String) :
    SortSpec.parse spec = ((Text.wordsOf spec).filterMap Tag.ofName?).flatMap withTitle := by
  unfold SortSpec.parse
  induction Text.wordsOf spec with
  | nil => rfl
  | cons word rest ih =>
    rw [List.flatMap_cons, ih, List.filterMap_cons]
    unfold SortSpec.tagsOfWord
    cases Tag.ofName? word with
    | none => rfl
    | some tag => cases tag <;> rfl

/-- A numeric tag has a width, and no title is implied behind it. -/
theorem withTitle_of_isNumeric {tag : Tag} (h : isNumeric tag) :
    (width? tag).isSome ∧ withTitle tag = [tag] := by
  cases tag <;> first | exact ⟨rfl, rfl⟩ | cases h

/-- Numeric tags are sorted by as they stand. -/
theorem flatMap_withTitle {tags : List Tag} (h : ∀ tag ∈ tags, isNumeric tag) :
    tags.flatMap withTitle = tags := by
  induction tags with
  | nil => rfl
  | cons tag rest ih =>
    rw [List.flatMap_cons, (withTitle_of_isNumeric (h tag (by simp))).2,
      ih fun tag htag => h tag (by simp [htag]), List.singleton_append]

/-- The tags of a specification whose words name numeric tags and at most one other tag behind
them: only the last of them may have segments of any width. -/
theorem exists_parse_eq {spec : String} {tags : List Tag} {last? : Option Tag}
    (hspec : (Text.wordsOf spec).filterMap Tag.ofName? = tags ++ last?.toList)
    (htags : ∀ tag ∈ tags, isNumeric tag) :
    ∃ front last, SortSpec.parse spec = front ++ last ∧ (∀ tag ∈ front, (width? tag).isSome) ∧
      last.length ≤ 1 := by
  have hwidth : ∀ tag ∈ tags, (width? tag).isSome := fun tag htag =>
    (withTitle_of_isNumeric (htags tag htag)).1
  rw [parse_eq_flatMap, hspec, List.flatMap_append, flatMap_withTitle htags]
  cases last? with
  | none => exact ⟨tags, [], rfl, hwidth, by simp⟩
  | some last =>
    by_cases hdate : last = .addDate
    · -- The date has a width, and the title that is implied behind it is the last.
      subst hdate
      refine ⟨tags ++ [.addDate], [.title], by simp [withTitle], ?_, by simp⟩
      intro tag htag
      rcases List.mem_append.1 htag with htag | htag
      · exact hwidth tag htag
      · rw [List.mem_singleton.1 htag]
        rfl
    · refine ⟨tags, [last], ?_, hwidth, by simp⟩
      cases last <;> first | rfl | exact absurd rfl hdate

/-- Keys order songs by their values, tag by tag, under a specification that names numeric tags
and at most one other tag behind them, if the values are within the width of the segments. -/
theorem compareBytes_key_of_values (ha : InRange a) (hb : InRange b) {spec : String}
    {tags : List Tag} {last? : Option Tag}
    (hspec : (Text.wordsOf spec).filterMap Tag.ofName? = tags ++ last?.toList)
    (htags : ∀ tag ∈ tags, isNumeric tag) :
    Text.compareBytes (key tables (SortSpec.parse spec) a) (key tables (SortSpec.parse spec) b) =
      compareSongs tables (SortSpec.parse spec) a b := by
  obtain ⟨front, last, hparse, hfront, hlast⟩ := exists_parse_eq hspec htags
  rw [hparse, compareBytes_key_append ha hb hfront hlast]

/-- A song with a genre, a date and a title. -/
private def added (date title : String) : Song :=
  ((Song.empty.set .genre (.number 3)).set .addDate (.text date)).set .title (.text title)

/-- A song with nothing but a date of four digits of years and a title is in range. -/
private theorem inRange_added {date title : String} {d : Date} (hread : Date.read? date = some d)
    (hyear : 0 ≤ d.year ∧ d.year ≤ 9999) : InRange (added date title) where
  number tag bound n hbound hnumber := by
    cases tag <;> cases hbound <;> cases hnumber
    decide
  year e he := by
    obtain rfl : d = e := Option.some.inj (hread.symm.trans he)
    exact hyear

/-- The song of 2024 comes before the one of 2023, although its title does not. -/
theorem compareBytes_key_of_values_dated :
    Text.compareBytes
        (key .standard (SortSpec.parse "GENRE LASTUPDATED DBADDDATE") (added "2024-02-29" "Tango"))
        (key .standard (SortSpec.parse "GENRE LASTUPDATED DBADDDATE") (added "2023-12-31" "Moon")) =
      compareSongs .standard (SortSpec.parse "GENRE LASTUPDATED DBADDDATE")
        (added "2024-02-29" "Tango") (added "2023-12-31" "Moon") ∧
    compareSongs .standard (SortSpec.parse "GENRE LASTUPDATED DBADDDATE")
        (added "2024-02-29" "Tango") (added "2023-12-31" "Moon") = .lt := by
  have hwords : (Text.wordsOf "GENRE LASTUPDATED DBADDDATE").filterMap Tag.ofName? =
      [.genre, .lastUpdated] ++ (some Tag.addDate).toList := by decide +kernel
  have hread : Date.read? "2024-02-29" = some ⟨2024, 2, 29⟩ := by decide +kernel
  have hread' : Date.read? "2023-12-31" = some ⟨2023, 12, 31⟩ := by decide +kernel
  exact ⟨compareBytes_key_of_values (inRange_added hread (by decide))
    (inRange_added hread' (by decide)) hwords (by decide), by decide +kernel⟩

end SortKey

end Ballroom
