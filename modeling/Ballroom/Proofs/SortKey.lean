import Ballroom.SortKey
import Ballroom.Proofs.Calendar.Date
import Ballroom.Proofs.Number.Width
import Ballroom.Proofs.Text.Bytes

/-!
# The order of sort keys

Keys are compared by their bytes, so that songs come in the order of their segments, tag
by tag, as long as a slash comes before whatever a segment goes on with
(`compareBytes_key`).  A blank comes before the slash: a title that goes on with one comes
before the title that ends there (`compareBytes_key_of_lt_slash`).  Only texts go on in
such a way.  Numbers, dates and times never do (`overtakes_of_not_freeText`).
-/

namespace Ballroom.SortKey

/-! ### Bytes that go on -/

/-- The byte of the slash in front of a segment. -/
def slash : UInt8 := 0x2F

/-- Whether bytes go on where others end, with a byte that does not come after the slash. -/
def runsOn : Bytes → Bytes → Bool
  | [], [] => false
  | [], c :: _ => c ≤ slash
  | _ :: _, [] => false
  | a :: s, b :: t => a = b && runsOn s t

/-- Bytes go on behind others if those are their beginning and a byte up to the slash
follows. -/
theorem runsOn_iff {s t : Bytes} : runsOn s t ↔ ∃ c rest, t = s ++ c :: rest ∧ c ≤ slash := by
  induction s generalizing t with
  | nil => cases t <;> simp [runsOn]
  | cons a s ih =>
    cases t with
    | nil => simp [runsOn]
    | cons b t =>
      simp only [runsOn, Bool.and_eq_true, decide_eq_true_eq, ih, List.cons_append, List.cons.injEq]
      constructor
      · rintro ⟨rfl, c, rest, rfl, hc⟩
        exact ⟨c, rest, ⟨rfl, rfl⟩, hc⟩
      · rintro ⟨c, rest, ⟨rfl, rfl⟩, hc⟩
        exact ⟨rfl, c, rest, rfl, hc⟩

/-- Bytes that are no longer than others do not go on behind them. -/
theorem runsOn_of_length_le {s t : Bytes} (h : t.length ≤ s.length) : runsOn s t = false := by
  rw [Bool.eq_false_iff]
  intro hruns
  obtain ⟨c, rest, rfl, _⟩ := runsOn_iff.1 hruns
  simp only [List.length_append, List.length_cons] at h
  omega

/-- A slash behind bytes that do not go on behind each other leaves their order alone. -/
theorem compare_append_slash {s t : Bytes} (hst : runsOn s t = false) (hts : runsOn t s = false)
    (u v : Bytes) :
    compare (s ++ slash :: u) (t ++ slash :: v) = (compare s t).then (compare u v) := by
  induction s generalizing t with
  | nil =>
    cases t with
    | nil => simp
    | cons b t =>
      -- The first has ended, and what the second goes on with comes after the slash.
      have hlt : slash < b := by simpa [runsOn] using hst
      simp [Std.compare_eq_lt.2 hlt]
  | cons a s ih =>
    cases t with
    | nil =>
      have hgt : slash < a := by simpa [runsOn] using hts
      simp [Std.compare_eq_gt.2 hgt]
    | cons b t =>
      rw [List.cons_append, List.cons_append, List.compare_cons_cons, List.compare_cons_cons,
        Ordering.then_assoc]
      by_cases hab : a = b
      · subst hab
        rw [ih (by simpa [runsOn] using hst) (by simpa [runsOn] using hts)]
      · -- The order is decided before either of them ends.
        have hne : compare a b ≠ .eq := fun heq => hab (Std.LawfulEqOrd.eq_of_compare heq)
        cases hcmp : compare a b with
        | eq => exact absurd hcmp hne
        | lt => rfl
        | gt => rfl

/-- Bytes that go on with one that comes before the slash are passed by a slash. -/
theorem compare_append_slash_of_lt {c : UInt8} (hc : c < slash) (s rest u v : Bytes) :
    compare s (s ++ c :: rest) = .lt ∧
      compare (s ++ slash :: u) (s ++ c :: rest ++ slash :: v) = .gt := by
  induction s with
  | nil => simp [Std.compare_eq_gt.2 hc]
  | cons a s ih => simpa using ih

/-! ### Segments of numbers -/

/-- Bytes of which all but the first come after the slash, such as a sign and digits. -/
structure Numeric (s : Bytes) : Prop where
  ne_nil : s ≠ []
  tail : ∀ b ∈ s.tail, slash < b

/-- Only digits go on behind a number. -/
theorem Numeric.runsOn {s t : Bytes} (hs : Numeric s) (ht : Numeric t) : runsOn s t = false := by
  rw [Bool.eq_false_iff]
  intro hruns
  obtain ⟨c, rest, rfl, hc⟩ := runsOn_iff.1 hruns
  obtain ⟨a, s, rfl⟩ := List.exists_cons_of_ne_nil hs.ne_nil
  exact absurd (ht.tail c (by simp)) (UInt8.not_lt.2 hc)

/-- Where digits end is known from a mark behind them. -/
private theorem append_cons_inj {s t u v : Bytes} {mark : UInt8} (hs : ∀ b ∈ s, slash < b)
    (ht : ∀ b ∈ t, slash < b) (hmark : mark ≤ slash) (h : s ++ mark :: u = t ++ mark :: v) :
    s = t ∧ u = v := by
  -- The mark is no digit, so that neither run of digits goes beyond it.
  have hne : ∀ b, slash < b → b ≠ mark := by
    rintro b hb rfl
    exact absurd hb (UInt8.not_lt.2 hmark)
  induction s generalizing t with
  | nil =>
    cases t with
    | nil => simpa using h
    | cons c t => exact absurd (List.cons.inj h).1.symm (hne c (ht c (by simp)))
  | cons c s ih =>
    cases t with
    | nil => exact absurd (List.cons.inj h).1 (hne c (hs c (by simp)))
    | cons d t =>
      obtain ⟨hhead, hrest⟩ := List.cons.inj h
      obtain ⟨rfl, rfl⟩ := ih (fun b hb => hs b (by simp [hb])) (fun b hb => ht b (by simp [hb]))
        hrest
      exact ⟨by rw [hhead], rfl⟩

/-- Where numbers end is known from a mark behind them. -/
theorem Numeric.append_cons_inj {s t u v : Bytes} {mark : UInt8} (hs : Numeric s) (ht : Numeric t)
    (hmark : mark ≤ slash) (h : s ++ mark :: u = t ++ mark :: v) : s = t ∧ u = v := by
  obtain ⟨a, s, rfl⟩ := List.exists_cons_of_ne_nil hs.ne_nil
  obtain ⟨b, t, rfl⟩ := List.exists_cons_of_ne_nil ht.ne_nil
  obtain ⟨hhead, hrest⟩ := List.cons.inj h
  obtain ⟨hsame, rfl⟩ := SortKey.append_cons_inj hs.tail ht.tail hmark hrest
  exact ⟨by rw [hhead, show s = t from hsame], rfl⟩

/-- Whether bytes with a number in front go on behind others is told by what follows the
number. -/
theorem Numeric.runsOn_append_cons {s t u v : Bytes} {mark : UInt8} (hs : Numeric s)
    (ht : Numeric t) (hmark : mark ≤ slash) (h : SortKey.runsOn u v = false) :
    SortKey.runsOn (s ++ mark :: u) (t ++ mark :: v) = false := by
  rw [Bool.eq_false_iff]
  intro hruns
  obtain ⟨c, rest, hgoes, hc⟩ := runsOn_iff.1 hruns
  rw [List.append_assoc, List.cons_append] at hgoes
  obtain ⟨rfl, rfl⟩ := ht.append_cons_inj hs hmark hgoes
  rw [runsOn_iff.2 ⟨c, rest, rfl, hc⟩] at h
  cases h

/-- Padded numbers are ASCII texts. -/
theorem ascii_padded {width : Nat} {n : Int} :
    ∀ c ∈ (Number.padded width n).toList, c.toNat < 128 := by
  intro c hc
  rcases Number.isDigit_or_sign_of_mem_padded hc with hdigit | rfl
  · have hle : c.toNat ≤ 57 := (Char.isDigit_iff_toNat.1 hdigit).2
    omega
  · decide

/-- A number is a sign and digits, or digits alone. -/
theorem numeric_padded (width : Nat) (n : Int) : Numeric (Text.bytes (Number.padded width n)) := by
  have hdigit : ∀ c : Char, c.isDigit → slash < c.val.toUInt8 := by
    intro c hc
    have hlo : 48 ≤ c.val.toNat := (Char.isDigit_iff_toNat.1 hc).1
    have hhi : c.val.toNat ≤ 57 := (Char.isDigit_iff_toNat.1 hc).2
    rw [UInt8.lt_iff_toNat_lt, UInt32.toNat_toUInt8, Nat.mod_eq_of_lt (by omega)]
    exact hlo
  rw [Text.bytes_eq_map_of_ascii ascii_padded]
  unfold Number.padded
  split
  · -- A sign in front, and it is the first byte.
    rw [String.toList_ofList]
    refine ⟨by simp, ?_⟩
    intro b hb
    obtain ⟨c, hc, rfl⟩ := List.mem_map.1 hb
    exact hdigit c (Number.isDigit_of_mem_leftpad hc)
  · rw [String.toList_ofList]
    refine ⟨by simp [List.leftpad], ?_⟩
    intro b hb
    obtain ⟨c, hc, rfl⟩ := List.mem_map.1 (List.mem_of_mem_tail hb)
    exact hdigit c (Number.isDigit_of_mem_leftpad hc)

/-! ### Segments of dates and times -/

/-- Only dates of the calendar are read. -/
theorem valid_of_read? {s : String} {date : Date} (h : Date.read? s = some date) :
    date.isValid := by
  unfold Date.read? at h
  simp only [Option.bind_eq_bind, Option.bind_eq_some_iff] at h
  obtain ⟨_, _, _, _, _, _, _, _, _, _, h⟩ := h
  split at h
  · rename_i hvalid
    obtain rfl := Option.some.inj h
    exact (Bool.and_eq_true_iff.1 hvalid).2
  · cases h

/-- The bytes of a date, inverted: those of its year and five others behind a mark. -/
theorem exists_bytes_dateSegment {date : Date} (hvalid : date.isValid) :
    ∃ rest : Bytes, rest.length = 5 ∧ Text.bytes (dateSegment date) =
      Text.bytes (Number.padded 4 (9999 - date.year)) ++ 0x2D :: rest := by
  have hmonthLength := Date.monthLength_le date.year date.month
  simp only [Date.isValid, Bool.and_eq_true, decide_eq_true_eq] at hvalid
  have hmonth : 99 - (date.month : Int) = ((99 - date.month : Nat) : Int) := by omega
  have hday : 99 - (date.day : Int) = ((99 - date.day : Nat) : Int) := by omega
  have hmark : Text.bytes "-" = [0x2D] := by decide
  refine ⟨Text.bytes (Number.padded 2 (99 - (date.month : Int))) ++
    0x2D :: Text.bytes (Number.padded 2 (99 - (date.day : Int))), ?_, ?_⟩
  · rw [hmonth, hday, List.length_append, List.length_cons,
      Number.length_bytes_padded (by decide) (by omega),
      Number.length_bytes_padded (by decide) (by omega)]
  · simp only [dateSegment, Text.bytes_append, hmark, List.append_assoc, List.cons_append,
      List.nil_append]

/-- The bytes of the segment of a date, whether or not there is one. -/
theorem exists_bytes_segment_addDate (tables : Tables) (song : Song) :
    ∃ year, ∃ rest : Bytes, rest.length = 5 ∧ Text.bytes (segment tables song .addDate) =
      Text.bytes (Number.padded 4 year) ++ 0x2D :: rest := by
  cases hdate : (song.text? .addDate).bind Date.read? with
  | none =>
    refine ⟨9999, Text.bytes "99-99", by decide, ?_⟩
    simp only [segment, hdate]
    decide
  | some date =>
    obtain ⟨text, _, hread⟩ := Option.bind_eq_some_iff.1 hdate
    obtain ⟨rest, hlength, hbytes⟩ := exists_bytes_dateSegment (valid_of_read? hread)
    refine ⟨9999 - date.year, rest, hlength, ?_⟩
    simp only [segment, hdate, hbytes]

/-- A time takes sixteen digits. -/
theorem length_bytes_timeSegment (n : Int64) : (Text.bytes (timeSegment n)).length = 16 :=
  Number.length_bytes_hex64 (Nat.sub_le _ _)

/-! ### Segments -/

/-- Whether the segment of a tag is a text of the song or of the tables, and not a number,
a date or a time. -/
def isFreeText : Tag → Bool
  | .danceLevel | .danceRating | .genre | .addDate | .lastUpdated | .trackNumber | .bpm => false
  | _ => true

/-- Whether the segment of one song goes on where that of another ends, with a byte that
does not come after the slash. -/
def overtakes (tables : Tables) (tag : Tag) (a b : Song) : Bool :=
  runsOn (Text.bytes (segment tables a tag)) (Text.bytes (segment tables b tag))

/-- Numbers, dates and times do not go on behind each other. -/
theorem overtakes_of_not_freeText {tag : Tag} (h : isFreeText tag = false) (tables : Tables)
    (a b : Song) : overtakes tables tag a b = false := by
  have hslash : Text.bytes "/" = [slash] := by decide
  have hmark : (0x2D : UInt8) ≤ slash := by decide
  unfold overtakes
  cases tag with
  | danceLevel => exact (numeric_padded 2 _).runsOn (numeric_padded 2 _)
  | danceRating => exact (numeric_padded 2 _).runsOn (numeric_padded 2 _)
  | genre => exact (numeric_padded 2 _).runsOn (numeric_padded 2 _)
  | bpm => exact (numeric_padded 3 _).runsOn (numeric_padded 3 _)
  -- Times have one width.
  | lastUpdated =>
    apply runsOn_of_length_le
    simp only [segment, length_bytes_timeSegment, Nat.le_refl]
  | trackNumber =>
    simp only [segment, Text.bytes_append, hslash, List.append_assoc, List.cons_append,
      List.nil_append]
    exact (numeric_padded 3 _).runsOn_append_cons (numeric_padded 3 _) (by decide)
      ((numeric_padded 4 _).runsOn (numeric_padded 4 _))
  | addDate =>
    -- The year may have any number of digits, what is behind it has one width.
    obtain ⟨year, rest, hlength, hbytes⟩ := exists_bytes_segment_addDate tables a
    obtain ⟨year', rest', hlength', hbytes'⟩ := exists_bytes_segment_addDate tables b
    rw [hbytes, hbytes']
    apply (numeric_padded 4 _).runsOn_append_cons (numeric_padded 4 _) hmark
    exact runsOn_of_length_le (by omega)
  | _ => exact absurd h (by decide)

/-! ### Keys -/

variable {tables : Tables} {spec : SortSpec} {a b : Song}

/-- The segments of a song, one for each tag. -/
def segments (tables : Tables) (spec : SortSpec) (song : Song) : List String :=
  spec.map (segment tables song)

/-- A key is a slash, a segment and the key of the other tags. -/
theorem bytes_key_cons (tables : Tables) (tag : Tag) (rest : SortSpec) (song : Song) :
    Text.bytes (key tables (tag :: rest) song) =
      slash :: (Text.bytes (segment tables song tag) ++ Text.bytes (key tables rest song)) := by
  have hkey : key tables (tag :: rest) song =
      "/" ++ segment tables song tag ++ key tables rest song := by
    apply String.toList_inj.1
    simp [key, String.toList_join]
  have hslash : Text.bytes "/" = [slash] := by decide
  rw [hkey, Text.bytes_append, Text.bytes_append, hslash]
  rfl

/-- A key is not empty if there is a tag, and starts with a slash. -/
theorem exists_bytes_key {rest : SortSpec} (h : rest ≠ []) (tables : Tables) (song : Song) :
    ∃ u, Text.bytes (key tables rest song) = slash :: u := by
  obtain ⟨tag, rest, rfl⟩ := List.exists_cons_of_ne_nil h
  exact ⟨_, bytes_key_cons tables tag rest song⟩

/-- Keys of one tag are in the order of its segments. -/
theorem compareBytes_key_singleton (tables : Tables) (tag : Tag) (a b : Song) :
    Text.compareBytes (key tables [tag] a) (key tables [tag] b) =
      Text.compareBytes (segment tables a tag) (segment tables b tag) := by
  have hnil : ∀ song, Text.bytes (key tables [] song) = [] := fun _ => rfl
  simp only [Text.compareBytes, bytes_key_cons, hnil, List.append_nil, List.compare_cons_cons,
    Std.ReflOrd.compare_self, Ordering.then]

/-- The first segments order two songs if neither overtakes the other. -/
theorem compareBytes_key_cons {tag : Tag} {rest : SortSpec} (hrest : rest ≠ [])
    (hab : overtakes tables tag a b = false) (hba : overtakes tables tag b a = false) :
    Text.compareBytes (key tables (tag :: rest) a) (key tables (tag :: rest) b) =
      (Text.compareBytes (segment tables a tag) (segment tables b tag)).then
        (Text.compareBytes (key tables rest a) (key tables rest b)) := by
  obtain ⟨u, hu⟩ := exists_bytes_key hrest tables a
  obtain ⟨v, hv⟩ := exists_bytes_key hrest tables b
  have hslash : compare (slash :: u) (slash :: v) = compare u v := by
    rw [List.compare_cons_cons, Std.ReflOrd.compare_self]
    rfl
  simp only [Text.compareBytes, bytes_key_cons, hu, hv, List.compare_cons_cons,
    Std.ReflOrd.compare_self, compare_append_slash hab hba]
  rfl

/-- A song that overtakes another one with a byte before the slash comes first, unless the
tag is the last one. -/
theorem compareBytes_key_cons_of_lt {tag : Tag} {rest : SortSpec} (hrest : rest ≠ []) {c : UInt8}
    {more : Bytes} (hc : c < slash)
    (hgoes : Text.bytes (segment tables b tag) = Text.bytes (segment tables a tag) ++ c :: more) :
    Text.compareBytes (segment tables a tag) (segment tables b tag) = .lt ∧
      Text.compareBytes (key tables (tag :: rest) a) (key tables (tag :: rest) b) = .gt := by
  obtain ⟨u, hu⟩ := exists_bytes_key hrest tables a
  obtain ⟨v, hv⟩ := exists_bytes_key hrest tables b
  obtain ⟨hsegment, hkey⟩ :=
    compare_append_slash_of_lt hc (Text.bytes (segment tables a tag)) more u v
  rw [← hgoes] at hsegment hkey
  refine ⟨hsegment, ?_⟩
  simp only [Text.compareBytes, bytes_key_cons, hu, hv, List.compare_cons_cons,
    Std.ReflOrd.compare_self, hkey]
  rfl

/-- The first tag at which the segments of two songs differ, unless that is the last one. -/
def difference? (tables : Tables) (spec : SortSpec) (a b : Song) : Option Tag :=
  spec.dropLast.find? fun tag => segment tables a tag ≠ segment tables b tag

/-- The first difference is at the first tag, or it is that of the other tags. -/
theorem difference?_cons {tag : Tag} {rest : SortSpec} (hrest : rest ≠ []) :
    difference? tables (tag :: rest) a b =
      if segment tables a tag = segment tables b tag then difference? tables rest a b
      else some tag := by
  obtain ⟨next, rest, rfl⟩ := List.exists_cons_of_ne_nil hrest
  unfold difference?
  rw [List.dropLast_cons_of_ne_nil hrest, List.find?_cons]
  split <;> simp_all

/-- The songs do not overtake each other where their segments are the same. -/
theorem overtakes_of_segment_eq {tag : Tag} (h : segment tables a tag = segment tables b tag) :
    overtakes tables tag a b = false := by
  rw [overtakes, h]
  exact runsOn_of_length_le (Nat.le_refl _)

/-- Keys order songs tag by tag, unless the segment of a text in which they differ first goes
on behind that of the other song with a byte that does not come after the slash. -/
theorem compareBytes_key
    (h : ∀ tag, difference? tables spec a b = some tag → isFreeText tag →
      overtakes tables tag a b = false ∧ overtakes tables tag b a = false) :
    Text.compareBytes (key tables spec a) (key tables spec b) =
      List.compareLex Text.compareBytes (segments tables spec a) (segments tables spec b) := by
  induction spec with
  | nil => rfl
  | cons tag rest ih =>
    by_cases hrest : rest = []
    · -- Nothing comes behind the last segment.
      subst hrest
      rw [compareBytes_key_singleton, segments, segments, List.map_singleton, List.map_singleton,
        List.compareLex_cons_cons]
      cases Text.compareBytes (segment tables a tag) (segment tables b tag) <;> rfl
    · rw [difference?_cons hrest] at h
      -- Where the songs do not differ no segment goes on, and other tags than texts never do.
      have hclear : overtakes tables tag a b = false ∧ overtakes tables tag b a = false := by
        by_cases hsame : segment tables a tag = segment tables b tag
        · exact ⟨overtakes_of_segment_eq hsame, overtakes_of_segment_eq hsame.symm⟩
        · cases hfree : isFreeText tag with
          | true => exact h tag (if_neg hsame) hfree
          | false =>
            exact ⟨overtakes_of_not_freeText hfree tables a b,
              overtakes_of_not_freeText hfree tables b a⟩
      rw [compareBytes_key_cons hrest hclear.1 hclear.2, segments, segments, List.map_cons,
        List.map_cons, List.compareLex_cons_cons]
      cases hcmp : Text.compareBytes (segment tables a tag) (segment tables b tag) with
      | lt => rfl
      | gt => rfl
      | eq =>
        have hsame := Text.compareBytes_eq_iff.1 hcmp
        rw [if_pos hsame] at h
        exact ih h

/-- A song with a title. -/
private def titled (title : String) : Song :=
  (Song.empty.set .file (.text "a.mp3")).set .title (.text title)

/-- Titles that differ order their songs before the artists do: a letter comes after the
slash. -/
theorem compareBytes_key_titled :
    difference? .standard [.title, .artist] (titled "Moon") (titled "Moonlight") = some .title ∧
      Text.compareBytes (key .standard [.title, .artist] (titled "Moon"))
          (key .standard [.title, .artist] (titled "Moonlight")) =
        List.compareLex Text.compareBytes
          (segments .standard [.title, .artist] (titled "Moon"))
          (segments .standard [.title, .artist] (titled "Moonlight")) := by
  have hdifference : difference? .standard [.title, .artist] (titled "Moon")
      (titled "Moonlight") = some .title := by decide +kernel
  refine ⟨hdifference, compareBytes_key ?_⟩
  intro tag htag _
  obtain rfl := Option.some.inj (hdifference.symm.trans htag)
  decide +kernel

/-- A title that goes on with a blank comes before the title that ends there, as soon as
another tag follows. -/
theorem not_compareBytes_key_blank :
    Text.compareBytes (key .standard (.parse "TITLE ARTIST") (titled "Moon"))
        (key .standard (.parse "TITLE ARTIST") (titled "Moon River")) = .gt ∧
      List.compareLex Text.compareBytes
        (segments .standard (.parse "TITLE ARTIST") (titled "Moon"))
        (segments .standard (.parse "TITLE ARTIST") (titled "Moon River")) = .lt := by
  decide +kernel

/-- Where the songs differ first, and not at the last tag, the one whose segment goes on with
a byte before the slash comes first, although its segment comes second. -/
theorem compareBytes_key_of_lt_slash {tag : Tag} {c : UInt8} {more : Bytes}
    (hdifference : difference? tables spec a b = some tag) (hc : c < slash)
    (hgoes : Text.bytes (segment tables b tag) = Text.bytes (segment tables a tag) ++ c :: more) :
    List.compareLex Text.compareBytes (segments tables spec a) (segments tables spec b) = .lt ∧
      Text.compareBytes (key tables spec a) (key tables spec b) = .gt := by
  induction spec with
  | nil => cases hdifference
  | cons first rest ih =>
    by_cases hrest : rest = []
    · subst hrest
      cases hdifference
    · rw [difference?_cons hrest] at hdifference
      rw [segments, segments, List.map_cons, List.map_cons, List.compareLex_cons_cons]
      by_cases hsame : segment tables a first = segment tables b first
      · rw [if_pos hsame] at hdifference
        obtain ⟨hsegments, hkeys⟩ := ih hdifference
        rw [compareBytes_key_cons hrest (overtakes_of_segment_eq hsame)
          (overtakes_of_segment_eq hsame.symm), hsame, Text.compareBytes_self]
        exact ⟨hsegments, hkeys⟩
      · rw [if_neg hsame] at hdifference
        obtain rfl := Option.some.inj hdifference
        -- This is the tag at which the songs differ first.
        obtain ⟨hsegment, hkey⟩ := compareBytes_key_cons_of_lt hrest hc hgoes
        rw [hsegment]
        exact ⟨rfl, hkey⟩

end Ballroom.SortKey
