import Mathlib.Data.List.TakeWhile
import Ballroom.Proofs.Record.Pairs
import Ballroom.Proofs.Text.Bytes

/-!
# Reading a written record

`decode_encode` says which song is read from the record of a song: the texts of
`written?`, read as values.  The layout comes first (`readPairs_render`), then the song
that a sequence of pairs describes (`value?_songOfPairs`).
-/

namespace Ballroom

/-- Every tag is found by its name. -/
theorem Tag.ofName?_name (tag : Tag) : Tag.ofName? tag.name = some tag := by
  cases tag <;> decide +kernel

/-- The case of the letters of a name does not matter. -/
theorem Tag.ofName?_congr {name other : String} (h : Text.sameName name other) :
    Tag.ofName? name = Tag.ofName? other := by
  have hlower : name.toList.map Char.toLower = other.toList.map Char.toLower := by
    simpa [Text.sameName] using h
  simp only [Tag.ofName?, Text.sameName, hlower]

/-- A name stands for the tag whose name it is but for the case of the letters. -/
theorem Tag.ofName?_eq_some_iff {name : String} {tag : Tag} :
    Tag.ofName? name = some tag ↔ Text.sameName tag.name name := by
  constructor
  · intro h
    unfold Tag.ofName? at h
    exact List.find?_some (p := fun tag : Tag => Text.sameName tag.name name) h
  · intro h
    rw [← Tag.ofName?_congr h, Tag.ofName?_name]

/-- The names of tags are plain. -/
theorem Tag.plain_name (tag : Tag) : Text.Plain tag.name := by
  cases tag <;> decide

/-- Every tag has a name. -/
theorem Tag.name_ne_empty (tag : Tag) : tag.name ≠ "" := by
  cases tag <;> decide

namespace Record

/-! ### Layout -/

/-- The lines of plain pairs are the names and the marked values. -/
theorem linesOf_render {pairs : List (String × String)}
    (h : ∀ pair ∈ pairs, Text.Plain pair.1 ∧ Text.Plain pair.2) :
    Text.linesOf (render pairs) = pairs.flatMap fun pair => [pair.1, mark ++ pair.2] := by
  unfold Text.linesOf render
  induction pairs with
  | nil => rfl
  | cons pair rest ih =>
    obtain ⟨name, value⟩ := pair
    obtain ⟨hname, hvalue⟩ := h (name, value) (by simp)
    have hmarked : Text.Plain (mark ++ value) := Text.plain_append (by decide) hvalue
    have hline : ∀ {s : String}, Text.Plain s → ∀ c ∈ s.toList, c ≠ '\n' ∧ c ≠ '\r' :=
      fun hs c hc => ⟨(hs c hc).1, (hs c hc).2.1⟩
    -- A pair is a line with its name and a line with its marked value.
    have htext : (String.join (((name, value) :: rest).map renderPair)).toList =
        name.toList ++ '\n' :: ((mark ++ value).toList ++
          '\n' :: (String.join (rest.map renderPair)).toList) := by
      simp [String.join_cons, renderPair]
    rw [htext, Text.lines_append_newline (hline hname), Text.lines_append_newline (hline hmarked),
      List.map_cons, List.map_cons, ih fun p hp => h p (by simp [hp])]
    simp

/-- A marked line has its value. -/
theorem unmarked?_mark (value : String) : unmarked? (mark ++ value) = some value := by
  have h : (mark ++ value).toList = '.' :: '.' :: value.toList := by
    rw [String.toList_append]
    rfl
  simp [unmarked?, h]

/-- Pairs with names are read back from their lines. -/
theorem readPairs_lines {pairs : List (String × String)} (h : ∀ pair ∈ pairs, pair.1 ≠ "") :
    readPairs (pairs.flatMap fun pair => [pair.1, mark ++ pair.2]) = .ok pairs := by
  induction pairs with
  | nil => rfl
  | cons pair rest ih =>
    obtain ⟨name, value⟩ := pair
    have hname : name.isEmpty = false := by simpa using h (name, value) (by simp)
    have hrest := ih fun p hp => h p (by simp [hp])
    simp only [List.flatMap_cons, List.cons_append, List.nil_append]
    rw [readPairs, hname, if_neg (by decide), unmarked?_mark, hrest]
    rfl

/-- Plain pairs with names are read back from their text. -/
theorem readPairs_render {pairs : List (String × String)}
    (hplain : ∀ pair ∈ pairs, Text.Plain pair.1 ∧ Text.Plain pair.2)
    (hname : ∀ pair ∈ pairs, pair.1 ≠ "") :
    readPairs (Text.linesOf (render pairs)) = .ok pairs := by
  rw [linesOf_render hplain, readPairs_lines hname]

/-! ### The song of a sequence of pairs -/

/-- The last pair that names a tag gives its value. -/
theorem value?_songOfPairs (tables : Tables) (pairs : List (String × String)) (tag : Tag) :
    (songOfPairs tables pairs).value? tag =
      (pairs.reverse.find? fun pair => Tag.ofName? pair.1 = some tag).map
        fun pair => parseValue tables tag pair.2 := by
  rw [songOfPairs, ← List.foldr_reverse]
  induction pairs.reverse with
  | nil => rfl
  | cons pair rest ih =>
    rw [List.foldr_cons, setPair, List.find?_cons]
    -- A pair with an unknown name is passed over.
    cases hname : Tag.ofName? pair.1 with
    | none => simpa using ih
    | some t =>
      -- The last pair of a tag hides those before it and no others.
      by_cases ht : t = tag
      · subst ht
        simp
      · simp only [Song.value?_set, if_neg (Ne.symm ht), Option.some.injEq, ht, decide_false]
        exact ih

/-- A song that pairs describe has no index and is not temporary. -/
theorem index?_songOfPairs (tables : Tables) (pairs : List (String × String)) :
    (songOfPairs tables pairs).index? = none ∧ (songOfPairs tables pairs).temporary = false := by
  rw [songOfPairs, ← List.foldr_reverse]
  induction pairs.reverse with
  | nil => exact ⟨rfl, rfl⟩
  | cons pair rest ih =>
    rw [List.foldr_cons, setPair]
    split
    · exact ih
    · exact ih

/-- A song passes if it names its audio file. -/
theorem withFile_eq_ok_iff {song read : Song} :
    withFile song = .ok read ↔ song = read ∧ ∃ path, song.path? = some path ∧ path ≠ "" := by
  unfold withFile
  cases song.path? with
  | none => simp
  | some path => by_cases hpath : path = "" <;> simp [hpath]

/-- A song that was read has a path, no index, and is there to stay. -/
theorem path_of_decode {tables : Tables} {data : Bytes} {song : Song}
    (h : decode tables data = .ok song) :
    (∃ path, song.path? = some path ∧ path ≠ "") ∧ song.index? = none ∧
      song.temporary = false := by
  unfold decode at h
  split at h
  · cases h
  · unfold decodeText at h
    split at h
    · cases h
    · rename_i pairs _
      obtain ⟨rfl, hpath⟩ := withFile_eq_ok_iff.1 h
      exact ⟨hpath, index?_songOfPairs tables pairs⟩

/-! ### The song of a record -/

variable (tables : Tables) (stamp : Stamp) (song : Song)

/-- The song that its record describes: the text of each tag, read as a value. -/
def recorded : Song where
  value? tag := (written? tables stamp song tag).map (parseValue tables tag)

/-- The values of the recorded song are the texts of the record as they read. -/
@[simp] theorem value?_recorded (tag : Tag) :
    (recorded tables stamp song).value? tag =
      (written? tables stamp song tag).map (parseValue tables tag) := rfl

/-- The pairs of a record describe the recorded song. -/
theorem songOfPairs_pairs :
    songOfPairs tables ((pairs tables stamp song).map fun pair => (pair.1.name, pair.2)) =
      recorded tables stamp song := by
  obtain ⟨hindex, htemporary⟩ := index?_songOfPairs tables
    ((pairs tables stamp song).map fun pair => (pair.1.name, pair.2))
  refine Song.ext (fun tag => ?_) hindex htemporary
  rw [value?_songOfPairs, value?_recorded]
  -- Two pairs of one tag would have the same text, so that it is no matter which is last.
  have hmem : ∀ pair ∈ ((pairs tables stamp song).map fun pair => (pair.1.name, pair.2)).reverse,
      Tag.ofName? pair.1 = some tag → written? tables stamp song tag = some pair.2 := by
    intro pair hpair hname
    rw [List.mem_reverse, List.mem_map] at hpair
    obtain ⟨⟨t, text⟩, hpair, rfl⟩ := hpair
    rw [Tag.ofName?_name, Option.some.injEq] at hname
    subst hname
    exact (mem_pairs_iff_written? tables stamp song).1 hpair
  cases hfind : List.find? _ _ with
  | some pair =>
    have hwritten := hmem pair (List.mem_of_find?_eq_some hfind)
      (by simpa using List.find?_some hfind)
    rw [Option.map_some, hwritten, Option.map_some]
  | none =>
    cases hwritten : written? tables stamp song tag with
    | none => rfl
    | some text =>
      -- A text that is written is the text of a pair, which would have been found.
      have hpair := (mem_pairs_iff_written? tables stamp song).2 hwritten
      rw [List.find?_eq_none] at hfind
      refine absurd ?_ (hfind (tag.name, text) ?_)
      · simp [Tag.ofName?_name]
      · rw [List.mem_reverse]
        exact List.mem_map_of_mem (f := fun pair : Tag × String => (pair.1.name, pair.2)) hpair

/-- Nothing can be read from no bytes. -/
theorem decode_nil (tables : Tables) : decode tables [] = .error .missingFile := by
  have hbytes : ([] : Bytes) = Text.bytes "" := by decide +kernel
  rw [hbytes, decode, Text.Utf8.decode_bytes]
  rfl

/-- A record is read as the recorded song, unless that names no audio file. -/
theorem decode_encode_eq (hstatus : Text.Plain tables.defaultStatus) :
    decode tables (Text.bytes (encode tables stamp song)) =
      withFile (recorded tables stamp song) := by
  have hplain : ∀ pair ∈ (pairs tables stamp song).map fun pair => (pair.1.name, pair.2),
      Text.Plain pair.1 ∧ Text.Plain pair.2 := by
    intro pair hpair
    obtain ⟨⟨tag, text⟩, hmem, rfl⟩ := List.mem_map.1 hpair
    exact ⟨tag.plain_name, plain_of_mem_pairs tables stamp song hstatus hmem⟩
  have hname : ∀ pair ∈ (pairs tables stamp song).map fun pair => (pair.1.name, pair.2),
      pair.1 ≠ "" := by
    intro pair hpair
    obtain ⟨⟨tag, text⟩, _, rfl⟩ := List.mem_map.1 hpair
    exact tag.name_ne_empty
  simp only [decode, Text.Utf8.decode_bytes, decodeText]
  rw [encode, readPairs_render hplain hname]
  simp only [songOfPairs_pairs]

/-- A record is read as the recorded song, if the song has a path other than NULs. -/
theorem decode_encode {path : String} (hpath : song.path? = some path)
    (hne : flatten path ≠ "") (hstatus : Text.Plain tables.defaultStatus) :
    decode tables (Text.bytes (encode tables stamp song)) = .ok (recorded tables stamp song) := by
  have hfile : (recorded tables stamp song).path? = some (flatten path) := by
    rw [Song.path?, Song.text?, value?_recorded]
    simp [written?, hpath, parseValue, Tag.kind, TagValue.text?]
  rw [decode_encode_eq tables stamp song hstatus, withFile_eq_ok_iff]
  exact ⟨rfl, flatten path, hfile, hne⟩

/-- The song that is read from a record is the recorded one. -/
theorem eq_recorded_of_decode {read : Song} (hstatus : Text.Plain tables.defaultStatus)
    (h : decode tables (Text.bytes (encode tables stamp song)) = .ok read) :
    read = recorded tables stamp song := by
  rw [decode_encode_eq tables stamp song hstatus] at h
  exact (withFile_eq_ok_iff.1 h).1.symm

/-- Apart from the ends of its lines the text of plain pairs is plain. -/
theorem ne_of_mem_render {pairs : List (String × String)}
    (h : ∀ pair ∈ pairs, Text.Plain pair.1 ∧ Text.Plain pair.2) :
    ∀ c ∈ (render pairs).toList, c ≠ '\r' ∧ c ≠ '\x00' := by
  intro c hc
  simp only [render, String.toList_join, List.mem_flatMap, List.mem_map] at hc
  obtain ⟨text, ⟨pair, hpair, rfl⟩, hc⟩ := hc
  obtain ⟨hname, hvalue⟩ := h pair hpair
  simp only [renderPair, String.toList_append, List.mem_append] at hc
  have hfeed : ∀ c ∈ "\n".toList, c ≠ '\r' ∧ c ≠ '\x00' := by simp
  have hmark : ∀ c ∈ mark.toList, c ≠ '\r' ∧ c ≠ '\x00' := by simp [mark]
  -- A pair is its name, a line feed, the mark, its value and a line feed.
  rcases hc with (((hc | hc) | hc) | hc) | hc
  · exact (hname c hc).2
  · exact hfeed c hc
  · exact hmark c hc
  · exact (hvalue c hc).2
  · exact hfeed c hc

/-- Apart from the ends of its lines a record is plain. -/
theorem ne_of_mem_encode (hstatus : Text.Plain tables.defaultStatus) :
    ∀ c ∈ (encode tables stamp song).toList, c ≠ '\r' ∧ c ≠ '\x00' := by
  refine ne_of_mem_render fun pair hpair => ?_
  obtain ⟨⟨tag, value⟩, hmem, rfl⟩ := List.mem_map.1 hpair
  exact ⟨tag.plain_name, plain_of_mem_pairs tables stamp song hstatus hmem⟩

/-- The bytes of a record hold no NUL, so that none of them is cut off in a slot. -/
theorem ne_zero_of_mem_encode (hstatus : Text.Plain tables.defaultStatus) :
    ∀ b ∈ Text.bytes (encode tables stamp song), b ≠ 0 :=
  Text.ne_zero_of_mem_bytes fun c hc => (ne_of_mem_encode tables stamp song hstatus c hc).2

/-! ### The values that the writer adds -/

/-- A whole number of 64 bits is read back as the value of a numeric tag. -/
theorem parseNumber?_toString {n : Int}
    (h : Int64.minValue.toInt ≤ n ∧ n ≤ Int64.maxValue.toInt) :
    parseNumber? (toString n) = some (Int64.ofInt n) := by
  -- There is nothing to trim, and no slash to cut the number off.
  have hblank : ∀ c ∈ (toString n).toList, Text.isBlank c = false := by
    intro c hc
    cases Number.isDigit_or_sign_of_mem_toString hc with
    | inl h => exact Number.isBlank_of_isDigit h
    | inr h => rw [h]; decide
  have hslash : (toString n).toList.takeWhile (· ≠ '/') = (toString n).toList := by
    rw [List.takeWhile_eq_self_iff]
    intro c hc
    cases Number.isDigit_or_sign_of_mem_toString hc with
    | inl h => simpa using Number.ne_of_isDigit h (by decide)
    | inr h => rw [h]; decide
  simp only [parseNumber?, Text.trim_eq_self hblank, hslash]
  rw [Number.readInt64?_toString h]
  rfl

/-- The time of writing is read back from its text. -/
theorem parseValue_timeText :
    parseValue tables .lastUpdated stamp.timeText = .number stamp.now.timestamp := by
  -- The seconds of the calendar are well within 64 bits.
  have hrange : Int64.minValue.toInt ≤ stamp.now.seconds ∧
      stamp.now.seconds ≤ Int64.maxValue.toInt := by
    have hlo := stamp.now.first_le
    have hhi := stamp.now.le_last
    have hmin : Int64.minValue.toInt = -9223372036854775808 := by decide
    have hmax : Int64.maxValue.toInt = 9223372036854775807 := by decide
    unfold firstSecond at hlo
    unfold lastSecond at hhi
    omega
  simp only [parseValue, Tag.kind, Stamp.timeText, parseNumber?_toString hrange]
  rfl

/-- The number of a record is read back from its text. -/
theorem parseValue_recordNumber {n : Nat} (h : n ≤ maxRecordNumber) :
    parseValue tables .recordNumber (toString n) = .number (Int64.ofInt n) := by
  have hrange : Int64.minValue.toInt ≤ (n : Int) ∧ (n : Int) ≤ Int64.maxValue.toInt := by
    have hmin : Int64.minValue.toInt = -9223372036854775808 := by decide
    have hmax : Int64.maxValue.toInt = 9223372036854775807 := by decide
    have hbound : maxRecordNumber = 4294967295 := by decide
    omega
  have htext : toString n = toString (n : Int) := rfl
  simp only [parseValue, Tag.kind, htext, parseNumber?_toString hrange]
  rfl

/-! ### The tags of a record that was read back -/

/-- A written record is read as a song of the stamped tags, of the flattened path and of
every other tag as its own text reads: no value reaches another tag. -/
theorem decode_encode_tags {path : String} (hpath : song.path? = some path)
    (hne : ∃ c ∈ path.toList, c ≠ '\x00') (hstatus : Text.Plain tables.defaultStatus)
    (hnumber : stamp.number ≤ maxRecordNumber) :
    ∃ read, decode tables (Text.bytes (encode tables stamp song)) = .ok read ∧
      read.value? .file = some (.text (flatten path)) ∧
      read.value? .lastUpdated = some (.number stamp.now.timestamp) ∧
      read.value? .recordNumber = some (.number (Int64.ofInt stamp.number)) ∧
      (stamp.isNew → read.value? .addDate = some (.text stamp.dateText)) ∧
      (song.value? .status = none →
        read.value? .status = some (parseValue tables .status tables.defaultStatus)) ∧
      ∀ tag, tag ≠ .file → tag ≠ .lastUpdated → tag ≠ .recordNumber →
        ¬(tag = .addDate ∧ stamp.isNew) → ¬(tag = .status ∧ song.value? .status = none) →
        read.value? tag = (song.value? tag).map fun value =>
          parseValue tables tag (formatValue tables tag value) := by
  refine ⟨recorded tables stamp song,
    decode_encode tables stamp song hpath (Text.flatten_ne_empty hne) hstatus,
    ?file, ?time, ?number, ?date, ?status, ?own⟩
  case file => simp [written?, hpath, parseValue, Tag.kind]
  case time => simp [written?, parseValue_timeText]
  case number =>
    rw [value?_recorded, written?, Option.map_some, parseValue_recordNumber tables hnumber]
  case date =>
    intro hnew
    simp [written?, hnew, parseValue, Tag.kind]
  case status =>
    intro hnone
    simp [written?, written?.own, hnone]
  case own =>
    intro tag hfile htime hnumber hdate hnone
    rw [value?_recorded]
    -- A tag that the writer leaves alone has its own text.
    cases tag
    case file => exact absurd rfl hfile
    case lastUpdated => exact absurd rfl htime
    case recordNumber => exact absurd rfl hnumber
    case addDate =>
      have hnew : stamp.isNew = false := by simpa using hdate
      simp [written?, written?.own, hnew, Option.map_map, Function.comp_def]
    case status =>
      obtain ⟨value, hvalue⟩ : ∃ value, song.value? .status = some value := by
        simpa [Option.ne_none_iff_exists'] using hnone
      simp [written?, written?.own, hvalue]
    all_goals simp [written?, written?.own, Option.map_map, Function.comp_def]

/-- A path and a title that hold whole pairs stay within their tags. -/
theorem decode_encode_tags_breaks :
    ∃ read, decode Tables.standard (Text.bytes (encode Tables.standard ⟨12, true, .epoch⟩
        ((Song.empty.set .file (.text "a\nRRN\n..7\x00.mp3")).set .title
          (.text "x\r\nFILE\n..y")))) = .ok read ∧
      read.value? .file = some (.text "a RRN ..7.mp3") ∧
      read.value? .recordNumber = some (.number 12) ∧
      read.value? .title = some (.text "x  FILE ..y") := by
  have hpath : ((Song.empty.set .file (.text "a\nRRN\n..7\x00.mp3")).set .title
      (.text "x\r\nFILE\n..y")).path? = some "a\nRRN\n..7\x00.mp3" := rfl
  obtain ⟨read, hread, hfile, _, hnumber, _, _, hown⟩ :=
    decode_encode_tags Tables.standard ⟨12, true, .epoch⟩ _ hpath ⟨'a', by decide, by decide⟩
      (by decide) (by decide)
  refine ⟨read, hread, hfile.trans (by decide +kernel), hnumber, ?_⟩
  rw [hown .title (by decide) (by decide) (by decide) (by simp) (by simp)]
  decide +kernel

end Record

end Ballroom
