import Mathlib.Data.List.Nodup
import Ballroom.Proofs.Record.RoundTrip

/-!
# The lines of a record

What other readers of a store file rely on.  A record is a sequence of pairs of lines, the
name of a tag and below it a value behind the mark, each ended by one line feed, and its tags
stand in a fixed `order`, each once.  The record of a song is laid out so unless the writer
adds the name of a default status that is not plain (`layout_encode_iff`): that name is the
only text that is not flattened, and a line break or a NUL in it breaks the layout
(`not_layout_encode`).
-/

namespace Ballroom

/-- Two tags of one name are the same tag. -/
theorem Tag.name_injective : Function.Injective Tag.name := by
  intro a b h
  have hread := congrArg Tag.ofName? h
  rw [Tag.ofName?_name, Tag.ofName?_name] at hread
  exact Option.some.inj hread

/-! ### Line feeds -/

/-- The text of lines has a line feed at the end of each, besides those within them. -/
theorem Text.count_feed_join (lines : List String) :
    (String.join (lines.map (· ++ "\n"))).toList.count '\n' =
      lines.length + (lines.flatMap String.toList).count '\n' := by
  induction lines with
  | nil => rfl
  | cons line rest ih =>
    have hfeed : "\n".toList.count '\n' = 1 := by decide
    simp only [List.map_cons, String.join_cons, String.toList_append, List.count_append, hfeed, ih,
      List.length_cons, List.flatMap_cons]
    omega

/-- If a text is put together from lines without line feeds, then as many lines that give the
same text have no line feeds either. -/
theorem Text.no_feed_of_join_eq {lines others : List String}
    (hfeed : ∀ line ∈ lines, '\n' ∉ line.toList)
    (hjoin : String.join (others.map (· ++ "\n")) = String.join (lines.map (· ++ "\n")))
    (hlength : others.length = lines.length) : ∀ line ∈ others, '\n' ∉ line.toList := by
  have hnone : (lines.flatMap String.toList).count '\n' = 0 := by
    rw [List.count_eq_zero, List.mem_flatMap]
    rintro ⟨line, hline, hmem⟩
    exact hfeed line hline hmem
  -- There are as many feeds in either text, and each line ends in one of them.
  have hcount := congrArg (fun s : String => s.toList.count '\n') hjoin
  rw [Text.count_feed_join, Text.count_feed_join, hlength, hnone] at hcount
  have hzero : (others.flatMap String.toList).count '\n' = 0 := by omega
  intro line hline hmem
  exact List.count_eq_zero.1 hzero (List.mem_flatMap.2 ⟨line, hline, hmem⟩)

namespace Record

/-! ### The layout -/

/-- The tags whose pairs come from the writer, or in front of all others. -/
def replaced (stamp : Stamp) : List Tag :=
  [.file, .lastUpdated, .recordNumber] ++ if stamp.isNew then [.addDate] else []

/-- The tags of the record of a song, in the order of its lines. -/
def order (stamp : Stamp) (song : Song) : List Tag :=
  [.file] ++ Tag.all.filter (fun tag => song.has tag ∧ tag ∉ replaced stamp)
    ++ (if stamp.isNew then [.addDate] else [])
    ++ (if song.has .status then [] else [.status]) ++ [.lastUpdated, .recordNumber]

/-- The name line and the value line of each of some pairs. -/
def pairLines (pairs : List (Tag × String)) : List String :=
  pairs.flatMap fun pair => [pair.1.name, ".." ++ pair.2]

/-- A text that consists of a name line and a value line for each of some tags, in their
order, without carriage returns and NULs, and with no name twice. -/
structure Layout (tags : List Tag) (text : String) : Prop where
  clean : ∀ c ∈ text.toList, c ≠ '\r' ∧ c ≠ '\x00'
  lines : ∃ pairs : List (Tag × String), pairs.map Prod.fst = tags ∧
    (∀ line ∈ pairLines pairs, '\n' ∉ line.toList) ∧
    text = String.join ((pairLines pairs).map (· ++ "\n"))
  once : (tags.map Tag.name).Nodup

/-- Each pair has two lines. -/
theorem length_pairLines (pairs : List (Tag × String)) :
    (pairLines pairs).length = 2 * pairs.length := by
  induction pairs with
  | nil => rfl
  | cons pair rest ih =>
    simp only [pairLines, List.flatMap_cons, List.length_append, List.length_cons,
      List.length_nil] at ih ⊢
    omega

/-- A line is the name of a pair or its marked value. -/
theorem mem_pairLines {pairs : List (Tag × String)} {line : String} :
    line ∈ pairLines pairs ↔
      ∃ pair ∈ pairs, line = pair.1.name ∨ line = ".." ++ pair.2 := by
  simp [pairLines]

/-! ### The record of a song -/

variable {tables : Tables} {stamp : Stamp} {song : Song}

/-- A tag is the song's own if the writer does not replace it. -/
theorem isOwn_eq (stamp : Stamp) (tag : Tag) :
    isOwn stamp tag = decide (tag ∉ replaced stamp) := by
  cases h : stamp.isNew <;> cases tag <;> simp [isOwn, replaced, h]

/-- A record has its pairs in the order of the tags. -/
theorem map_fst_pairs_eq_order (tables : Tables) (stamp : Stamp) (song : Song) :
    (pairs tables stamp song).map Prod.fst = order stamp song := by
  have hown : (Tag.all.filter song.has).filter (isOwn stamp) =
      Tag.all.filter fun tag => song.has tag ∧ tag ∉ replaced stamp := by
    rw [List.filter_filter]
    refine List.filter_congr fun tag _ => ?_
    rw [isOwn_eq, Bool.and_comm]
    simp
  rw [map_fst_pairs, hown]
  rfl

/-- No name comes twice in a record. -/
theorem nodup_order (stamp : Stamp) (song : Song) :
    ((order stamp song).map Tag.name).Nodup := by
  rw [← map_fst_pairs_eq_order .standard stamp song]
  exact List.Nodup.map Tag.name_injective (nodup_pairs .standard stamp song)

/-- The text of a record consists of the lines of its pairs. -/
theorem encode_eq_join (tables : Tables) (stamp : Stamp) (song : Song) :
    encode tables stamp song =
      String.join ((pairLines (pairs tables stamp song)).map (· ++ "\n")) := by
  rw [encode, render, List.map_map]
  induction pairs tables stamp song with
  | nil => rfl
  | cons pair rest ih =>
    apply String.toList_inj.1
    rw [List.map_cons, String.join_cons, String.toList_append, ih]
    simp [pairLines, renderPair, mark]

/-- A record is laid out if the writer adds no status that is not plain. -/
theorem layout_of_status (hstatus : song.has .status ∨ Text.Plain tables.defaultStatus) :
    Layout (order stamp song) (encode tables stamp song) := by
  have hplain : ∀ pair ∈ pairs tables stamp song, Text.Plain pair.2 := by
    intro pair hpair
    -- Only the name of a default status might not be plain, and the song lacks none or it is.
    rcases plain_or_default_of_mem_pairs tables stamp song hpair with hplain | ⟨hlacks, hdefault⟩
    · exact hplain
    · rcases hstatus with hhas | hplain
      · rw [hlacks] at hhas
        cases hhas
      · rwa [hdefault]
  refine ⟨ne_of_mem_render fun pair hpair => ?_, ⟨pairs tables stamp song,
    map_fst_pairs_eq_order tables stamp song, fun line hline => ?_,
    encode_eq_join tables stamp song⟩, nodup_order stamp song⟩
  · obtain ⟨⟨tag, value⟩, hmem, rfl⟩ := List.mem_map.1 hpair
    exact ⟨tag.plain_name, hplain _ hmem⟩
  · have hline : Text.Plain line := by
      obtain ⟨pair, hpair, rfl | rfl⟩ := mem_pairLines.1 hline
      · exact pair.1.plain_name
      · exact Text.plain_append (by decide) (hplain pair hpair)
    exact fun hfeed => (hline '\n' hfeed).1 rfl

/-- Every text in a record that is laid out is plain. -/
theorem Layout.plain_of_mem (h : Layout (order stamp song) (encode tables stamp song))
    {pair : Tag × String} (hpair : pair ∈ pairs tables stamp song) : Text.Plain pair.2 := by
  obtain ⟨laidOut, htags, hfeed, htext⟩ := h.lines
  rw [encode_eq_join] at htext
  have hlength : laidOut.length = (pairs tables stamp song).length := by
    rw [← List.length_map Prod.fst, htags, ← map_fst_pairs_eq_order tables, List.length_map]
  have hline : ".." ++ pair.2 ∈ pairLines (pairs tables stamp song) :=
    mem_pairLines.2 ⟨pair, hpair, .inr rfl⟩
  -- As many lines give the same text, so that none of them has a line feed of its own.
  have hnoFeed := Text.no_feed_of_join_eq hfeed htext
    (by rw [length_pairLines, length_pairLines, hlength]) _ hline
  intro c hc
  refine ⟨?_, h.clean c ?_⟩
  · rintro rfl
    exact hnoFeed (by simp [hc])
  · rw [encode_eq_join, String.toList_join, List.mem_flatMap]
    exact ⟨_, List.mem_map_of_mem hline, by simp [hc]⟩

/-- The record of a song is laid out as other readers expect it, with its tags in order, if
and only if the song has a status or the name of the default status is plain. -/
theorem layout_encode_iff (tables : Tables) (stamp : Stamp) (song : Song) :
    Layout (order stamp song) (encode tables stamp song) ↔
      song.has .status ∨ Text.Plain tables.defaultStatus := by
  refine ⟨fun hlayout => ?_, layout_of_status⟩
  cases hhas : song.has .status with
  | true => exact .inl rfl
  | false =>
    -- The writer adds the name, which is the text of a pair then.
    have hpair : (Tag.status, tables.defaultStatus) ∈ pairs tables stamp song :=
      (mem_pairs_iff tables stamp song).2 (.inr (.inr (.inr (.inl ⟨rfl, hhas, rfl⟩))))
    exact .inr (hlayout.plain_of_mem hpair)

/-- The first record of a song without a status, under tables with a carriage return in the
name of their first status, is not laid out. -/
theorem not_layout_encode :
    ¬ Layout (order ⟨1, true, .epoch⟩ (Song.empty.set .file (.text "a.mp3")))
      (encode { Tables.standard with statuses := [⟨"New\rDraft", true⟩] } ⟨1, true, .epoch⟩
        (Song.empty.set .file (.text "a.mp3"))) := by
  intro hlayout
  exact (hlayout.clean '\r' (by decide +kernel)).1 rfl

end Record

end Ballroom
