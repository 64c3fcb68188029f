import Ballroom.Proofs.Record.RoundTrip
import Ballroom.Proofs.Text.Splitting

/-!
# What a slot holds of a record

A slot ends at its first NUL, so that of a record it holds the bytes up to the first NUL
(`stored`).  The pairs that can still be read are the ones up to there (`legible`), and they
name the path of the song as it was flattened: what is stored of a record is read as a song
of that path, or refused if nothing is left of it (`decode_stored`).  That is the song's own
path if and only if the path can stand in a record as it is (`decode_stored_iff`).
-/

namespace Ballroom

/-- A song whose path can stand in a record as it is. -/
def Song.Nameable (song : Song) : Prop :=
  ∃ path, song.path? = some path ∧ path ≠ "" ∧ Text.Plain path

namespace Record

/-! ### Pairs that can be read -/

/-- What can be read of pairs in a slot: the pairs up to the one whose value has a NUL, of
which the beginning is left. -/
def legible : List (String × String) → List (String × String)
  | [] => []
  | (name, value) :: rest =>
    if '\x00' ∈ value.toList then [(name, String.ofList (value.toList.takeWhile (· ≠ '\x00')))]
    -- A carriage return at the end of a value goes with the line feed behind it.
    else (name, String.ofList (Text.withoutReturn value.toList)) :: legible rest

/-- The names that can be read are those of pairs. -/
theorem mem_legible {pairs : List (String × String)} {pair : String × String}
    (h : pair ∈ legible pairs) : ∃ value, (pair.1, value) ∈ pairs := by
  induction pairs with
  | nil => cases h
  | cons head rest ih =>
    obtain ⟨name, value⟩ := head
    rw [legible] at h
    -- The value of the pair is cut off, and the pair is the last one; or the pairs go on.
    split at h
    · obtain rfl := List.mem_singleton.1 h
      exact ⟨value, List.mem_cons_self⟩
    · rcases List.mem_cons.1 h with rfl | h
      · exact ⟨value, List.mem_cons_self⟩
      · obtain ⟨value', hmem⟩ := ih h
        exact ⟨value', List.mem_cons_of_mem _ hmem⟩

/-- A plain value can be read as it is. -/
theorem legible_cons_of_plain {name value : String} (h : Text.Plain value)
    (rest : List (String × String)) :
    legible ((name, value) :: rest) = (name, value) :: legible rest := by
  have hnul : '\x00' ∉ value.toList := fun hmem => (h '\x00' hmem).2.2 rfl
  rw [legible, if_neg hnul, Text.withoutReturn_eq_self fun c hc => (h c hc).2.1,
    String.ofList_toList]

/-- A name and its value on the lines of a text, of which the second may be the last. -/
theorem readPairs_name_value {name value : String} (hname : name ≠ "")
    (later : List String) :
    readPairs (name :: (mark ++ value) :: later) =
      (readPairs later).map ((name, value) :: ·) := by
  have hempty : name.isEmpty = false := by simpa using hname
  rw [readPairs, hempty, if_neg (by decide), unmarked?_mark]

/-- A line without NULs in front of a text that is cut off at the first NUL. -/
private theorem lines_cut_of_no_nul {line : List Char} (hnul : '\x00' ∉ line)
    (hfeed : '\n' ∉ line) (rest : List Char) :
    Text.lines ((line ++ '\n' :: rest).takeWhile (· ≠ '\x00')) =
      Text.withoutReturn line :: Text.lines (rest.takeWhile (· ≠ '\x00')) := by
  have hkept : ∀ c ∈ line, decide (c ≠ '\x00') = true := by
    intro c hc
    exact decide_eq_true (ne_of_mem_of_not_mem hc hnul)
  rw [List.takeWhile_append_of_pos hkept, List.takeWhile_cons_of_pos (by decide),
    Text.lines_append_feed hfeed]

/-- A line with a NUL in front of a text that is cut off there is the last one. -/
private theorem lines_cut_of_nul {line : List Char} (hnul : '\x00' ∈ line) (hfeed : '\n' ∉ line)
    (hne : line.takeWhile (· ≠ '\x00') ≠ []) (rest : List Char) :
    Text.lines ((line ++ rest).takeWhile (· ≠ '\x00')) = [line.takeWhile (· ≠ '\x00')] := by
  -- The first NUL is in the line, so that nothing behind the line is left.
  have hcut : (line ++ rest).takeWhile (· ≠ '\x00') = line.takeWhile (· ≠ '\x00') := by
    rw [List.takeWhile_append, if_neg]
    intro hlength
    have hall := List.takeWhile_eq_self_iff.1
      ((List.takeWhile_prefix _).eq_of_length hlength) _ hnul
    exact absurd hall (by decide)
  have hlast : '\n' ∉ line.takeWhile (· ≠ '\x00') :=
    fun hmem => hfeed ((List.takeWhile_sublist _).mem hmem)
  rw [hcut, Text.lines_of_no_feed hne hlast]

/-- Pairs of plain names and values without line feeds, cut off at the first NUL, are read as
the pairs that are legible. -/
theorem readPairs_cut_render {pairs : List (String × String)}
    (h : ∀ pair ∈ pairs, Text.Plain pair.1 ∧ pair.1 ≠ "" ∧ '\n' ∉ pair.2.toList) :
    readPairs (Text.linesOf (String.ofList ((render pairs).toList.takeWhile (· ≠ '\x00')))) =
      .ok (legible pairs) := by
  unfold Text.linesOf
  rw [String.toList_ofList]
  induction pairs with
  | nil => rfl
  | cons pair rest ih =>
    obtain ⟨name, value⟩ := pair
    obtain ⟨hplain, hne, hfeed⟩ := h (name, value) List.mem_cons_self
    have ih := ih fun p hp => h p (List.mem_cons_of_mem _ hp)
    have hnameNul : '\x00' ∉ name.toList := fun hmem => (hplain '\x00' hmem).2.2 rfl
    have hnameFeed : '\n' ∉ name.toList := fun hmem => (hplain '\n' hmem).1 rfl
    have hnameReturn : Text.withoutReturn name.toList = name.toList :=
      Text.withoutReturn_eq_self fun c hc => (hplain c hc).2.1
    have htext : (render ((name, value) :: rest)).toList =
        name.toList ++ '\n' :: ('.' :: '.' :: value.toList ++ '\n' :: (render rest).toList) := by
      simp [render, String.join_cons, renderPair, mark]
    have hmarked : ∀ cs : List Char,
        String.ofList ('.' :: '.' :: cs) = mark ++ String.ofList cs := by
      intro cs
      apply String.toList_inj.1
      simp [mark]
    have hvalueFeed : '\n' ∉ '.' :: '.' :: value.toList := by simpa using hfeed
    -- The line of the name is whole; that of the value may be cut off.
    rw [htext, lines_cut_of_no_nul hnameNul hnameFeed, hnameReturn, legible]
    -- A NUL in the value ends the text there.
    by_cases hnul : '\x00' ∈ value.toList
    · have hcut : ('.' :: '.' :: value.toList).takeWhile (· ≠ '\x00') =
          '.' :: '.' :: value.toList.takeWhile (· ≠ '\x00') := rfl
      rw [if_pos hnul, lines_cut_of_nul (by simp [hnul]) hvalueFeed (by simp), hcut,
        List.map_cons, String.ofList_toList, List.map_singleton, hmarked, readPairs_name_value hne]
      rfl
    · -- A return at the end of the line is one at the end of the value.
      have hreturn : Text.withoutReturn ('.' :: '.' :: value.toList) =
          '.' :: '.' :: Text.withoutReturn value.toList := by
        rw [Text.withoutReturn_cons (by simp)]
        cases value.toList with
        | nil => rfl
        | cons c cs => rw [Text.withoutReturn_cons (by simp)]
      rw [if_neg hnul, lines_cut_of_no_nul (by simp [hnul]) hvalueFeed, hreturn, List.map_cons,
        String.ofList_toList, List.map_cons, hmarked, readPairs_name_value hne, ih]
      rfl

/-! ### What is stored of a record -/

variable (tables : Tables) (stamp : Stamp) (song : Song)

/-- What a slot holds of the record of a song: the bytes up to the first NUL. -/
def stored : Bytes := (Text.bytes (encode tables stamp song)).takeWhile (· ≠ 0)

/-- A record begins with the name of the tag of the path, so that something of it is stored. -/
theorem stored_ne_nil : stored tables stamp song ≠ [] := by
  -- The first character is the F of FILE.
  obtain ⟨later, hbegin⟩ : ∃ later, (encode tables stamp song).toList = 'F' :: later := by
    simp only [encode, pairs, List.cons_append, List.map_cons, render, String.join_cons, renderPair,
      Tag.name, String.toList_append]
    exact ⟨_, rfl⟩
  rw [stored, Text.takeWhile_bytes, hbegin, Text.bytes_eq_flatMap, String.toList_ofList,
    List.takeWhile_cons, if_pos (by decide), List.flatMap_cons]
  exact List.cons_ne_nil _ _

/-- All of a record is stored if it has no NUL. -/
theorem stored_eq_bytes (hstatus : Text.Plain tables.defaultStatus) :
    stored tables stamp song = Text.bytes (encode tables stamp song) := by
  rw [stored, List.takeWhile_eq_self_iff]
  simpa using ne_zero_of_mem_encode tables stamp song hstatus

/-- A song that pairs describe has the path of the first pair if no other names a path. -/
theorem path?_songOfPairs_cons {path : String} {rest : List (String × String)}
    (h : ∀ pair ∈ rest, Tag.ofName? pair.1 ≠ some .file) :
    (songOfPairs tables ((Tag.file.name, path) :: rest)).path? = some path := by
  -- The last pair that names a path is the first one.
  have hrest : rest.reverse.find? (fun pair => Tag.ofName? pair.1 = some .file) = none := by
    rw [List.find?_eq_none]
    intro pair hpair
    simpa using h pair (List.mem_reverse.1 hpair)
  rw [Song.path?, Song.text?, value?_songOfPairs, List.reverse_cons, List.find?_append, hrest]
  simp [Tag.ofName?_name, parseValue, Tag.kind, TagValue.text?]

/-- What is stored of a record is read as a song of the flattened path, unless nothing is
left of the path.  A status that the writer adds has to take one line. -/
theorem decode_stored (hstatus : song.has .status ∨ '\n' ∉ tables.defaultStatus.toList) :
    ∃ read, read.path? = some (flatten (song.path?.getD "")) ∧
      decode tables (stored tables stamp song) = withFile read := by
  -- The path comes first, and no other pair names one.
  obtain ⟨rest, hpairs⟩ : ∃ rest,
      pairs tables stamp song = (.file, flatten (song.path?.getD "")) :: rest := ⟨_, rfl⟩
  have hother : ∀ pair ∈ rest, pair.1 ≠ .file := by
    have hnodup := nodup_pairs tables stamp song
    rw [hpairs, List.map_cons, List.nodup_cons] at hnodup
    intro pair hpair hfile
    exact hnodup.1 (List.mem_map.2 ⟨pair, hpair, hfile⟩)
  have hlines : ∀ pair ∈ (pairs tables stamp song).map fun pair => (pair.1.name, pair.2),
      Text.Plain pair.1 ∧ pair.1 ≠ "" ∧ '\n' ∉ pair.2.toList := by
    intro pair hpair
    obtain ⟨⟨tag, text⟩, hmem, rfl⟩ := List.mem_map.1 hpair
    refine ⟨tag.plain_name, tag.name_ne_empty, ?_⟩
    rcases plain_or_default_of_mem_pairs tables stamp song hmem with hplain | ⟨hlacks, rfl⟩
    · exact fun hfeed => (hplain '\n' hfeed).1 rfl
    · rcases hstatus with hhas | hfeed
      · rw [hlacks] at hhas
        cases hhas
      · exact hfeed
  have hread := readPairs_cut_render hlines
  -- The flattened path has no NUL, so that its pair is legible as it is.
  rw [hpairs, List.map_cons, legible_cons_of_plain (Text.plain_flatten _)] at hread
  have hnames : ∀ pair ∈ legible (rest.map fun pair => (pair.1.name, pair.2)),
      Tag.ofName? pair.1 ≠ some .file := by
    intro pair hpair hfile
    obtain ⟨text, hmem⟩ := mem_legible hpair
    obtain ⟨⟨tag, value⟩, hmem, heq⟩ := List.mem_map.1 hmem
    rw [← (Prod.mk.inj heq).1, Tag.ofName?_name] at hfile
    exact hother _ hmem (Option.some.inj hfile)
  refine ⟨_, path?_songOfPairs_cons tables hnames, ?_⟩
  rw [stored, Text.takeWhile_bytes, decode, Text.Utf8.decode_bytes, encode, hpairs, List.map_cons]
  simp only [decodeText, hread]

/-- What is stored of a record is read as a song of its path if and only if the path can
stand in a record as it is. -/
theorem decode_stored_iff (hstatus : song.has .status ∨ '\n' ∉ tables.defaultStatus.toList) :
    (∃ read, decode tables (stored tables stamp song) = .ok read ∧ read.path? = song.path?) ↔
      song.Nameable := by
  obtain ⟨described, hpath, hdecode⟩ := decode_stored tables stamp song hstatus
  rw [hdecode]
  constructor
  · intro hreads
    obtain ⟨read, hread, hsame⟩ := hreads
    obtain ⟨⟨path, hnamed, hne⟩, _⟩ := path_of_decode (hdecode.trans hread)
    obtain rfl := (withFile_eq_ok_iff.1 hread).1
    -- The path that was read is a flattened one, and so is the song's.
    refine ⟨path, hsame.symm.trans hnamed, hne, ?_⟩
    rw [hnamed] at hpath
    rw [Option.some.inj hpath]
    exact Text.plain_flatten _
  · intro hnameable
    obtain ⟨path, hnamed, hne, hplain⟩ := hnameable
    rw [hnamed, Option.getD_some, Text.flatten_eq_self hplain] at hpath
    exact ⟨described, withFile_eq_ok_iff.2 ⟨rfl, path, hpath, hne⟩, hpath.trans hnamed.symm⟩

end Record

end Ballroom
