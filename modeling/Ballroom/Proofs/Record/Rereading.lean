import Ballroom.Proofs.Record.Storable
import Ballroom.Proofs.Text.Splitting

/-!
# Writing what was read

A value that was read from one line is storable (`storable_parseValue`): reading brings
every value into a form that writing keeps, whatever names a table has.  So a record that was
read can be written and read again, any number of times, and stays as it is but for the
tags that the writer sets (`reread_of_decode`).
-/

namespace Ballroom

/-! ### Names of tables -/

/-- The number of a place leads back to the place. -/
theorem place?_of_placeNumber? {i : Nat} {n : Int64} (h : placeNumber? i = some n) :
    place? n = some i := by
  unfold placeNumber? at h
  split at h
  · rename_i hle
    obtain rfl := Option.some.inj h
    have hmax : Int64.maxValue.toInt = 9223372036854775807 := by decide
    have hint : (Int64.ofInt i).toInt = i := Int64.toInt_ofInt_of_le (by omega) (by omega)
    rw [place?, hint, if_pos (by omega), Int.toNat_natCast]
  · cases h

namespace Text

/-- A letter is a letter in lower case as well; every other character stays. -/
private theorem toLower_eq_or (c : Char) : c.toLower = c ∨ 65 ≤ c.toNat ∧ 65 ≤ c.toLower.toNat := by
  unfold Char.toLower
  split
  · rename_i h
    have hlow : 65 ≤ c.val.toNat := UInt32.le_iff_toNat_le.1 h.1
    have hhigh : c.val.toNat ≤ 90 := UInt32.le_iff_toNat_le.1 h.2
    have hshift : ('a'.val - 'A'.val).toNat = 32 := by decide
    refine .inr ⟨hlow, ?_⟩
    show 65 ≤ (c.val + ('a'.val - 'A'.val)).toNat
    rw [UInt32.toNat_add, hshift]
    omega
  · exact .inl rfl

/-- Texts that differ in the case of letters only have the same control characters. -/
theorem mem_of_sameName {a b : String} (h : sameName a b) {c : Char} (hc : c ∈ a.toList)
    (hcontrol : c.toNat < 65) : c ∈ b.toList := by
  have hlower : a.toList.map Char.toLower = b.toList.map Char.toLower := by
    simpa [sameName] using h
  have hsame : c.toLower = c := (toLower_eq_or c).resolve_right (by omega)
  have hmem : c.toLower ∈ b.toList.map Char.toLower := hlower ▸ List.mem_map_of_mem hc
  obtain ⟨d, hd, heq⟩ := List.mem_map.1 hmem
  rw [hsame] at heq
  rcases toLower_eq_or d with hsame' | ⟨_, hletter⟩
  · rwa [← heq, hsame']
  · rw [heq] at hletter
    omega

/-- A name that agrees with a plain one up to the case of letters is plain. -/
theorem Plain.of_sameName {a b : String} (hb : Plain b) (h : sameName a b) : Plain a := by
  -- Line breaks and NULs are no letters, so that the other name would have them too.
  have hne : ∀ c ∈ a.toList, ∀ d : Char, d.toNat < 65 → d ∉ b.toList → c ≠ d := by
    rintro c hc d hd hnot rfl
    exact hnot (mem_of_sameName h hc hd)
  intro c hc
  exact ⟨hne c hc '\n' (by decide) fun hmem => (hb _ hmem).1 rfl,
    hne c hc '\r' (by decide) fun hmem => (hb _ hmem).2.1 rfl,
    hne c hc '\x00' (by decide) fun hmem => (hb _ hmem).2.2 rfl⟩

end Text

/-- A name leads to the first entry that has it, and the name of that entry leads there
again, even if other entries have it too. -/
theorem Tables.exists_name_of_index? {tables : Tables} {kind : TableKind} {name : String}
    {n : Int64} (h : tables.index? kind name = some n) :
    ∃ entry, tables.name? kind n = some entry ∧ Text.sameName entry name ∧
      tables.index? kind entry = some n := by
  obtain ⟨i, hfind, hn⟩ := Option.bind_eq_some_iff.1 h
  obtain ⟨hlt, hsame, hfirst⟩ := List.findIdx?_eq_some_iff_getElem.1 hfind
  have hfound : (tables.names kind).findIdx?
      (fun other => Text.sameName other (tables.names kind)[i]) = some i := by
    refine List.findIdx?_eq_some_iff_getElem.2 ⟨hlt, Text.sameName_self _, ?_⟩
    intro j hj hother
    exact hfirst j hj (Text.sameName_trans hother hsame)
  refine ⟨(tables.names kind)[i], ?_, hsame, ?_⟩
  · rw [name?, place?_of_placeNumber? hn, Option.bind_some, List.getElem?_eq_getElem hlt]
  · rw [index?, hfound, Option.bind_some, hn]

namespace Record

variable {tables : Tables} {tag : Tag} {raw : String} {song : Song} {stamp : Stamp}

/-! ### Values that were read -/

/-- A plain text is written as it is. -/
theorem formatValue_text (h : Text.Plain raw) : formatValue tables tag (.text raw) = raw := by
  have htext : valueText tables tag (.text raw) = raw := by
    unfold valueText
    split
    · rename_i heq
      cases heq
    · rfl
  rw [formatValue, htext, Text.flatten_eq_self h]

/-- A number is written as it is, unless it stands for an entry of a table. -/
theorem formatValue_number (h : ∀ table, tag.kind ≠ .entry table) (n : Int64) :
    formatValue tables tag (.number n) = toString n.toInt := by
  have htext : valueText tables tag (.number n) = toString n.toInt := by
    unfold valueText
    split
    · rename_i hkind _
      exact absurd hkind (h _)
    · rfl
  rw [formatValue, htext, Text.flatten_eq_self (Number.plain_toString_int _)]

/-- A 64-bit number is read back from its text. -/
theorem parseNumber?_toString_toInt (n : Int64) : parseNumber? (toString n.toInt) = some n := by
  rw [parseNumber?_toString ⟨Int64.minValue_le_toInt n, Int64.toInt_le n⟩, Int64.ofInt_toInt]

/-- A value that was read from a plain text is read again from the text that is written for
it. -/
theorem storable_parseValue (h : Text.Plain raw) :
    Storable tables tag (parseValue tables tag raw) := by
  -- What spells no number and no name stays the text that it is.
  have hstays : parseValue tables tag raw = .text raw →
      Storable tables tag (parseValue tables tag raw) := by
    intro heq
    rw [heq, Storable, formatValue_text h, heq]
  cases hkind : tag.kind with
  | text => exact hstays (by simp only [parseValue, hkind])
  | words =>
    -- Words are written with one blank between them, and are the same words again.
    have hvalue : ∀ text, parseValue tables tag text = .words (Text.wordsOf text) := by
      intro text
      simp only [parseValue, hkind]
    have hformat : formatValue tables tag (.words (Text.wordsOf raw)) =
        " ".intercalate (Text.wordsOf raw) := by
      simp only [formatValue, valueText, hkind, TagValue.toText]
      exact Text.flatten_eq_self (Text.plain_intercalate_wordsOf h)
    rw [hvalue, Storable, hformat, hvalue, Text.wordsOf_intercalate]
  | number =>
    cases hnumber : parseNumber? raw with
    | none => exact hstays (by simp only [parseValue, hkind, hnumber]; rfl)
    | some n =>
      -- A number is written in decimal digits, however it was spelled.
      have hvalue : ∀ text, parseNumber? text = some n →
          parseValue tables tag text = .number n := by
        intro text htext
        simp only [parseValue, hkind, htext, Option.map_some, Option.getD_some]
      rw [hvalue raw hnumber, Storable, formatValue_number (by simp [hkind]),
        hvalue _ (parseNumber?_toString_toInt n)]
  | entry table =>
    cases hindex : tables.index? table raw with
    | none => exact hstays (by simp only [parseValue, hkind, hindex]; rfl)
    | some n =>
      have hvalue : ∀ text, tables.index? table text = some n →
          parseValue tables tag text = .number n := by
        intro text htext
        simp only [parseValue, hkind, htext, Option.map_some, Option.getD_some]
      obtain ⟨entry, hentry, hsame, hagain⟩ := Tables.exists_name_of_index? hindex
      -- The entry is written under its own name, which may differ from what was read.
      have hformat : formatValue tables tag (.number n) = entry := by
        simp only [formatValue, valueText, hkind, hentry, Option.getD_some]
        exact Text.flatten_eq_self (h.of_sameName hsame)
      rw [hvalue raw hindex, Storable, hformat, hvalue entry hagain]

/-! ### Songs that were read -/

/-- A text without carriage returns and NULs, whose lines are plain. -/
def Unbroken (text : String) : Prop := ∀ c ∈ text.toList, c ≠ '\r' ∧ c ≠ '\x00'

/-- Reading the bytes of a text is reading the text. -/
theorem decode_bytes (tables : Tables) (text : String) :
    decode tables (Text.bytes text) = decodeText tables text := by
  simp only [decode, Text.Utf8.decode_bytes]

/-- Bytes without carriage returns and NULs are those of such a text. -/
theorem exists_text_of_decode {data : Bytes} (hdata : ∀ b ∈ data, b ≠ 0x0D ∧ b ≠ 0)
    (hdecode : decode tables data = .ok song) :
    ∃ text, Unbroken text ∧ decodeText tables text = .ok song := by
  unfold decode at hdecode
  split at hdecode
  · cases hdecode
  · rename_i text hutf8
    refine ⟨text, ?_, hdecode⟩
    -- A carriage return or a NUL of the text would be a byte of the data.
    have hmem : ∀ c ∈ text.toList, ∀ b ∈ String.utf8EncodeChar c, b ∈ data := by
      intro c hc b hb
      rw [Text.Utf8.decode_eq_ok_iff.1 hutf8, Text.bytes_eq_flatMap]
      exact List.mem_flatMap.2 ⟨c, hc, hb⟩
    intro c hc
    constructor
    · rintro rfl
      exact (hdata 0x0D (hmem _ hc _ (by decide))).1 rfl
    · rintro rfl
      exact (hdata 0 (hmem _ hc _ (by decide))).2 rfl

/-- The value of a line that starts with the mark is part of the line. -/
theorem plain_of_unmarked? {line value : String} (h : Text.Plain line)
    (hvalue : unmarked? line = some value) : Text.Plain value := by
  unfold unmarked? at hvalue
  split at hvalue
  · rename_i rest hline
    obtain rfl := Option.some.inj hvalue
    intro c hc
    rw [String.toList_ofList] at hc
    exact h c (by rw [hline]; exact List.mem_cons_of_mem _ (List.mem_cons_of_mem _ hc))
  · cases hvalue

/-- The values of pairs are parts of lines. -/
theorem plain_of_readPairs {lines : List String} {pairs : List (String × String)}
    (hlines : ∀ line ∈ lines, Text.Plain line) (hread : readPairs lines = .ok pairs) :
    ∀ pair ∈ pairs, Text.Plain pair.2 := by
  fun_induction readPairs lines generalizing pairs with
  | case1 =>
    obtain rfl := Except.ok.inj hread
    simp
  | case2 name hname =>
    obtain rfl := Except.ok.inj hread
    simp
  | case3 name hname => cases hread
  | case4 name line rest hname ih =>
    exact ih (fun l hl => hlines l (List.mem_cons_of_mem _ hl)) hread
  | case5 name line rest hname hmark => cases hread
  -- A name, its marked value and the pairs of the later lines.
  | case6 name line rest hname value hvalue ih =>
    cases hrest : readPairs rest with
    | error fault =>
      rw [hrest] at hread
      cases hread
    | ok later =>
      rw [hrest] at hread
      obtain rfl := Except.ok.inj hread
      have hline := hlines line (by simp)
      have hlater := ih (fun l hl => hlines l (by simp [hl])) hrest
      intro pair hpair
      rcases List.mem_cons.1 hpair with rfl | hpair
      · exact plain_of_unmarked? hline hvalue
      · exact hlater pair hpair

/-- Every value of a song that was read is storable. -/
theorem storableSong_of_decodeText {text : String} (htext : Unbroken text)
    (hdecode : decodeText tables text = .ok song) : StorableSong tables song := by
  unfold decodeText at hdecode
  split at hdecode
  · cases hdecode
  · rename_i pairs hread
    have hsong : songOfPairs tables pairs = song := (withFile_eq_ok_iff.1 hdecode).1
    have hplain := plain_of_readPairs (fun line => Text.plain_of_mem_linesOf htext) hread
    intro tag value _ _ hvalue
    rw [← hsong, value?_songOfPairs] at hvalue
    obtain ⟨pair, hfind, rfl⟩ := Option.map_eq_some_iff.1 hvalue
    exact storable_parseValue (hplain pair (List.mem_reverse.1 (List.mem_of_find?_eq_some hfind)))

/-! ### Writing them again -/

/-- A song that was written and read again: the tags of the stamp apart it is what it was,
with a status if it had none. -/
structure Reread (tables : Tables) (stamp : Stamp) (song again : Song) : Prop where
  lastUpdated : again.value? .lastUpdated = some (.number stamp.now.timestamp)
  recordNumber : again.value? .recordNumber = some (.number (Int64.ofInt stamp.number))
  addDate : again.value? .addDate =
    if stamp.isNew then some (.text stamp.dateText) else song.value? .addDate
  status : again.value? .status =
    some ((song.value? .status).getD (parseValue tables .status tables.defaultStatus))
  others : ∀ tag, tag ≠ .lastUpdated → tag ≠ .recordNumber → tag ≠ .addDate → tag ≠ .status →
    again.value? tag = song.value? tag

/-- A song that is written and read again once for each stamp. -/
def rewrite (tables : Tables) : List Stamp → Song → Except Fault Song
  | [], song => .ok song
  | stamp :: rest, song =>
    (decode tables (Text.bytes (encode tables stamp song))).bind (rewrite tables rest)

/-- A song that was read from a text is written to another such text, and read again from
there. -/
theorem decodeText_encode {text : String} (htext : Unbroken text)
    (hdecode : decodeText tables text = .ok song) (hstatus : Text.Plain tables.defaultStatus)
    (hnumber : stamp.number ≤ maxRecordNumber) :
    ∃ again, Unbroken (encode tables stamp song) ∧
      decodeText tables (encode tables stamp song) = .ok again ∧
      Reread tables stamp song again := by
  -- A song that was read is storable, and so its record is read as the song with the stamp.
  have hstorable := storableSong_of_decodeText htext hdecode
  have hread : decode tables (Text.bytes text) = .ok song := by rw [decode_bytes, hdecode]
  obtain ⟨⟨path, hpath, hne⟩, _⟩ := path_of_decode hread
  have hflat : flatten path ≠ "" := by rwa [hstorable.flatten_path hpath]
  have hagain := decode_encode tables stamp song hpath hflat hstatus
  rw [decode_bytes] at hagain
  have hvalue : ∀ tag, (recorded tables stamp song).value? tag = _ :=
    hstorable.value?_recorded hpath hnumber
  refine ⟨_, ne_of_mem_encode tables stamp song hstatus, hagain, ?_⟩
  constructor
  case lastUpdated => exact hvalue .lastUpdated
  case recordNumber => exact hvalue .recordNumber
  case addDate => exact hvalue .addDate
  case status => exact hvalue .status
  case others =>
    intro tag htime hnumber hdate hstatus
    rw [hvalue]
    split
    · exact absurd rfl hnumber
    · exact absurd rfl htime
    · exact absurd rfl hdate
    · exact absurd rfl hstatus
    · rfl

/-- However often a song that was read is written and read again, the tags that no stamp
sets stay. -/
theorem rewrite_of_decodeText {text : String} (htext : Unbroken text)
    (hdecode : decodeText tables text = .ok song) (hstatus : Text.Plain tables.defaultStatus)
    {stamps : List Stamp} (hnumbers : ∀ stamp ∈ stamps, stamp.number ≤ maxRecordNumber) :
    ∃ last, rewrite tables stamps song = .ok last ∧
      ∀ tag, tag ≠ .lastUpdated → tag ≠ .recordNumber →
        (tag = .addDate → ∀ stamp ∈ stamps, stamp.isNew = false) →
        (tag = .status → song.value? .status ≠ none) → last.value? tag = song.value? tag := by
  induction stamps generalizing song text with
  | nil => exact ⟨song, rfl, fun _ _ _ _ _ => rfl⟩
  | cons stamp rest ih =>
    -- One record is written and read again; the other stamps go on from there.
    obtain ⟨again, htext', hagain, hreread⟩ :=
      decodeText_encode htext hdecode hstatus (hnumbers stamp (by simp))
    obtain ⟨last, hlast, hkept⟩ := ih htext' hagain fun s hs => hnumbers s (by simp [hs])
    refine ⟨last, ?_, ?_⟩
    · rw [rewrite, decode_bytes, hagain]
      exact hlast
    · intro tag htime hnumber hdate hset
      -- The first stamp leaves the tag alone, whichever it is.
      have hsame : again.value? tag = song.value? tag := by
        by_cases hd : tag = .addDate
        · subst hd
          rw [hreread.addDate, hdate rfl stamp (by simp), if_neg (by decide)]
        · by_cases hs : tag = .status
          · subst hs
            obtain ⟨value, hvalue⟩ := Option.ne_none_iff_exists'.1 (hset rfl)
            rw [hreread.status, hvalue, Option.getD_some]
          · exact hreread.others tag htime hnumber hd hs
      rw [hkept tag htime hnumber (fun hd s hs => hdate hd s (by simp [hs])) ?_, hsame]
      rintro rfl
      rw [hsame]
      exact hset rfl

/-- A song that was read from a record without carriage returns and NULs is written to one
that reads the same, apart from the number and the time of the stamp, the date of a new
record and the status of a song without one; and so it stays over any number of times. -/
theorem reread_of_decode {data : Bytes} (hdata : ∀ b ∈ data, b ≠ 0x0D ∧ b ≠ 0)
    (hdecode : decode tables data = .ok song) (hstatus : Text.Plain tables.defaultStatus) :
    (∀ stamp : Stamp, stamp.number ≤ maxRecordNumber →
      ∃ again, decode tables (Text.bytes (encode tables stamp song)) = .ok again ∧
        Reread tables stamp song again) ∧
    ∀ stamps : List Stamp, (∀ stamp ∈ stamps, stamp.number ≤ maxRecordNumber) →
      ∃ last, rewrite tables stamps song = .ok last ∧
        ∀ tag, tag ≠ .lastUpdated → tag ≠ .recordNumber →
          (tag = .addDate → ∀ stamp ∈ stamps, stamp.isNew = false) →
          (tag = .status → song.value? .status ≠ none) → last.value? tag = song.value? tag := by
  obtain ⟨text, htext, hread⟩ := exists_text_of_decode hdata hdecode
  refine ⟨?_, fun stamps hnumbers => rewrite_of_decodeText htext hread hstatus hnumbers⟩
  intro stamp hnumber
  obtain ⟨again, _, hagain, hreread⟩ := decodeText_encode htext hread hstatus hnumber
  exact ⟨again, by rw [decode_bytes, hagain], hreread⟩

/-- Tables in which two dances have the same name. -/
private def doubled : Tables :=
  { Tables.standard with dances := [⟨"WALTZ", .none⟩, ⟨"Waltz", .none⟩] }

/-- A record with a number in front of a slash, a text in the place of a number, and more
blanks between words than they need. -/
private def unusual : String :=
  "\nfile\n..a.mp3\nDANCE\n..waltz\nTRACKNUMBER\n.. 3/12\nBPM\n..fast\nTAGS\n..  slow   slow\n"

/-- The values of an unusual record have their form once they have been read. -/
theorem reread_of_decode_unusual :
    ∃ song again last, decode doubled (Text.bytes unusual) = .ok song ∧
      song.value? .dance = some (.number 0) ∧ song.value? .bpm = some (.text "fast") ∧
      song.value? .tags = some (.words ["slow", "slow"]) ∧
      decode doubled (Text.bytes (encode doubled ⟨7, true, .epoch⟩ song)) = .ok again ∧
      Reread doubled ⟨7, true, .epoch⟩ song again ∧
      rewrite doubled [⟨7, false, .epoch⟩, ⟨8, false, .epoch⟩] song = .ok last ∧
      last.value? .dance = song.value? .dance := by
  have hdecode : decode doubled (Text.bytes unusual) = .ok (songOfPairs doubled
      [("file", "a.mp3"), ("DANCE", "waltz"), ("TRACKNUMBER", " 3/12"), ("BPM", "fast"),
        ("TAGS", "  slow   slow")]) := by
    rw [decode_bytes]
    decide +kernel
  have hdata : ∀ b ∈ Text.bytes unusual, b ≠ 0x0D ∧ b ≠ 0 := by decide +kernel
  obtain ⟨hstep, hrun⟩ := reread_of_decode hdata hdecode (by decide)
  obtain ⟨again, hagain, hreread⟩ := hstep ⟨7, true, .epoch⟩ (by decide)
  obtain ⟨last, hlast, hkept⟩ := hrun [⟨7, false, .epoch⟩, ⟨8, false, .epoch⟩]
    (by simp [maxRecordNumber, Number.maxUInt32])
  exact ⟨_, again, last, hdecode, by decide +kernel, by decide +kernel, by decide +kernel, hagain,
    hreread, hlast, hkept .dance (by decide) (by decide) (by simp) (by simp)⟩

end Record

end Ballroom
