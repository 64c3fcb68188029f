import Mathlib.Logic.Relation
import Ballroom.Proofs.Record.Rereading
import Ballroom.Proofs.Record.Stored

/-!
# The grammar of records

The lines of a record are pairs of a name and a marked value, and empty lines where a name is
expected (`Pairs`).  Bytes are read as a song if and only if they are a text of such lines in
which the last pair named FILE has a value.  It follows that some changes to a text make no
difference to a reader: those that `Edit` lists, and carriage returns in front of the line
feeds (`decode_grammar`).
-/

namespace Ballroom

namespace Record

variable {tables : Tables} {lines later : List String} {pairs : List (String × String)}
  {name other value text text' : String} {song : Song} {data : Bytes}

/-! ### Lines -/

/-- Lines that consist of pairs, and of empty lines in front of names and at the end. -/
inductive Pairs : List String → List (String × String) → Prop where
  | nil : Pairs [] []
  | blank {lines : List String} {pairs : List (String × String)} (hrest : Pairs lines pairs) :
      Pairs ("" :: lines) pairs
  | pair {name value : String} {lines : List String} {pairs : List (String × String)}
      (hname : name ≠ "") (hrest : Pairs lines pairs) :
      Pairs (name :: (mark ++ value) :: lines) ((name, value) :: pairs)

/-- A line has a value if it starts with the mark. -/
theorem unmarked?_eq_some_iff {line : String} :
    unmarked? line = some value ↔ line = mark ++ value := by
  constructor
  · intro h
    unfold unmarked? at h
    split at h
    · rename_i rest hline
      obtain rfl := Option.some.inj h
      apply String.toList_inj.1
      rw [hline, String.toList_append, String.toList_ofList]
      rfl
    · cases h
  · rintro rfl
    exact unmarked?_mark value

/-- An empty line in front of a name is passed over. -/
theorem readPairs_blank (later : List String) : readPairs ("" :: later) = readPairs later := by
  cases later with
  | nil => rfl
  | cons line rest =>
    have hempty : "".isEmpty = true := rfl
    rw [readPairs, if_pos hempty]

/-- Lines are read as pairs if and only if they consist of them. -/
theorem readPairs_eq_ok_iff : readPairs lines = .ok pairs ↔ Pairs lines pairs := by
  constructor
  · intro h
    -- The recursion is that of the reader, of which `case3` and `case5` are the faults.
    fun_induction readPairs lines generalizing pairs with
    | case1 =>
      obtain rfl := Except.ok.inj h
      exact .nil
    | case2 name hname =>
      obtain rfl := Except.ok.inj h
      obtain rfl : name = "" := by simpa using hname
      exact .blank .nil
    | case3 name hname => cases h
    | case4 name line rest hname ih =>
      obtain rfl : name = "" := by simpa using hname
      exact .blank (ih h)
    | case5 name line rest hname hmark => cases h
    | case6 name line rest hname value hvalue ih =>
      obtain rfl := unmarked?_eq_some_iff.1 hvalue
      cases hrest : readPairs rest with
      | error fault =>
        rw [hrest] at h
        cases h
      | ok later =>
        rw [hrest] at h
        obtain rfl := Except.ok.inj h
        exact .pair (by simpa using hname) (ih hrest)
  · intro h
    induction h with
    | nil => rfl
    | blank _ ih => rw [readPairs_blank, ih]
    | pair hname _ ih =>
      rw [readPairs_name_value hname, ih]
      rfl

/-! ### The song of a text -/

/-- The value of the last pair with a name, whatever the case of its letters. -/
def lastNamed? (pairs : List (String × String)) (name : String) : Option String :=
  (pairs.reverse.find? fun pair => Text.sameName name pair.1).map Prod.snd

/-- A song that has the tags that pairs name, with the value of the last pair of each, and
nothing else. -/
structure Describes (tables : Tables) (pairs : List (String × String)) (song : Song) : Prop where
  tags : ∀ tag, song.value? tag = (lastNamed? pairs tag.name).map (parseValue tables tag)
  index : song.index? = none
  lasting : song.temporary = false

/-- Pairs describe the song that is put together from them. -/
theorem describes_songOfPairs (tables : Tables) (pairs : List (String × String)) :
    Describes tables pairs (songOfPairs tables pairs) where
  tags tag := by
    have hnames : (fun pair : String × String => decide (Tag.ofName? pair.1 = some tag)) =
        fun pair => Text.sameName tag.name pair.1 := by
      funext pair
      rw [Bool.eq_iff_iff, decide_eq_true_iff, Tag.ofName?_eq_some_iff]
    rw [value?_songOfPairs, lastNamed?, hnames, Option.map_map]
    rfl
  index := (index?_songOfPairs tables pairs).1
  lasting := (index?_songOfPairs tables pairs).2

/-- The path of a song is the value of the last pair named FILE. -/
theorem Describes.path? (h : Describes tables pairs song) :
    song.path? = lastNamed? pairs Tag.file.name := by
  rw [Song.path?, Song.text?, h.tags]
  cases lastNamed? pairs Tag.file.name <;> rfl

/-- Bytes are read as a song if they are the text of pairs of which the last one named FILE has
a value. -/
theorem decode_eq_ok_iff :
    decode tables data = .ok song ↔
      ∃ text pairs, data = Text.bytes text ∧ Pairs (Text.linesOf text) pairs ∧
        song = songOfPairs tables pairs ∧
        ∃ path, lastNamed? pairs Tag.file.name = some path ∧ path ≠ "" := by
  constructor
  · intro h
    unfold decode at h
    split at h
    · cases h
    · -- The bytes are a text, its lines are pairs, and one of them names a path.
      rename_i text hutf8
      unfold decodeText at h
      split at h
      · cases h
      · rename_i pairs hread
        obtain ⟨rfl, hpath⟩ := withFile_eq_ok_iff.1 h
        rw [(describes_songOfPairs tables pairs).path?] at hpath
        exact ⟨text, pairs, Text.Utf8.decode_eq_ok_iff.1 hutf8, readPairs_eq_ok_iff.1 hread, rfl,
          hpath⟩
  · intro h
    obtain ⟨text, pairs, rfl, hlines, rfl, hpath⟩ := h
    rw [decode_bytes, decodeText, readPairs_eq_ok_iff.2 hlines]
    rw [← (describes_songOfPairs tables pairs).path?] at hpath
    exact withFile_eq_ok_iff.2 ⟨rfl, hpath⟩

/-! ### Reading on -/

/-- The song that comes of another one when the pairs of some lines are read. -/
def readOn? (tables : Tables) (song : Song) (lines : List String) : Option Song :=
  (readPairs lines).toOption.map fun pairs => pairs.foldl (setPair tables) song

/-- Reading a text is reading its lines on from an empty song, and asking for a path. -/
theorem toOption_decode (tables : Tables) (text : String) :
    (decode tables (Text.bytes text)).toOption =
      (readOn? tables .empty (Text.linesOf text)).bind fun song => (withFile song).toOption := by
  rw [decode_bytes, decodeText, readOn?]
  cases readPairs (Text.linesOf text) <;> rfl

/-- An empty line where a name is expected is passed over. -/
theorem readOn?_blank (song : Song) (later : List String) :
    readOn? tables song ("" :: later) = readOn? tables song later := by
  rw [readOn?, readPairs_blank, readOn?]

/-- A name and its marked value set a tag, and the reader goes on. -/
theorem readOn?_pair (hname : name ≠ "") (song : Song) (later : List String) :
    readOn? tables song (name :: (mark ++ value) :: later) =
      readOn? tables (setPair tables song (name, value)) later := by
  rw [readOn?, readPairs_name_value hname, readOn?]
  cases readPairs later <;> rfl

/-- Behind lines of pairs a reader goes on with the song that they describe. -/
theorem readOn?_append (h : Pairs lines pairs) (song : Song) (later : List String) :
    readOn? tables song (lines ++ later) =
      readOn? tables (pairs.foldl (setPair tables) song) later := by
  induction h generalizing song with
  | nil => rfl
  | blank _ ih => rw [List.cons_append, readOn?_blank, ih]
  | pair hname _ ih =>
    rw [List.cons_append, List.cons_append, readOn?_pair hname, ih, List.foldl_cons]

/-- The case of the letters of a name does not matter, whether or not a value follows. -/
theorem readOn?_sameName (hname : name ≠ "") (hother : other ≠ "")
    (hsame : Text.sameName name other) (song : Song) (later : List String) :
    readOn? tables song (name :: later) = readOn? tables song (other :: later) := by
  have hset : ∀ value, setPair tables song (name, value) = setPair tables song (other, value) := by
    intro value
    rw [setPair, setPair, Tag.ofName?_congr hsame]
  -- A name without a marked line behind it is a fault, whatever its letters.
  cases later with
  | nil =>
    have hempty : ∀ name : String, name ≠ "" → readOn? tables song [name] = none := by
      intro name hname
      have hempty : name.isEmpty = false := by simpa using hname
      rw [readOn?, readPairs, hempty]
      rfl
    rw [hempty name hname, hempty other hother]
  | cons line rest =>
    cases hvalue : unmarked? line with
    | none =>
      have hnone : ∀ name : String, name ≠ "" →
          readOn? tables song (name :: line :: rest) = none := by
        intro name hname
        have hempty : name.isEmpty = false := by simpa using hname
        rw [readOn?, readPairs, hempty, hvalue]
        rfl
      rw [hnone name hname, hnone other hother]
    | some value =>
      obtain rfl := unmarked?_eq_some_iff.1 hvalue
      rw [readOn?_pair hname, readOn?_pair hother, hset]

/-! ### Texts that read the same -/

/-- A text without line breaks. -/
def OneLine (s : String) : Prop := ∀ c ∈ s.toList, c ≠ '\n' ∧ c ≠ '\r'

instance (s : String) : Decidable (OneLine s) :=
  List.decidableBAll (fun c => c ≠ '\n' ∧ c ≠ '\r') s.toList

/-- Lines with a line feed behind each. -/
def ended (lines : List String) : String := String.join (lines.map (· ++ "\n"))

/-- A text of one line is the first line in front of a line feed. -/
theorem linesOf_append_feed (h : OneLine name) (rest : String) :
    Text.linesOf (name ++ "\n" ++ rest) = name :: Text.linesOf rest := by
  have htext : (name ++ "\n" ++ rest).toList = name.toList ++ '\n' :: rest.toList := by simp
  rw [Text.linesOf, htext, Text.lines_append_newline h, List.map_cons, String.ofList_toList]
  rfl

/-- Ended lines are the first lines of a text that begins with them. -/
theorem linesOf_ended_append (h : ∀ line ∈ lines, OneLine line) (rest : String) :
    Text.linesOf (ended lines ++ rest) = lines ++ Text.linesOf rest := by
  induction lines with
  | nil => rw [ended, List.map_nil, String.join_nil, String.empty_append, List.nil_append]
  | cons line later ih =>
    have htext : ended (line :: later) ++ rest = line ++ "\n" ++ (ended later ++ rest) := by
      rw [ended, List.map_cons, String.join_cons, ← ended, String.append_assoc]
    rw [htext, linesOf_append_feed (h line (by simp)), ih fun l hl => h l (by simp [hl]),
      List.cons_append]

/-- Lines behind which a reader expects a name. -/
def NameExpected (lines : List String) : Prop :=
  (∀ line ∈ lines, OneLine line) ∧ ∃ pairs, Pairs lines pairs

/-- A reader comes to the rest of the text with the song of the lines before it. -/
theorem NameExpected.exists_readOn? {before : List String} (h : NameExpected before)
    (tables : Tables) (song : Song) :
    ∃ song', ∀ rest, readOn? tables song (Text.linesOf (ended before ++ rest)) =
      readOn? tables song' (Text.linesOf rest) := by
  obtain ⟨hlines, pairs, hpairs⟩ := h
  refine ⟨pairs.foldl (setPair tables) song, fun rest => ?_⟩
  rw [linesOf_ended_append hlines, readOn?_append hpairs]

/-- A change to a text that a reader does not see. -/
inductive Edit : String → String → Prop where
  /-- An empty line in front of a name. -/
  | blank {before : List String} (h : NameExpected before) (rest : String) :
      Edit (ended before ++ rest) (ended before ++ ("\n" ++ rest))
  /-- Other letters of a name, in upper or lower case.  The name takes its line up. -/
  | recase {before : List String} {name other rest : String} (h : NameExpected before)
      (hname : OneLine name ∧ name ≠ "") (hsame : Text.sameName name other)
      (hrest : rest = "" ∨ ∃ later, rest = "\n" ++ later) :
      Edit (ended before ++ (name ++ rest)) (ended before ++ (other ++ rest))
  /-- A pair in front of a name, with a name that no tag has. -/
  | unknown {before : List String} {name value : String} (h : NameExpected before)
      (hname : OneLine name ∧ name ≠ "") (hvalue : OneLine value)
      (hunknown : ∀ tag : Tag, ¬Text.sameName tag.name name) (rest : String) :
      Edit (ended before ++ rest) (ended before ++ (renderPair (name, value) ++ rest))

/-- A text with a carriage return in front of each line feed. -/
def withReturns (text : String) : String :=
  String.ofList (text.toList.flatMap fun c => if c = '\n' then ['\r', '\n'] else [c])

/-- Letters in another case bring in no line break. -/
theorem OneLine.of_sameName (h : OneLine name) (hsame : Text.sameName name other) :
    OneLine other := by
  have hback : Text.sameName other name := by rwa [Text.sameName_comm]
  intro c hc
  constructor
  · rintro rfl
    exact (h '\n' (Text.mem_of_sameName hback hc (by decide))).1 rfl
  · rintro rfl
    exact (h '\r' (Text.mem_of_sameName hback hc (by decide))).2 rfl

/-- Texts of one line that are joined are of one line. -/
theorem OneLine.append (h : OneLine name) (hother : OneLine other) : OneLine (name ++ other) := by
  intro c hc
  rw [String.toList_append, List.mem_append] at hc
  exact hc.elim (h c) (hother c)

/-- The line of a value is one line. -/
theorem OneLine.marked (h : OneLine value) : OneLine (mark ++ value) :=
  OneLine.append (by simp [OneLine, mark]) h

/-- A name in other letters is not empty either. -/
theorem ne_empty_of_sameName (hname : name ≠ "") (hsame : Text.sameName name other) :
    other ≠ "" := by
  rintro rfl
  have hlower : name.toList.map Char.toLower = [] := by simpa [Text.sameName] using hsame
  exact hname (String.toList_inj.1 (List.map_eq_nil_iff.1 hlower))

/-- The line of a name, with what is behind it in the text. -/
theorem exists_linesOf_name {rest : String} (hrest : rest = "" ∨ ∃ later, rest = "\n" ++ later) :
    ∃ later, ∀ name, OneLine name ∧ name ≠ "" →
      Text.linesOf (name ++ rest) = name :: later := by
  rcases hrest with rfl | ⟨later, rfl⟩
  · refine ⟨[], fun name hname => ?_⟩
    have hne : name.toList ≠ [] := fun hnil => hname.2 (String.toList_inj.1 hnil)
    have hfeed : '\n' ∉ name.toList := fun hmem => (hname.1 '\n' hmem).1 rfl
    rw [String.append_empty, Text.linesOf, Text.lines_of_no_feed hne hfeed, List.map_singleton,
      String.ofList_toList]
  · refine ⟨Text.linesOf later, fun name hname => ?_⟩
    rw [← String.append_assoc, linesOf_append_feed hname.1]

/-- A reader that has come to a name goes on with the same song. -/
theorem Edit.readOn?_eq (h : Edit text text') :
    readOn? tables song (Text.linesOf text') = readOn? tables song (Text.linesOf text) := by
  -- Both texts have the same lines before the edit, and they leave the same song.
  cases h with
  | blank hbefore rest =>
    obtain ⟨song', hreads⟩ := hbefore.exists_readOn? tables song
    have hnothing : OneLine "" := by simp [OneLine]
    have hblank : Text.linesOf ("\n" ++ rest) = "" :: Text.linesOf rest :=
      linesOf_append_feed hnothing rest
    rw [hreads, hreads, hblank, readOn?_blank]
  | recase hbefore hname hsame hrest =>
    obtain ⟨song', hreads⟩ := hbefore.exists_readOn? tables song
    -- Names that differ in case only stand for the same tag.
    have hother := ne_empty_of_sameName hname.2 hsame
    obtain ⟨later, hlater⟩ := exists_linesOf_name hrest
    rw [hreads, hreads, hlater _ hname, hlater _ ⟨hname.1.of_sameName hsame, hother⟩,
      readOn?_sameName hname.2 hother hsame]
  | @unknown before name value hbefore hname hvalue hunknown rest =>
    obtain ⟨song', hreads⟩ := hbefore.exists_readOn? tables song
    -- A pair of no tag sets nothing.
    have hset : ∀ song, setPair tables song (name, value) = song := by
      have hnone : Tag.ofName? name = none := by
        rw [Option.eq_none_iff_forall_ne_some]
        exact fun tag htag => hunknown tag (Tag.ofName?_eq_some_iff.1 htag)
      intro song
      rw [setPair, hnone]
    have hpair : Text.linesOf (renderPair (name, value) ++ rest) =
        name :: (mark ++ value) :: Text.linesOf rest := by
      have htext : renderPair (name, value) ++ rest =
          name ++ "\n" ++ (mark ++ value ++ "\n" ++ rest) := by
        simp only [renderPair, String.append_assoc]
      rw [htext, linesOf_append_feed hname.1, linesOf_append_feed hvalue.marked]
    rw [hreads, hreads, hpair, readOn?_pair hname.2, hset]

/-- Neither the names nor the values of an edit bring in carriage returns. -/
theorem Edit.no_return (h : Edit text text') (htext : '\r' ∉ text.toList) :
    '\r' ∉ text'.toList := by
  have hline : ∀ {line : String}, OneLine line → '\r' ∉ line.toList :=
    fun hline hmem => (hline '\r' hmem).2 rfl
  cases h with
  | blank hbefore rest =>
    simp only [String.toList_append, List.mem_append, not_or] at htext ⊢
    exact ⟨htext.1, by decide, htext.2⟩
  | recase hbefore hname hsame hrest =>
    simp only [String.toList_append, List.mem_append, not_or] at htext ⊢
    exact ⟨htext.1, hline (hname.1.of_sameName hsame), htext.2.2⟩
  | unknown hbefore hname hvalue hunknown rest =>
    simp only [renderPair, String.toList_append, List.mem_append, not_or] at htext ⊢
    exact ⟨htext.1, ⟨⟨⟨⟨hline hname.1, by decide⟩, by decide⟩, hline hvalue⟩, by decide⟩, htext.2⟩

/-- Carriage returns in front of the line feeds are no part of the lines. -/
theorem linesOf_withReturns (h : '\r' ∉ text.toList) :
    Text.linesOf (withReturns text) = Text.linesOf text := by
  rw [Text.linesOf, Text.linesOf, withReturns, String.toList_ofList]
  congr 1
  generalize text.toList = cs at h
  induction cs with
  | nil => rfl
  | cons c rest ih =>
    obtain ⟨hreturn, hrest⟩ := not_or.1 (mt List.mem_cons.2 h)
    rw [List.flatMap_cons]
    -- A reader takes the return off together with the feed.
    by_cases hfeed : c = '\n'
    · subst hfeed
      rw [if_pos rfl, List.cons_append, List.cons_append, List.nil_append, Text.lines, Text.lines,
        ih hrest]
    · rw [if_neg hfeed, List.cons_append, List.nil_append,
        Text.lines_cons hfeed fun h => absurd h.symm hreturn,
        Text.lines_cons hfeed fun h => absurd h.symm hreturn, ih hrest]

/-- Bytes are read as a song if and only if they are a text whose lines are pairs, and empty
lines where a name is expected, and the last pair named FILE has a value; the song has the tags
of the pairs.  Edits that a reader does not see, and carriage returns in front of the line feeds of
a text that has none, leave the song as it is, or leave the text one that cannot be read. -/
theorem decode_grammar (tables : Tables) :
    (∀ data, (∃ song, decode tables data = .ok song) ↔
      ∃ text pairs path, data = Text.bytes text ∧ Pairs (Text.linesOf text) pairs ∧
        lastNamed? pairs "FILE" = some path ∧ path ≠ "") ∧
    (∀ text pairs song, Pairs (Text.linesOf text) pairs →
      decode tables (Text.bytes text) = .ok song → Describes tables pairs song) ∧
    ∀ text text', '\r' ∉ text.toList → Relation.ReflTransGen Edit text text' →
      (decode tables (Text.bytes text')).toOption = (decode tables (Text.bytes text)).toOption ∧
        decode tables (Text.bytes (withReturns text')) = decode tables (Text.bytes text') := by
  refine ⟨fun data => ?_, ?_, ?_⟩
  · constructor
    · intro h
      obtain ⟨song, h⟩ := h
      obtain ⟨text, pairs, hdata, hlines, -, path, hpath, hne⟩ := decode_eq_ok_iff.1 h
      exact ⟨text, pairs, path, hdata, hlines, hpath, hne⟩
    · intro h
      obtain ⟨text, pairs, path, hdata, hlines, hpath, hne⟩ := h
      exact ⟨_, decode_eq_ok_iff.2 ⟨text, pairs, hdata, hlines, rfl, path, hpath, hne⟩⟩
  · intro text pairs song hlines h
    obtain ⟨other, pairs', hdata, hlines', rfl, -⟩ := decode_eq_ok_iff.1 h
    -- The text is known by its bytes, and the pairs by the lines.
    obtain rfl := Text.bytes_injective hdata
    obtain rfl := Except.ok.inj
      ((readPairs_eq_ok_iff.2 hlines).symm.trans (readPairs_eq_ok_iff.2 hlines'))
    exact describes_songOfPairs tables pairs
  · intro text text' htext hedits
    -- No edit brings in a carriage return, so that the last text has none either.
    have hafter : '\r' ∉ text'.toList ∧ (decode tables (Text.bytes text')).toOption =
        (decode tables (Text.bytes text)).toOption := by
      induction hedits with
      | refl => exact ⟨htext, rfl⟩
      | tail _ hedit ih =>
        refine ⟨hedit.no_return ih.1, ?_⟩
        rw [← ih.2, toOption_decode, toOption_decode, hedit.readOn?_eq]
    refine ⟨hafter.2, ?_⟩
    rw [decode_bytes, decode_bytes, decodeText, decodeText, linesOf_withReturns hafter.1]

/-- A short record. -/
private def plainly : String := "FILE\n..a.mp3\nTITLE\n..Moon River"

/-- The same with a name in lower case and a pair that stands for nothing. -/
private def oddly : String := "file\n..a.mp3\nMOOD\n..calm\nTITLE\n..Moon River"

/-- Two edits lead from the one record to the other. -/
private theorem edits_plainly : Relation.ReflTransGen Edit plainly oddly := by
  have hrecase : Edit plainly "file\n..a.mp3\nTITLE\n..Moon River" := by
    have hstart : NameExpected [] := ⟨by simp, [], .nil⟩
    exact .recase hstart ⟨by decide, by decide⟩ (show Text.sameName "FILE" "file" by decide)
      (.inr ⟨"..a.mp3\nTITLE\n..Moon River", rfl⟩)
  -- MOOD is the name of no tag.
  have hunknown : Edit "file\n..a.mp3\nTITLE\n..Moon River" oddly := by
    have hexpected : NameExpected ["file", "..a.mp3"] :=
      ⟨by decide, [("file", "a.mp3")], readPairs_eq_ok_iff.1 (by decide +kernel)⟩
    have hname : OneLine "MOOD" ∧ "MOOD" ≠ "" := by decide
    have hvalue : OneLine "calm" := by decide
    refine .unknown hexpected hname hvalue (fun tag => ?_) "TITLE\n..Moon River"
    cases tag <;> decide
  exact (Relation.ReflTransGen.single hrecase).tail hunknown

/-- The two records are read as the same song, even with carriage returns. -/
theorem decode_grammar_oddly :
    ∃ song, decode .standard (Text.bytes plainly) = .ok song ∧
      song.path? = some "a.mp3" ∧
      decode .standard (Text.bytes (withReturns oddly)) = .ok song := by
  obtain ⟨hreads, hdescribes, hsame⟩ := decode_grammar .standard
  have hpairs : Pairs (Text.linesOf plainly) [("FILE", "a.mp3"), ("TITLE", "Moon River")] :=
    readPairs_eq_ok_iff.1 (by decide +kernel)
  obtain ⟨song, hsong⟩ := (hreads _).2 ⟨_, _, "a.mp3", rfl, hpairs, by decide +kernel, by decide⟩
  obtain ⟨hedited, hreturns⟩ := hsame plainly oddly (by decide) edits_plainly
  refine ⟨song, hsong, ?_, ?_⟩
  · rw [(hdescribes _ _ _ hpairs hsong).path?]
    decide +kernel
  · rw [hreturns]
    rw [hsong] at hedited
    cases hodd : decode .standard (Text.bytes oddly) with
    | error fault =>
      rw [hodd] at hedited
      cases hedited
    | ok other =>
      rw [hodd] at hedited
      rw [Option.some.inj hedited]

end Record

end Ballroom
