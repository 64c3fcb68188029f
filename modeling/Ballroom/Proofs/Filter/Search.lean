import Ballroom.Proofs.Filter.Freshness
import Ballroom.Proofs.Text.Lowercase

/-!
# Searching for a text

A filter that looks for a text and for nothing else accepts a song if and only if the
lower-case form of the text stands in that of one of the `searchedTexts`.  A text that stands
there as it is, letter by letter, is found if its sigmas agree with those of the place where it
stands (`finds_verbatim`), such as when whole words are looked for.  It need not be found
otherwise: a part of a word that ends in a capital sigma is looked for with the final sigma,
which the word does not have at that place (`not_finds_part_of_word`).
-/

namespace Ballroom.SongFilter

variable {f : SongFilter} {s : FilterSlot} {song : Song}

/-! ### The texts of a song -/

/-- The texts of a song that are looked at: those of the searched tags and the words. -/
def searchedTexts (song : Song) : List String :=
  searchedTags.filterMap song.text? ++ (song.words? .tags).getD []

/-- A text in lower case is found in the lower-case form of a searched text. -/
theorem matchesSearch_iff {needle : String} :
    matchesSearch song needle ↔
      ∃ text ∈ searchedTexts song, needle.toList <:+: (Text.lowercase text).toList := by
  -- A tag without text has no place for the needle.
  have htag : ∀ tag, ((song.text? tag).map fun text =>
      Text.contains (Text.lowercase text) needle).getD false = true ↔
      ∃ text, song.text? tag = some text ∧ needle.toList <:+: (Text.lowercase text).toList := by
    intro tag
    cases song.text? tag <;> simp [Text.contains_iff]
  have hwords : ((song.words? .tags).map fun words =>
      words.any fun text => Text.contains (Text.lowercase text) needle).getD false = true ↔
      ∃ text ∈ (song.words? .tags).getD [], needle.toList <:+: (Text.lowercase text).toList := by
    cases song.words? .tags <;> simp [Text.contains_iff]
  simp only [matchesSearch, Bool.or_eq_true, List.any_eq_true, htag, hwords, searchedTexts,
    List.mem_append, List.mem_filterMap]
  constructor
  · rintro (⟨tag, htag, text, htext, hfound⟩ | ⟨text, htext, hfound⟩)
    · exact ⟨text, .inl ⟨tag, htag, htext⟩, hfound⟩
    · exact ⟨text, .inr htext, hfound⟩
  · rintro ⟨text, ⟨tag, htag, htext⟩ | htext, hfound⟩
    · exact .inl ⟨tag, htag, text, htext, hfound⟩
    · exact .inr ⟨text, htext, hfound⟩

/-- The condition of the search slot; nothing is looked for in an empty text. -/
theorem acceptsSearch_of_armed {needle : String} (h : f.armedText? .search = some needle) :
    f.acceptsSearch song ↔ needle = "" ∨
      ∃ text ∈ searchedTexts song, needle.toList <:+: (Text.lowercase text).toList := by
  rw [acceptsSearch, h, whenSome, Bool.or_eq_true, String.isEmpty_iff, matchesSearch_iff]

/-! ### A filter that only searches -/

/-- No slot is armed but perhaps that of the text to look for. -/
def OnlySearches (f : SongFilter) : Prop := ∀ s, s ≠ .search → f.isArmed s = false

/-- A slot that is not armed has no value to ask for. -/
theorem armed?_eq_none (h : f.isArmed s = false) : f.armed? s = none := by
  rw [armed?_eq, h]
  rfl

/-- The other conditions hold of every song. -/
theorem accepts_of_onlySearches (h : f.OnlySearches) : f.accepts song = f.acceptsSearch song := by
  have hnone : ∀ s, s ≠ .search → f.armed? s = none := fun s hs => armed?_eq_none (h s hs)
  have hnumber : ∀ s, s ≠ .search → f.armedNumber? s = none := by
    intro s hs
    rw [armedNumber?, hnone s hs]
  have hdances : f.armedDances? = none := by rw [armedDances?, hnone .danceList (by decide)]
  have hkeywords : f.armedKeywords? = none := by rw [armedKeywords?, hnone .keyword (by decide)]
  -- Without a value each of the other conditions is passed.
  simp only [accepts, acceptsDance, acceptsDanceList, acceptsGenre, acceptsRating, acceptsLevel,
    acceptsStatus, acceptsFavorite, acceptsPlayable, acceptsSpeed, acceptsKeyword,
    hnumber .dance (by decide), hnumber .genre (by decide), hnumber .rating (by decide),
    hnumber .levelLow (by decide), hnumber .status (by decide), hnumber .favorite (by decide),
    hnone .statusPlayable (by decide), hdances, hkeywords, whenSome, Bool.true_and]

/-- What is set to be looked for is the lower-case form of the text, and no other slot changes. -/
theorem exists_setText_search (h : f.OnlySearches) (text : String) :
    ∃ g, f.setText .search text = .ok g ∧ g.OnlySearches ∧
      g.armedText? .search = some (Text.lowercase text) := by
  refine ⟨f.put .search (.text (some (Text.lowercase text))), rfl, ?_, rfl⟩
  intro s hs
  have hslot : (f.put .search (.text (some (Text.lowercase text)))).slot s = f.slot s := by
    rw [put, slot_update, if_neg hs]
  rw [isArmed, hslot]
  exact h s hs

/-- A filter that is set to look for a text, and for nothing else, accepts a song if and only if
the lower-case form of the text stands in that of one of the song's texts.  It does so if the
text stands there as it is and its sigmas agree with those of the place. -/
theorem finds_verbatim (h : f.OnlySearches) {text x : String}
    (htext : text ∈ searchedTexts song) {before after : List Char}
    (hoccurs : text.toList = before ++ x.toList ++ after) :
    ∃ g, f.setText .search x = .ok g ∧
      (g.accepts song ↔ Text.lowercase x = "" ∨ ∃ other ∈ searchedTexts song,
        (Text.lowercase x).toList <:+: (Text.lowercase other).toList) ∧
      (Text.SigmasAgree before.reverse x.toList after → g.accepts song) := by
  obtain ⟨g, hset, honly, harmed⟩ := exists_setText_search h x
  have haccepts : g.accepts song ↔ Text.lowercase x = "" ∨ ∃ other ∈ searchedTexts song,
      (Text.lowercase x).toList <:+: (Text.lowercase other).toList := by
    rw [accepts_of_onlySearches honly, acceptsSearch_of_armed harmed]
  refine ⟨g, hset, haccepts, fun hsigmas => haccepts.2 (.inr ⟨text, htext, ?_⟩)⟩
  -- The text in lower case has at this place what the needle alone becomes in lower case.
  rw [← Text.lowerWithin_eq_lowercase_iff.2 hsigmas]
  exact Text.lowerWithin_infix_lowercase hoccurs

/-- A song with a title. -/
private def titled (title : String) : Song :=
  (Song.empty.set .file (.text "a.mp3")).set .title (.text title)

/-- A whole word is found, whether or not a sigma ends it. -/
theorem finds_verbatim_word :
    (new .standard none).OnlySearches ∧
      ∃ g, (new .standard none).setText .search "ΟΔΟΣ" = .ok g ∧
        g.accepts (titled "Η ΟΔΟΣ ΜΑΣ") := by
  have honly : (new .standard none).OnlySearches := fun _ _ => rfl
  have htext : "Η ΟΔΟΣ ΜΑΣ" ∈ searchedTexts (titled "Η ΟΔΟΣ ΜΑΣ") := by decide
  have hoccurs : "Η ΟΔΟΣ ΜΑΣ".toList = ['Η', ' '] ++ "ΟΔΟΣ".toList ++ [' ', 'Μ', 'Α', 'Σ'] := by
    decide
  have hsigmas : Text.SigmasAgree ['Η', ' '].reverse "ΟΔΟΣ".toList [' ', 'Μ', 'Α', 'Σ'] :=
    Text.sigmasAgree_of_words (by decide +kernel) (by decide +kernel) _
  obtain ⟨g, hset, _, hfinds⟩ := finds_verbatim honly htext hoccurs
  exact ⟨honly, g, hset, hfinds hsigmas⟩

/-- A part of a word that ends in a sigma is not found in the word. -/
theorem not_finds_part_of_word :
    (new .standard none).OnlySearches ∧ "ΟΔΥΣΣΕΑΣ" ∈ searchedTexts (titled "ΟΔΥΣΣΕΑΣ") ∧
      "ΟΔΥΣ".toList <:+: "ΟΔΥΣΣΕΑΣ".toList ∧
      ∃ g, (new .standard none).setText .search "ΟΔΥΣ" = .ok g ∧
        g.accepts (titled "ΟΔΥΣΣΕΑΣ") = false := by
  refine ⟨fun _ _ => rfl, by decide, by decide, _, rfl, ?_⟩
  decide +kernel

end Ballroom.SongFilter
