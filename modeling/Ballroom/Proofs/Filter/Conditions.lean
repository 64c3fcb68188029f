import Ballroom.Proofs.Filter.Search

/-!
# What a filter asks of a song

Each armed slot asks something of a song, and a filter accepts the songs that have all of it
(`Meets`).  Every filter that calls have made of a new one is such a filter, for its armed slots
hold values that the conditions can use (`decides_after`).  It follows that fewer armed slots
accept no fewer songs (`Meets.mono`), and that neither the order in which the conditions are
looked at nor the order of calls on different slots makes a difference
(`slot_after_eq_of_concerns`).
-/

namespace Ballroom.SongFilter

variable {f g : SongFilter} {s : FilterSlot} {song : Song}

/-! ### The value of an armed slot -/

/-- A number is asked for if and only if the slot is armed and holds it. -/
theorem armedNumber?_eq_some_iff {n : Int64} :
    f.armedNumber? s = some n ↔ f.isArmed s = true ∧ (f.slot s).value = .number n := by
  rw [armedNumber?, armed?_eq]
  cases f.isArmed s <;> cases (f.slot s).value <;> simp

theorem armedText?_eq_some_iff {text : String} :
    f.armedText? s = some text ↔ f.isArmed s = true ∧ (f.slot s).value = .text (some text) := by
  rw [armedText?, armed?_eq]
  cases f.isArmed s <;> cases (f.slot s).value <;> simp

theorem armedDances?_eq_some_iff {ranges : DanceRanges} :
    f.armedDances? = some ranges ↔
      f.isArmed .danceList = true ∧ (f.slot .danceList).value = .dances ranges := by
  rw [armedDances?, armed?_eq]
  cases f.isArmed .danceList <;> cases (f.slot .danceList).value <;> simp

theorem armedKeywords?_eq_some_iff {words : List String} :
    f.armedKeywords? = some words ↔
      f.isArmed .keyword = true ∧ (f.slot .keyword).value = .keywords (some words) := by
  rw [armedKeywords?, armed?_eq]
  cases f.isArmed .keyword <;> cases (f.slot .keyword).value <;> simp

/-- A condition on a value that is there if and only if a slot is armed. -/
theorem whenSome_iff {α : Type} {value? : Option α} {condition : α → Bool} {armed : Bool}
    (h : value?.isSome = armed) :
    whenSome value? condition = true ↔
      (armed = true → ∃ value, value? = some value ∧ condition value = true) := by
  subst h
  cases value? <;> simp [whenSome]

/-- A condition on the number of a slot. -/
theorem whenSome_number_iff {condition : Int64 → Bool} (hkind : s.kind = .number)
    (h : f.applies s = f.isArmed s) :
    whenSome (f.armedNumber? s) condition = true ↔
      (f.isArmed s = true → ∃ n, (f.slot s).value = .number n ∧ condition n = true) := by
  have hsome : (f.armedNumber? s).isSome = f.isArmed s := by
    rw [← h, applies, hkind]
  rw [whenSome_iff hsome]
  refine forall_congr' fun harmed => exists_congr fun n => ?_
  rw [armedNumber?_eq_some_iff]
  exact and_congr_left' (and_iff_right harmed)

/-! ### What a song has to have -/

/-- What the armed slots of a filter ask of a song. -/
structure Meets (f : SongFilter) (song : Song) : Prop where
  dance : f.isArmed .dance = true →
    ∃ d, (f.slot .dance).value = .number d ∧ song.number? .dance = some d
  /-- The dance is one of the list, and its bounds, if there are two, hold the speed. -/
  danceList : f.isArmed .danceList = true →
    ∃ ranges d range, (f.slot .danceList).value = .dances ranges ∧
      song.number? .dance = some d ∧ ranges.lookup d = some range ∧
      (0 < range.low ∧ 0 < range.high → ∃ bpm, song.number? .bpm = some bpm ∧
        range.low ≤ bpm.toInt ∧ bpm.toInt ≤ range.high)
  genre : f.isArmed .genre = true →
    ∃ g, (f.slot .genre).value = .number g ∧ song.number? .genre = some g
  rating : f.isArmed .rating = true →
    ∃ low r rating, (f.slot .rating).value = .number low ∧
      song.number? .danceRating = some r ∧ f.tables.rating? r = some rating ∧
      0 < rating.weight ∧ low ≤ r
  /-- One bound of the level by itself asks nothing. -/
  level : f.isArmed .levelLow = true → f.isArmed .levelHigh = true →
    ∃ low high l level, (f.slot .levelLow).value = .number low ∧
      (f.slot .levelHigh).value = .number high ∧ song.number? .danceLevel = some l ∧
      f.tables.level? l = some level ∧ 0 < level.weight ∧ low ≤ l ∧ l ≤ high
  status : f.isArmed .status = true →
    ∃ n, (f.slot .status).value = .number n ∧ song.number? .status = some n
  /-- A song without a mark has the first one. -/
  favorite : f.isArmed .favorite = true →
    (f.slot .favorite).value = .number ((song.number? .favorite).getD 0)
  /-- A song without a status has the first one. -/
  playable : f.isArmed .statusPlayable = true →
    ∃ status, f.tables.status? ((song.number? .status).getD 0) = some status ∧
      status.playable = true
  keyword : f.isArmed .keyword = true →
    ∃ words, (f.slot .keyword).value = .keywords (some words) ∧
      ∀ keyword, song.text? .keyword = some keyword → keyword = "" ∨ keyword ∈ words
  search : f.isArmed .search = true →
    ∃ needle, (f.slot .search).value = .text (some needle) ∧ (needle = "" ∨
      ∃ text ∈ searchedTexts song, needle.toList <:+: (Text.lowercase text).toList)

/-- An entry of some weight is one that is there. -/
private theorem weight_ne_zero_iff {α : Type} {found? : Option α} {weight : α → Nat} :
    ((found?.map weight).getD 0 != 0) = true ↔ ∃ entry, found? = some entry ∧ 0 < weight entry := by
  cases found? <;> simp [Nat.pos_iff_ne_zero]

/-- Conditions that say no more than that a song has the number of the slot. -/
private theorem same_number_iff {tag : Tag} (hkind : s.kind = .number)
    (h : f.applies s = f.isArmed s) :
    whenSome (f.armedNumber? s) (fun n => song.number? tag = some n) = true ↔
      (f.isArmed s = true → ∃ n, (f.slot s).value = .number n ∧ song.number? tag = some n) := by
  rw [whenSome_number_iff hkind h]
  simp only [decide_eq_true_eq]

/-- The rating of a song is one of the table with a weight, and not below the one that is
asked for. -/
theorem acceptsRating_iff (h : f.applies .rating = f.isArmed .rating) :
    f.acceptsRating song = true ↔ (f.isArmed .rating = true →
      ∃ low r rating, (f.slot .rating).value = .number low ∧
        song.number? .danceRating = some r ∧ f.tables.rating? r = some rating ∧
        0 < rating.weight ∧ low ≤ r) := by
  rw [acceptsRating, whenSome_number_iff rfl h]
  refine forall_congr' fun _ => exists_congr fun low => ?_
  cases song.number? .danceRating with
  | none => simp
  | some r =>
    simp only [Bool.and_eq_true, weight_ne_zero_iff, decide_eq_true_eq]
    grind

/-- The level of a song is one of the table with a weight, and between the two that are asked
for. Both slots must be armed. -/
theorem acceptsLevel_iff (hlow : f.applies .levelLow = f.isArmed .levelLow)
    (hhigh : f.applies .levelHigh = f.isArmed .levelHigh) :
    f.acceptsLevel song = true ↔
      (f.isArmed .levelLow = true → f.isArmed .levelHigh = true →
        ∃ low high l level, (f.slot .levelLow).value = .number low ∧
          (f.slot .levelHigh).value = .number high ∧ song.number? .danceLevel = some l ∧
          f.tables.level? l = some level ∧ 0 < level.weight ∧ low ≤ l ∧ l ≤ high) := by
  have hlow : (f.armedNumber? .levelLow).isSome = f.isArmed .levelLow := hlow
  have hhigh : (f.armedNumber? .levelHigh).isSome = f.isArmed .levelHigh := hhigh
  -- Nothing is asked unless both slots have a number.
  unfold acceptsLevel
  cases hl : f.armedNumber? .levelLow with
  | none => simp [← hlow, hl]
  | some low =>
    cases hh : f.armedNumber? .levelHigh with
    | none => simp [← hhigh, hh]
    | some high =>
      obtain ⟨harmed, hvalue⟩ := armedNumber?_eq_some_iff.1 hl
      obtain ⟨harmed', hvalue'⟩ := armedNumber?_eq_some_iff.1 hh
      cases song.number? .danceLevel with
      | none => simp [harmed, harmed']
      | some l =>
        simp only [Bool.and_eq_true, weight_ne_zero_iff, decide_eq_true_eq, harmed, harmed',
          true_imp_iff, hvalue, hvalue']
        grind

/-- Both conditions of the dance list at once: the dance and its speed. -/
theorem acceptsDances_iff (h : f.applies .danceList = f.isArmed .danceList) :
    f.acceptsDanceList song = true ∧ f.acceptsSpeed song = true ↔
      (f.isArmed .danceList = true →
        ∃ ranges d range, (f.slot .danceList).value = .dances ranges ∧
          song.number? .dance = some d ∧ ranges.lookup d = some range ∧
          (0 < range.low ∧ 0 < range.high → ∃ bpm, song.number? .bpm = some bpm ∧
            range.low ≤ bpm.toInt ∧ bpm.toInt ≤ range.high)) := by
  have hsome : f.armedDances?.isSome = f.isArmed .danceList := h
  unfold acceptsDanceList acceptsSpeed
  cases hdances : f.armedDances? with
  | none => simp [whenSome, ← hsome, hdances]
  | some ranges =>
    obtain ⟨harmed, hvalue⟩ := armedDances?_eq_some_iff.1 hdances
    cases hdance : song.number? .dance with
    | none => simp [whenSome, harmed]
    | some d =>
      -- A dance that is not listed is refused, whatever its speed.
      cases hrange : ranges.lookup d with
      | none => simp [whenSome, harmed, hvalue, hrange]
      | some range =>
        cases hbpm : song.number? .bpm <;>
          simp [whenSome, harmed, hvalue, hrange, BpmRange.isActive, BpmRange.contains] <;> grind

/-- A song has no keyword, an empty one or one of those that are asked for. -/
theorem acceptsKeyword_iff (h : f.applies .keyword = f.isArmed .keyword) :
    f.acceptsKeyword song = true ↔ (f.isArmed .keyword = true →
      ∃ words, (f.slot .keyword).value = .keywords (some words) ∧
        ∀ keyword, song.text? .keyword = some keyword → keyword = "" ∨ keyword ∈ words) := by
  have hsome : f.armedKeywords?.isSome = f.isArmed .keyword := h
  rw [acceptsKeyword, whenSome_iff hsome]
  refine forall_congr' fun harmed => exists_congr fun words => ?_
  rw [armedKeywords?_eq_some_iff, and_iff_right harmed]
  refine and_congr_right' ?_
  cases song.text? .keyword <;> simp

/-- One of the texts of a song has the needle in it, in lower case. -/
theorem acceptsSearch_iff (h : f.applies .search = f.isArmed .search) :
    f.acceptsSearch song = true ↔ (f.isArmed .search = true →
      ∃ needle, (f.slot .search).value = .text (some needle) ∧ (needle = "" ∨
        ∃ text ∈ searchedTexts song, needle.toList <:+: (Text.lowercase text).toList)) := by
  have hsome : (f.armedText? .search).isSome = f.isArmed .search := h
  rw [acceptsSearch, whenSome_iff hsome]
  refine forall_congr' fun harmed => exists_congr fun needle => ?_
  rw [armedText?_eq_some_iff, and_iff_right harmed, Bool.or_eq_true, String.isEmpty_iff,
    matchesSearch_iff]

/-- A filter whose armed slots can be used accepts the songs that have what the slots ask. -/
theorem accepts_iff_meets (h : ∀ s, f.applies s = f.isArmed s) :
    f.accepts song = true ↔ f.Meets song := by
  -- A song without a status has the status 0.
  have hplayable : f.acceptsPlayable song = true ↔ (f.isArmed .statusPlayable = true →
      ∃ status, f.tables.status? ((song.number? .status).getD 0) = some status ∧
        status.playable = true) := by
    rw [acceptsPlayable, armed?_eq]
    cases f.isArmed .statusPlayable with
    | false => simp [whenSome]
    | true => cases f.tables.status? ((song.number? .status).getD 0) <;> simp [whenSome]
  have hfavorite : f.acceptsFavorite song = true ↔ (f.isArmed .favorite = true →
      (f.slot .favorite).value = .number ((song.number? .favorite).getD 0)) := by
    rw [acceptsFavorite, whenSome_number_iff rfl (h .favorite)]
    refine forall_congr' fun _ => ⟨?_, fun hvalue => ⟨_, hvalue, decide_eq_true rfl⟩⟩
    rintro ⟨n, hvalue, hmark⟩
    rw [hvalue, of_decide_eq_true hmark]
  -- The dance and its speed are asked for apart, and are one condition.
  have hdances : f.acceptsDanceList song = true ∧ f.acceptsSpeed song = true ↔ _ :=
    acceptsDances_iff (h .danceList)
  simp only [accepts, Bool.and_eq_true]
  constructor
  · rintro ⟨⟨⟨⟨⟨⟨⟨⟨⟨⟨hdance, hlist⟩, hgenre⟩, hrating⟩, hlevel⟩, hstatus⟩, hmark⟩, hplay⟩, hspeed⟩,
      hkeyword⟩, hsearch⟩
    exact
      { dance := (same_number_iff rfl (h .dance)).1 hdance
        danceList := hdances.1 ⟨hlist, hspeed⟩
        genre := (same_number_iff rfl (h .genre)).1 hgenre
        rating := (acceptsRating_iff (h .rating)).1 hrating
        level := (acceptsLevel_iff (h .levelLow) (h .levelHigh)).1 hlevel
        status := (same_number_iff rfl (h .status)).1 hstatus
        favorite := hfavorite.1 hmark
        playable := hplayable.1 hplay
        keyword := (acceptsKeyword_iff (h .keyword)).1 hkeyword
        search := (acceptsSearch_iff (h .search)).1 hsearch }
  · intro hmeets
    obtain ⟨hlist, hspeed⟩ := hdances.2 hmeets.danceList
    exact ⟨⟨⟨⟨⟨⟨⟨⟨⟨⟨(same_number_iff rfl (h .dance)).2 hmeets.dance, hlist⟩,
      (same_number_iff rfl (h .genre)).2 hmeets.genre⟩,
      (acceptsRating_iff (h .rating)).2 hmeets.rating⟩,
      (acceptsLevel_iff (h .levelLow) (h .levelHigh)).2 hmeets.level⟩,
      (same_number_iff rfl (h .status)).2 hmeets.status⟩,
      hfavorite.2 hmeets.favorite⟩, hplayable.2 hmeets.playable⟩, hspeed⟩,
      (acceptsKeyword_iff (h .keyword)).2 hmeets.keyword⟩,
      (acceptsSearch_iff (h .search)).2 hmeets.search⟩

/-- A filter of the same tables that has only armed slots of another one asks no more than
that one. -/
theorem Meets.mono (h : f.Meets song) (htables : g.tables = f.tables)
    (hslots : ∀ s, g.isArmed s = true → g.slot s = f.slot s) : g.Meets song := by
  have harmed : ∀ s, g.isArmed s = true → f.isArmed s = true := by
    intro s hs
    rw [isArmed, ← hslots s hs]
    exact hs
  -- Each condition asks what it asked before, if it asks at all.
  constructor
  case dance => intro hs; rw [hslots _ hs]; exact h.dance (harmed _ hs)
  case danceList => intro hs; rw [hslots _ hs]; exact h.danceList (harmed _ hs)
  case genre => intro hs; rw [hslots _ hs]; exact h.genre (harmed _ hs)
  case rating => intro hs; rw [hslots _ hs, htables]; exact h.rating (harmed _ hs)
  case level =>
    intro hs hs'
    rw [hslots _ hs, hslots _ hs', htables]
    exact h.level (harmed _ hs) (harmed _ hs')
  case status => intro hs; rw [hslots _ hs]; exact h.status (harmed _ hs)
  case favorite => intro hs; rw [hslots _ hs]; exact h.favorite (harmed _ hs)
  case playable => intro hs; rw [htables]; exact h.playable (harmed _ hs)
  case keyword => intro hs; rw [hslots _ hs]; exact h.keyword (harmed _ hs)
  case search => intro hs; rw [hslots _ hs]; exact h.search (harmed _ hs)

/-! ### Every sequence of calls -/

theorem tables_reset (f : SongFilter) : f.reset.tables = f.tables := by
  have hfold : ∀ (slots : List FilterSlot) (f : SongFilter),
      (slots.foldl clear f).tables = f.tables := by
    intro slots
    induction slots with
    | nil => exact fun _ => rfl
    | cons s rest ih => exact fun f => (ih (f.clear s)).trans rfl
  exact hfold FilterSlot.all f

theorem tables_perform (call : Call) (f : SongFilter) : (call.perform f).tables = f.tables := by
  cases call with
  | setText s text =>
    simp only [Call.perform, setText_eq]
    split <;> rfl
  | setNumber s n =>
    simp only [Call.perform, setNumber_eq]
    split <;> rfl
  | usePlaylists source => rfl
  | setDances ranges => rfl
  | setKeywords words => rfl
  | clear s => rfl
  | off s => rfl
  | on s => rfl
  | reset => exact tables_reset f
  | setSort spec => rfl
  | process lib => rfl

/-- A filter keeps the tables that it was made with. -/
theorem tables_after (f : SongFilter) (calls : List Call) : (f.after calls).tables = f.tables := by
  induction calls using List.reverseRecOn with
  | nil => rfl
  | append_singleton calls call ih => rw [after_concat, tables_perform, ih]

/-- The slots that calls have left are explicit. -/
theorem explicit_after (tables : Tables) (playlists? : Option PlaylistSource) (calls : List Call)
    (s : FilterSlot) : Explicit calls s (((new tables playlists?).after calls).slot s) := by
  induction calls using List.reverseRecOn with
  | nil => exact ⟨kind_empty s.kind, .inl rfl⟩
  | append_singleton calls call ih =>
    rw [after_concat]
    exact ih.perform call

/-- The armed slots that calls have left are those that conditions can use. -/
theorem applies_after (tables : Tables) (playlists? : Option PlaylistSource) (calls : List Call)
    (s : FilterSlot) :
    ((new tables playlists?).after calls).applies s =
      ((new tables playlists?).after calls).isArmed s :=
  applies_of_explicit (explicit_after tables playlists? calls s)

/-! ### The order of the conditions and of the calls -/

/-- The conditions in the order in which they are looked at. -/
def conditions : List (SongFilter → Song → Bool) :=
  [acceptsDance, acceptsDanceList, acceptsGenre, acceptsRating, acceptsLevel, acceptsStatus,
    acceptsFavorite, acceptsPlayable, acceptsSpeed, acceptsKeyword, acceptsSearch]

/-- A song is accepted if each of the conditions accepts it. -/
theorem accepts_eq_all (f : SongFilter) (song : Song) :
    f.accepts song = conditions.all fun condition => condition f song := by
  simp only [accepts, conditions, List.all_cons, List.all_nil, Bool.and_true, Bool.and_assoc]

/-- Whether a call can change a slot. -/
def Call.concerns : Call → FilterSlot → Bool
  | setText s _, t | setNumber s _, t | clear s, t | off s, t | on s, t => t = s
  | setDances _, t => t = .danceList
  | setKeywords _, t => t = .keyword
  | reset, _ => true
  | usePlaylists _, _ | setSort _, _ | process _, _ => false

/-- A call leaves the slots that it does not concern. -/
theorem slot_perform_of_not_concerns {call : Call} (h : call.concerns s = false)
    (f : SongFilter) : (call.perform f).slot s = f.slot s := by
  cases call with
  -- A value of the wrong kind is refused, and then nothing changes at all.
  | setText t text =>
    have hne : s ≠ t := by simpa [Call.concerns] using h
    simp only [Call.perform, setText_eq]
    split
    · exact if_neg hne
    · rfl
  | setNumber t n =>
    have hne : s ≠ t := by simpa [Call.concerns] using h
    simp only [Call.perform, setNumber_eq]
    split
    · exact if_neg hne
    · rfl
  -- A reset concerns every slot.
  | reset => cases h
  | usePlaylists source => rfl
  | setSort spec => rfl
  | process lib => rfl
  | setDances ranges => exact if_neg (by simpa [Call.concerns] using h)
  | setKeywords words => exact if_neg (by simpa [Call.concerns] using h)
  | clear t => exact if_neg (by simpa [Call.concerns] using h)
  | off t => exact if_neg (by simpa [Call.concerns] using h)
  | on t => exact if_neg (by simpa [Call.concerns] using h)

/-- What a call makes of a slot depends on nothing but the slot. -/
theorem slot_perform_congr (call : Call) (h : f.slot s = g.slot s) :
    (call.perform f).slot s = (call.perform g).slot s := by
  cases hconcerns : call.concerns s with
  | false => rw [slot_perform_of_not_concerns hconcerns, slot_perform_of_not_concerns hconcerns, h]
  | true =>
    cases call with
    -- What a call makes of a slot that it concerns is a new value, or one made from the slot
    -- alone.
    | reset => exact (slot_reset f s).trans (slot_reset g s).symm
    | setText t text =>
      obtain rfl : s = t := by simpa [Call.concerns] using hconcerns
      simp only [Call.perform, setText_eq]
      split
      · simp [orKept, put]
      · exact h
    | setNumber t n =>
      obtain rfl : s = t := by simpa [Call.concerns] using hconcerns
      simp only [Call.perform, setNumber_eq]
      split
      · simp [orKept, put]
      · exact h
    | usePlaylists source => cases hconcerns
    | setSort spec => cases hconcerns
    | process lib => cases hconcerns
    | setDances ranges =>
      obtain rfl : s = .danceList := by simpa [Call.concerns] using hconcerns
      rfl
    | setKeywords words =>
      obtain rfl : s = .keyword := by simpa [Call.concerns] using hconcerns
      rfl
    | clear t =>
      obtain rfl : s = t := by simpa [Call.concerns] using hconcerns
      simp [Call.perform, clear]
    | off t =>
      obtain rfl : s = t := by simpa [Call.concerns] using hconcerns
      simp [Call.perform, off, h]
    | on t =>
      obtain rfl : s = t := by simpa [Call.concerns] using hconcerns
      simp [Call.perform, on, h]

/-- What calls have made of a slot is what those of them have made that concern it. -/
theorem slot_after_filter (f : SongFilter) (calls : List Call) (s : FilterSlot) :
    (f.after calls).slot s = (f.after (calls.filter (·.concerns s))).slot s := by
  -- From the end, since a call works on what those before it have made of the slot.
  induction calls using List.reverseRecOn with
  | nil => rfl
  | append_singleton calls call ih =>
    rw [after_concat, List.filter_append, List.filter_singleton]
    cases hconcerns : call.concerns s with
    | false => simpa [slot_perform_of_not_concerns hconcerns] using ih
    | true =>
      rw [cond_true, after_concat]
      exact slot_perform_congr call ih

/-- Two filters of the same tables with the same slots accept the same songs. -/
theorem accepts_congr (htables : f.tables = g.tables) (hslots : ∀ s, f.slot s = g.slot s)
    (song : Song) : f.accepts song = g.accepts song := by
  have hview : ∀ f : SongFilter,
      f.accepts song = ({ tables := f.tables, slot := f.slot } : SongFilter).accepts song :=
    fun _ => rfl
  rw [hview f, hview g, htables, funext hslots]

/-- How a filter decides on a song, whatever the calls were that have made it. -/
structure Decides (tables : Tables) (playlists? : Option PlaylistSource) (calls : List Call)
    (f : SongFilter) (song : Song) : Prop where
  /-- It accepts the songs that have what its armed slots ask. -/
  accepts_iff : f.accepts song = true ↔ f.Meets song
  /-- A song that it accepts stays accepted when a slot is disarmed, with or without its value. -/
  disarmed : f.accepts song = true →
    (∀ s, (f.off s).accepts song = true ∧ (f.clear s).accepts song = true) ∧
      f.reset.accepts song = true
  /-- The conditions can be looked at in any order. -/
  anyOrder : ∀ order : List (SongFilter → Song → Bool), order.Perm conditions →
    f.accepts song = order.all fun condition => condition f song
  /-- So can the calls be made, as long as those that concern a slot keep their order. -/
  anyOrderOfCalls : ∀ others : List Call,
    (∀ s, others.filter (·.concerns s) = calls.filter (·.concerns s)) →
      ((new tables playlists?).after others).accepts song = f.accepts song

/-- A slot that is armed when some slot was disarmed is as it was. -/
theorem slot_off_of_armed {t : FilterSlot} (h : (f.off s).isArmed t = true) :
    (f.off s).slot t = f.slot t := by
  by_cases hts : t = s
  · subst hts
    simp [off, isArmed] at h
  · exact if_neg hts

/-- What is still armed when a slot was cleared is as before. -/
theorem slot_clear_of_armed {t : FilterSlot} (h : (f.clear s).isArmed t = true) :
    (f.clear s).slot t = f.slot t := by
  by_cases hts : t = s
  · subst hts
    simp [clear, isArmed] at h
  · exact if_neg hts

/-- Nothing is armed when a filter was reset. -/
theorem slot_reset_of_armed {t : FilterSlot} (h : f.reset.isArmed t = true) :
    f.reset.slot t = f.slot t := by
  rw [isArmed, slot_reset] at h
  cases h

/-- A filter that calls have made of a new one accepts what its slots ask. -/
theorem accepts_iff_meets_after (tables : Tables) (playlists? : Option PlaylistSource)
    (calls : List Call) (song : Song) :
    ((new tables playlists?).after calls).accepts song = true ↔
      ((new tables playlists?).after calls).Meets song :=
  accepts_iff_meets (applies_after tables playlists? calls)

/-- A call that leaves the slots that are armed afterwards keeps songs accepted. -/
theorem accepts_perform_of_slots {tables : Tables} {playlists? : Option PlaylistSource}
    {calls : List Call} (hf : f = (new tables playlists?).after calls) (call : Call)
    (hslots : ∀ s, (call.perform f).isArmed s = true → (call.perform f).slot s = f.slot s)
    (hsong : f.accepts song = true) : (call.perform f).accepts song = true := by
  subst hf
  -- What the call leaves is a filter that calls have made, too.
  rw [← after_concat] at hslots ⊢
  rw [accepts_iff_meets_after] at hsong ⊢
  exact hsong.mono (by rw [tables_after, tables_after]) hslots

/-- A filter that calls have made of a new one decides by what its armed slots ask. -/
theorem decides_after (tables : Tables) (playlists? : Option PlaylistSource) (calls : List Call)
    (song : Song) :
    Decides tables playlists? calls ((new tables playlists?).after calls) song := by
  refine ⟨accepts_iff_meets_after tables playlists? calls song, ?disarmed, ?anyOrder,
    ?anyOrderOfCalls⟩
  case disarmed =>
    -- Disarming leaves no armed slot that was not armed before.
    intro hsong
    refine ⟨fun s => ⟨?_, ?_⟩, ?_⟩
    · exact accepts_perform_of_slots rfl (.off s) (fun _ => slot_off_of_armed) hsong
    · exact accepts_perform_of_slots rfl (.clear s) (fun _ => slot_clear_of_armed) hsong
    · exact accepts_perform_of_slots rfl .reset (fun _ => slot_reset_of_armed) hsong
  case anyOrder =>
    intro order hperm
    rw [accepts_eq_all, hperm.all_eq]
  case anyOrderOfCalls =>
    intro others hsame
    refine accepts_congr (by rw [tables_after, tables_after]) (fun s => ?_) song
    -- Each slot is what the calls that concern it have made, and these are the same.
    rw [slot_after_filter, hsame s, ← slot_after_filter]

end Ballroom.SongFilter
