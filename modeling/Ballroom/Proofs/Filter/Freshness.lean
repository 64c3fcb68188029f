import Ballroom.Filter.Process
import Mathlib.Data.List.Induction

/-!
# What a filter shows between two runs

A filter is called in any order: slots are set, cleared, armed and disarmed, the order is
set, and the filter runs.  What it has become is a matter of the calls (`Tracks`): its rows
are those of the last run as long as nothing has changed since, and none otherwise, and an
armed slot holds the value that was last put into it.  `Since` says what has happened and
what has not happened from then on; each call keeps `Tracks` (`Tracks.perform`).
-/

namespace Ballroom

/-- Something happened in a list, given what was before it, and all that came later is as
`lasts` says. -/
def Since {α : Type*} (happened : List α → α → Prop) (lasts : α → Prop) (l : List α) : Prop :=
  ∃ earlier a later, l = earlier ++ a :: later ∧ happened earlier a ∧ ∀ b ∈ later, lasts b

section

variable {α : Type*} {happened happened' : List α → α → Prop} {lasts : α → Prop} {l : List α}
  {a : α}

/-- Nothing has happened at the start. -/
theorem not_since_nil : ¬Since happened lasts [] := by
  intro hsince
  obtain ⟨earlier, a, later, hl, _⟩ := hsince
  simp at hl

/-- The last element of a list is what happened, or it happened before and still lasts. -/
theorem since_concat :
    Since happened lasts (l ++ [a]) ↔ happened l a ∨ lasts a ∧ Since happened lasts l := by
  constructor
  · intro hsince
    obtain ⟨earlier, b, later, hl, hb, hlasts⟩ := hsince
    -- What happened is the last element, or it stands before it.
    rcases List.eq_nil_or_concat later with rfl | ⟨rest, c, rfl⟩
    · obtain ⟨rfl, hab⟩ := List.append_inj' hl rfl
      obtain rfl := List.head_eq_of_cons_eq hab
      exact .inl hb
    · -- The last element came later.
      rw [List.concat_eq_append] at hl hlasts
      rw [← List.cons_append, ← List.append_assoc] at hl
      obtain ⟨rfl, hac⟩ := List.append_inj' hl rfl
      obtain rfl := List.head_eq_of_cons_eq hac
      refine .inr ⟨hlasts a (by simp), earlier, b, rest, rfl, hb, ?_⟩
      exact fun d hd => hlasts d (List.mem_append_left _ hd)
  · intro hcases
    rcases hcases with hhappened | ⟨hlast, earlier, b, later, rfl, hb, hlasts⟩
    · exact ⟨l, a, [], rfl, hhappened, by simp⟩
    · refine ⟨earlier, b, later ++ [a], by simp, hb, ?_⟩
      intro d hd
      rcases List.mem_append.1 hd with hd | hd
      · exact hlasts d hd
      · obtain rfl := List.mem_singleton.1 hd
        exact hlast

/-- What implies that something happened also tells that it still lasts. -/
theorem Since.imp (h : Since happened lasts l)
    (himp : ∀ earlier a, happened earlier a → happened' earlier a) : Since happened' lasts l := by
  obtain ⟨earlier, b, later, hl, hb, hlasts⟩ := h
  exact ⟨earlier, b, later, hl, himp earlier b hb, hlasts⟩

end

namespace SongFilter

/-! ### Calls -/

/-- A call that changes a filter or lets it run.  `usePlaylists` says where playlists are looked
up from then on. -/
inductive Call : Type 1 where
  | usePlaylists (source : PlaylistSource)
  | setText (s : FilterSlot) (text : String)
  | setNumber (s : FilterSlot) (n : Int64)
  | setDances (ranges : DanceRanges)
  | setKeywords (words : List String)
  | clear (s : FilterSlot)
  | off (s : FilterSlot)
  | on (s : FilterSlot)
  | reset
  | setSort (spec : String)
  | process {σ : Type} (lib : Library σ)

/-- A filter after a call that may be refused: what the call has made of it, or else the
filter as it was. -/
def orKept (f : SongFilter) (result : Except LibraryFault SongFilter) : SongFilter :=
  match result with
  | .ok changed => changed
  | .error _ => f

namespace Call

/-- What a call leaves of a filter. -/
def perform : Call → SongFilter → SongFilter
  | usePlaylists source, f => { f with playlists? := some source }
  | setText s text, f => f.orKept (f.setText s text)
  | setNumber s n, f => f.orKept (f.setNumber s n)
  | setDances ranges, f => f.setDances ranges
  | setKeywords words, f => f.setKeywords words
  | clear s, f => f.clear s
  | off s, f => f.off s
  | on s, f => f.on s
  | reset, f => f.reset
  | setSort spec, f => f.setSort spec
  | process lib, f => f.process lib

/-- Whether a call changes a slot or the order; one that is refused does not. -/
def changes : Call → Bool
  | usePlaylists _ => false
  | setText s _ => s.kind = .text
  | setNumber s _ => s.kind = .number
  | process _ => false
  | _ => true

/-- Whether a call lets the filter run. -/
def isRun : Call → Bool
  | process _ => true
  | _ => false

/-- The value that a call puts into a slot. -/
def sets? : Call → FilterSlot → Option SlotValue
  | setText s text, t =>
    if t = s ∧ s.kind = .text then
      some (.text (some (if s = .search then Text.lowercase text else text)))
    else none
  | setNumber s n, t => if t = s ∧ s.kind = .number then some (.number n) else none
  | setDances ranges, t => if t = .danceList then some (.dances ranges) else none
  | setKeywords words, t => if t = .keyword then some (.keywords (some words)) else none
  | _, _ => none

/-- Whether a call takes the value of a slot away. -/
def clears : Call → FilterSlot → Bool
  | clear s, t => t = s
  | reset, _ => true
  | _, _ => false

end Call

/-- What calls leave of a filter, one after the other. -/
def after (f : SongFilter) (calls : List Call) : SongFilter :=
  calls.foldl (fun f call => call.perform f) f

theorem after_concat (f : SongFilter) (calls : List Call) (call : Call) :
    f.after (calls ++ [call]) = call.perform (f.after calls) := by
  rw [after, List.foldl_append]
  rfl

variable {f : SongFilter} {s : FilterSlot}

/-! ### Setters that are refused -/

/-- A text is put into a slot for texts, in lower case if it is to be searched, and refused
by any other slot. -/
theorem setText_eq (f : SongFilter) (s : FilterSlot) (text : String) :
    f.setText s text =
      if s.kind = .text then
        .ok (f.put s (.text (some (if s = .search then Text.lowercase text else text))))
      else .error (.invalidInput s.name
        ("expects a " ++ s.kind.name ++ " value, got " ++ SlotKind.text.name)) := by
  by_cases hkind : s.kind = .text
  · simp [setText, checkKind, hkind]
  · simp [setText, checkKind, hkind]

/-- A number is put into a slot for numbers and refused by any other slot. -/
theorem setNumber_eq (f : SongFilter) (s : FilterSlot) (n : Int64) :
    f.setNumber s n =
      if s.kind = .number then .ok (f.put s (.number n))
      else .error (.invalidInput s.name
        ("expects a " ++ s.kind.name ++ " value, got " ++ SlotKind.number.name)) := by
  by_cases hkind : s.kind = .number
  · simp [setNumber, checkKind, hkind]
  · simp [setNumber, checkKind, hkind]

theorem perform_setText_of_ne (hkind : s.kind ≠ .text) (f : SongFilter) (text : String) :
    (Call.setText s text).perform f = f := by
  simp only [Call.perform, setText_eq, if_neg hkind, orKept]

theorem perform_setNumber_of_ne (hkind : s.kind ≠ .number) (f : SongFilter) (n : Int64) :
    (Call.setNumber s n).perform f = f := by
  simp only [Call.perform, setNumber_eq, if_neg hkind, orKept]

/-- A call that neither changes a filter nor lets it run leaves all that a filter shows. -/
theorem perform_of_not_changes {call : Call} (hrun : call.isRun = false)
    (hchanges : call.changes = false) (f : SongFilter) :
    ∃ playlists?, call.perform f = { f with playlists? := playlists? } := by
  cases call with
  | usePlaylists source => exact ⟨some source, rfl⟩
  | setText s text =>
    have hkind : s.kind ≠ .text := by simpa [Call.changes] using hchanges
    exact ⟨f.playlists?, perform_setText_of_ne hkind f text⟩
  | setNumber s n =>
    have hkind : s.kind ≠ .number := by simpa [Call.changes] using hchanges
    exact ⟨f.playlists?, perform_setNumber_of_ne hkind f n⟩
  | process lib => cases hrun
  | _ => cases hchanges

/-- A call that changes a filter makes its rows stale. -/
theorem fresh_of_changes {call : Call} (hchanges : call.changes = true) (f : SongFilter) :
    (call.perform f).fresh = false := by
  cases call with
  -- A text or a number of the wrong kind would be refused and change nothing.
  | setText s text =>
    have hkind : s.kind = .text := by simpa [Call.changes] using hchanges
    simp [Call.perform, setText_eq, hkind, orKept, put, update]
  | setNumber s n =>
    have hkind : s.kind = .number := by simpa [Call.changes] using hchanges
    simp [Call.perform, setNumber_eq, hkind, orKept, put, update]
  | usePlaylists source => cases hchanges
  | process lib => cases hchanges
  | setDances ranges => rfl
  | setKeywords words => rfl
  | clear s => rfl
  | off s => rfl
  | on s => rfl
  | reset => rfl
  | setSort spec => rfl

/-! ### Slots after a call -/

/-- Resetting empties every slot and disarms it. -/
theorem slot_reset (f : SongFilter) (s : FilterSlot) : f.reset.slot s = ⟨.empty s.kind, false⟩ := by
  cases s <;> rfl

/-- What a call does with a slot: it puts a value there and arms the slot, or it takes the
value away and disarms the slot, or it leaves the value, in which case it arms the slot only
if the value is one. -/
inductive Does (call : Call) (before after : Slot) (s : FilterSlot) : Prop
  | sets (value : SlotValue) (hsets : call.sets? s = some value) (hkind : value.kind = s.kind)
      (hafter : after = ⟨value, true⟩)
  | clears (hsets : call.sets? s = none) (hclears : call.clears s = true)
      (hafter : after = ⟨.empty s.kind, false⟩)
  | leaves (hsets : call.sets? s = none) (hclears : call.clears s = false)
      (hvalue : after.value = before.value)
      (harmed : after.armed = true → before.armed = true ∨ before.value.isSet = true)

/-- A value is put into the slot `t`. -/
private theorem does_put {call : Call} (t : FilterSlot) (value : SlotValue)
    (hsets : ∀ s, call.sets? s = if s = t then some value else none)
    (hclears : ∀ s, call.clears s = false) (hkind : value.kind = t.kind) (f : SongFilter)
    (s : FilterSlot) : Does call (f.slot s) ((f.put t value).slot s) s := by
  by_cases heq : s = t
  · subst heq
    exact .sets value (by rw [hsets, if_pos rfl]) hkind (by rw [put, slot_update, if_pos rfl])
  · have hother : (f.put t value).slot s = f.slot s := by rw [put, slot_update, if_neg heq]
    rw [hother]
    exact .leaves (by rw [hsets, if_neg heq]) (hclears s) rfl .inl

/-- Whatever the call, a slot is set, cleared or left with its value. -/
theorem does_perform (call : Call) (f : SongFilter) (s : FilterSlot) :
    Does call (f.slot s) ((call.perform f).slot s) s := by
  cases call with
  -- A value of the wrong kind is refused, and every slot is left.
  | setText t text =>
    by_cases hkind : t.kind = .text
    · have hput : (Call.setText t text).perform f =
          f.put t (.text (some (if t = .search then Text.lowercase text else text))) := by
        simp only [Call.perform, setText_eq, if_pos hkind, orKept]
      rw [hput]
      exact does_put t (.text _) (fun s => by simp [Call.sets?, hkind]) (fun _ => rfl)
        hkind.symm f s
    · rw [perform_setText_of_ne hkind]
      exact .leaves (by simp [Call.sets?, hkind]) rfl rfl .inl
  | setNumber t n =>
    by_cases hkind : t.kind = .number
    · have hput : (Call.setNumber t n).perform f = f.put t (.number n) := by
        simp only [Call.perform, setNumber_eq, if_pos hkind, orKept]
      rw [hput]
      exact does_put t (.number n) (fun s => by simp [Call.sets?, hkind]) (fun _ => rfl)
        hkind.symm f s
    · rw [perform_setNumber_of_ne hkind]
      exact .leaves (by simp [Call.sets?, hkind]) rfl rfl .inl
  | usePlaylists source => exact .leaves rfl rfl rfl .inl
  | setDances ranges => exact does_put _ _ (fun _ => rfl) (fun _ => rfl) rfl f s
  | setKeywords words => exact does_put _ _ (fun _ => rfl) (fun _ => rfl) rfl f s
  -- Of the next two only the slot that is named is changed.
  | clear t =>
    by_cases heq : s = t
    · subst heq
      exact .clears rfl (by simp [Call.clears]) (by simp [Call.perform, clear])
    · exact .leaves rfl (by simp [Call.clears, heq]) (by simp [Call.perform, clear, heq])
        (by simp +contextual [Call.perform, clear, heq])
  | off t =>
    by_cases heq : s = t
    · subst heq
      exact .leaves rfl rfl (by simp [Call.perform, off]) (by simp [Call.perform, off])
    · exact .leaves rfl rfl (by simp [Call.perform, off, heq])
        (by simp +contextual [Call.perform, off, heq])
  -- Arming keeps the value: it arms a slot only if that has a value that was set.
  | on t =>
    have hslot : (f.on t).slot s = if s = t then
        if (f.slot t).value.isSet then { f.slot t with armed := true } else f.slot t
      else f.slot s := rfl
    show Does (.on t) (f.slot s) ((f.on t).slot s) s
    rw [hslot]
    split
    · rename_i heq
      subst heq
      split
      · exact .leaves rfl rfl rfl fun _ => .inr ‹_›
      · exact .leaves rfl rfl rfl .inl
    · exact .leaves rfl rfl rfl .inl
  | reset => exact .clears rfl rfl (slot_reset f s)
  | setSort spec => exact .leaves rfl rfl rfl .inl
  | process lib => exact .leaves rfl rfl rfl .inl

/-! ### The last run -/

/-- A filter shows what another one shows. -/
structure Shows (f run : SongFilter) : Prop where
  count : f.count = run.count
  rows : ∀ position, f.row? position = run.row? position
  danceCounts : f.danceCounts = run.danceCounts

/-- The call lets the filter run that the calls before it have made of `f₀`, and what the run
found is what `f` shows. -/
def RunShown (f₀ f : SongFilter) (earlier : List Call) (call : Call) : Prop :=
  ∃ (σ : Type) (lib : Library σ), call = .process lib ∧ f.Shows ((f₀.after earlier).process lib)

/-- A call that puts no value into a slot and takes none away. -/
def Call.Spares (s : FilterSlot) (call : Call) : Prop :=
  call.sets? s = none ∧ call.clears s = false

/-- The rows of a filter are up to date if and only if it has run and nothing has changed
since, and then they are those of the last run. -/
structure Current (f₀ : SongFilter) (calls : List Call) (f : SongFilter) : Prop where
  fresh_iff : f.fresh = true ↔
    Since (fun _ call => call.isRun = true) (fun call => call.changes = false) calls
  shown : f.fresh = true →
    Since (RunShown f₀ f) (fun call => call.isRun = false ∧ call.changes = false) calls

/-- Each call keeps what is said about freshness and rows. -/
theorem Current.perform {f₀ : SongFilter} {calls : List Call} (call : Call)
    (h : Current f₀ calls (f₀.after calls)) :
    Current f₀ (calls ++ [call]) (f₀.after (calls ++ [call])) := by
  rw [after_concat]
  cases hchanges : call.changes with
  | true =>
    -- The rows are stale from now on.
    have hfresh := fresh_of_changes hchanges (f₀.after calls)
    have hrun : call.isRun = false := by
      cases call with
      | process lib => cases hchanges
      | _ => rfl
    refine ⟨?_, fun hnow => absurd (hfresh.symm.trans hnow) (by decide)⟩
    rw [hfresh, since_concat, hrun, hchanges]
    simp
  | false =>
    cases hrun : call.isRun with
    | true =>
      obtain ⟨σ, lib, rfl⟩ : ∃ (σ : Type) (lib : Library σ), call = .process lib := by
        cases call with
        | process lib => exact ⟨_, lib, rfl⟩
        | _ => cases hrun
      refine ⟨iff_of_true rfl (since_concat.2 (.inl rfl)), fun _ => since_concat.2 (.inl ?_)⟩
      exact ⟨σ, lib, rfl, rfl, fun _ => rfl, rfl⟩
    | false =>
      -- The filter shows what it has shown before.
      obtain ⟨playlists?, hsame⟩ := perform_of_not_changes hrun hchanges (f₀.after calls)
      rw [hsame]
      constructor
      · show (f₀.after calls).fresh = true ↔ _
        rw [h.fresh_iff, since_concat, hrun, hchanges]
        simp
      · intro hnow
        refine since_concat.2 (.inr ⟨⟨hrun, hchanges⟩, (h.shown hnow).imp ?_⟩)
        intro earlier run hshown
        obtain ⟨σ, lib, hrun, hcount, hrows, hdances⟩ := hshown
        exact ⟨σ, lib, hrun, hcount, hrows, hdances⟩

/-! ### The values of slots -/

/-- A slot holds a value of its own kind: the one that was last put there, or none, in which
case it is not armed. -/
structure Explicit (calls : List Call) (s : FilterSlot) (slot : Slot) : Prop where
  kind : slot.value.kind = s.kind
  source : slot = ⟨.empty s.kind, false⟩ ∨
    Since (fun _ call => call.sets? s = some slot.value) (Call.Spares s) calls

theorem isSet_empty (kind : SlotKind) : (SlotValue.empty kind).isSet = false := by
  cases kind <;> rfl

theorem kind_empty (kind : SlotKind) : (SlotValue.empty kind).kind = kind := by
  cases kind <;> rfl

/-- Each call keeps the kinds of the slots and where their values come from. -/
theorem Explicit.perform {calls : List Call} {f : SongFilter} (call : Call)
    (h : Explicit calls s (f.slot s)) :
    Explicit (calls ++ [call]) s ((call.perform f).slot s) := by
  cases does_perform call f s with
  -- The slot has its value from this call.
  | sets value hsets hkind hafter =>
    rw [hafter]
    exact ⟨hkind, .inr (since_concat.2 (.inl hsets))⟩
  | clears hsets hclears hafter =>
    rw [hafter]
    exact ⟨kind_empty s.kind, .inl rfl⟩
  | leaves hsets hclears hvalue harmed =>
    refine ⟨by rw [hvalue]; exact h.kind, ?_⟩
    rcases h.source with hempty | hsince
    · -- There is no value to arm the slot with.
      left
      rw [hempty] at hvalue harmed
      have hoff : ((call.perform f).slot s).armed = false := by
        rw [← Bool.not_eq_true]
        intro hon
        rcases harmed hon with hbefore | hset
        · cases hbefore
        · cases (isSet_empty s.kind).symm.trans hset
      exact congrArg₂ Slot.mk hvalue hoff
    · right
      rw [hvalue]
      exact since_concat.2 (.inr ⟨⟨hsets, hclears⟩, hsince⟩)

/-- A value that a call puts into a slot is one that conditions can use. -/
theorem ne_none_of_sets? {call : Call} {value : SlotValue} (hsets : call.sets? s = some value) :
    value ≠ .text none ∧ value ≠ .keywords none := by
  cases call <;> simp only [Call.sets?, Option.ite_none_right_eq_some, reduceCtorEq] at hsets
  -- What is left are the calls that set a slot.
  all_goals
    obtain ⟨_, hvalue⟩ := hsets
    obtain rfl := Option.some.inj hvalue
    simp

theorem kind_eq_dances_iff : s.kind = .dances ↔ s = .danceList := by
  cases s <;> decide

theorem kind_eq_keywords_iff : s.kind = .keywords ↔ s = .keyword := by
  cases s <;> decide

/-- Whether the conditions on a slot find a value of the kind that they look for. -/
def applies (f : SongFilter) (s : FilterSlot) : Bool :=
  match s.kind with
  | .number => (f.armedNumber? s).isSome
  | .text => (f.armedText? s).isSome
  | .dances => f.armedDances?.isSome
  | .keywords => f.armedKeywords?.isSome

/-- A slot asks for its value if and only if it is armed. -/
theorem armed?_eq (f : SongFilter) (s : FilterSlot) :
    f.armed? s = if f.isArmed s = true then some (f.slot s).value else none := rfl

/-- An armed slot is one that its conditions can use. -/
theorem applies_of_explicit {calls : List Call} (h : Explicit calls s (f.slot s)) :
    f.applies s = f.isArmed s := by
  unfold applies armedNumber? armedText?
  cases harmed : f.isArmed s with
  -- A slot that is not armed asks for nothing, whatever it holds.
  | false =>
    have hnone : f.armed? s = none := by rw [armed?_eq, harmed]; rfl
    cases hkind : s.kind with
    | number => simp [hnone]
    | text => simp [hnone]
    | dances =>
      obtain rfl := kind_eq_dances_iff.1 hkind
      simp [armedDances?, hnone]
    | keywords =>
      obtain rfl := kind_eq_keywords_iff.1 hkind
      simp [armedKeywords?, hnone]
  | true =>
    have hsome : f.armed? s = some (f.slot s).value := by rw [armed?_eq, harmed]; rfl
    -- The value has been put there, and is not one of those that stand for none.
    have hvalue : (f.slot s).value ≠ .text none ∧ (f.slot s).value ≠ .keywords none := by
      rcases h.source with hempty | ⟨_, call, _, _, hsets, _⟩
      · have harmed : (f.slot s).armed = true := harmed
        rw [hempty] at harmed
        cases harmed
      · exact ne_none_of_sets? hsets
    have hheld := h.kind
    -- The value is of the kind of the slot, so that it is one that the condition looks for.
    cases hkind : s.kind with
    | number =>
      rw [hsome]
      cases hv : (f.slot s).value <;> simp [hv, hkind, SlotValue.kind] at hheld ⊢
    | text =>
      rw [hsome]
      cases hv : (f.slot s).value with
      | text text? => cases text? <;> simp [hv] at hvalue ⊢
      | _ => simp [hv, hkind, SlotValue.kind] at hheld
    | dances =>
      obtain rfl := kind_eq_dances_iff.1 hkind
      rw [armedDances?, hsome]
      cases hv : (f.slot .danceList).value <;> simp [hv, hkind, SlotValue.kind] at hheld ⊢
    | keywords =>
      obtain rfl := kind_eq_keywords_iff.1 hkind
      rw [armedKeywords?, hsome]
      cases hv : (f.slot .keyword).value with
      | keywords words? => cases words? <;> simp [hv] at hvalue ⊢
      | _ => simp [hv, hkind, SlotValue.kind] at hheld

/-! ### Every sequence of calls -/

/-- What calls have made of the filter `f₀`. -/
structure Tracks (f₀ : SongFilter) (calls : List Call) (f : SongFilter) : Prop where
  /-- The filter need not run if and only if it has run and nothing has changed since. -/
  fresh : f.needsProcess = false ↔
    Since (fun _ call => call.isRun = true) (fun call => call.changes = false) calls
  /-- Until it has run it shows nothing. -/
  stale : f.needsProcess = true → f.count = 0 ∧ ∀ position, f.row? position = none
  /-- From then on it shows what the last run found. -/
  current : f.needsProcess = false →
    Since (RunShown f₀ f) (fun call => call.isRun = false ∧ call.changes = false) calls
  /-- A text is refused by a slot of another kind, and only there, and changes nothing. -/
  text : ∀ (s : FilterSlot) (text : String),
    if s.kind = .text then ∃ changed, f.setText s text = .ok changed
    else f.setText s text = .error (.invalidInput s.name
        ("expects a " ++ s.kind.name ++ " value, got " ++ SlotKind.text.name)) ∧
      (Call.setText s text).perform f = f
  /-- So is a number. -/
  number : ∀ (s : FilterSlot) (n : Int64),
    if s.kind = .number then ∃ changed, f.setNumber s n = .ok changed
    else f.setNumber s n = .error (.invalidInput s.name
        ("expects a " ++ s.kind.name ++ " value, got " ++ SlotKind.number.name)) ∧
      (Call.setNumber s n).perform f = f
  /-- A slot holds a value of its own kind. -/
  kind : ∀ s, (f.slot s).value.kind = s.kind
  /-- An armed slot holds the value that was last put into it, and it has not been cleared
  since. -/
  explicit : ∀ s, f.isArmed s = true →
    Since (fun _ call => call.sets? s = some (f.slot s).value) (Call.Spares s) calls
  /-- The conditions of a slot apply if and only if it is armed. -/
  applies : ∀ s, f.applies s = f.isArmed s

/-- A filter whose rows are current and whose slots are explicit is what the calls have made
of it. -/
theorem tracks_of_current {f₀ : SongFilter} {calls : List Call} (hcurrent : Current f₀ calls f)
    (hslots : ∀ s, Explicit calls s (f.slot s)) : Tracks f₀ calls f where
  fresh := by
    rw [← hcurrent.fresh_iff, needsProcess, Bool.not_eq_false']
  stale := by
    intro hneeds
    have hfresh : f.fresh = false := by simpa [needsProcess] using hneeds
    -- A filter that is not fresh shows no rows.
    simp [count, row?, hfresh]
  current := by
    intro hneeds
    exact hcurrent.shown (by simpa [needsProcess] using hneeds)
  text := by
    intro s text
    split
    · exact ⟨_, by rw [setText_eq, if_pos ‹_›]⟩
    · rename_i hkind
      exact ⟨by rw [setText_eq, if_neg hkind], perform_setText_of_ne hkind f text⟩
  number := by
    intro s n
    split
    · exact ⟨_, by rw [setNumber_eq, if_pos ‹_›]⟩
    · rename_i hkind
      exact ⟨by rw [setNumber_eq, if_neg hkind], perform_setNumber_of_ne hkind f n⟩
  kind s := (hslots s).kind
  explicit := by
    intro s harmed
    -- An armed slot is not empty, so that its value was set and not cleared since.
    rcases (hslots s).source with hempty | hsince
    · have harmed : (f.slot s).armed = true := harmed
      rw [hempty] at harmed
      cases harmed
    · exact hsince
  applies s := applies_of_explicit (hslots s)

/-- What calls in any order have made of a new filter. -/
theorem tracks_after (tables : Tables) (playlists? : Option PlaylistSource) (calls : List Call) :
    Tracks (new tables playlists?) calls ((new tables playlists?).after calls) := by
  have hinvariant : Current (new tables playlists?) calls ((new tables playlists?).after calls) ∧
      ∀ s, Explicit calls s (((new tables playlists?).after calls).slot s) := by
    -- By induction from the end, since what was called last decides.
    induction calls using List.reverseRecOn with
    | nil =>
      have hstale : ¬((new tables playlists?).after []).fresh = true := Bool.false_ne_true
      refine ⟨⟨iff_of_false hstale not_since_nil, fun hfresh => ?_⟩, fun s => ?_⟩
      · exact absurd hfresh hstale
      · exact ⟨kind_empty s.kind, .inl rfl⟩
    | append_singleton calls call ih =>
      refine ⟨ih.1.perform call, fun s => ?_⟩
      rw [after_concat]
      exact (ih.2 s).perform call
  exact tracks_of_current hinvariant.1 hinvariant.2

end SongFilter

end Ballroom
