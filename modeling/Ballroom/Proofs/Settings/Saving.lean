import Ballroom.Proofs.Step
import Ballroom.Settings.File

/-!
# Saving a display

A display that was saved is the one that the settings describe (`load_of_save`), in any
settings that answer what they were told and that flushing leaves as they are (`Faithful`).
Settings in a file are such.
-/

namespace Ballroom

variable {τ ω : Type} [SettingsStore τ ω]

/-- Settings that answer for each key what they were told last. -/
structure SettingsStore.Faithful (τ ω : Type) [SettingsStore τ ω] : Prop where
  getBool_setBool : ∀ {key : String} {value : Bool} {s t : τ × ω},
    SettingsStore.setBool key value s = .ok () t →
      SettingsStore.getBool t.1 t.2 key = .ok (some value)
  getBool_setBool_of_ne : ∀ {key other : String} {value : Bool} {s t : τ × ω}, other ≠ key →
    SettingsStore.setBool key value s = .ok () t →
      SettingsStore.getBool t.1 t.2 other = SettingsStore.getBool s.1 s.2 other
  getBool_flush : ∀ {s t : τ × ω}, SettingsStore.flush s = .ok () t →
    ∀ key, SettingsStore.getBool t.1 t.2 key = SettingsStore.getBool s.1 s.2 key

/-- Each category has a key of its own in the settings. -/
theorem DisplayKey.settingsKey_injective {a b : DisplayKey} (h : a.settingsKey = b.settingsKey) :
    a = b := by
  revert h
  cases a <;> cases b <;> decide

namespace FilterDisplay

/-- The settings say of every category whether it is shown, as the display does. -/
def Describes (settings : τ) (w : ω) (display : FilterDisplay) : Prop :=
  ∀ key : DisplayKey,
    SettingsStore.getBool settings w key.settingsKey = .ok (some (display.isVisible key))

/-- Categories that have been read are as the settings say, and the others as before. -/
private theorem readKeys_of_describes {settings : τ} {w : ω} {display : FilterDisplay}
    (h : Describes settings w display) (keys : List DisplayKey) (shown : FilterDisplay) :
    readKeys settings w keys shown =
      .ok ⟨fun key => if key ∈ keys then display.isVisible key else shown.isVisible key⟩ := by
  -- On the categories that are still to be read, with what is shown so far.
  induction keys generalizing shown with
  | nil => simp [readKeys]
  | cons key rest ih =>
    rw [readKeys, h key]
    simp only [ih, Except.ok.injEq, FilterDisplay.mk.injEq]
    funext other
    by_cases hother : other = key
    · simp [hother, setVisible]
    · simp [hother, setVisible]

/-- Settings that describe a display are loaded as it. -/
theorem load_of_describes {settings : τ} {w : ω} {display : FilterDisplay}
    (h : Describes settings w display) : load settings w = .ok display := by
  rw [load, readKeys_of_describes h]
  simp [DisplayKey.mem_all]

/-- Keys that have been written have their values, and the others the ones they had. -/
private theorem getBool_of_writeKeys (hfaithful : SettingsStore.Faithful τ ω)
    {entries : List (DisplayKey × Bool)} (hnodup : (entries.map Prod.fst).Nodup) {s t : τ × ω}
    (hwrite : writeKeys entries s = .ok () t) :
    (∀ entry ∈ entries,
      SettingsStore.getBool t.1 t.2 entry.1.settingsKey = .ok (some entry.2)) ∧
    ∀ key : String, (∀ entry ∈ entries, key ≠ entry.1.settingsKey) →
      SettingsStore.getBool t.1 t.2 key = SettingsStore.getBool s.1 s.2 key := by
  induction entries generalizing s with
  | nil =>
    obtain ⟨_, rfl⟩ := EStateM.Result.ok.inj hwrite
    simp
  | cons entry rest ih =>
    obtain ⟨key, visible⟩ := entry
    rw [List.map_cons, List.nodup_cons] at hnodup
    obtain ⟨_, u, hset, hrest⟩ := Step.bind_eq_ok_iff.1 hwrite
    obtain ⟨hlater, hothers⟩ := ih hnodup.2 hrest
    -- No later entry is for the key that was written first.
    have hfirst : ∀ entry ∈ rest, key.settingsKey ≠ entry.1.settingsKey := by
      intro entry hentry hsame
      have hkey : key = entry.1 := DisplayKey.settingsKey_injective hsame
      exact hnodup.1 (List.mem_map.2 ⟨entry, hentry, hkey.symm⟩)
    constructor
    · intro entry hentry
      cases hentry with
      -- What was written first is not touched by the later entries.
      | head => rw [hothers _ hfirst, hfaithful.getBool_setBool hset]
      | tail _ hentry => exact hlater entry hentry
    · intro other hother
      rw [hothers other fun entry hentry => hother entry (List.mem_cons_of_mem _ hentry)]
      exact hfaithful.getBool_setBool_of_ne (hother _ List.mem_cons_self) hset

/-- Every category is written with the value that it has. -/
theorem mem_entries (display : FilterDisplay) (key : DisplayKey) :
    (key, display.isVisible key) ∈ display.entries :=
  List.mem_map.2 ⟨key, key.mem_all, rfl⟩

/-- No category is written twice. -/
theorem nodup_entries (display : FilterDisplay) : (display.entries.map Prod.fst).Nodup := by
  rw [entries, List.map_map]
  exact (by decide : (DisplayKey.all.map id).Nodup)

/-- A display is saved when all of it has been written and flushed. -/
theorem save_eq_ok_iff {display : FilterDisplay} {s t : τ × ω} :
    display.save s = .ok () t ↔
      ∃ u, writeKeys display.entries s = .ok () u ∧ SettingsStore.flush u = .ok () t := by
  rw [save, Step.focus_apply]
  have hbind := @Step.bind_eq_ok_iff _ _ _ _ (writeKeys display.entries)
    (fun _ => (SettingsStore.flush : HostStep τ ω Unit)) (id s) t ()
  constructor
  · intro h
    split at h
    · rename_i hsteps
      obtain ⟨_, rfl⟩ := EStateM.Result.ok.inj h
      -- Both steps have succeeded, since a failure of either is that of the saving.
      obtain ⟨_, u, hwrite, hflush⟩ := hbind.1 hsteps
      exact ⟨u, hwrite, hflush⟩
    · cases h
  · rintro ⟨u, hwrite, hflush⟩
    rw [hbind.2 ⟨(), u, hwrite, hflush⟩]

/-- Settings in which a display was saved describe it. -/
theorem describes_of_save (hfaithful : SettingsStore.Faithful τ ω) {display : FilterDisplay}
    {s t : τ × ω} (hsave : display.save s = .ok () t) : Describes t.1 t.2 display := by
  obtain ⟨u, hwrite, hflush⟩ := save_eq_ok_iff.1 hsave
  obtain ⟨hwritten, _⟩ := getBool_of_writeKeys hfaithful display.nodup_entries hwrite
  intro key
  rw [hfaithful.getBool_flush hflush]
  exact hwritten _ (display.mem_entries key)

end FilterDisplay

/-! ### Settings in a file -/

namespace FileSettings

/-- The truth value that a member of the file stands for. -/
theorem getBool_eq_of_get? {s t : FileSettings} {key : String}
    (h : Json.Members.get? key s.values = Json.Members.get? key t.values) :
    s.getBool key = t.getBool key := by
  unfold getBool
  rw [h]

/-- A truth value that was set is read. -/
theorem getBool_setBool_self (s : FileSettings) (key : String) (value : Bool) :
    (s.setBool key value).getBool key = .ok (some value) := by
  simp [getBool, setBool]

/-- Settings without changes are not written. -/
theorem flush_of_clean {s : FileSettings} (h : s.dirty = false) (disk : Disk) :
    flush (s, disk) = .ok () (s, disk) := by
  obtain ⟨path?, values, dirty⟩ := s
  obtain rfl : dirty = false := h
  cases path? with
  | none => rfl
  | some path => rfl

/-- Changes that have been flushed are in the file. -/
theorem flush_of_dirty {s : FileSettings} {disk : Disk} {path : String}
    {t : FileSettings × Disk} (hpath : s.path? = some path) (hdirty : s.dirty = true)
    (h : flush (s, disk) = .ok () t) :
    t.1 = { s with dirty := false } ∧ ∃ made, disk.makeParents path = (.ok (), made) ∧
      made.writeFile path (.ofBytes (Text.bytes s.text)) = (.ok (), t.2) := by
  obtain ⟨path?, values, dirty⟩ := s
  obtain rfl : path? = some path := hpath
  obtain rfl : dirty = true := hdirty
  simp only [flush, Bool.not_true, Bool.false_eq_true, if_false] at h
  -- Neither step has failed, or the flush would have.
  rcases hmade : disk.makeParents path with ⟨_ | _, made⟩
  · simp [hmade] at h
  rcases hwrite : made.writeFile path (.ofBytes (Text.bytes (text ⟨some path, values, true⟩)))
    with ⟨_ | _, there⟩
  · simp [hmade, hwrite] at h
  · simp only [hmade, hwrite, EStateM.Result.ok.injEq, true_and] at h
    rw [← h]
    exact ⟨rfl, made, rfl, hwrite⟩

/-- Changes that could not be flushed stay, and are known as such. -/
theorem eq_of_flush_error {s t : FileSettings × Disk} {stop : Stop HostFault}
    (h : flush s = .error stop t) : t.1 = s.1 ∧ s.1.dirty = true := by
  obtain ⟨⟨path?, values, dirty⟩, disk⟩ := s
  -- Only a file with changes is written, and so can fail.
  cases path? with
  | none => cases h
  | some path =>
    cases dirty with
    | false => cases h
    | true =>
      simp only [flush, Bool.not_true, Bool.false_eq_true, if_false] at h
      rcases hmade : disk.makeParents path with ⟨_ | _, made⟩
      · simp only [hmade, EStateM.Result.error.injEq] at h
        rw [← h.2]
        exact ⟨rfl, rfl⟩
      rcases hwrite : made.writeFile path (.ofBytes (Text.bytes (text ⟨some path, values, true⟩)))
        with ⟨_ | _, there⟩
      · simp only [hmade, hwrite, EStateM.Result.error.injEq] at h
        rw [← h.2]
        exact ⟨rfl, rfl⟩
      · simp [hmade, hwrite] at h

/-- Settings in memory only have nothing to write. -/
theorem flush_of_memory {s : FileSettings} (h : s.path? = none) (disk : Disk) :
    flush (s, disk) = .ok () ({ s with dirty := false }, disk) := by
  simp only [flush, h]

/-- Whether or not the file can be written, flushing changes at most whether there are changes
left. -/
theorem after_flush (s : FileSettings × Disk) :
    (flush.after s).1 = s.1 ∨ (flush.after s).1 = { s.1 with dirty := false } := by
  obtain ⟨s, disk⟩ := s
  cases hflush : flush (s, disk) with
  | error stop t =>
    rw [Step.after_of_error hflush]
    exact .inl (eq_of_flush_error hflush).1
  | ok _ t =>
    rw [Step.after_of_ok hflush]
    -- Settings in memory count as saved at once, those with a file once it is written.
    cases hpath : s.path? with
    | none =>
      rw [flush_of_memory hpath] at hflush
      obtain ⟨_, rfl⟩ := EStateM.Result.ok.inj hflush
      exact .inr rfl
    | some path =>
      cases hdirty : s.dirty with
      | false =>
        rw [flush_of_clean hdirty] at hflush
        obtain ⟨_, rfl⟩ := EStateM.Result.ok.inj hflush
        exact .inl rfl
      | true => exact .inr (flush_of_dirty hpath hdirty hflush).1

/-- Flushing keeps the values. -/
theorem values_flush (s : FileSettings × Disk) : (flush.after s).1.values = s.1.values := by
  cases after_flush s with
  | inl hsame => rw [hsame]
  | inr hclean => rw [hclean]

/-- Settings with several truth values set, one after the other. -/
def setKeys (s : FileSettings) (entries : List (DisplayKey × Bool)) : FileSettings :=
  entries.foldl (fun s entry => s.setBool entry.1.settingsKey entry.2) s

/-- Setting values does not change the file. -/
theorem path?_setKeys (s : FileSettings) (entries : List (DisplayKey × Bool)) :
    (s.setKeys entries).path? = s.path? := by
  induction entries generalizing s with
  | nil => rfl
  | cons entry rest ih => exact ih _

/-- Once a value was set there are changes to flush. -/
theorem dirty_setKeys (s : FileSettings) {entries : List (DisplayKey × Bool)}
    (h : s.dirty = true ∨ entries ≠ []) : (s.setKeys entries).dirty = true := by
  induction entries generalizing s with
  | nil => exact h.resolve_right fun hne => hne rfl
  | cons entry rest ih => exact ih _ (.inl rfl)

/-- Setting truth values never fails. -/
theorem writeKeys_apply (entries : List (DisplayKey × Bool)) (s : FileSettings) (disk : Disk) :
    FilterDisplay.writeKeys entries (s, disk) = .ok () (s.setKeys entries, disk) := by
  induction entries generalizing s with
  | nil => rfl
  | cons entry rest ih => exact ih _

/-- Saving a display sets all of its keys, and fails if and only if flushing does. -/
theorem save_apply (display : FilterDisplay) (s : FileSettings) (disk : Disk) :
    display.save (s, disk) =
      match flush (s.setKeys display.entries, disk) with
      | .ok () t => .ok () t
      | .error stop t => .error (stop.map .host) t := by
  simp only [FilterDisplay.save, Step.focus_apply, Step.bind_apply, id_eq, writeKeys_apply,
    show (SettingsStore.flush : HostStep FileSettings Disk Unit) = flush from rfl]
  cases flush (s.setKeys display.entries, disk) <;> rfl

/-- Settings in memory or in a file hold the truth values that were set, also when flushed.
-/
theorem faithful : SettingsStore.Faithful FileSettings Disk where
  getBool_setBool := by
    intro key value s t hset
    obtain ⟨_, rfl⟩ := EStateM.Result.ok.inj hset
    exact getBool_setBool_self s.1 key value
  getBool_setBool_of_ne := by
    intro key other value s t hne hset
    obtain ⟨_, rfl⟩ := EStateM.Result.ok.inj hset
    exact getBool_eq_of_get? (Json.Members.get?_insert_of_ne _ _ hne)
  getBool_flush := by
    intro s t hflush key
    have hvalues := values_flush s
    rw [show flush.after s = t from Step.after_of_ok hflush] at hvalues
    exact getBool_eq_of_get? (by rw [hvalues])

end FileSettings

end Ballroom
