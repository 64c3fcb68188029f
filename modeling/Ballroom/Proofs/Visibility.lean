import Ballroom.Proofs.Settings.Saving
import Ballroom.Service
import Mathlib.Data.List.Basic

/-!
# Showing and hiding categories

A category that is shown or hidden is so at once, and the display is saved afterwards.  So a
call that cannot save leaves the change in memory: the display is the one of the last call that
succeeded with the changes of the calls that failed since (`display_of_changes`), and the next
call that succeeds saves them along with its own.  Only a call that asks for what is shown
already leaves the display as it was when it fails (`not_kept_of_setVisible_error`).
-/

namespace Ballroom

/-- A display with several changes, one after the other. -/
def FilterDisplay.setAll (display : FilterDisplay) (changes : List (DisplayKey × Bool)) :
    FilterDisplay :=
  changes.foldl (fun display change => display.setVisible change.1 change.2) display

/-- A change is none if the category is so already. -/
theorem FilterDisplay.setVisible_eq_self_iff {display : FilterDisplay} {key : DisplayKey}
    {visible : Bool} : display.setVisible key visible = display ↔
      display.isVisible key = visible := by
  constructor
  · intro h
    rw [← h]
    simp [setVisible]
  · intro h
    obtain ⟨isVisible⟩ := display
    simp only [setVisible, FilterDisplay.mk.injEq]
    funext other
    -- The other categories are not touched in either case.
    by_cases hother : other = key
    · rw [if_pos hother, hother, ← h]
    · rw [if_neg hother]

namespace Service

variable {σ τ ω : Type} [SettingsStore τ ω] {key : DisplayKey} {visible : Bool}
  {s : Service σ τ} {w : ω} {t : Service σ τ × ω}

/-! ### One call -/

/-- The display is changed first, and then saved. -/
theorem setVisible_apply (key : DisplayKey) (visible : Bool) (s : Service σ τ) (w : ω) :
    setVisible key visible (s, w) =
      match (s.display.setVisible key visible).save (s.settings, w) with
      | .ok () u =>
        .ok () ({ s with display := s.display.setVisible key visible, settings := u.1 }, u.2)
      | .error stop u => .error (stop.map .library)
        ({ s with display := s.display.setVisible key visible, settings := u.1 }, u.2) := by
  simp only [setVisible, onSettings, Step.bind_apply, Step.modify_apply, Step.get_apply,
    Step.focus_apply]
  cases (s.display.setVisible key visible).save (s.settings, w) <;> rfl

/-- Whether a call succeeds or fails, it changes the display as it was asked to, and nothing
else but the settings. -/
theorem after_setVisible (key : DisplayKey) (visible : Bool) (s : Service σ τ) (w : ω) :
    ∃ settings w', (setVisible key visible).after (s, w) =
      ({ s with display := s.display.setVisible key visible, settings := settings }, w') := by
  unfold Step.after Step.outcome
  rw [setVisible_apply]
  cases (s.display.setVisible key visible).save (s.settings, w) with
  | ok _ u => exact ⟨u.1, u.2, rfl⟩
  | error stop u => exact ⟨u.1, u.2, rfl⟩

/-- A display that a call has saved is the one that the settings describe. -/
theorem load_of_setVisible (hfaithful : SettingsStore.Faithful τ ω)
    (h : setVisible key visible (s, w) = .ok () t) :
    FilterDisplay.load t.1.settings t.2 = .ok t.1.display := by
  rw [setVisible_apply] at h
  split at h
  · rename_i u hsave
    obtain ⟨_, rfl⟩ := EStateM.Result.ok.inj h
    exact FilterDisplay.load_of_describes (FilterDisplay.describes_of_save hfaithful hsave)
  · cases h

/-! ### Sequences of calls -/

/-- The service after some calls, whether they succeed or fail.  One that ends the program has
nothing after it. -/
def afterChanges (changes : List (DisplayKey × Bool)) (s : Service σ τ × ω) : Service σ τ × ω :=
  changes.foldl (fun s change => (setVisible change.1 change.2).next s) s

/-- The display of the last call that succeeded and the changes of the calls that failed since,
where `saved` and `failed` are those in front of the calls. -/
def unsaved (saved : FilterDisplay) (failed : List (DisplayKey × Bool)) :
    List (DisplayKey × Bool) → Service σ τ × ω → FilterDisplay × List (DisplayKey × Bool)
  | [], _ => (saved, failed)
  | (key, visible) :: rest, s =>
    match setVisible key visible s with
    | .ok () t => unsaved t.1.display [] rest t
    | .error (.fault _) t => unsaved saved (failed ++ [(key, visible)]) rest t
    | .error (.panic _) _ => unsaved saved failed rest s

/-- The changes of calls that failed stay until a call succeeds, and are then part of what it
has saved. -/
private theorem display_eq_unsaved {saved : FilterDisplay} {failed : List (DisplayKey × Bool)}
    (changes : List (DisplayKey × Bool)) (s : Service σ τ × ω)
    (h : s.1.display = saved.setAll failed) :
    (afterChanges changes s).1.display =
      (unsaved saved failed changes s).1.setAll (unsaved saved failed changes s).2 := by
  -- On the calls, with the changes that no call has saved yet.
  induction changes generalizing saved failed s with
  | nil => exact h
  | cons change rest ih =>
    obtain ⟨key, visible⟩ := change
    obtain ⟨s, w⟩ := s
    rw [afterChanges, List.foldl_cons, unsaved]
    rcases hcall : setVisible key visible (s, w) with ⟨_, t⟩ | ⟨cause | why, t⟩
    · rw [Step.next_of_ok hcall]
      -- The call has saved the whole display, so that nothing is left unsaved.
      exact ih t rfl
    · obtain ⟨settings, w', hafter⟩ := after_setVisible key visible s w
      rw [Step.after_of_error hcall] at hafter
      rw [Step.next_of_fault hcall]
      apply ih t
      -- A call that fails leaves its change behind those before it.
      rw [hafter, FilterDisplay.setAll, List.foldl_append]
      exact congrArg (FilterDisplay.setVisible · key visible) h
    · -- A panic ends the program where it was.
      rw [Step.next_of_panics ⟨why, t, hcall⟩]
      exact ih (s, w) h

/-- Whatever store of settings there is and whenever it fails: after a sequence of calls the
display in memory is the one of the last call that succeeded, or the one at the start, with the
changes of the calls that failed since.  A call that fails shows every other category as before,
leaves the library and the playlists, and leaves the whole display if and only if it asks for
what is shown already.  A call that succeeds has saved the display in memory, the changes of the
calls that failed before included. -/
theorem display_of_changes (changes : List (DisplayKey × Bool)) (s : Service σ τ) (w : ω) :
    (afterChanges changes (s, w)).1.display =
        (unsaved s.display [] changes (s, w)).1.setAll
          (unsaved s.display [] changes (s, w)).2 ∧
    (∀ key visible stop t,
      setVisible key visible (afterChanges changes (s, w)) = .error stop t →
        (t.1.display = (afterChanges changes (s, w)).1.display ↔
          (afterChanges changes (s, w)).1.display.isVisible key = visible) ∧
        (∀ other, other ≠ key → t.1.display.isVisible other =
          (afterChanges changes (s, w)).1.display.isVisible other) ∧
        t.1.library = (afterChanges changes (s, w)).1.library ∧
        t.1.playlists? = (afterChanges changes (s, w)).1.playlists?) ∧
    (SettingsStore.Faithful τ ω → ∀ key visible t,
      setVisible key visible (afterChanges changes (s, w)) = .ok () t →
        FilterDisplay.load t.1.settings t.2 = .ok t.1.display) := by
  refine ⟨display_eq_unsaved changes (s, w) rfl, ?_, ?_⟩
  · intro key visible stop t herror
    obtain ⟨settings, w', hafter⟩ := after_setVisible key visible
      (afterChanges changes (s, w)).1 (afterChanges changes (s, w)).2
    obtain rfl := (Step.after_of_error herror).symm.trans hafter
    refine ⟨FilterDisplay.setVisible_eq_self_iff, ?_, rfl, rfl⟩
    intro other hother
    exact if_neg hother
  · intro hfaithful key visible t hok
    exact load_of_setVisible hfaithful hok

/-! ### Settings in files -/

/-- A service without songs whose settings are kept in a file. -/
private def fileService (path : String) (values : Json.Members) (dirty : Bool)
    (display : FilterDisplay) : Service SlotFile FileSettings where
  library := .empty ⟨{}, "db", 10, false⟩ .standard
  settings := ⟨some path, values, dirty⟩
  display := display

/-- A call sets the keys of the display and flushes them. -/
private theorem setVisible_fileService (path : String) (key : DisplayKey) (visible : Bool)
    (values : Json.Members) (dirty : Bool) (display : FilterDisplay) (disk : Disk) :
    ∃ values', setVisible key visible (fileService path values dirty display, disk) =
      match FileSettings.flush (⟨some path, values', true⟩, disk) with
      | .ok () u => .ok ()
        ({ fileService path values dirty (display.setVisible key visible) with
            settings := u.1 }, u.2)
      | .error stop u => .error ((stop.map .host).map .library)
        ({ fileService path values dirty (display.setVisible key visible) with
            settings := u.1 }, u.2) := by
  have hentries : (display.setVisible key visible).entries ≠ [] := by
    simp [FilterDisplay.entries, DisplayKey.all]
  obtain ⟨told, htold⟩ : ∃ told, told = (fileService path values dirty display).settings.setKeys
      (display.setVisible key visible).entries := ⟨_, rfl⟩
  have hpath : told.path? = some path := by
    rw [htold, FileSettings.path?_setKeys]
    rfl
  -- A display has categories, so that something is set and the file is to be written.
  have hdirty : told.dirty = true := by
    rw [htold]
    exact FileSettings.dirty_setKeys _ (.inr hentries)
  refine ⟨told.values, ?_⟩
  rw [setVisible_apply]
  simp only [show (fileService path values dirty display).display = display from rfl,
    FileSettings.save_apply, ← htold]
  obtain ⟨path?, values', dirty'⟩ := told
  obtain rfl : path? = some path := hpath
  obtain rfl : dirty' = true := hdirty
  cases FileSettings.flush (⟨some path, values', true⟩, disk) <;> rfl

/-- A disk with a file where the directory of the settings should be. -/
private def blockedDisk : Disk :=
  Disk.empty.put ["home", "library", "conf"] (.file .empty)

/-- The directory of the file cannot be made, because there is a file of its name. -/
private theorem makeParents_blocked :
    blockedDisk.makeParents "conf/settings.json" = (.error .alreadyExists, blockedDisk) := by
  have hparent : Path.parent? "conf/settings.json" = some "conf" := by decide +kernel
  have hupper : Path.parent? "conf" = some "" := by decide +kernel
  have hroute : Disk.route "conf" = .ok (Disk.workingDirectory, ["conf"]) := by decide +kernel
  have hname : Text.size "conf" = 4 := by decide +kernel
  -- The directory cannot be made, and what stands in its place is none.
  have hmake : blockedDisk.makeDirectory "conf" = .error .alreadyExists := by
    simp [Disk.makeDirectory, Disk.locateNew, hroute, Except.bind, Disk.unclosed, blockedDisk,
      Disk.follow, Disk.enter, Disk.entryAt_put, Disk.entryAt_empty, Disk.workingDirectory, hname,
      Disk.maxNameSize]
  have hleads : blockedDisk.leadsToDirectory "conf" = false := by
    simp [Disk.leadsToDirectory, Disk.stat, Disk.locate, hroute, Except.bind, blockedDisk,
      Disk.follow, Disk.enter, Disk.entryAt_put, Disk.entryAt_empty, Disk.workingDirectory, hname,
      Disk.maxNameSize]
  simp [Disk.makeParents, hparent, Disk.makeDirectories, hmake, hupper, hleads]

/-- Every change to a service whose settings cannot be flushed fails. -/
private theorem setVisible_blocked (key : DisplayKey) (visible : Bool) (values : Json.Members)
    (dirty : Bool) (display : FilterDisplay) :
    ∃ values', setVisible key visible
        (fileService "conf/settings.json" values dirty display, blockedDisk) =
      .error (.fault (.library (.host (.disk .alreadyExists))))
        (fileService "conf/settings.json" values' true (display.setVisible key visible),
          blockedDisk) := by
  obtain ⟨values', hcall⟩ :=
    setVisible_fileService "conf/settings.json" key visible values dirty display blockedDisk
  refine ⟨values', hcall.trans ?_⟩
  simp [FileSettings.flush, makeParents_blocked, fileService, Stop.map]

/-- A disk with a file of settings. -/
private def settingsDisk (content : Content) : Disk :=
  Disk.empty.put ["home", "library", "conf"] (.file content)

/-- Every change to a service whose settings can be flushed succeeds. -/
private theorem setVisible_flushed (key : DisplayKey) (visible : Bool) (values : Json.Members)
    (dirty : Bool) (display : FilterDisplay) (content : Content) :
    ∃ values' content', setVisible key visible
        (fileService "conf" values dirty display, settingsDisk content) =
      .ok () (fileService "conf" values' false (display.setVisible key visible),
        settingsDisk content') := by
  have hparent : Path.parent? "conf" = some "" := by decide +kernel
  have hroute : Disk.route "conf" = .ok (Disk.workingDirectory, ["conf"]) := by decide +kernel
  have hname : Text.size "conf" = 4 := by decide +kernel
  -- The parent of the file is the working directory, which is there.
  have hmade : (settingsDisk content).makeParents "conf" = (.ok (), settingsDisk content) := by
    rw [Disk.makeParents, hparent]
    rfl
  have hopen : (settingsDisk content).openFile "conf" =
      (.ok ["home", "library", "conf"], settingsDisk content) := by
    simp [Disk.openFile, hroute, settingsDisk, Disk.follow, Disk.enter, Disk.entryAt_put,
      Disk.entryAt_empty, Disk.workingDirectory, hname, Disk.maxNameSize]
  -- Of the file only the content changes.
  have hput : ∀ written, (settingsDisk content).put ["home", "library", "conf"] (.file written) =
      settingsDisk written :=
    fun _ => Disk.put_put _ _ _ _
  obtain ⟨values', hcall⟩ :=
    setVisible_fileService "conf" key visible values dirty display (settingsDisk content)
  refine ⟨values', .ofBytes (Text.bytes (FileSettings.text ⟨some "conf", values', true⟩)),
    hcall.trans ?_⟩
  simp [FileSettings.flush, hmade, Disk.writeFile, hopen, hput, fileService]

/-- Two calls that fail: the second leaves the change of the first.  And two that succeed: what
the settings say then is what both have changed. -/
theorem display_of_changes_blocked :
    (∃ cause t,
      setVisible .genre true (afterChanges [(.dance, false)]
        (fileService "conf/settings.json" [] false .default, blockedDisk)) =
          .error (.fault cause) t ∧
      t.1.display.isVisible .dance =
        (afterChanges [(.dance, false)]
          (fileService "conf/settings.json" [] false .default,
            blockedDisk)).1.display.isVisible .dance) ∧
    ∃ t,
      setVisible .genre true (afterChanges [(.dance, false)]
        (fileService "conf" [] false .default, settingsDisk .empty)) = .ok () t ∧
      FilterDisplay.load t.1.settings t.2 =
        .ok ((FilterDisplay.default.setVisible .dance false).setVisible .genre true) := by
  constructor
  · -- The first call fails, and its change stays.
    obtain ⟨values, hfirst⟩ := setVisible_blocked .dance false [] false .default
    have hafter : afterChanges [(.dance, false)]
          (fileService "conf/settings.json" [] false .default, blockedDisk) =
        (fileService "conf/settings.json" values true
          (FilterDisplay.default.setVisible .dance false), blockedDisk) :=
      Step.next_of_fault hfirst
    obtain ⟨values', hsecond⟩ := setVisible_blocked .genre true values true
      (FilterDisplay.default.setVisible .dance false)
    rw [← hafter] at hsecond
    obtain ⟨_, hfailed, _⟩ := display_of_changes [(.dance, false)]
      (fileService "conf/settings.json" [] false .default) blockedDisk
    obtain ⟨_, hothers, _⟩ := hfailed _ _ _ _ hsecond
    exact ⟨_, _, hsecond, hothers .dance (by decide)⟩
  · obtain ⟨values, content, hfirst⟩ := setVisible_flushed .dance false [] false .default .empty
    have hafter : afterChanges [(.dance, false)]
          (fileService "conf" [] false .default, settingsDisk .empty) =
        (fileService "conf" values false (FilterDisplay.default.setVisible .dance false),
          settingsDisk content) :=
      Step.next_of_ok hfirst
    obtain ⟨values', content', hsecond⟩ := setVisible_flushed .genre true values false
      (FilterDisplay.default.setVisible .dance false) content
    rw [← hafter] at hsecond
    -- What both calls have changed is what the file says.
    obtain ⟨_, _, hsaved⟩ := display_of_changes [(.dance, false)]
      (fileService "conf" [] false .default) (settingsDisk .empty)
    exact ⟨_, hsecond, hsaved FileSettings.faithful _ _ _ hsecond⟩

/-- A call that fails does not always leave the display as it was: the genre is shown afterwards,
although the settings could not be flushed. -/
theorem not_kept_of_setVisible_error :
    ¬∀ (s : Service SlotFile FileSettings) (disk : Disk) (key : DisplayKey) (visible : Bool)
      (cause : ServiceFault) (t : Service SlotFile FileSettings × Disk),
      setVisible key visible (s, disk) = .error (.fault cause) t →
        ∀ k, t.1.display.isVisible k = s.display.isVisible k := by
  intro hkept
  obtain ⟨values, herror⟩ := setVisible_blocked .genre true [] false .default
  have hgenre : true = false := hkept _ _ _ _ _ _ herror .genre
  cases hgenre

end Service

end Ballroom
