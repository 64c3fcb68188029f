import Ballroom.Proofs.Disk.Paths
import Ballroom.Proofs.Json.RoundTrip
import Ballroom.Proofs.Settings.Saving
import Ballroom.Proofs.Text.Bytes
import Mathlib.Data.List.Basic

/-!
# Settings after a restart

Settings that are read from a file, changed and flushed by any calls, and then read again
(`reopened_of_ran`).  What carries the proof is that the settings in memory are those of the
file at the start with what they were told since (`Tracks`), and that they are in the file
whenever they are not marked as changed.
-/

namespace Ballroom

/-- A call to settings. -/
inductive SettingsCall where
  | setBool (key : String) (value : Bool)
  | flush
  | save (display : FilterDisplay)

namespace SettingsCall

/-- What a call does to settings in a file. -/
def perform : SettingsCall → Step LibraryFault (FileSettings × Disk) Unit
  | setBool key value =>
    Step.focus id (fun _ t => t) LibraryFault.host (SettingsStore.setBool key value)
  | flush => Step.focus id (fun _ t => t) LibraryFault.host SettingsStore.flush
  | save display => display.save

/-- The truth values that a call sets, the last one first. -/
def told : SettingsCall → List (String × Bool)
  | setBool key value => [(key, value)]
  | flush => []
  | save display => display.entries.reverse.map fun entry => (entry.1.settingsKey, entry.2)

end SettingsCall

/-- Calls and whether they succeeded, the last one first. -/
abbrev SettingsHistory := List (SettingsCall × Bool)

namespace SettingsHistory

/-- The truth values that were set, the last one first. -/
def told (history : SettingsHistory) : List (String × Bool) :=
  history.flatMap fun call => call.1.told

/-- The last truth value that a key was set to. -/
def lastSet? (key : String) (history : SettingsHistory) : Option Bool := history.told.lookup key

/-- Whether a truth value was set since the settings were last flushed. -/
def changed : SettingsHistory → Bool
  | [] => false
  | (.setBool _ _, _) :: _ => true
  | (.flush, true) :: _ => false
  | (.flush, false) :: history => changed history
  | (.save _, succeeded) :: _ => !succeeded

end SettingsHistory

namespace FileSettings

variable {path : String} {values : Json.Members}

/-- What the file at a path holds: no settings if there is no file, or else one JSON object. -/
inductive Holds (path : String) (disk : Disk) : Json.Members → Prop
  | absent (h : disk.pathExists path ≠ .ok true) : Holds path disk []
  | file {content : Content} {text : String} {values : Json.Members}
      (hfetch : disk.fetch path = .ok content) (htext : content.toBytes = Text.bytes text)
      (hparse : Json.parse text = .ok (.object values)) : Holds path disk values

/-- The states that calls lead to.  Between two calls others may change the disk, but not the
file of the settings. -/
inductive Ran (path : String) (start : FileSettings × Disk) :
    SettingsHistory → FileSettings × Disk → Prop
  | start : Ran path start [] start
  | succeeded {history : SettingsHistory} {call : SettingsCall} {s t : FileSettings × Disk}
      (h : Ran path start history s) (hcall : call.perform s = .ok () t) :
      Ran path start ((call, true) :: history) t
  | failed {history : SettingsHistory} {call : SettingsCall} {fault : LibraryFault}
      {s t : FileSettings × Disk} (h : Ran path start history s)
      (hcall : call.perform s = .error (.fault fault) t) :
      Ran path start ((call, false) :: history) t
  | others {history : SettingsHistory} {s : FileSettings × Disk} {disk : Disk}
      (h : Ran path start history s) (hfetch : disk.fetch path = s.2.fetch path)
      (hexists : disk.pathExists path = s.2.pathExists path) :
      Ran path start history (s.1, disk)

/-! ### Files of settings -/

/-- Settings are opened with the values that the file holds, and without changes. -/
theorem openAt_of_holds {disk : Disk} (h : Holds path disk values) :
    openAt path disk = .ok ⟨some path, values, false⟩ := by
  unfold openAt
  cases h with
  | absent h =>
    split
    · rename_i hexists
      exact absurd hexists h
    · rfl
  | @file content text _ hfetch htext hparse =>
    -- What can be fetched exists.
    have hexists : disk.pathExists path = .ok true := by
      unfold Disk.fetch at hfetch
      unfold Disk.pathExists
      split at hfetch
      · cases hfetch
      · cases hfetch
      · rename_i hstat
        rw [hstat]
    have hdecode : Text.Utf8.decode content.toBytes = .ok text :=
      Text.Utf8.decode_eq_ok_iff.2 htext
    simp only [hexists, hfetch, hdecode, hparse]

/-- Only the file of the settings is looked at. -/
theorem openAt_congr {a b : Disk} (hfetch : a.fetch path = b.fetch path)
    (hexists : a.pathExists path = b.pathExists path) : openAt path a = openAt path b := by
  unfold openAt
  rw [hfetch, hexists]

/-- Changes that have been flushed are read again. -/
theorem openAt_of_flush {s : FileSettings × Disk} {t : FileSettings × Disk}
    (hpath : s.1.path? = some path) (hdirty : s.1.dirty = true)
    (hback : Json.ReadsBack (.object s.1.values)) (h : flush s = .ok () t) :
    openAt path t.2 = .ok t.1 := by
  obtain ⟨ht, made, hmade, hwrite⟩ := flush_of_dirty hpath hdirty h
  obtain ⟨place, hstat⟩ := Disk.stat_of_writeFile hmade hwrite
  have hfetch : t.2.fetch path = .ok (.ofBytes (Text.bytes s.1.text)) := by
    rw [Disk.fetch, hstat]
  rw [openAt_of_holds (.file hfetch (Content.toBytes_ofBytes _) hback), ht, ← hpath]

/-! ### Settings in memory -/

/-- The settings are those of the file at the start with what they were told since, and are in
the file unless they were changed. -/
structure Tracks (path : String) (values : Json.Members) (told : List (String × Bool))
    (changed : Bool) (s : FileSettings × Disk) : Prop where
  path? : s.1.path? = some path
  canonical : Json.Canonical (Json.depthLimit - 1) (.object s.1.values)
  floating : ∀ x, Json.HasFloating x (.object s.1.values) → Json.HasFloating x (.object values)
  get? : ∀ key, Json.Members.get? key s.1.values =
    ((told.lookup key).map Json.bool).or (Json.Members.get? key values)
  dirty : s.1.dirty = changed
  clean : changed = false → openAt path s.2 = .ok s.1

variable {told : List (String × Bool)} {changed : Bool} {s t : FileSettings × Disk}

/-- The settings as they have been read. -/
theorem tracks_of_holds {disk : Disk} (h : Holds path disk values) :
    Tracks path values [] false (⟨some path, values, false⟩, disk) where
  path? := rfl
  canonical := by
    cases h with
    | absent => exact .object List.Pairwise.nil nofun
    | file _ _ hparse => exact Json.canonical_of_parse hparse
  floating _ hx := hx
  get? _ := rfl
  dirty := rfl
  clean _ := openAt_of_holds h

/-- A truth value is one more thing that the settings were told. -/
theorem Tracks.setBool (h : Tracks path values told changed s) (key : String) (value : Bool) :
    Tracks path values ((key, value) :: told) true (s.1.setBool key value, s.2) where
  path? := h.path?
  canonical := by
    cases h.canonical with
    | object hsorted hms =>
      refine .object hsorted.insert fun m hm => ?_
      -- The new member is a truth value, which is canonical without depth.
      cases Json.Members.mem_insert hm with
      | inl hnew => rw [hnew]; exact .bool value
      | inr hold => exact hms m hold
  floating := by
    intro x hx
    apply h.floating x
    -- A truth value brings no floating-point number in.
    cases hx with
    | member hm hx =>
      cases Json.Members.mem_insert hm with
      | inl hnew => rw [hnew] at hx; cases hx
      | inr hold => exact .member hold hx
  get? := by
    intro other
    by_cases hother : other = key
    · subst hother
      simp [FileSettings.setBool]
    · have hkey : (other == key) = false := by simpa using hother
      rw [List.lookup_cons, hkey, ← h.get? other]
      exact Json.Members.get?_insert_of_ne _ _ hother
  dirty := rfl
  clean := nofun

/-- What the settings were told by a display comes in its order. -/
theorem Tracks.setKeys (h : Tracks path values told true s)
    (entries : List (DisplayKey × Bool)) :
    Tracks path values
      ((entries.reverse.map fun entry => (entry.1.settingsKey, entry.2)) ++ told) true
      (s.1.setKeys entries, s.2) := by
  -- The entries are told one after the other, so that the last one told is the first of the
  -- list.
  induction entries generalizing told s with
  | nil => exact h
  | cons entry rest ih =>
    have hrest := ih (h.setBool entry.1.settingsKey entry.2)
    rw [List.reverse_cons, List.map_append, List.append_assoc]
    exact hrest

/-- Settings that have been flushed are in the file. -/
theorem Tracks.flush_ok (h : Tracks path values told changed s)
    (hfloating : ∀ x, Json.HasFloating x (.object values) →
      Json.ReadsBack (.number (.floating x))) (hflush : flush s = .ok () t) :
    Tracks path values told false t := by
  -- Without changes nothing is written, and with them the whole text is.
  cases hdirty : s.1.dirty with
  | false =>
    rw [flush_of_clean hdirty] at hflush
    obtain ⟨_, rfl⟩ := EStateM.Result.ok.inj hflush
    rw [h.dirty] at hdirty
    exact hdirty ▸ h
  | true =>
    -- The file did not hold more floating-point numbers than at the start.
    have hback : Json.ReadsBack (.object s.1.values) :=
      Json.readsBack_of_canonical h.canonical fun x hx => hfloating x (h.floating x hx)
    have hopen := openAt_of_flush h.path? hdirty hback hflush
    obtain ⟨ht, _⟩ := flush_of_dirty h.path? hdirty hflush
    constructor
    · rw [ht]; exact h.path?
    · rw [ht]; exact h.canonical
    · rw [ht]; exact h.floating
    · rw [ht]; exact h.get?
    · rw [ht]
    · exact fun _ => hopen

/-- Settings that could not be flushed are as before, and were changed. -/
theorem Tracks.flush_error {stop : Stop HostFault} (h : Tracks path values told changed s)
    (hflush : flush s = .error stop t) :
    changed = true ∧ Tracks path values told true t := by
  obtain ⟨ht, hdirty⟩ := eq_of_flush_error hflush
  obtain rfl : changed = true := h.dirty.symm.trans hdirty
  exact ⟨rfl, ht ▸ h.path?, ht ▸ h.canonical, ht ▸ h.floating, ht ▸ h.get?, ht ▸ h.dirty, nofun⟩

/-! ### Calls -/

/-- The call of a flush is the flush, with its faults as those of the library. -/
theorem perform_flush (s : FileSettings × Disk) :
    SettingsCall.flush.perform s =
      match flush s with
      | .ok () t => .ok () t
      | .error stop t => .error (stop.map .host) t := by
  show Step.focus id (fun _ t => t) LibraryFault.host flush s = _
  rw [Step.focus_apply, id_eq]
  cases flush s <;> rfl

/-- All categories have been set when a display is flushed. -/
theorem Tracks.save (h : Tracks path values told changed s) (display : FilterDisplay) :
    Tracks path values ((SettingsCall.save display).told ++ told) true
      (s.1.setKeys display.entries, s.2) := by
  have hentries : display.entries =
      (.dance, display.isVisible .dance) :: display.entries.tail := rfl
  rw [SettingsCall.told, hentries, List.reverse_cons, List.map_append, List.append_assoc]
  -- The first category marks the settings as changed, whatever they were.
  exact (h.setBool DisplayKey.dance.settingsKey (display.isVisible .dance)).setKeys _

/-- What a call leaves that succeeds. -/
theorem Tracks.succeeded {history : SettingsHistory} {call : SettingsCall}
    (h : Tracks path values history.told history.changed s)
    (hfloating : ∀ x, Json.HasFloating x (.object values) →
      Json.ReadsBack (.number (.floating x))) (hcall : call.perform s = .ok () t) :
    Tracks path values (SettingsHistory.told ((call, true) :: history))
      (SettingsHistory.changed ((call, true) :: history)) t := by
  cases call with
  | setBool key value =>
    obtain ⟨_, rfl⟩ := EStateM.Result.ok.inj hcall
    exact h.setBool key value
  | flush =>
    rw [perform_flush] at hcall
    split at hcall
    · rename_i hflush
      obtain ⟨_, rfl⟩ := EStateM.Result.ok.inj hcall
      exact h.flush_ok hfloating hflush
    · cases hcall
  | save display =>
    rw [SettingsCall.perform, save_apply] at hcall
    split at hcall
    · rename_i hflush
      obtain ⟨_, rfl⟩ := EStateM.Result.ok.inj hcall
      -- A display is saved by setting its keys and flushing.
      exact (h.save display).flush_ok hfloating hflush
    · cases hcall

/-- What a call leaves that fails. -/
theorem Tracks.failed {history : SettingsHistory} {call : SettingsCall}
    {stop : Stop LibraryFault} (h : Tracks path values history.told history.changed s)
    (hcall : call.perform s = .error stop t) :
    Tracks path values (SettingsHistory.told ((call, false) :: history))
      (SettingsHistory.changed ((call, false) :: history)) t := by
  cases call with
  -- Setting a value does not fail.
  | setBool key value => cases hcall
  | flush =>
    rw [perform_flush] at hcall
    split at hcall
    · cases hcall
    · rename_i hflush
      obtain ⟨_, rfl⟩ := EStateM.Result.error.inj hcall
      -- A flush fails only if there are changes, and keeps them.
      obtain ⟨hchanged, ht⟩ := h.flush_error hflush
      rw [SettingsHistory.changed, hchanged]
      exact ht
  | save display =>
    rw [SettingsCall.perform, save_apply] at hcall
    split at hcall
    · cases hcall
    · rename_i hflush
      obtain ⟨_, rfl⟩ := EStateM.Result.error.inj hcall
      exact ((h.save display).flush_error hflush).2

/-- What one call keeps, all of them keep. -/
theorem Tracks.ran {start : FileSettings × Disk} {history : SettingsHistory}
    (hstart : Tracks path values [] false start)
    (hfloating : ∀ x, Json.HasFloating x (.object values) →
      Json.ReadsBack (.number (.floating x))) (h : Ran path start history t) :
    Tracks path values history.told history.changed t := by
  induction h with
  | start => exact hstart
  | succeeded _ hcall ih => exact ih.succeeded hfloating hcall
  | failed _ hcall ih => exact ih.failed hcall
  | others _ hfetch hexists ih =>
    -- Other programs leave this file alone, and reading it depends on nothing else.
    refine ⟨ih.path?, ih.canonical, ih.floating, ih.get?, ih.dirty, fun hclean => ?_⟩
    exact (openAt_congr hfetch hexists).trans (ih.clean hclean)

/-- Settings that have the truth values of a display describe it. -/
theorem describes_of_get? {disk : Disk} {display : FilterDisplay} {s : FileSettings}
    (h : ∀ key : DisplayKey, Json.Members.get? key.settingsKey s.values =
      some (.bool (display.isVisible key))) : FilterDisplay.Describes s disk display := by
  intro key
  show s.getBool key.settingsKey = _
  rw [getBool, h key]

/-- The last display that was saved has set all of its categories. -/
theorem lastSet?_save (display : FilterDisplay) (history : SettingsHistory) (key : DisplayKey)
    (succeeded : Bool) :
    SettingsHistory.lastSet? key.settingsKey ((.save display, succeeded) :: history) =
      some (display.isVisible key) := by
  cases key <;> simp [SettingsHistory.lastSet?, SettingsHistory.told, SettingsCall.told,
    FilterDisplay.entries, DisplayKey.all, DisplayKey.settingsKey, List.lookup_cons]

/-- Whatever the file holds under whatever keys, and whatever calls fail: while there are no
changes since the settings were read or last flushed, flushing them again changes nothing on the
disk, and they are read from the file as they are, with the last truth value that was set under
each key, or else what the file held there at the start.  A display that was saved last is the
one that is loaded from them then. -/
theorem reopened_of_ran {disk : Disk} (hfile : Holds path disk values)
    (hfloating : ∀ x, Json.HasFloating x (.object values) →
      Json.ReadsBack (.number (.floating x))) :
    ∃ opened, openAt path disk = .ok opened ∧
      ∀ history t, Ran path (opened, disk) history t → history.changed = false →
        flush t = .ok () t ∧
        ∃ again, openAt path t.2 = .ok again ∧
          (∀ key, Json.Members.get? key again.values =
            ((history.lastSet? key).map Json.bool).or (Json.Members.get? key values)) ∧
          ∀ display earlier, history = (.save display, true) :: earlier →
            FilterDisplay.load again t.2 = .ok display := by
  refine ⟨_, openAt_of_holds hfile, fun history t hran hchanged => ?_⟩
  have htracks := (tracks_of_holds hfile).ran hfloating hran
  refine ⟨flush_of_clean (htracks.dirty.trans hchanged) t.2, t.1, htracks.clean hchanged,
    htracks.get?, ?_⟩
  -- The display was saved last, so that its keys are the last that were set.
  rintro display earlier rfl
  apply FilterDisplay.load_of_describes
  apply describes_of_get?
  intro key
  rw [htracks.get?]
  show ((SettingsHistory.lastSet? _ _).map Json.bool).or _ = _
  rw [lastSet?_save]
  rfl

/-! ### A file with other settings -/

/-- One half. -/
private def half : Number.Binary64 := ⟨false, 0x10000000000000, -53⟩

/-- The digit five is divided by ten. -/
private theorem scale_half :
    Json.Scan.scale ⟨false, 0x14000000000000, -50⟩ (-1) = .ok half := by
  have hpower : Json.Scan.powerOfTen 1 = ⟨false, 0x14000000000000, -49⟩ := by decide +kernel
  have hquotient : Number.Binary64.div? ⟨false, 0x14000000000000, -50⟩
      ⟨false, 0x14000000000000, -49⟩ = some half := by decide +kernel
  rw [Json.Scan.scale, if_pos (by decide)]
  show Except.ok (Json.Scan.scaleDown _ 1) = _
  rw [Json.Scan.scaleDown, if_pos (by decide), hpower, hquotient]
  rfl

/-- The number 0.5 is read back from its text. -/
private theorem readsBack_half : Json.ReadsBack (.number (.floating half)) := by
  have htext : (Json.number (.floating half)).pretty = "0.5" := by decide +kernel
  have hdigit : (Number.Binary64.ofQuotient? false 5 1).getD (.zero false) =
      ⟨false, 0x14000000000000, -50⟩ := by decide +kernel
  have hnumber : Json.Scan.number false ['0', '.', '5'] = .ok (.floating half, []) := by
    show (Json.Scan.floating false 5 (-1)).map (·, []) = _
    simp only [Json.Scan.floating, hdigit]
    rw [scale_half]
    rfl
  have hchars : "0.5".toList = ['0', '.', '5'] := by simp
  rw [Json.ReadsBack, htext, Json.parse, hchars]
  refine Json.finish_eq_ok_iff.2 ⟨[], Json.parseValue_eq_ok_iff.2 ?_, rfl⟩
  exact .positive rfl hnumber

/-- A setting of others next to a list where a truth value should be. -/
private def mixedValues : Json.Members :=
  [("DANCE", .list []), ("volume", .number (.floating half))]

/-- A disk with these settings in a file. -/
private def mixedDisk : Disk :=
  Disk.empty.put ["home", "library", "conf"]
    (.file (.ofBytes (Text.bytes (Json.object mixedValues).pretty)))

/-- The file has two settings. -/
private theorem eq_of_mem_mixedValues {m : String × Json} (h : m ∈ mixedValues) :
    m = ("DANCE", .list []) ∨ m = ("volume", .number (.floating half)) := by
  simpa [mixedValues] using h

/-- The only floating-point number in the file is read back. -/
private theorem readsBack_of_hasFloating {x : Number.Binary64}
    (h : Json.HasFloating x (.object mixedValues)) :
    Json.ReadsBack (.number (.floating x)) := by
  cases h with
  | member hm hx =>
    cases eq_of_mem_mixedValues hm with
    | inl hdance => rw [hdance] at hx; cases hx with | item hv => cases hv
    | inr hvolume => rw [hvolume] at hx; cases hx; exact readsBack_half

/-- The file is in the working directory. -/
private theorem route_conf :
    Disk.route "conf" = .ok (Disk.workingDirectory, ["conf"]) := by
  decide +kernel

/-- The file holds a list in place of a truth value, and a number that is none. -/
private theorem holds_mixedDisk : Holds "conf" mixedDisk mixedValues := by
  have hname : Text.size "conf" = 4 := by decide +kernel
  have hfetch : mixedDisk.fetch "conf" =
      .ok (.ofBytes (Text.bytes (Json.object mixedValues).pretty)) := by
    simp [Disk.fetch, Disk.stat, Disk.locate, route_conf, Except.bind, mixedDisk, Disk.follow,
      Disk.enter, Disk.entryAt_put, Disk.entryAt_empty, Disk.workingDirectory, hname,
      Disk.maxNameSize]
  have hsorted : Json.Members.Sorted mixedValues := by
    have hlt : Text.compareBytes "DANCE" "volume" = .lt := by decide +kernel
    simp [mixedValues, Json.Members.Sorted, hlt]
  -- A text that is printed from a canonical value is read as that value.
  have hcanonical : Json.Canonical (Json.depthLimit - 1) (.object mixedValues) := by
    refine .object hsorted fun m hm => ?_
    cases eq_of_mem_mixedValues hm with
    | inl hdance => rw [hdance]; exact .list fun _ hv => absurd hv List.not_mem_nil
    | inr hvolume => rw [hvolume]; exact .number trivial
  have hback : Json.ReadsBack (.object mixedValues) :=
    Json.readsBack_of_canonical hcanonical fun _ => readsBack_of_hasFloating
  exact .file hfetch (Content.toBytes_ofBytes _) hback

/-- Settings of this file can be flushed. -/
private theorem flush_mixedDisk (s : FileSettings) (hpath : s.path? = some "conf")
    (hdirty : s.dirty = true) : ∃ t, flush (s, mixedDisk) = .ok () t := by
  have hparent : Path.parent? "conf" = some "" := by decide +kernel
  have hname : Text.size "conf" = 4 := by decide +kernel
  -- The working directory needs not be made.
  have hmade : mixedDisk.makeParents "conf" = (.ok (), mixedDisk) := by
    rw [Disk.makeParents, hparent]
    rfl
  have hopen : mixedDisk.openFile "conf" =
      (.ok ["home", "library", "conf"], mixedDisk) := by
    simp [Disk.openFile, route_conf, mixedDisk, Disk.follow, Disk.enter, Disk.entryAt_put,
      Disk.entryAt_empty, Disk.workingDirectory, hname, Disk.maxNameSize]
  obtain ⟨path?, values, dirty⟩ := s
  obtain rfl : path? = some "conf" := hpath
  obtain rfl : dirty = true := hdirty
  simp [flush, hmade, Disk.writeFile, hopen]

/-- A display that was saved over the list is loaded again, and the other setting is kept. -/
theorem reopened_of_ran_mixed :
    ∃ opened t again, openAt "conf" mixedDisk = .ok opened ∧
      Ran "conf" (opened, mixedDisk) [(.save .default, true)] t ∧
      openAt "conf" t.2 = .ok again ∧ FilterDisplay.load again t.2 = .ok .default ∧
      Json.Members.get? "volume" again.values = some (.number (.floating half)) := by
  obtain ⟨opened, hopened, hruns⟩ := reopened_of_ran holds_mixedDisk
    fun _ => readsBack_of_hasFloating
  have hstart := openAt_of_holds holds_mixedDisk
  obtain rfl := Except.ok.inj (hopened.symm.trans hstart)
  obtain ⟨t, hflush⟩ := flush_mixedDisk
    ((⟨some "conf", mixedValues, false⟩ : FileSettings).setKeys
      FilterDisplay.default.entries) (path?_setKeys _ _) (dirty_setKeys _ (.inr (by decide)))
  -- The one call is performed on the settings that were opened.
  have hsave : (SettingsCall.save .default).perform
      (⟨some "conf", mixedValues, false⟩, mixedDisk) = .ok () t := by
    rw [SettingsCall.perform, save_apply, hflush]
  have hran : Ran "conf" (⟨some "conf", mixedValues, false⟩, mixedDisk)
      [(.save .default, true)] t := .succeeded .start hsave
  obtain ⟨_, again, hagain, hvalues, hload⟩ := hruns _ t hran rfl
  refine ⟨_, t, again, hopened, hran, hagain, hload _ _ rfl, ?_⟩
  rw [hvalues "volume"]
  simp [SettingsHistory.lastSet?, SettingsHistory.told, SettingsCall.told, FilterDisplay.entries,
    DisplayKey.all, DisplayKey.settingsKey, List.lookup_cons, mixedValues, Json.Members.get?]

end FileSettings

end Ballroom
