import Ballroom.Proofs.Library.LastWrites

/-!
# The last write of a path is read after a restart

Songs are written to a library of a store file, in batches or not; then the library is
closed and the file is loaded again.  A song that is loaded has the tags that the last write
of its path left, and its path has one record (`restart_finds`).  This is so for paths that
are on record, and for others that are written once.  A song without a number whose path is
not on record gets a new record with every write, and of several records of a path loading
takes the first: then it is the first write that is read (`restart_finds_first`).
-/

namespace Ballroom.Library

open StoreHandle (Has HandedOut)

variable {told : Nat → Except HostFault (Option Bytes)} {tables : Tables} {n : Nat}
  {path : String} {song left : Song} {lib lib' : Library SlotFile} {disk disk' : Disk}
  {place : Place} {h : Header} {slots : Nat → Bytes} {taken : String → Prop}
  {written : List Song} {k : Nat} {now : Instant}

/-! ### What can be read from a store -/

/-- Slots that tell a record are among the slots that are there. -/
theorem Records.range (hrecords : Records (SlotFile.told h slots) tables n path song) :
    1 ≤ n ∧ n ≤ h.count := by
  obtain ⟨data, hdata, _⟩ := hrecords.record
  obtain ⟨hn, hle⟩ := SlotFile.record_of_told hdata
  exact ⟨Nat.one_le_iff_ne_zero.2 hn, hle⟩

/-- A library that is loaded from what slots tell has the song of each path that was written
last, if its audio file is there. -/
theorem Reflects.getByPath? {number? : String → Option Nat} {σ : Type}
    {there : String → Except HostFault Bool} {last : Nat} {reloaded : Library σ}
    (hreflects : Reflects told tables number? taken written)
    (hbound : ∀ n path song, Records told tables n path song → 1 ≤ n ∧ n ≤ last)
    (hfrom : LoadedFrom told tables there last reloaded)
    (hlast : lastOf? written path = some song) (hthere : there path = .ok true) :
    ∃ read n, reloaded.getByPath? path = some read ∧ read.value? = song.value? ∧
      ∀ m, (∃ other, Records told tables m path other) ↔ m = n := by
  obtain ⟨n, read, hrecords, hvalue⟩ := hreflects.latest path song hlast
  obtain ⟨hle, hn⟩ := hbound n path read hrecords
  have honly : ∀ m other, Records told tables m path other → m = n :=
    fun m other hother => hreflects.unique m n path other read hother hrecords
  -- No other slot has the path, so that this is the first to offer it.
  have hoffer : FirstOffer told tables there 1 n path read := by
    refine ⟨hle, ⟨hrecords.record, hrecords.named, hthere⟩, ?_⟩
    intro m other _ hlt hother
    have hsame := honly m other ⟨hother.record, hother.named⟩
    omega
  obtain ⟨i, _, hget⟩ := hfrom.first n path read hn hoffer
  refine ⟨_, n, hget, hvalue, ?_⟩
  intro m
  constructor
  · rintro ⟨other, hother⟩
    exact honly m other hother
  · rintro rfl
    exact ⟨read, hrecords⟩

section Files

variable [Allocator]

/-- The song whose record is in slot `n`. -/
def songAt? (tables : Tables) (s : StoreHandle SlotFile × Disk) (n : Nat) : Option Song :=
  match ((StoreHandle.readSingle n).outcome s).1 with
  | .ok (some data) => (Record.decode tables data).toOption
  | _ => none

/-- The path of the song whose record is in slot `n`. -/
def pathAt? (tables : Tables) (s : StoreHandle SlotFile × Disk) (n : Nat) : Option String :=
  (songAt? tables s n).bind Song.path?

/-- A song is at a number if and only if its slot tells a record of it. -/
theorem songAt?_eq_some_iff {s : StoreHandle SlotFile × Disk} (hhas : Has place h slots s) :
    songAt? tables s n = some song ↔
      ∃ data, SlotFile.told h slots n = .ok (some data) ∧ Record.decode tables data = .ok song := by
  obtain ⟨handle, disk⟩ := s
  obtain ⟨u, hread⟩ := hhas.readSingle_eq n
  unfold songAt? Step.outcome
  rw [hread]
  cases SlotFile.told h slots n with
  | error fault => simp [Except.mapError]
  | ok data? =>
    cases data? with
    | none => simp [Except.mapError]
    | some data =>
      cases hdecode : Record.decode tables data with
      | error fault => simp [Except.mapError, Except.toOption, hdecode]
      | ok read => simp [Except.mapError, Except.toOption, hdecode]

/-- A path is at a number if and only if its slot has a record of it. -/
theorem pathAt?_eq_some_iff {s : StoreHandle SlotFile × Disk} (hhas : Has place h slots s) :
    pathAt? tables s n = some path ↔
      ∃ song, Records (SlotFile.told h slots) tables n path song := by
  rw [pathAt?, Option.bind_eq_some_iff]
  constructor
  · rintro ⟨song, hsong, hpath⟩
    exact ⟨song, (songAt?_eq_some_iff hhas).1 hsong, hpath⟩
  · rintro ⟨song, hrecord, hpath⟩
    exact ⟨song, (songAt?_eq_some_iff hhas).2 hrecord, hpath⟩

/-! ### Runs -/

/-- What a song that is written has to be like: it can be written; it has no number but that
of its path; the date that it may take over is storable; and if its path is not on record, no
record has it and no song of the path was written before. -/
structure Admissible (tables : Tables) (taken : String → Prop) (written : List Song)
    (lib : Library SlotFile) (path : String) (song : Song) : Prop
    extends Writable tables path song where
  own : ∀ n, song.recordNumber? = some n → lib.numberOf? path = some n
  date : ∀ old date, lib.getByPath? path = some old → old.value? .addDate = some date →
    Record.Storable tables .addDate date
  new : lib.numberOf? path = none → ¬taken path ∧ ∀ other ∈ written, other.path? ≠ some path

/-- A library, a store file and the songs that were written belong together. -/
structure Tracks (tables : Tables) (taken : String → Prop) (written : List Song)
    (s : Library SlotFile × Disk) : Prop where
  consistent : Consistent s.1
  same_tables : s.1.tables = tables
  handed : HandedOut 0 s.1.handle
  reflects : ∃ place h slots, Has place h slots (s.1.handle, s.2) ∧
    Reflects (SlotFile.told h slots) tables s.1.numberOf? taken written

/-- Writing a song whose number, if it has one, is that of its path changes no number. -/
theorem numberOf?_eq_of_own (hconsistent : Consistent lib) (hpath : song.path? = some path)
    (hown : ∀ n, song.recordNumber? = some n → lib.numberOf? path = some n)
    (hwrite : writeSong now (song, lib, disk) = .ok k (left, lib', disk')) :
    lib'.numberOf? = lib.numberOf? := by
  funext path'
  refine (hconsistent.keepsNumbers_iff hwrite).1 ?_ path'
  intro _ other own n hother howned hnumber
  obtain rfl := Option.some.inj (hpath.symm.trans hother)
  exact Option.some.inj ((hown own howned).symm.trans hnumber)

/-- Writing an admissible song keeps library, file and songs together. -/
theorem Tracks.write (ht : Tracks tables taken written (lib, disk))
    (hadmissible : Admissible tables taken written lib path song)
    (hstatus : Text.Plain tables.defaultStatus)
    (hwrite : writeSong now (song, lib, disk) = .ok k (left, lib', disk')) :
    Tracks tables taken (left :: written) (lib', disk') := by
  have hnumbers :=
    numberOf?_eq_of_own ht.consistent hadmissible.named hadmissible.own hwrite
  have hconsistent' := ht.consistent.of_writeSong hwrite
  obtain ⟨hconsistent, htables, hhanded, place, h, slots, hhas, hreflects⟩ := ht
  subst htables
  -- The slot that the song goes to, in which there is room for it.
  obtain ⟨n, h', hroom, hleft⟩ : ∃ n h', Room (SlotFile.told h slots) lib.tables n path ∧
      LeftIn (SlotFile.told h slots) lib.tables n path left h' (lib', disk') := by
    cases hnumber : lib.numberOf? path with
    | some n =>
      obtain ⟨held, ⟨data, hdata, _⟩, _⟩ := hreflects.numbered path n hnumber
      obtain ⟨_, hle⟩ := SlotFile.record_of_told hdata
      -- A number of its own is that of the path.
      have hown : ∀ own, song.recordNumber? = some own → own = n := fun own hsong =>
        Option.some.inj ((hadmissible.own own hsong).symm.trans hnumber)
      exact ⟨n, h, hreflects.room hnumber, writeSong_recorded hconsistent hhas hhanded hle
        hstatus hadmissible.toWritable hnumber hown hadmissible.date hwrite⟩
    | none =>
      have hown : song.recordNumber? = none := by
        cases hsong : song.recordNumber? with
        | none => rfl
        | some own => cases hnumber.symm.trans (hadmissible.own own hsong)
      -- Behind all records no slot has one.
      have hslot : ∀ path' other,
          ¬Records (SlotFile.told h slots) lib.tables (h.count + 1) path' other := by
        rintro path' other ⟨⟨data, hdata, _⟩, _⟩
        obtain ⟨_, hle⟩ := SlotFile.record_of_told hdata
        omega
      obtain ⟨htaken, hfirst⟩ := hadmissible.new hnumber
      obtain ⟨hleft, _⟩ := writeSong_new hconsistent hhas hhanded hstatus hadmissible.toWritable
        hown hnumber hwrite
      exact ⟨h.count + 1, _, hreflects.room_of_free hslot htaken hfirst, hleft⟩
  obtain ⟨htables', hhanded', place', slots', read, hhas', hrewritten, hvalue⟩ := hleft
  refine ⟨hconsistent', htables', hhanded', place', h', slots', hhas', ?_⟩
  rw [hnumbers]
  exact hreflects.write hroom hrewritten hvalue

/-- What becomes of a library and a disk while songs are written, in batches or not, and the
songs as they were left, the last one first. -/
inductive Edited (tables : Tables) (taken : String → Prop) (s : Library SlotFile × Disk) :
    List Song → Library SlotFile × Disk → Prop
  | nil : Edited tables taken s [] s
  | write {written : List Song} {lib lib' : Library SlotFile} {disk disk' : Disk} {path : String}
      {song left : Song} {now : Instant} {k : Nat} (h : Edited tables taken s written (lib, disk))
      (hadmissible : Admissible tables taken written lib path song)
      (hwrite : writeSong now (song, lib, disk) = .ok k (left, lib', disk')) :
      Edited tables taken s (left :: written) (lib', disk')
  | startBatch {written : List Song} {t u : Library SlotFile × Disk}
      (h : Edited tables taken s written t) (hstart : Library.startBatch t = .ok () u) :
      Edited tables taken s written u
  | endBatch {written : List Song} {t u : Library SlotFile × Disk}
      (h : Edited tables taken s written t) (hend : Library.endBatch t = .ok () u) :
      Edited tables taken s written u

/-- A step on the handle that succeeds and keeps the records keeps everything together. -/
theorem Tracks.onHandle {step : HandleStep SlotFile Disk Unit} {t u : Library SlotFile × Disk}
    (ht : Tracks tables taken written t)
    (hkeeps : ∀ place h slots v, Has place h slots (t.1.handle, t.2) →
      step (t.1.handle, t.2) = .ok () v → Has place h slots v ∧ HandedOut 0 v.1)
    (hstep : Library.onHandle step t = .ok () u) : Tracks tables taken written u := by
  obtain ⟨hconsistent, htables, _, place, h, slots, hhas, hreflects⟩ := ht
  rw [Library.onHandle, Step.focus_apply] at hstep
  cases hresult : step (t.1.handle, t.2) with
  | error stop v => rw [hresult] at hstep; cases hstep
  | ok a v =>
    rw [hresult] at hstep
    obtain ⟨-, rfl⟩ := EStateM.Result.ok.inj hstep
    obtain ⟨hhas', hhanded'⟩ := hkeeps place h slots v hhas hresult
    exact ⟨hconsistent.withHandle v.1, htables, hhanded', place, h, slots, hhas', hreflects⟩

/-- Library, file and songs belong together after every run. -/
theorem tracks_of_edited {s t : Library SlotFile × Disk} (hs : Tracks tables taken [] s)
    (hstatus : Text.Plain tables.defaultStatus) (h : Edited tables taken s written t) :
    Tracks tables taken written t := by
  -- On the run: each write is one song more, and batches write nothing by themselves.
  induction h with
  | nil => exact hs
  | write _ hadmissible hwrite ih => exact ih.write hadmissible hstatus hwrite
  | startBatch _ hstart ih =>
    refine ih.onHandle ?_ hstart
    intro place h slots v hhas hresult
    exact hhas.startBatch_eq ih.handed hresult
  | endBatch _ hend ih =>
    refine ih.onHandle ?_ hend
    intro place h slots v hhas hresult
    -- The end of a batch closes the store.
    obtain ⟨disk', hclose, hhas', _⟩ := hhas.close
    rw [show StoreHandle.endBatch _ = _ from hclose] at hresult
    obtain ⟨-, rfl⟩ := EStateM.Result.ok.inj hresult
    exact ⟨hhas', StoreHandle.handedOut_of_closed rfl⟩

/-- A library that was just loaded from a file without doubles has the number of each path. -/
theorem tracks_of_loaded {audio : AudioCheck Disk}
    (hhas : Has place h slots (lib.handle, disk)) (hclosed : lib.handle.store.open? = none)
    (hfrom : LoadedFrom (SlotFile.told h slots) tables (audio disk) h.count lib)
    (hunique : ∀ m n path, pathAt? tables (lib.handle, disk) m = some path →
      pathAt? tables (lib.handle, disk) n = some path → m = n) :
    Tracks tables (fun path => ∃ n, pathAt? tables (lib.handle, disk) n = some path) []
      (lib, disk) := by
  refine ⟨hfrom.consistent, hfrom.tables, StoreHandle.handedOut_of_closed hclosed, place, h, slots,
    hhas, ?_⟩
  constructor
  case numbered =>
    intro path n hnumber
    obtain ⟨song, hsong, hn⟩ := Option.bind_eq_some_iff.1 hnumber
    obtain ⟨m, read, hm, hlast, hoffers⟩ := (hfrom.onRecord path).1 (by rw [hsong]; rfl)
    -- The song on record is the first that is offered, under the number of its slot.
    obtain ⟨first, found, hfirst, hoffer⟩ := exists_firstOffer hm hoffers
    obtain ⟨i, _, hget⟩ := hfrom.first first path found (hfirst.trans hlast) hoffer
    obtain rfl := Option.some.inj (hsong.symm.trans hget)
    have hrange : 1 ≤ first ∧ first ≤ maxRecordNumber :=
      ⟨hoffer.le, (hfirst.trans hlast).trans hhas.serves.fits.count_le⟩
    obtain rfl := Option.some.inj ((found.recordNumber?_setRecordNumber hrange).symm.trans hn)
    exact ⟨found, hoffer.offers.record, hoffer.offers.named⟩
  case unique =>
    intro m n path a b ha hb
    exact hunique m n path ((pathAt?_eq_some_iff hhas).2 ⟨a, ha⟩)
      ((pathAt?_eq_some_iff hhas).2 ⟨b, hb⟩)
  case known =>
    intro n path song hrecords
    exact .inl ⟨n, (pathAt?_eq_some_iff hhas).2 ⟨song, hrecords⟩⟩
  case latest =>
    intro path song hlast
    cases hlast

/-! ### The restart -/

/-- Another handle of the path and version of one that is closed has the same file. -/
theorem has_handOver {handle handle' : StoreHandle SlotFile}
    (hhas : Has place h slots (handle, disk)) (hclosed : handle.store.open? = none)
    (hpath : handle'.path = handle.path) (hversion : handle'.version = handle.version)
    (hclosed' : handle'.store.open? = none) : Has place h slots (handle', disk) := by
  have hstore : handle'.store = { slotSize := handle'.store.slotSize } := by rw [← hclosed']
  refine ⟨hhas.version.trans hversion.symm, ?_, hhas.browsable⟩
  show SlotFile.Serves handle'.path place h slots (handle'.store, disk)
  rw [hpath, hstore]
  exact hhas.serves.handOver hclosed handle'.store.slotSize

/-- A library closes its store file, and what the file has can be loaded from it again. -/
theorem exists_restarted (tables : Tables) (hhas : Has place h slots (lib.handle, disk)) :
    ∃ lib' disk', Library.close (lib, disk) = .ok () (lib', disk') ∧
      ∀ (audio : AudioCheck Disk) (handle : StoreHandle SlotFile),
        handle.path = lib'.handle.path → handle.version = lib'.handle.version →
        handle.store.open? = none → Has place h slots (handle, disk') ∧
          ∃ reloaded, load audio handle tables disk' = .ok reloaded disk' ∧
            LoadedFrom (SlotFile.told h slots) tables (audio disk') h.count reloaded := by
  obtain ⟨disk', hclose, hhas', _⟩ := hhas.close
  generalize hclosed : ({ lib.handle with
      store := { lib.handle.store with open? := none }, inBatch := false } :
    StoreHandle SlotFile) = last at hclose hhas'
  have hclose : Library.close (lib, disk) = .ok () ((lib.withHandle last).clear, disk') := by
    unfold Library.close onHandle
    rw [Step.bind_apply, Step.focus_apply, hclose]
    rfl
  refine ⟨_, disk', hclose, ?_⟩
  intro audio handle hpath hversion hunopened
  have hlast : last.store.open? = none := by rw [← hclosed]
  -- A new handle finds the file with what the last one has left.
  have hagain := has_handOver hhas' hlast hpath hversion hunopened
  obtain ⟨reloaded, hload, hfrom, _⟩ := exists_loaded_of_closed audio tables hagain hunopened
  exact ⟨hagain, reloaded, hload, hfrom⟩

/-- When songs have been written to a loaded library, in batches or not, and its store is
closed, it can be loaded again with the song of each path that was written last, tag by tag,
and the path has one record. -/
theorem restart_finds {audio : AudioCheck Disk} {handle : StoreHandle SlotFile} {disk₀ : Disk}
    {t : Library SlotFile × Disk} (hstart : Unopened handle disk₀)
    (hload : load audio handle tables disk₀ = .ok lib disk)
    (hstatus : Text.Plain tables.defaultStatus)
    (hunique : ∀ m n path, pathAt? tables (lib.handle, disk) m = some path →
      pathAt? tables (lib.handle, disk) n = some path → m = n)
    (hedited : Edited tables (fun path => ∃ n, pathAt? tables (lib.handle, disk) n = some path)
      (lib, disk) written t) :
    ∃ lib' disk', Library.close t = .ok () (lib', disk') ∧
      ∀ (audio' : AudioCheck Disk) (handle' : StoreHandle SlotFile),
        handle'.path = lib'.handle.path → handle'.version = lib'.handle.version →
        handle'.store.open? = none →
        ∃ reloaded, load audio' handle' tables disk' = .ok reloaded disk' ∧
          ∀ path song, lastOf? written path = some song → audio' disk' path = .ok true →
            ∃ read n, reloaded.getByPath? path = some read ∧ read.value? = song.value? ∧
              ∀ m, pathAt? tables (handle', disk') m = some path ↔ m = n := by
  obtain ⟨place₀, h₀, slots₀, hhas₀, hclosed₀, hfrom₀⟩ := loadedFrom_of_unopened hstart hload
  -- What was loaded belongs to the file, and every write keeps it so.
  have htracks := tracks_of_edited (tracks_of_loaded hhas₀ hclosed₀ hfrom₀ hunique) hstatus hedited
  obtain ⟨_, _, _, place, h, slots, hhas, hreflects⟩ := htracks
  obtain ⟨lib', disk', hclose, hagain⟩ := exists_restarted tables hhas
  refine ⟨lib', disk', hclose, ?_⟩
  intro audio' handle' hpath hversion hclosed'
  obtain ⟨hhas', reloaded, hreload, hfrom⟩ := hagain audio' handle' hpath hversion hclosed'
  refine ⟨reloaded, hreload, ?_⟩
  intro path song hlast hthere
  obtain ⟨read, n, hread, hvalue, hone⟩ :=
    hreflects.getByPath? (fun _ _ _ hrecords => hrecords.range) hfrom hlast hthere
  refine ⟨read, n, hread, hvalue, ?_⟩
  intro m
  rw [pathAt?_eq_some_iff hhas']
  exact hone m

end Files

/-! ### A new song -/

/-- A new song with a title. -/
private def entitled (title : String) : Song :=
  (Song.empty.set .file (.text "a.mp3")).set .title (.text title)

/-- The song can be written under every title that is stored as it is. -/
private theorem writable_entitled {title : String} (htitle : Record.flatten title = title) :
    Writable .standard "a.mp3" (entitled title) := by
  refine ⟨rfl, rfl, by decide, ?_⟩
  intro tag value _ hnumber hvalue
  cases tag
  case file =>
    obtain rfl := Option.some.inj hvalue
    exact congrArg TagValue.text (show Record.flatten "a.mp3" = "a.mp3" by decide +kernel)
  case title =>
    obtain rfl := Option.some.inj hvalue
    exact congrArg TagValue.text htitle
  all_goals cases hvalue

/-- A library in which the song is not on record, and a store file of some records. -/
private structure Unlisted (count : Nat) (lib : Library SlotFile) (disk : Disk) : Prop where
  tables : lib.tables = .standard
  consistent : Consistent lib
  handed : HandedOut 0 lib.handle
  has : ∃ place slots, Has place ⟨1, 256, count⟩ slots (lib.handle, disk)
  number : lib.numberOf? "a.mp3" = none

/-- The song can be written, and it is still not on record. -/
private theorem Unlisted.exists_written {count : Nat} {title : String}
    (hlib : Unlisted count lib disk) (hcount : count < 9) (htitle : Record.flatten title = title)
    (hfits : (Text.bytes (Record.encode .standard ⟨count + 1, true, .epoch⟩
      (entitled title))).length ≤ 256) :
    ∃ k left lib' disk',
      writeSong .epoch (entitled title, lib, disk) = .ok k (left, lib', disk') ∧
      left.path? = some "a.mp3" ∧ left.value? .title = some (.text title) ∧
      Unlisted (count + 1) lib' disk' := by
  obtain ⟨htables, hconsistent, hhanded, ⟨place, slots, hhas⟩, hnumber⟩ := hlib
  have hrecord : lib.recordOf? (entitled title) = none := recordOf?_eq_none rfl rfl hnumber
  have hwritable := writable_entitled htitle
  have hstatus : Text.Plain lib.tables.defaultStatus := by
    rw [htables]
    decide
  have hmax : count + 1 ≤ Number.maxUInt32 := (Nat.succ_le_of_lt hcount).trans (by decide)
  have hreach : SlotFile.InReach 256 (count + 1) := by
    refine ⟨by decide, ?_⟩
    have hsize : Header.size ≤ 1024 := by decide
    unfold SlotFile.offset SlotFile.seekLimit
    omega
  rw [← htables] at hfits hwritable
  obtain ⟨left, lib', disk', hwrite⟩ :=
    exists_writeSong_new hhas hhanded rfl hrecord hmax hreach hfits
  obtain ⟨⟨htables', hhanded', place', slots', _, hhas', _⟩, hvalue⟩ :=
    writeSong_new hconsistent hhas hhanded hstatus hwritable rfl hnumber hwrite
  refine ⟨_, left, lib', disk', hwrite, ?_, ?_, htables'.trans htables,
    hconsistent.of_writeSong hwrite, hhanded', ⟨place', slots', hhas'⟩, ?_⟩
  · rw [Song.path?_congr hvalue, path?_stamped]
    rfl
  · rw [hvalue, value?_stamped]
    rfl
  · -- The song stays unlisted: a new one is indexed only by the next load.
    have hsame := numberOf?_eq_of_own hconsistent rfl (fun n hn => by cases hn) hwrite
    rw [hsame, hnumber]

/-- A handle that has not been opened. -/
def newHandle : StoreHandle SlotFile := ⟨{ slotSize := 256 }, "db", 1, false⟩

/-- A library without songs is loaded from a store file without records. -/
theorem exists_loaded_empty (tables : Tables) :
    ∃ place slots disk lib, Unopened newHandle disk ∧
      load (fun _ _ => .ok true) newHandle tables disk = .ok lib disk ∧
      Has place ⟨1, 256, 0⟩ slots (lib.handle, disk) ∧ lib.handle.inBatch = false ∧
      lib.handle.store.open? = none ∧ Consistent lib ∧ lib.tables = tables ∧
      ∀ path, lib.getByPath? path = none := by
  have hcalls : ∀ call ∈ [StoreCall.close], call.NumberBelow Number.maxUInt32 := by
    simp [StoreCall.NumberBelow]
  obtain ⟨place, disk, hhas⟩ := exists_has_of_calls hcalls rfl rfl
  have hstart : Unopened newHandle disk := ⟨rfl, by decide, by decide, by decide⟩
  obtain ⟨lib, hload, hfrom, hhas'⟩ :=
    exists_loaded_of_closed (fun _ _ => .ok true) tables hhas rfl
  obtain ⟨_, _, _, _, hclosed, _⟩ := loadedFrom_of_unopened hstart hload
  refine ⟨place, _, disk, lib, hstart, hload, hhas', ?_, hclosed, hfrom.consistent, hfrom.tables,
    ?_⟩
  · obtain ⟨_, _, _, _, ⟨_, hopen⟩ | ⟨hbatch, _⟩⟩ :=
      atRest_load hstart.startable hstart.slotSize_pos hload
    · rw [hclosed] at hopen
      cases hopen
    · exact hbatch
  · intro path
    -- What is listed was read from a slot, and there is none.
    rw [← Option.not_isSome_iff_eq_none, hfrom.onRecord]
    rintro ⟨n, song, hle, hn, _⟩
    exact absurd (hle.trans hn) (by decide)

/-- Nothing is in the way of the song in a library without songs. -/
private theorem exists_loaded_blank :
    ∃ disk lib, Unopened newHandle disk ∧
      load (fun _ _ => .ok true) newHandle .standard disk = .ok lib disk ∧ Unlisted 0 lib disk ∧
      (∀ path, lib.getByPath? path = none) ∧
      ∀ n path, pathAt? .standard (lib.handle, disk) n ≠ some path := by
  obtain ⟨place, slots, disk, lib, hstart, hload, hhas, _, hclosed, hconsistent, htables, hsongs⟩ :=
    exists_loaded_empty .standard
  have hnumber : lib.numberOf? "a.mp3" = none := by rw [numberOf?, hsongs, Option.bind_none]
  have hunlisted : Unlisted 0 lib disk := ⟨htables, hconsistent,
    StoreHandle.handedOut_of_closed hclosed, ⟨place, _, hhas⟩, hnumber⟩
  refine ⟨disk, lib, hstart, hload, hunlisted, hsongs, ?_⟩
  intro n path hpath
  obtain ⟨song, hrecords⟩ := (pathAt?_eq_some_iff hhas).1 hpath
  obtain ⟨hle, hn⟩ := hrecords.range
  exact absurd (hle.trans hn) (by decide)

/-- A new song is written to an empty library, which has it after a restart. -/
theorem restart_finds_new :
    ∃ disk lib k left lib₁ disk₁ lib' disk' handle' reloaded read n,
      Unopened newHandle disk ∧
      load (fun _ _ => .ok true) newHandle .standard disk = .ok lib disk ∧
      writeSong .epoch (entitled "New", lib, disk) = .ok k (left, lib₁, disk₁) ∧
      Library.close (lib₁, disk₁) = .ok () (lib', disk') ∧
      load (fun _ _ => .ok true) handle' .standard disk' = .ok reloaded disk' ∧
      reloaded.getByPath? "a.mp3" = some read ∧ read.value? .title = some (.text "New") ∧
      ∀ m, pathAt? .standard (handle', disk') m = some "a.mp3" ↔ m = n := by
  obtain ⟨disk, lib, hstart, hload, hunlisted, hsongs, hfree⟩ := exists_loaded_blank
  have hflat : Record.flatten "New" = "New" := by decide +kernel
  obtain ⟨k, left, lib₁, disk₁, hwrite, hpath, htitle, _⟩ :=
    hunlisted.exists_written (by decide) hflat (by decide +kernel)
  -- The path is neither on record nor in the file, and nothing was written to it.
  have hadmissible : Admissible .standard
      (fun path => ∃ n, pathAt? .standard (lib.handle, disk) n = some path) [] lib "a.mp3"
      (entitled "New") := by
    refine ⟨writable_entitled hflat, ?_, ?_, ?_⟩
    · intro n hown
      cases hown
    · intro old date hold
      cases (hsongs "a.mp3").symm.trans hold
    · intro _
      refine ⟨?_, fun other hother => absurd hother List.not_mem_nil⟩
      rintro ⟨n, hn⟩
      exact hfree n "a.mp3" hn
  obtain ⟨lib', disk', hclose, hagain⟩ := restart_finds hstart hload (by decide)
    (fun m n path hm _ => absurd hm (hfree m path)) (.write .nil hadmissible hwrite)
  obtain ⟨reloaded, hreload, hfinds⟩ := hagain (fun _ _ => .ok true)
    ⟨{ slotSize := 256 }, lib'.handle.path, lib'.handle.version, false⟩ rfl rfl rfl
  have hlast : lastOf? [left] "a.mp3" = some left := by
    simp [lastOf?, hpath]
  obtain ⟨read, n, hread, hsame, hone⟩ := hfinds "a.mp3" left hlast rfl
  rw [← hsame] at htitle
  exact ⟨disk, lib, k, left, lib₁, disk₁, lib', disk', _, reloaded, read, n, hstart, hload, hwrite,
    hclose, hreload, hread, htitle, hone⟩

/-! ### Two writes of a new path -/

section Files

variable [Allocator]

/-- When a song of a path that no record has is written twice without a number, the library
that is loaded afterwards has the first of them, and the path has two records. -/
theorem restart_finds_first {audio : AudioCheck Disk} {handle : StoreHandle SlotFile}
    {disk₀ disk₁ disk₂ : Disk} {lib₁ lib₂ : Library SlotFile} {song' left' : Song} {now' : Instant}
    {k' : Nat} (hstart : Unopened handle disk₀)
    (hload : load audio handle tables disk₀ = .ok lib disk)
    (hstatus : Text.Plain tables.defaultStatus)
    (hfree : ∀ n, pathAt? tables (lib.handle, disk) n ≠ some path)
    (hwritable : Writable tables path song) (hown : song.recordNumber? = none)
    (hwritable' : Writable tables path song') (hown' : song'.recordNumber? = none)
    (hwrite : writeSong now (song, lib, disk) = .ok k (left, lib₁, disk₁))
    (hwrite' : writeSong now' (song', lib₁, disk₁) = .ok k' (left', lib₂, disk₂)) :
    ∃ lib' disk', Library.close (lib₂, disk₂) = .ok () (lib', disk') ∧
      ∀ (audio' : AudioCheck Disk) (handle' : StoreHandle SlotFile),
        handle'.path = lib'.handle.path → handle'.version = lib'.handle.version →
        handle'.store.open? = none → audio' disk' path = .ok true →
        ∃ reloaded read m n, load audio' handle' tables disk' = .ok reloaded disk' ∧
          reloaded.getByPath? path = some read ∧ read.value? = left.value? ∧ m < n ∧
          pathAt? tables (handle', disk') m = some path ∧
          pathAt? tables (handle', disk') n = some path := by
  obtain ⟨place, h, slots, hhas, hclosed, hfrom⟩ := loadedFrom_of_unopened hstart hload
  have hhanded : HandedOut 0 lib.handle := StoreHandle.handedOut_of_closed hclosed
  obtain rfl := hfrom.tables
  have hnone : ∀ n other, ¬Records (SlotFile.told h slots) lib.tables n path other := by
    intro n other hrecords
    exact hfree n ((pathAt?_eq_some_iff hhas).2 ⟨other, hrecords⟩)
  have hnumber : lib.numberOf? path = none := by
    rw [numberOf?, Option.bind_eq_none_iff]
    intro old hold
    obtain ⟨n, other, _, _, hoffers⟩ := (hfrom.onRecord path).1 (by rw [hold]; rfl)
    exact absurd ⟨hoffers.record, hoffers.named⟩ (hnone n other)
  -- The first song goes behind the records that are there, and its path stays off record.
  obtain ⟨⟨htables, hhanded₁, place₁, slots₁, read, hhas₁, hrewritten, hvalue⟩, _⟩ :=
    writeSong_new hfrom.consistent hhas hhanded hstatus hwritable hown hnumber hwrite
  have hconsistent₁ := hfrom.consistent.of_writeSong hwrite
  have hnumber₁ : lib₁.numberOf? path = none := by
    have hsame := numberOf?_eq_of_own hfrom.consistent hwritable.named
      (by rw [hown]; exact fun n hn => absurd hn (by simp)) hwrite
    rw [hsame, hnumber]
  -- The second song goes behind the first.
  rw [← htables] at hstatus hwritable'
  obtain ⟨⟨_, _, place₂, slots₂, read', hhas₂, hrewritten₂, _⟩, _⟩ :=
    writeSong_new hconsistent₁ hhas₁ hhanded₁ hstatus hwritable' hown' hnumber₁ hwrite'
  rw [htables] at hrewritten₂
  dsimp only at hhas₂ hrewritten₂
  generalize hlast : (⟨h.version, h.slotSize, h.count + 1 + 1⟩ : Header) = h₂ at hhas₂ hrewritten₂
  have hcount₂ : h₂.count = h.count + 1 + 1 := by rw [← hlast]
  have hne : h.count + 1 ≠ h.count + 1 + 1 := by omega
  have hrecords : Records (SlotFile.told h₂ slots₂) lib.tables (h.count + 1) path read :=
    (hrewritten₂.records_of_ne hne).2 hrewritten.records
  obtain ⟨lib', disk', hclose, hagain⟩ := exists_restarted lib.tables hhas₂
  refine ⟨lib', disk', hclose, ?_⟩
  intro audio' handle' hpath hversion hclosed' hthere
  obtain ⟨hhas', reloaded, hreload, hfrom'⟩ := hagain audio' handle' hpath hversion hclosed'
  -- No slot before the one of the first song has its path.
  have hoffer : FirstOffer (SlotFile.told h₂ slots₂) lib.tables (audio' disk') 1 (h.count + 1)
      path read := by
    refine ⟨by omega, ⟨hrecords.record, hrecords.named, hthere⟩, ?_⟩
    intro m other _ hlt hother
    have htold : Records (SlotFile.told h₂ slots₂) lib.tables m path other :=
      ⟨hother.record, hother.named⟩
    rw [hrewritten₂.records_of_ne (by omega), hrewritten.records_of_ne (by omega)] at htold
    exact hnone m other htold
  obtain ⟨i, _, hget⟩ := hfrom'.first (h.count + 1) path read (by omega) hoffer
  refine ⟨reloaded, _, h.count + 1, h.count + 1 + 1, hreload, hget, hvalue, by omega, ?_, ?_⟩
  · exact (pathAt?_eq_some_iff hhas').2 ⟨read, hrecords⟩
  · exact (pathAt?_eq_some_iff hhas').2 ⟨read', hrewritten₂.records⟩

end Files

/-- A new song is written twice to an empty library, which has the first of the two after a
restart, and two records of the path. -/
theorem restart_finds_first_title :
    ∃ disk lib k left lib₁ disk₁ k' left' lib₂ disk₂ lib' disk' handle' reloaded read m n,
      Unopened newHandle disk ∧
      load (fun _ _ => .ok true) newHandle .standard disk = .ok lib disk ∧
      writeSong .epoch (entitled "Old", lib, disk) = .ok k (left, lib₁, disk₁) ∧
      writeSong .epoch (entitled "New", lib₁, disk₁) = .ok k' (left', lib₂, disk₂) ∧
      Library.close (lib₂, disk₂) = .ok () (lib', disk') ∧
      load (fun _ _ => .ok true) handle' .standard disk' = .ok reloaded disk' ∧
      reloaded.getByPath? "a.mp3" = some read ∧ read.value? .title = some (.text "Old") ∧
      left'.value? .title = some (.text "New") ∧ m < n ∧
      pathAt? .standard (handle', disk') m = some "a.mp3" ∧
      pathAt? .standard (handle', disk') n = some "a.mp3" := by
  obtain ⟨disk, lib, hstart, hload, hunlisted, _, hfree⟩ := exists_loaded_blank
  have hflat : Record.flatten "Old" = "Old" := by decide +kernel
  have hflat' : Record.flatten "New" = "New" := by decide +kernel
  obtain ⟨k, left, lib₁, disk₁, hwrite, _, htitle, hunlisted₁⟩ :=
    hunlisted.exists_written (by decide) hflat (by decide +kernel)
  obtain ⟨k', left', lib₂, disk₂, hwrite', _, htitle', _⟩ :=
    hunlisted₁.exists_written (by decide) hflat' (by decide +kernel)
  obtain ⟨lib', disk', hclose, hagain⟩ := restart_finds_first hstart hload (by decide)
    (fun n => hfree n "a.mp3") (writable_entitled hflat) rfl (writable_entitled hflat') rfl
    hwrite hwrite'
  obtain ⟨reloaded, read, m, n, hreload, hread, hsame, hlt, hm, hn⟩ := hagain (fun _ _ => .ok true)
    ⟨{ slotSize := 256 }, lib'.handle.path, lib'.handle.version, false⟩ rfl rfl rfl rfl
  rw [← hsame] at htitle
  exact ⟨disk, lib, k, left, lib₁, disk₁, k', left', lib₂, disk₂, lib', disk', _, reloaded, read, m,
    n, hstart, hload, hwrite, hwrite', hclose, hreload, hread, htitle, htitle', hlt, hm, hn⟩

end Ballroom.Library
