import Ballroom.Proofs.Library.Agreement
import Ballroom.Proofs.Library.Loading
import Ballroom.Proofs.Library.RecordNumbers
import Ballroom.Proofs.Store.Allocation

/-!
# The songs that were written last

`Reflects` says that what the slots of a store tell, the numbers of the paths on record and
the songs that were written belong together: a path has one record, and that is the record
of the song of the path that was written last.  A write keeps this if there is `Room` for the
song in the slot that it goes to (`Reflects.write`).  Which slot this is, and what it tells
afterwards, is said by `writeSong_recorded` for a song that has a record and by
`writeSong_new` for one that has none.
-/

namespace Ballroom.Library

open StoreHandle (Has HandedOut)

variable {told told' : Nat → Except HostFault (Option Bytes)} {tables : Tables} {n : Nat}
  {path : String} {song left read : Song}

/-! ### Records of paths -/

/-- Slot `n` tells the record of a song of a path. -/
structure Records (told : Nat → Except HostFault (Option Bytes)) (tables : Tables) (n : Nat)
    (path : String) (song : Song) : Prop where
  record : ∃ data, told n = .ok (some data) ∧ Record.decode tables data = .ok song
  named : song.path? = some path

/-- A slot has a record of one song and one path. -/
theorem Records.unique {other : Song} {path' : String} (h : Records told tables n path song)
    (h' : Records told tables n path' other) : path = path' ∧ song = other := by
  have hoffers : Offers told tables (fun _ => .ok true) n path song := ⟨h.record, h.named, rfl⟩
  exact hoffers.unique ⟨h'.record, h'.named, rfl⟩

/-- The record of a song of a path has been put into slot `n`. -/
structure Rewritten (told told' : Nat → Except HostFault (Option Bytes)) (tables : Tables)
    (n : Nat) (path : String) (read : Song) : Prop where
  record : ∃ data, told' = Function.update told n (.ok (some data)) ∧
    Record.decode tables data = .ok read
  named : read.path? = some path

/-- The song of a record that has been written is told by its slot and by no other. -/
theorem Rewritten.records_iff (h : Rewritten told told' tables n path read) {m : Nat}
    {path' : String} {other : Song} :
    Records told' tables m path' other ↔
      if m = n then path' = path ∧ other = read else Records told tables m path' other := by
  obtain ⟨⟨data, rfl, hdecode⟩, hnamed⟩ := h
  split
  · rename_i hm
    subst hm
    constructor
    · rintro ⟨⟨held, hheld, hread⟩, hother⟩
      -- The slot tells what was written, and that is decoded as the song.
      rw [Function.update_self] at hheld
      obtain rfl := Option.some.inj (Except.ok.inj hheld)
      obtain rfl := Except.ok.inj (hdecode.symm.trans hread)
      exact ⟨Option.some.inj (hother.symm.trans hnamed), rfl⟩
    · rintro ⟨rfl, rfl⟩
      exact ⟨⟨data, Function.update_self .., hdecode⟩, hnamed⟩
  · rename_i hm
    have hother : Function.update told n (.ok (some data)) m = told m :=
      Function.update_of_ne hm _ _
    constructor
    · rintro ⟨hrecord, hpath⟩
      rw [hother] at hrecord
      exact ⟨hrecord, hpath⟩
    · rintro ⟨hrecord, hpath⟩
      rw [← hother] at hrecord
      exact ⟨hrecord, hpath⟩

/-- The record that has been written is told by its slot. -/
theorem Rewritten.records (h : Rewritten told told' tables n path read) :
    Records told' tables n path read := by
  rw [h.records_iff, if_pos rfl]
  exact ⟨rfl, rfl⟩

/-- The other slots tell what they told. -/
theorem Rewritten.records_of_ne (h : Rewritten told told' tables n path read) {m : Nat}
    (hm : m ≠ n) {path' : String} {other : Song} :
    Records told' tables m path' other ↔ Records told tables m path' other := by
  rw [h.records_iff, if_neg hm]

/-! ### What was written last -/

/-- The last song of a path among songs of which the last is the first of the list. -/
def lastOf? (written : List Song) (path : String) : Option Song :=
  written.find? fun song => song.path? = some path

/-- What the slots tell, the numbers of the paths on record and the songs that were written
belong together; `taken` are the paths that had a record before. -/
structure Reflects (told : Nat → Except HostFault (Option Bytes)) (tables : Tables)
    (number? : String → Option Nat) (taken : String → Prop) (written : List Song) : Prop where
  /-- The number of a path is that of a slot with its record. -/
  numbered : ∀ path n, number? path = some n → ∃ song, Records told tables n path song
  /-- A path has one record. -/
  unique : ∀ m n path a b, Records told tables m path a → Records told tables n path b → m = n
  /-- A path with a record had one before, or a song of it was written. -/
  known : ∀ n path song, Records told tables n path song →
    taken path ∨ ∃ other ∈ written, other.path? = some path
  /-- The record of a path is that of the song that was written last. -/
  latest : ∀ path song, lastOf? written path = some song →
    ∃ n read, Records told tables n path read ∧ (read.setRecordNumber n).value? = song.value?

/-- A slot for the song of a path: that of the path, or one that has no record if the path
has none either. -/
structure Room (told : Nat → Except HostFault (Option Bytes)) (tables : Tables) (n : Nat)
    (path : String) : Prop where
  slot : ∀ path' song, Records told tables n path' song → path' = path
  path : ∀ m song, Records told tables m path song → m = n

variable {number? : String → Option Nat} {taken : String → Prop} {written : List Song}

/-- A slot that has the record of a path is one for its songs. -/
theorem Reflects.room (h : Reflects told tables number? taken written)
    (hnumber : number? path = some n) : Room told tables n path := by
  obtain ⟨held, hheld⟩ := h.numbered path n hnumber
  constructor
  · intro path' other hother
    exact (hother.unique hheld).1
  · intro m other hother
    exact h.unique m n path other held hother hheld

/-- A slot that tells nothing is one for the songs of a path that was neither on record before
nor written. -/
theorem Reflects.room_of_free (h : Reflects told tables number? taken written)
    (hslot : ∀ path' song, ¬Records told tables n path' song) (htaken : ¬taken path)
    (hwritten : ∀ other ∈ written, other.path? ≠ some path) : Room told tables n path := by
  constructor
  · intro path' other hother
    exact absurd hother (hslot path' other)
  · intro m other hother
    rcases h.known m path other hother with hbefore | ⟨found, hmem, hfound⟩
    · exact absurd hbefore htaken
    · exact absurd hfound (hwritten found hmem)

/-- A song that is written into a slot for it is the last of its path, and nothing is lost
of the others. -/
theorem Reflects.write (h : Reflects told tables number? taken written)
    (hroom : Room told tables n path) (hrewritten : Rewritten told told' tables n path read)
    (hvalue : (read.setRecordNumber n).value? = left.value?) :
    Reflects told' tables number? taken (left :: written) := by
  have hleft : left.path? = some path := by
    rw [← Song.path?_congr hvalue, Song.path?_setRecordNumber, hrewritten.named]
  -- The records of other paths are in other slots.
  have hkept : ∀ {m : Nat} {path' : String} {other : Song}, path' ≠ path →
      Records told tables m path' other → Records told' tables m path' other := by
    intro m path' other hne hrecords
    have hm : m ≠ n := by
      rintro rfl
      exact hne (hroom.slot path' other hrecords)
    exact (hrewritten.records_of_ne hm).2 hrecords
  constructor
  case numbered =>
    intro path' m hnumber
    obtain ⟨other, hother⟩ := h.numbered path' m hnumber
    by_cases hpath : path' = path
    · subst hpath
      -- The number of the path was that of the slot, or there was none.
      obtain rfl := hroom.path m other hother
      exact ⟨read, hrewritten.records⟩
    · exact ⟨other, hkept hpath hother⟩
  -- Two records of a path would be one in the slot and one in another, which the room rules
  -- out.
  case unique =>
    intro m k path' a b ha hb
    rw [hrewritten.records_iff] at ha hb
    by_cases hm : m = n
    · by_cases hk : k = n
      · rw [hm, hk]
      · rw [if_pos hm] at ha
        rw [if_neg hk, ha.1] at hb
        rw [hm, hroom.path k b hb]
    · rw [if_neg hm] at ha
      by_cases hk : k = n
      · rw [if_pos hk] at hb
        rw [hb.1] at ha
        rw [hk, hroom.path m a ha]
      · rw [if_neg hk] at hb
        exact h.unique m k path' a b ha hb
  case known =>
    intro m path' other hrecords
    rw [hrewritten.records_iff] at hrecords
    split at hrecords
    · exact .inr ⟨left, List.mem_cons_self, hrecords.1 ▸ hleft⟩
    · rcases h.known m path' other hrecords with htaken | ⟨found, hmem, hfound⟩
      · exact .inl htaken
      · exact .inr ⟨found, List.mem_cons_of_mem _ hmem, hfound⟩
  case latest =>
    intro path' last hlast
    by_cases hpath : path' = path
    · subst hpath
      have hfirst : lastOf? (left :: written) path' = some left := by
        simp [lastOf?, hleft]
      obtain rfl := Option.some.inj (hfirst.symm.trans hlast)
      exact ⟨n, read, hrewritten.records, hvalue⟩
    · -- The last song of another path was written before.
      have hrest : lastOf? (left :: written) path' = lastOf? written path' := by
        have hne : ¬left.path? = some path' := by
          rw [hleft]
          exact fun heq => hpath (Option.some.inj heq).symm
        simp [lastOf?, hne]
      rw [hrest] at hlast
      obtain ⟨m, other, hother, hsame⟩ := h.latest path' last hlast
      exact ⟨m, other, hkept hpath hother, hsame⟩

/-! ### Writing a record -/

variable {lib lib' : Library SlotFile} {disk disk' : Disk} {stamp : Record.Stamp} {place : Place}
  {h : Header} {slots : Nat → Bytes} {k : Nat} {now : Instant}

/-- The record of a stamped song is read with the tags of that song. -/
theorem value?_setRecordNumber_recorded (hstorable : Record.StorableSong tables song)
    (hpath : song.path? = some path) (hnumber : stamp.number ≤ maxRecordNumber) :
    ((Record.recorded tables stamp song).setRecordNumber stamp.number).value? =
      (stamped tables stamp song).value? := by
  have hrecorded := Record.value?_recorded_eq hstorable hpath hnumber
  funext tag
  rw [Song.setRecordNumber, Song.value?_set]
  split
  · rename_i htag
    rw [htag, value?_stamped]
  · rw [hrecorded]

/-- A song of a path that can be written to a record, whose values are read back from it. -/
structure Writable (tables : Tables) (path : String) (song : Song) : Prop where
  lasting : song.temporary = false
  named : song.path? = some path
  nonempty : path ≠ ""
  storable : Record.StorableSong tables song

/-- A song without a number has no record if its path is not on record. -/
theorem recordOf?_eq_none (hpath : song.path? = some path) (hown : song.recordNumber? = none)
    (hnumber : lib.numberOf? path = none) : lib.recordOf? song = none := by
  rw [Option.eq_none_iff_forall_ne_some]
  rintro ⟨number, chosen⟩ hrecord
  rcases recordOf?_eq_some_iff.1 hrecord with ⟨hnew, _⟩ | ⟨_, old, hold, hrecorded, _⟩
  · rw [hown] at hnew
    cases hnew
  · rw [onRecord?, hpath, Option.bind_some] at hold
    rw [numberOf?, hold, Option.bind_some, hrecorded] at hnumber
    cases hnumber

variable [Allocator]

/-- A record that has been written is in its slot, and all numbers that were handed out are
those of records. -/
theorem putRecord_has (hhas : Has place h slots (lib.handle, disk))
    (hhanded : HandedOut stamp.number lib.handle) (hnumber : stamp.number ≤ maxRecordNumber)
    (hstatus : Text.Plain lib.tables.defaultStatus)
    (hput : putRecord stamp (song, lib, disk) = .ok k (left, lib', disk')) :
    (left, lib') = settle stamp song (lib.withHandle lib'.handle) ∧ stamp.number ≠ 0 ∧
      SlotFile.InReach h.slotSize stamp.number ∧
      Has place { h with count := max h.count stamp.number }
        (Function.update slots stamp.number (Text.bytes (Record.encode lib.tables stamp song)))
        (lib'.handle, disk') ∧
      HandedOut 0 lib'.handle := by
  obtain ⟨hsettle, hn, hreach, hhas', _, hwrite⟩ := putRecord_stored hhas hnumber hput
  rw [Record.stored_eq_bytes lib.tables stamp song hstatus] at hhas'
  exact ⟨hsettle, hn, hreach, hhas', hhas.write_handedOut hhanded hnumber hwrite⟩

/-- The song of a path has been left in slot `n` of the store file of a library, which has a
header `h` since then. -/
structure LeftIn (told : Nat → Except HostFault (Option Bytes)) (tables : Tables) (n : Nat)
    (path : String) (left : Song) (h : Header) (s : Library SlotFile × Disk) : Prop where
  same_tables : s.1.tables = tables
  handed : HandedOut 0 s.1.handle
  rewritten : ∃ place slots read, Has place h slots (s.1.handle, s.2) ∧
    Rewritten told (SlotFile.told h slots) tables n path read ∧
    (read.setRecordNumber n).value? = left.value?

/-- Writing a record leaves the song in its slot. -/
theorem putRecord_leftIn (hconsistent : Consistent lib)
    (hhas : Has place h slots (lib.handle, disk)) (hhanded : HandedOut stamp.number lib.handle)
    (hle : stamp.number ≤ h.count + 1) (hmax : stamp.number ≤ maxRecordNumber)
    (hstatus : Text.Plain lib.tables.defaultStatus) (hpath : song.path? = some path)
    (hne : path ≠ "") (hstorable : Record.StorableSong lib.tables song)
    (hput : putRecord stamp (song, lib, disk) = .ok k (left, lib', disk')) :
    LeftIn (SlotFile.told h slots) lib.tables stamp.number path left
        { h with count := max h.count stamp.number } (lib', disk') ∧
      left.value? = (stamped lib.tables stamp song).value? := by
  obtain ⟨hsettle, hn, hreach, hhas', hhanded'⟩ := putRecord_has hhas hhanded hmax hstatus hput
  obtain ⟨hvalue, htables, _⟩ := settle_eq (hconsistent.withHandle lib'.handle) hpath hsettle
  have hvalue : left.value? = (stamped lib.tables stamp song).value? := hvalue
  have hflat : Record.flatten path ≠ "" := by
    rw [hstorable.flatten_path hpath]
    exact hne
  have hdecode := Record.decode_encode lib.tables stamp song hpath hflat hstatus
  -- An empty record would not be told, but what is decoded is not empty.
  have hdata : Text.bytes (Record.encode lib.tables stamp song) ≠ [] := by
    intro hempty
    rw [hempty, Record.decode_nil] at hdecode
    cases hdecode
  have hsame := value?_setRecordNumber_recorded hstorable hpath hmax
  have hread : (Record.recorded lib.tables stamp song).path? = some path := by
    rw [← Song.path?_setRecordNumber _ stamp.number, Song.path?_congr hsame, path?_stamped, hpath]
  refine ⟨⟨htables, hhanded', place, _, _, hhas', ⟨⟨_, ?_, hdecode⟩, hread⟩,
    hsame.trans hvalue.symm⟩, hvalue⟩
  exact SlotFile.told_update hn hle hreach hdata

/-! ### Writing a song -/

/-- A song whose number, if it has one, is that of its path is left in the slot of its path. -/
theorem writeSong_recorded (hconsistent : Consistent lib)
    (hhas : Has place h slots (lib.handle, disk)) (hhanded : HandedOut 0 lib.handle)
    (hle : n ≤ h.count) (hstatus : Text.Plain lib.tables.defaultStatus)
    (hwritable : Writable lib.tables path song) (hnumber : lib.numberOf? path = some n)
    (hown : ∀ own, song.recordNumber? = some own → own = n)
    (hdate : ∀ old date, lib.getByPath? path = some old → old.value? .addDate = some date →
      Record.Storable lib.tables .addDate date)
    (hwrite : writeSong now (song, lib, disk) = .ok k (left, lib', disk')) :
    LeftIn (SlotFile.told h slots) lib.tables n path left h (lib', disk') := by
  obtain ⟨old, hold, hrecorded⟩ := Option.bind_eq_some_iff.1 hnumber
  -- The song that is written may have got the date of the one on record.
  obtain ⟨chosen, hrecord, hpath, hstorable⟩ : ∃ chosen, lib.recordOf? song = some (n, chosen) ∧
      chosen.path? = some path ∧ Record.StorableSong lib.tables chosen := by
    cases hsong : song.recordNumber? with
    | some own =>
      obtain rfl := hown own hsong
      exact ⟨song, recordOf?_eq_some_iff.2 (.inl ⟨hsong, rfl⟩), hwritable.named,
        hwritable.storable⟩
    | none =>
      have honRecord : lib.onRecord? song = some old := by
        rw [onRecord?, hwritable.named, Option.bind_some, hold]
      refine ⟨adoptDate old song, ?_, ?_, ?_⟩
      · exact recordOf?_eq_some_iff.2 (.inr ⟨hsong, old, honRecord, hrecorded, rfl⟩)
      · rw [path?_adoptDate, hwritable.named]
      · exact storableSong_adoptDate hwritable.storable fun date => hdate old date hold
  have hrange := number_of_recordOf? hrecord
  rw [writeSong_apply, hwritable.lasting, hrecord] at hwrite
  simp only [Bool.false_eq_true, if_false] at hwrite
  obtain ⟨hleft, _⟩ := putRecord_leftIn hconsistent hhas (hhanded.mono (Nat.zero_le n))
    (Nat.le_succ_of_le hle) hrange.2 hstatus hpath hwritable.nonempty hstorable hwrite
  -- The number is one of those that are counted already.
  have hcount : max h.count n = h.count := Nat.max_eq_left hle
  rwa [show (⟨n, false, now⟩ : Record.Stamp).number = n from rfl, hcount] at hleft

/-- A song without a number whose path is not on record is left in a slot behind the others,
with the stamp of a new record. -/
theorem writeSong_new (hconsistent : Consistent lib) (hhas : Has place h slots (lib.handle, disk))
    (hhanded : HandedOut 0 lib.handle) (hstatus : Text.Plain lib.tables.defaultStatus)
    (hwritable : Writable lib.tables path song) (hown : song.recordNumber? = none)
    (hnumber : lib.numberOf? path = none)
    (hwrite : writeSong now (song, lib, disk) = .ok k (left, lib', disk')) :
    LeftIn (SlotFile.told h slots) lib.tables (h.count + 1) path left
        { h with count := h.count + 1 } (lib', disk') ∧
      left.value? = (stamped lib.tables ⟨h.count + 1, true, now⟩ song).value? := by
  have hrecord := recordOf?_eq_none hwritable.named hown hnumber
  rw [writeSong_apply, hwritable.lasting, hrecord] at hwrite
  simp only [Bool.false_eq_true, if_false] at hwrite
  cases hallocate : StoreHandle.allocate (lib.handle, disk) with
  | error stop u =>
    rw [hallocate] at hwrite
    cases hwrite
  | ok number u =>
    rw [hallocate] at hwrite
    -- The number that was allocated is the one behind all records.
    obtain ⟨rfl, hmax, hhas', hhanded'⟩ := hhas.allocate_eq hhanded hallocate
    obtain ⟨hleft, hvalue⟩ := putRecord_leftIn (hconsistent.withHandle u.1) hhas' hhanded'
      (Nat.le_refl _) hmax hstatus hwritable.named hwritable.nonempty hwritable.storable hwrite
    have hcount : max h.count (h.count + 1) = h.count + 1 := Nat.max_eq_right (Nat.le_succ _)
    refine ⟨?_, hvalue⟩
    rwa [show (⟨h.count + 1, true, now⟩ : Record.Stamp).number = h.count + 1 from rfl, hcount]
      at hleft

/-- A song without a record can be written if a slot behind the others can hold its record. -/
theorem exists_writeSong_new (hhas : Has place h slots (lib.handle, disk))
    (hhanded : HandedOut 0 lib.handle) (hlasting : song.temporary = false)
    (hrecord : lib.recordOf? song = none) (hmax : h.count + 1 ≤ Number.maxUInt32)
    (hreach : SlotFile.InReach h.slotSize (h.count + 1))
    (hfits : (Text.bytes (Record.encode lib.tables ⟨h.count + 1, true, now⟩ song)).length ≤
      h.slotSize) :
    ∃ left lib' disk', writeSong now (song, lib, disk) =
      .ok (Text.bytes (Record.encode lib.tables ⟨h.count + 1, true, now⟩ song)).length
        (left, lib', disk') := by
  obtain ⟨u, hhas', _, hallocate⟩ := hhas.allocate_apply hhanded
  rw [if_neg (Nat.not_lt_of_le hmax)] at hallocate
  obtain ⟨v, hwrite, _⟩ | ⟨_, v, _, _, hrefused⟩ | ⟨_, hrefused⟩ :=
    hhas'.write hmax (Text.bytes (Record.encode lib.tables ⟨h.count + 1, true, now⟩ song))
  · have hput : StoreHandle.write (h.count + 1)
        (Text.bytes (Record.encode lib.tables ⟨h.count + 1, true, now⟩ song))
        ((lib.withHandle u.1).handle, u.2) = .ok () v := hwrite
    rw [writeSong_apply, hlasting, hrecord]
    simp only [Bool.false_eq_true, if_false, hallocate, putRecord]
    rw [show (lib.withHandle u.1).tables = lib.tables from rfl, hput]
    exact ⟨_, _, _, rfl⟩
  · -- The slot can be written, so that the record is not refused.
    exact absurd ⟨Nat.succ_ne_zero _, hfits, hreach⟩ hrefused
  · exact absurd ⟨Nat.succ_ne_zero _, hfits, hreach⟩ hrefused

end Ballroom.Library
