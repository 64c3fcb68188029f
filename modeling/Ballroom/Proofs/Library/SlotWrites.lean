import Ballroom.Proofs.Library.HeldOpen
import Ballroom.Proofs.Library.Sharing
import Ballroom.Proofs.Library.Temporary

/-!
# A write touches one slot and one entry

A song that is written goes into one slot of the store file and changes no entry of the library
but that of its path (`writeSong_touches`).  A new song gets a slot that is none of a record and
was not written since the library was opened.

The header of a file says how many of its slots are records.  If a song is written behind them
under a number of its own, the slots in between become records with it.  They hold nothing, unless
the file had something behind its records when it was opened, as a batch leaves it there that was
never ended (`not_touches_one_slot`).
-/

namespace Ballroom.Library

open StoreHandle (Has FileAt Joins)
open SlotFile (slotBytes told)

variable {audio : AudioCheck Disk} {tables : Tables} {handle : StoreHandle SlotFile}
  {place : Place} {h : Header} {slots : Nat → Bytes} {lib lib' : Library SlotFile}
  {disk disk' : Disk} {song left chosen : Song} {stamp : Record.Stamp} {now : Instant} {n : Nat}
  {s t : Library SlotFile × Disk}

/-! ### Files that grow -/

/-- The header and the slots of a store file into which a record may have been put. -/
inductive Puts (h : Header) (slots : Nat → Bytes) :
    Option (Nat × Bytes) → Header → (Nat → Bytes) → Prop
  | nothing : Puts h slots none h slots
  | record (n : Nat) (data : Bytes) : Puts h slots (some (n, data))
      { h with count := max h.count n } (Function.update slots n (data.takeWhile (· ≠ 0)))

/-- What a store file that had `h` and `slots` has after some slots were written: they are all
counted, and behind the records the file is as it was. -/
structure Grown (h : Header) (slots : Nat → Bytes) (written : List Nat) (h' : Header)
    (slots' : Nat → Bytes) : Prop where
  slotSize : h'.slotSize = h.slotSize
  count_le : h.count ≤ h'.count
  counted : ∀ n ∈ written, n ≤ h'.count
  behind : ∀ m, h'.count < m → slots' m = slots m

/-- A record that is put into a store file lets it grow. -/
theorem Puts.grown {put? : Option (Nat × Bytes)} {h' : Header} {slots' : Nat → Bytes}
    (hputs : Puts h slots put? h' slots') :
    Grown h slots (put?.map Prod.fst).toList h' slots' := by
  cases hputs with
  | nothing => exact ⟨rfl, Nat.le_refl _, by simp, fun m _ => rfl⟩
  | record n data =>
    refine ⟨rfl, Nat.le_max_left _ _, by simp, ?_⟩
    intro m hm
    exact Function.update_of_ne (Nat.ne_of_gt (Nat.lt_of_le_of_lt (Nat.le_max_right _ _) hm)) _ _

/-- A file that has grown twice has grown by both. -/
theorem Grown.trans {written later : List Nat} {h' h'' : Header} {slots' slots'' : Nat → Bytes}
    (hgrown : Grown h slots written h' slots') (hgrown' : Grown h' slots' later h'' slots'') :
    Grown h slots (written ++ later) h'' slots'' where
  slotSize := hgrown'.slotSize.trans hgrown.slotSize
  count_le := hgrown.count_le.trans hgrown'.count_le
  counted n hn := by
    rcases List.mem_append.1 hn with hn | hn
    · exact (hgrown.counted n hn).trans hgrown'.count_le
    · exact hgrown'.counted n hn
  behind m hm := by
    rw [hgrown'.behind m hm, hgrown.behind m (Nat.lt_of_le_of_lt hgrown'.count_le hm)]

/-- What a library and a disk come to by requests is reachable. -/
theorem Reachable.performAll {σ ω : Type} [RecordStore σ ω] {audio : AudioCheck ω}
    {start : StoreHandle σ → ω → Prop} {others : ω → ω → Prop} {s : Library σ × ω}
    (hreach : Reachable audio tables start others s.1 s.2) (requests : List Request) :
    Reachable audio tables start others (Request.performAll requests s).1
      (Request.performAll requests s).2 := by
  induction requests generalizing s with
  | nil => exact hreach
  | cons request later ih => exact ih (.request request hreach)

/-! ### One entry -/

/-- Writing a song changes no entry but that of its path, and none if its path is not on
record. -/
structure WritesEntry (song : Song) (lib lib' : Library SlotFile) : Prop where
  byPath : lib'.byPath = lib.byPath
  temporaries : lib'.temporaries = lib.temporaries
  others : ∀ (i : Nat) (old : Song), lib.songs[i]? = some old → old.path? ≠ song.path? →
    lib'.songs[i]? = some old
  unlisted : lib.onRecord? song = none → lib' = lib.withHandle lib'.handle

/-- A song that has been settled changes the entry of its path, if there is one, and no
other. -/
theorem writesEntry_of_settle (hconsistent : Consistent lib) (hpath : chosen.path? = song.path?)
    (hsettle : (left, lib') = settle stamp chosen (lib.withHandle lib'.handle)) :
    WritesEntry song lib lib' := by
  obtain ⟨handle, hhandle⟩ : ∃ handle, lib'.handle = handle := ⟨_, rfl⟩
  rw [hhandle] at hsettle
  -- The entry is looked up by the path of the song, which its record does not change.
  simp only [settle, path?_stamped, hpath] at hsettle
  cases hplace : song.path?.bind fun path => lib.byPath[path]? with
  | none =>
    rw [show (song.path?.bind fun path => (lib.withHandle handle).byPath[path]?) = none from
      hplace] at hsettle
    obtain ⟨-, rfl⟩ := Prod.mk.inj hsettle
    exact ⟨rfl, rfl, fun i old hold _ => hold, fun _ => rfl⟩
  | some i =>
    obtain ⟨path, hsong, hi⟩ := Option.bind_eq_some_iff.1 hplace
    obtain ⟨listed, hlisted, hsame⟩ := (hconsistent.byPath path i).1 hi
    have hlisted' : (lib.withHandle handle).songs[i]? = some listed := hlisted
    rw [show (song.path?.bind fun path => (lib.withHandle handle).byPath[path]?) = some i from
      hplace] at hsettle
    dsimp only at hsettle
    rw [replace_of_path_eq hlisted' (by
      rw [Song.path?_withIndex, path?_stamped, hpath, hsong, hsame])] at hsettle
    obtain ⟨-, rfl⟩ := Prod.mk.inj hsettle
    refine ⟨rfl, by simp [temporaries, withHandle], ?_, ?_⟩
    · intro j old hold hother
      -- The entry in place `i` has the path of the song.
      have hne : i ≠ j := by
        rintro rfl
        rw [hlisted] at hold
        obtain rfl := Option.some.inj hold
        exact hother (hsame.trans hsong.symm)
      show (lib.songs.setIfInBounds i _)[j]? = some old
      rw [Array.getElem?_setIfInBounds_ne hne, hold]
    · intro hnone
      rw [onRecord?, hsong, Option.bind_some, Library.getByPath?, hi, Option.bind_some,
        hlisted] at hnone
      cases hnone

section Slots

variable [Allocator]

/-! ### What a song that is written leaves -/

/-- A song that is not temporary is put into the store as its draft, unless it is a new one and
there is no number for it, which ends the program. -/
theorem writeSong_cases (hhas : Has place h slots (lib.handle, disk))
    (hlasting : song.temporary = false) (now : Instant) :
    (∃ count stamp chosen u, h.count ≤ count ∧
      lib.draft? count now song = some (stamp, chosen) ∧ stamp.number ≤ maxRecordNumber ∧
      Has place h slots u ∧
      writeSong now (song, lib, disk) = putRecord stamp (chosen, lib.onStore u)) ∨
    (writeSong now).Panics (song, lib, disk) := by
  cases hrecord : lib.recordOf? song with
  | some found =>
    obtain ⟨number, chosen⟩ := found
    -- The song has a record, and no number is asked for.
    refine .inl ⟨h.count, ⟨number, false, now⟩, chosen, (lib.handle, disk), Nat.le_refl _, ?_,
      (number_of_recordOf? hrecord).2, hhas, ?_⟩
    · rw [draft?, hlasting, hrecord, if_neg (by decide)]
    · rw [writeSong_apply, hlasting, hrecord, if_neg (by decide)]
      rfl
  | none =>
    rcases hhas.allocate with ⟨number, u, hallocate, hmax, hhas'⟩ | ⟨why, u, hallocate⟩
    · -- The draft is that for a store whose last number was the one before.
      obtain ⟨count, rfl⟩ : ∃ count, number = count + 1 :=
        Nat.exists_eq_add_one.2 (Nat.zero_lt_of_lt (hhas.lt_of_allocate hallocate))
      refine .inl ⟨count, ⟨count + 1, true, now⟩, song, u,
        Nat.le_of_lt_succ (hhas.lt_of_allocate hallocate), ?_, hmax, hhas', ?_⟩
      · rw [draft?, hlasting, hrecord, if_neg (by decide)]
      · rw [writeSong_apply, hlasting, hrecord, if_neg (by decide)]
        dsimp only
        rw [hallocate]
    · -- There is no number left, and the program ends.
      refine .inr ⟨why, (song, lib.onStore u), ?_⟩
      rw [writeSong_apply, hlasting, hrecord, if_neg (by decide)]
      dsimp only
      rw [hallocate]

/-- A song has been written: `chosen` is the song as it is in its record, and `stamp` has the
number of the slot that holds the record. -/
structure Wrote (place : Place) (h : Header) (slots : Nat → Bytes) (now : Instant) (song : Song)
    (lib : Library SlotFile) (stamp : Record.Stamp) (chosen : Song) (n : Nat) (left : Song)
    (t : Library SlotFile × Disk) : Prop where
  draft : ∃ count, h.count ≤ count ∧ lib.draft? count now song = some (stamp, chosen)
  length : n = (lib.recordBytes now song stamp.number).length
  settle : (left, t.1) = settle stamp chosen (lib.withHandle t.1.handle)
  number : left.recordNumber? = some stamp.number
  reach : SlotFile.InReach h.slotSize stamp.number
  has : Has place { h with count := max h.count stamp.number }
    (Function.update slots stamp.number
      ((lib.recordBytes now song stamp.number).takeWhile (· ≠ 0))) (handleOf t)
  settled : StoreHandle.Settled h t.1.handle

/-- A song that is not temporary has been written if writing it succeeds. -/
theorem exists_wrote (hhas : Has place h slots (lib.handle, disk))
    (hlasting : song.temporary = false)
    (hwrite : writeSong now (song, lib, disk) = .ok n (left, t)) :
    ∃ stamp chosen, Wrote place h slots now song lib stamp chosen n left t := by
  obtain ⟨lib', disk'⟩ := t
  obtain ⟨count, stamp, chosen, u, hcount, hdraft, hmax, hhas', hput⟩ | ⟨why, u, hpanics⟩ :=
    writeSong_cases hhas hlasting now
  · have hhas' : Has place h slots ((lib.withHandle u.1).handle, u.2) := hhas'
    rw [hput] at hwrite
    obtain ⟨hsettle, hn, hreach, hhas'', hsettled, hstored⟩ := putRecord_stored hhas' hmax hwrite
    have hlength : putRecord stamp (chosen, lib.onStore u) = _ := putRecord_of_write hstored
    have hbytes := recordBytes_of_draft? hdraft
    refine ⟨stamp, chosen, ⟨count, hcount, hdraft⟩, ?_, hsettle, ?_, hreach, ?_, hsettled⟩
    · rw [hbytes]
      exact (EStateM.Result.ok.inj (hwrite.symm.trans hlength)).1
    · rw [show left = (settle stamp chosen _).1 from congrArg Prod.fst hsettle]
      exact recordNumber?_settle stamp chosen _ ⟨Nat.one_le_iff_ne_zero.2 hn, hmax⟩
    · rw [hbytes]
      exact hhas''
  · -- A write that panics does not come to an end.
    rw [hpanics] at hwrite
    cases hwrite

/-- A write that fails leaves every slot as it was. -/
theorem has_of_writeSong_error (hhas : Has place h slots (lib.handle, disk))
    {cause : LibraryFault}
    (hwrite : writeSong now (song, lib, disk) = .error (.fault cause) (left, t)) :
    Has place h slots (handleOf t) := by
  obtain ⟨lib', disk'⟩ := t
  cases hlasting : song.temporary with
  | true =>
    rw [writeSong_apply, if_pos hlasting] at hwrite
    cases hwrite
  | false =>
    obtain ⟨_, stamp, chosen, u, _, _, hmax, hhas', hput⟩ | ⟨why, u, hpanics⟩ :=
      writeSong_cases hhas hlasting now
    · have hhas' : Has place h slots ((lib.withHandle u.1).handle, u.2) := hhas'
      rw [hput] at hwrite
      -- Whatever the reason, a record that is refused is not written.
      exact putRecord_refused hhas' hmax hwrite
    · rw [hpanics] at hwrite
      cases hwrite

/-! ### What requests leave -/

/-- The number and the bytes of the record that is put into the store while a request is done. -/
def Request.written? : Request → Library SlotFile × Disk → Option (Nat × Bytes)
  | write song now, s => Library.written? now song s
  | _, _ => none

/-- The numbers of the slots that are written while requests are done, one after the other. -/
def numbersWritten : List Request → Library SlotFile × Disk → List Nat
  | [], _ => []
  | request :: later, s =>
    ((request.written? s).map Prod.fst).toList ++ numbersWritten later (request.perform s)

/-- A song that is written is put into the store, and else nothing is. -/
theorem writeSong_puts (hhas : Has place h slots (lib.handle, disk)) (now : Instant)
    (song : Song) :
    ∃ h' slots', Puts h slots (written? now song (lib, disk)) h' slots' ∧
      Has place h' slots' (handleOf ((writeSong now).next (song, lib, disk)).2) := by
  rcases hwrite : writeSong now (song, lib, disk) with ⟨n, t⟩ | ⟨cause | why, t⟩
  · obtain ⟨left, t⟩ := t
    rw [Step.next_of_ok hwrite]
    cases hlasting : song.temporary with
    | true =>
      -- A temporary song has no record.
      have hwritten : written? now song (lib, disk) = none := by
        rw [written?, hwrite]
        exact if_pos hlasting
      rw [writeSong_apply, if_pos hlasting] at hwrite
      obtain ⟨-, hstate⟩ := EStateM.Result.ok.inj hwrite
      obtain ⟨-, rfl⟩ := Prod.mk.inj hstate
      rw [hwritten]
      exact ⟨h, slots, .nothing, hhas⟩
    | false =>
      obtain ⟨stamp, chosen, hwrote⟩ := exists_wrote hhas hlasting hwrite
      have hwritten : written? now song (lib, disk) =
          some (stamp.number, lib.recordBytes now song stamp.number) := by
        rw [written?, hwrite]
        simp [hlasting, hwrote.number]
      rw [hwritten]
      exact ⟨_, _, .record _ _, hwrote.has⟩
  · have hwritten : written? now song (lib, disk) = none := by rw [written?, hwrite]
    rw [Step.next_of_fault hwrite, hwritten]
    exact ⟨h, slots, .nothing, has_of_writeSong_error hhas hwrite⟩
  · -- The program has ended.
    have hwritten : written? now song (lib, disk) = none := by rw [written?, hwrite]
    rw [Step.next_of_panics ⟨why, t, hwrite⟩, hwritten]
    exact ⟨h, slots, .nothing, hhas⟩

/-- A request after which the store file holds what it held. -/
theorem has_perform {request : Request} (hhas : Has place h slots (handleOf s))
    (hasked : Has place h slots ((request.asked s.1).after (handleOf s))) :
    Has place h slots (handleOf (request.perform s)) := by
  apply request.perform_keeps (P := fun t => Has place h slots (handleOf t)) hhas
  rwa [(request.handleOf_leave s).1]

/-- Whatever is asked of a library, at most one record is put into its store. -/
theorem perform_puts (hhas : Has place h slots (handleOf s)) (request : Request) :
    ∃ h' slots', Puts h slots (request.written? s) h' slots' ∧
      Has place h' slots' (handleOf (request.perform s)) := by
  obtain ⟨lib, disk⟩ := s
  cases request with
  | write song now => exact writeSong_puts hhas now song
  | load index =>
    -- A slot is read, at most, and that keeps what the file holds.
    refine ⟨h, slots, .nothing, has_perform hhas ?_⟩
    dsimp only [Request.asked]
    split
    · rw [Step.after_discard]
      exact (hhas.after_readSingle _).1
    · exact hhas
  | addTemporary song => exact ⟨h, slots, .nothing, hhas⟩
  | removeTemporary index => exact ⟨h, slots, .nothing, hhas⟩
  | startBatch =>
    obtain ⟨u, hstart, hhas', _⟩ := hhas.startBatch
    refine ⟨h, slots, .nothing, has_perform hhas ?_⟩
    rwa [Request.asked, Step.after_of_ok hstart]
  | endBatch =>
    -- The end of a batch closes the store.
    obtain ⟨disk', hclose, hhas', _⟩ := hhas.close
    have hend : StoreHandle.endBatch (lib.handle, disk) = .ok () _ := hclose
    refine ⟨h, slots, .nothing, has_perform hhas ?_⟩
    rwa [Request.asked, Step.after_of_ok hend]
  | close =>
    obtain ⟨disk', hclose, hhas', _⟩ := hhas.close
    refine ⟨h, slots, .nothing, has_perform hhas ?_⟩
    rwa [Request.asked, Step.after_of_ok hclose]

/-- Requests let a store file grow by the slots that they write. -/
theorem exists_grown (hhas : Has place h slots (handleOf s)) (requests : List Request) :
    ∃ h' slots', Grown h slots (numbersWritten requests s) h' slots' ∧
      Has place h' slots' (handleOf (Request.performAll requests s)) := by
  -- What the first request leaves is what the later ones start from.
  induction requests generalizing s h slots with
  | nil => exact ⟨h, slots, ⟨rfl, Nat.le_refl _, by simp [numbersWritten], fun m _ => rfl⟩, hhas⟩
  | cons request later ih =>
    obtain ⟨h₁, slots₁, hputs, hhas₁⟩ := perform_puts hhas request
    obtain ⟨h', slots', hgrown, hhas'⟩ := ih hhas₁
    exact ⟨h', slots', hputs.grown.trans hgrown, hhas'⟩

/-! ### One slot -/

/-- What a slot of the store of a library is read as. -/
def readAt (s : Library SlotFile × Disk) (m : Nat) :
    Except (Stop LibraryFault) (Option Bytes) :=
  ((StoreHandle.readSingle m).outcome (handleOf s)).1

/-- What is read at a number is what the file tells of its slot. -/
theorem readAt_eq (hhas : Has place h slots (handleOf s)) (m : Nat) :
    readAt s m = (told h slots m).mapError fun cause => .fault (.host cause) := by
  obtain ⟨u, hread⟩ := hhas.readSingle_eq m
  rw [readAt, Step.outcome, hread]
  cases told h slots m <;> rfl

/-- `data` is written into slot `number` of a store, and nothing into the other slots.  The store
has counted `count` slots as records, and behind them its slots hold `held`. -/
structure WritesSlot (count : Nat) (held : Nat → Bytes) (number : Nat) (data : Bytes)
    (s t : Library SlotFile × Disk) : Prop where
  written : StoreHandle.readSingle number (handleOf t) =
    .ok (some (data.takeWhile (· ≠ 0))) (handleOf t)
  /-- The other slots are read as before, but for what becomes a record and holds something. -/
  others : ∀ m ≠ number, (count < m → m < number → held m = []) → readAt t m = readAt s m
  /-- The slots between the records and the new one become records. -/
  between : ∀ m, count < m → m < number →
    readAt s m = .ok none ∧ readAt t m = .ok (if held m = [] then none else some (held m))

/-- A song that has been written is in its slot. -/
theorem Wrote.writesSlot (hwrote : Wrote place h slots now song s.1 stamp chosen n left t)
    (hhas : Has place h slots (handleOf s)) {held : Nat → Bytes}
    (hheld : ∀ m, h.count < m → slots m = held m) :
    WritesSlot h.count held stamp.number (s.1.recordBytes now song stamp.number) s t := by
  obtain ⟨count, _, hdraft⟩ := hwrote.draft
  -- A record is never empty, so that the slot does tell it.
  have hnonempty : (s.1.recordBytes now song stamp.number).takeWhile (· ≠ 0) ≠ [] := by
    rw [recordBytes_of_draft? hdraft]
    exact Record.stored_ne_nil s.1.tables stamp chosen
  refine ⟨?_, ?_, ?_⟩
  · have hread := hwrote.has.readSingle_told hwrote.settled stamp.number
    rw [SlotFile.told_update_self slots (number_of_draft? hdraft).1 hwrote.reach hnonempty] at hread
    exact hread
  · intro m hm hblank
    rw [readAt_eq hwrote.has, readAt_eq hhas]
    by_cases hapart : m ≤ h.count ∨ stamp.number < m
    · rw [SlotFile.told_update_of_ne hm hapart]
    · -- The slot becomes a record, but one that holds nothing.
      have hbetween : h.count < m ∧ m < stamp.number := by omega
      obtain ⟨hbefore, hafter⟩ :=
        SlotFile.told_update_between hbetween.1 hbetween.2 hwrote.reach
      rw [hbefore, hafter, hheld m hbetween.1, if_pos (hblank hbetween.1 hbetween.2)]
  · intro m hbehind hm
    rw [readAt_eq hwrote.has, readAt_eq hhas]
    obtain ⟨hbefore, hafter⟩ := SlotFile.told_update_between hbehind hm hwrote.reach
    rw [hbefore, hafter, hheld m hbehind]
    exact ⟨rfl, rfl⟩

/-- The slot that a song is written into: it has a number already, or it gets one behind those
that the store counts, that it counted when the library was opened, and that were written
since. -/
structure Numbered (lib : Library SlotFile) (song : Song) (count opened : Nat)
    (written : List Nat) (number : Nat) : Prop where
  own : ∀ n, song.recordNumber? = some n → number = n
  onRecord : ∀ old, song.recordNumber? = none → lib.onRecord? song = some old →
    old.recordNumber? = some number
  new : song.recordNumber? = none → lib.onRecord? song = none →
    count < number ∧ opened < number ∧ number ∉ written

/-- A song with a record is written to its number. -/
theorem Wrote.number_eq (hwrote : Wrote place h slots now song lib stamp chosen n left t)
    {number : Nat} {found : Song} (hrecord : lib.recordOf? song = some (number, found)) :
    stamp.number = number := by
  obtain ⟨count, _, hdraft⟩ := hwrote.draft
  obtain ⟨_, ⟨hown, _⟩ | ⟨hnone, _⟩⟩ := cases_of_draft? hdraft
  · exact (Prod.mk.inj (Option.some.inj (hown.symm.trans hrecord))).1
  · rw [hrecord] at hnone
    cases hnone

/-- A new record has a number behind the last one. -/
theorem Wrote.lt_number (hwrote : Wrote place h slots now song lib stamp chosen n left t)
    (hrecord : lib.recordOf? song = none) : h.count < stamp.number := by
  obtain ⟨count, hcount, hdraft⟩ := hwrote.draft
  obtain ⟨_, ⟨hown, _⟩ | ⟨_, hstamp, _⟩⟩ := cases_of_draft? hdraft
  · rw [hrecord] at hown
    cases hown
  · rw [hstamp]
    exact Nat.lt_succ_of_le hcount

/-- The number is that of the record, or it is behind all that were opened or written. -/
theorem Wrote.numbered (hwrote : Wrote place h slots now song lib stamp chosen n left t)
    (hconsistent : Consistent lib) {opened : Nat} {written : List Nat} (hopened : opened ≤ h.count)
    (hwritten : ∀ m ∈ written, m ≤ h.count) :
    Numbered lib song h.count opened written stamp.number where
  own m hown := hwrote.number_eq (recordOf?_eq_some_iff.2 (.inl ⟨hown, rfl⟩))
  onRecord old hown hold := by
    obtain ⟨m, hm⟩ := hconsistent.number_of_onRecord? hold
    rw [hm, hwrote.number_eq (recordOf?_eq_some_iff.2 (.inr ⟨hown, old, hold, hm, rfl⟩))]
  new hown hold := by
    have hlt := hwrote.lt_number (show lib.recordOf? song = none by rw [recordOf?, hown, hold])
    exact ⟨hlt, Nat.lt_of_le_of_lt hopened hlt,
      fun hmem => Nat.not_le_of_lt hlt (hwritten _ hmem)⟩

/-! ### Every write -/

/-- A song that is written to a library, whatever was asked of it before, goes into the slot of
its number and changes no entry but that of its path.  The other slots are read as before, except
those that become records and hold something since before the library was opened.  A temporary
song is not written. -/
theorem writeSong_touches {first : Library SlotFile} {disk₀ disk₁ : Disk}
    {requests : List Request} (hunopened : Unopened handle disk₀)
    (hload : load audio handle tables disk₀ = .ok first disk₁)
    (hrun : Request.performAll requests (first, disk₁) = s) (now : Instant) (song : Song) :
    (song.temporary = true → writeSong now (song, s) = .ok 0 (song, s)) ∧
    ∀ n left t, writeSong now (song, s) = .ok n (left, t) → 0 < n →
      ∃ place opened h slots number,
        Has place opened (slotBytes (disk₁.content place) opened.slotSize) (first.handle, disk₁) ∧
        Has place h slots (handleOf s) ∧
        left.recordNumber? = some number ∧
        n = (s.1.recordBytes now song number).length ∧
        Numbered s.1 song h.count opened.count (numbersWritten requests (first, disk₁)) number ∧
        WritesSlot h.count (slotBytes (disk₁.content place) opened.slotSize) number
          (s.1.recordBytes now song number) s t ∧
        WritesEntry song s.1 t.1 := by
  obtain ⟨lib, disk⟩ := s
  refine ⟨fun htemporary => by rw [writeSong_apply, if_pos htemporary], ?_⟩
  intro n left t hwrite hpos
  -- Bytes have been written, so that the song is not temporary.
  have hlasting : song.temporary = false := by
    by_contra htemporary
    rw [writeSong_apply, if_pos (Bool.of_not_eq_false htemporary)] at hwrite
    exact Nat.ne_of_lt hpos (EStateM.Result.ok.inj hwrite).1
  -- The file since it was opened, and the library.
  obtain ⟨place, opened, _, hhas₀, _⟩ := loadedFrom_of_unopened hunopened hload
  obtain ⟨h, slots, hgrown, hhas⟩ := exists_grown (s := (first, disk₁)) hhas₀.slotBytes requests
  have hconsistent : Consistent lib := by
    have hloaded : Reachable audio tables CountsWithin (fun _ _ => False) first disk₁ :=
      .load (countsWithin_of_unopened hunopened) hload
    have hreached := (Reachable.performAll (s := (first, disk₁)) hloaded requests).consistent
    rwa [hrun] at hreached
  rw [hrun] at hhas
  obtain ⟨stamp, chosen, hwrote⟩ := exists_wrote hhas hlasting hwrite
  obtain ⟨count, _, hdraft⟩ := hwrote.draft
  exact ⟨place, opened, h, slots, stamp.number, hhas₀.slotBytes, hhas, hwrote.number, hwrote.length,
    hwrote.numbered hconsistent hgrown.count_le hgrown.counted,
    hwrote.writesSlot hhas hgrown.behind,
    writesEntry_of_settle hconsistent (path?_of_draft? hdraft) hwrote.settle⟩

end Slots

/-! ### A batch that is not ended -/

/-- A new song is written during a batch, which leaves the header of the file alone. -/
private theorem writeSong_of_inUse {root : StoreHandle SlotFile} {base : Disk} {dirty : Bool}
    {o : OpenSlots} {content : Content} {data : Bytes}
    (huse : StoreHandle.InUse root base place true h 0 dirty (some o) content)
    (hsize : h.slotSize ≤ 65536) (hcount : h.count < maxRecordNumber)
    (hdraft : lib.draft? h.count now song = some (⟨h.count + 1, true, now⟩, song))
    (hdata : Text.bytes (Record.encode lib.tables ⟨h.count + 1, true, now⟩ song) = data)
    (hlength : data.length ≤ h.slotSize) :
    ∃ o', writeSong now (song,
          lib.onStore (StoreHandle.onFile root base place true ⟨h.slotSize, some o⟩ content)) =
        .ok data.length ((settle ⟨h.count + 1, true, now⟩ song lib).1,
          (settle ⟨h.count + 1, true, now⟩ song lib).2.onStore (StoreHandle.onFile root base place
            true ⟨h.slotSize, some o'⟩ (SlotFile.withSlot content h.slotSize (h.count + 1) data))) ∧
      StoreHandle.InUse root base place true { h with count := h.count + 1 } 0 true (some o')
        (SlotFile.withSlot content h.slotSize (h.count + 1) data) := by
  obtain ⟨reserved, hallocate, hopened⟩ := huse.allocate hcount
  have hreach := SlotFile.inReach_of_le hsize (Nat.succ_le_of_lt hcount)
  obtain ⟨o', hwrite, hdone⟩ :=
    hopened.write_batch (Nat.succ_ne_zero h.count) hlength hreach hcount
  rw [Nat.max_eq_right (Nat.le_succ h.count), decide_eq_true (Nat.lt_succ_self h.count),
    Bool.or_true] at hdone
  refine ⟨o', ?_, hdone⟩
  rw [← hdata] at hwrite ⊢
  exact writeSong_of_draft? hdraft hallocate hwrite

/-- The record of the first new song. -/
private abbrev firstRecord : Bytes :=
  Text.bytes (Record.encode .standard ⟨1, true, .epoch⟩ moonRiver)

/-- The record of the second one. -/
private abbrev secondRecord : Bytes :=
  Text.bytes (Record.encode .standard ⟨2, true, .epoch⟩ libertango)

/-- A batch that is not ended. -/
private def begun : List Request := [.startBatch, .write moonRiver .epoch]

/-- Starting a batch does to the library what it does to the store. -/
private theorem perform_startBatch {u : StoreHandle SlotFile × Disk}
    (hstart : StoreHandle.startBatch (lib.handle, disk) = .ok () u) :
    Request.startBatch.perform (lib, disk) = lib.onStore u := by
  apply Step.next_of_ok
  rw [Library.startBatch, onHandle, Step.focus_apply, hstart]
  rfl

/-- During a batch a song is written to a file without records, and another one can be. -/
private theorem exists_begun (hfile : FileAt place ⟨1, 256, 0⟩ disk)
    (hjoins : Joins place ⟨1, 256, 0⟩ lib.handle disk) (hconsistent : Consistent lib)
    (htables : lib.tables = .standard) (hnew : ∀ path, lib.getByPath? path = none) :
    ∃ handle left t, Request.performAll begun (lib, disk) = (lib.withHandle handle,
        disk.put place (.file (SlotFile.withSlot (disk.content place) 256 1 firstRecord))) ∧
      numbersWritten begun (lib, disk) = [1] ∧
      writeSong .epoch (libertango, Request.performAll begun (lib, disk)) =
        .ok secondRecord.length (left, t) := by
  obtain ⟨hsame, huse⟩ := (hfile.has hjoins (hfile.browsable (by decide))).inUse_of_closed
    hjoins.noBatch hjoins.store
  obtain ⟨o, hstart, hbatch⟩ := huse.startBatch
  rw [hsame] at hstart
  have hstarted := perform_startBatch hstart
  have hunlisted : lib.onRecord? moonRiver = none := hnew "a.mp3"
  have hunlisted₂ : lib.onRecord? libertango = none := hnew "b.mp3"
  have hdraft : lib.draft? 0 .epoch moonRiver = some (⟨1, true, .epoch⟩, moonRiver) :=
    draft?_of_new rfl rfl hunlisted 0
  obtain ⟨o₁, hwrite, hbatch₁⟩ :=
    writeSong_of_inUse hbatch (by decide) (by decide) hdraft (by rw [htables]) (by decide +kernel)
  -- The library has no entry that would change.
  have hnumber := recordNumber?_settle ⟨1, true, .epoch⟩ moonRiver lib ⟨by decide, by decide⟩
  rw [settle_of_new hconsistent rfl (hnew "a.mp3")] at hwrite hnumber
  have hdraft₂ : lib.draft? 1 .epoch libertango = some (⟨2, true, .epoch⟩, libertango) :=
    draft?_of_new rfl rfl hunlisted₂ 1
  obtain ⟨o₂, hwrite₂, _⟩ :=
    writeSong_of_inUse hbatch₁ (by decide) (by decide) hdraft₂ (by rw [htables]) (by decide +kernel)
  have hperformed : Request.performAll begun (lib, disk) =
      lib.onStore (StoreHandle.onFile lib.handle disk place true ⟨256, some o₁⟩
        (SlotFile.withSlot (disk.content place) 256 1 firstRecord)) := by
    show ((writeSong .epoch).next (moonRiver, Request.startBatch.perform (lib, disk))).2 = _
    rw [hstarted, Step.next_of_ok hwrite]
  -- The one request that writes has written the first number.
  have hnumbers : numbersWritten begun (lib, disk) = [1] := by
    show ((written? .epoch moonRiver (Request.startBatch.perform (lib, disk))).map
      Prod.fst).toList ++ [] = [1]
    rw [hstarted, written?, hwrite]
    simp [hnumber, show moonRiver.temporary = false from rfl]
  rw [hperformed]
  exact ⟨_, _, _, rfl, hnumbers, hwrite₂⟩

/-- A file whose batch was not ended counts no records, but holds the song. -/
private theorem fileAt_begun (hfile : FileAt place ⟨1, 256, 0⟩ disk)
    (hjoins : Joins place ⟨1, 256, 0⟩ newHandle disk)
    (hbegun : s = (lib.withHandle handle,
      disk.put place (.file (SlotFile.withSlot (disk.content place) 256 1 firstRecord)))) :
    FileAt place ⟨1, 256, 0⟩ s.2 ∧ Joins place ⟨1, 256, 0⟩ newHandle s.2 ∧
      slotBytes (s.2.content place) 256 1 =
        Record.stored .standard ⟨1, true, .epoch⟩ moonRiver := by
  obtain ⟨content, hentry⟩ := hjoins.leads.file
  have hcontent : s.2.content place = SlotFile.withSlot (disk.content place) 256 1 firstRecord := by
    rw [hbegun, Disk.content_put_file, if_pos rfl]
  refine ⟨⟨?_, ?_⟩, ?_, ?_⟩
  · rw [hcontent]
    exact SlotFile.size_le_withSlot hfile.size_le _ _ _
  · rw [hcontent, SlotFile.headerOf_withSlot hfile.size_le]
    exact hfile.header
  · rw [hbegun]
    exact hjoins.mono (Disk.extends_put_file hentry _) rfl rfl
  · rw [hcontent]
    exact SlotFile.slotBytes_withSlot _ 1 (by decide +kernel)

/-- In a batch that is not ended a second song gets a slot behind that of the first, and no entry
changes. -/
theorem writeSong_touches_begun :
    ∃ disk first s left t number,
      load (fun _ _ => .ok true) newHandle .standard disk = .ok first disk ∧
      Request.performAll begun (first, disk) = s ∧ numbersWritten begun (first, disk) = [1] ∧
      writeSong .epoch (libertango, s) = .ok secondRecord.length (left, t) ∧
      left.recordNumber? = some number ∧ number ≠ 1 ∧ t.1 = s.1.withHandle t.1.handle := by
  obtain ⟨place, disk, hfile, hjoins⟩ := exists_empty_file
  obtain ⟨first, hunopened, hload, hfirst, hconsistent, htables, hnew⟩ :=
    exists_loaded_of_fileAt hfile hjoins
  obtain ⟨handle, left, t, hbegun, hnumbers, hwrite⟩ :=
    exists_begun hfile hfirst hconsistent htables hnew
  obtain ⟨_, htouches⟩ := writeSong_touches hunopened hload rfl .epoch libertango
  obtain ⟨_, opened, h, slots, number, _, _, hnumber, _, hnumbered, _, hentry⟩ :=
    htouches _ _ _ hwrite (by decide +kernel)
  have hunlisted : (Request.performAll begun (first, disk)).1.onRecord? libertango = none := by
    rw [hbegun]
    exact hnew "b.mp3"
  -- A new number is none of those that were written before.
  obtain ⟨_, _, hunwritten⟩ := hnumbered.new rfl hunlisted
  rw [hnumbers, List.mem_singleton] at hunwritten
  exact ⟨disk, first, _, left, t, number, hload, rfl, hnumbers, hwrite, hnumber, hunwritten,
    hentry.unlisted hunlisted⟩

/-- A song with the number of a slot. -/
private def skipping : Song := libertango.setRecordNumber 3

/-- In a file that counts no records the song is written into its slot, and what the first slot
holds is a record then. -/
private theorem exists_skipping (hfile : FileAt place ⟨1, 256, 0⟩ disk)
    (hjoins : Joins place ⟨1, 256, 0⟩ lib.handle disk) (htables : lib.tables = .standard) :
    ∃ n left t, writeSong .epoch (skipping, lib, disk) = .ok n (left, t) ∧ 0 < n ∧
      left.recordNumber? = some 3 ∧ readAt (lib, disk) 1 = .ok none ∧
      readAt t 1 = .ok (if slotBytes (disk.content place) 256 1 = [] then none
        else some (slotBytes (disk.content place) 256 1)) := by
  have hdraft : lib.draft? 0 .epoch skipping = some (⟨3, false, .epoch⟩, skipping) := rfl
  have hbytes := recordBytes_of_draft? hdraft
  have hlength : (lib.recordBytes .epoch skipping 3).length ≤ 256 ∧
      0 < (lib.recordBytes .epoch skipping 3).length := by
    rw [hbytes, htables]
    decide +kernel
  have hwrite := writeSong_of_joins hfile hjoins (by decide) (by decide) hdraft
  rw [if_neg (Nat.not_lt_of_le hlength.1)] at hwrite
  have hnumber := recordNumber?_settle ⟨3, false, .epoch⟩ skipping lib ⟨by decide, by decide⟩
  have hhas := hfile.has hjoins (hfile.browsable (by decide))
  obtain ⟨stamp, _, hwrote⟩ := exists_wrote hhas rfl hwrite
  obtain ⟨_, _, hbetween⟩ := hwrote.writesSlot (s := (lib, disk)) hhas fun _ _ => rfl
  have hslot : 3 = stamp.number := Option.some.inj (hnumber.symm.trans hwrote.number)
  -- The first slot is behind the count before, and within it after the write.
  obtain ⟨hbefore, hafter⟩ := hbetween 1 Nat.one_pos (hslot ▸ (by decide : 1 < 3))
  exact ⟨_, _, _, hwrite, hlength.2, hnumber, hbefore, hafter⟩

/-- A library has written a song in a batch and is gone.  The file does not count the song, so that
its slot is empty for another library; but once that has written a song into the slot behind the
next one, the first song is there. -/
theorem not_touches_one_slot :
    ∃ disk first gone second n left t,
      load (fun _ _ => .ok true) newHandle .standard disk = .ok first disk ∧
      Request.performAll begun (first, disk) = gone ∧
      load (fun _ _ => .ok true) newHandle .standard gone.2 = .ok second gone.2 ∧
      Reachable (fun _ _ => .ok true) .standard Unopened (fun _ _ => False) second gone.2 ∧
      writeSong .epoch (skipping, second, gone.2) = .ok n (left, t) ∧ 0 < n ∧
      left.recordNumber? = some 3 ∧ readAt (second, gone.2) 1 = .ok none ∧
      readAt t 1 = .ok (some (Record.stored .standard ⟨1, true, .epoch⟩ moonRiver)) := by
  obtain ⟨place, disk, hfile, hjoins⟩ := exists_empty_file
  obtain ⟨first, _, hload, hfirst, hconsistent, htables, hnew⟩ :=
    exists_loaded_of_fileAt hfile hjoins
  obtain ⟨handle, _, _, hbegun, _⟩ := exists_begun hfile hfirst hconsistent htables hnew
  obtain ⟨hfile', hjoins', hheld⟩ := fileAt_begun hfile hjoins hbegun
  -- The batch was not ended, and the next library finds a file without records.
  obtain ⟨second, hunopened, hload', hsecond, _, htables', _⟩ :=
    exists_loaded_of_fileAt hfile' hjoins'
  obtain ⟨n, left, t, hwrite, hpos, hnumber, hbefore, hafter⟩ :=
    exists_skipping hfile' hsecond htables'
  rw [hheld, if_neg (Record.stored_ne_nil _ _ _)] at hafter
  exact ⟨disk, first, _, second, n, left, t, hload, rfl, hload', .load hunopened hload', hwrite,
    hpos, hnumber, hbefore, hafter⟩

end Ballroom.Library
