import Ballroom.Proofs.Store.Panics

/-!
# Headers of files that are opened again

Whatever is asked of an open file, it keeps its version and the size of its slots, and its
header, once written, says how many records there are by then (`Serves.performAll`,
`Serves.writeHeader`).  So opening the file again finds the numbers that were written:
the text of the header always fits its bytes, and reading it undoes the writing
(`header_reads_back`).
-/

namespace Ballroom.SlotFile

variable {path : String} {place : Place} {h : Header} {slots : Nat → Bytes} {f : SlotFile}
  {disk : Disk} {o : OpenSlots} {s : SlotFile × Disk}

/-! ### What requests leave of a file -/

/-- An open file with the header `h`, but for the number of its records. -/
def ServesSome (path : String) (place : Place) (h : Header) (s : SlotFile × Disk) : Prop :=
  ∃ count slots, Serves path place { h with count := count } slots s ∧ ∃ o, s.1.open? = some o

/-- An open file with its records is one with some number of records. -/
theorem Serves.servesSome (hs : Serves path place h slots s) (ho : s.1.open? = some o) :
    ServesSome path place h s :=
  ⟨h.count, slots, hs, o, ho⟩

/-- A number that is handed out and the start of a batch do not show in the file. -/
theorem Serves.servesSome_setOpened (hs : Serves path place h slots (f, disk))
    (ho : f.open? = some o) (allocated : Nat) (inBatch : Bool) :
    ServesSome path place h
      ({ f with open? := some { o with allocated := allocated, inBatch := inBatch } }, disk) :=
  (hs.setOpened_of_eq ho { o with allocated := allocated, inBatch := inBatch } rfl rfl rfl
    rfl).servesSome rfl

/-- A number that is handed out is noted in the handle and not in the file. -/
theorem Serves.servesSome_nextFree (hs : Serves path place h slots (f, disk))
    (ho : f.open? = some o) : ServesSome path place h (SlotFile.nextFree.after (f, disk)) := by
  have hnext : SlotFile.nextFree (f, disk) = _ := nextFree_apply ho
  split at hnext
  · rw [Step.after_of_error hnext]
    exact hs.servesSome ho
  · rw [Step.after_of_ok hnext]
    exact hs.servesSome_setOpened ho _ o.inBatch

/-- What an answer is made of does not matter for the state that is left. -/
private theorem after_answer {α : Type} (step : HostStep SlotFile Disk α)
    (answer : α → StoreAnswer) (s : SlotFile × Disk) :
    (do return answer (← step) : HostStep SlotFile Disk StoreAnswer).after s = step.after s :=
  Step.after_bind_of_same step (fun _ _ => rfl) s

section Requests

variable [Allocator]

/-- A record that is written, or refused, leaves the version and the size of the slots. -/
theorem Serves.servesSome_write (hs : Serves path place h slots (f, disk)) (ho : f.open? = some o)
    {n : Nat} (hn : n ≤ Number.maxUInt32) (data : Bytes) :
    ServesSome path place h ((SlotFile.write n data).after (f, disk)) := by
  obtain ⟨_, _, _, hsize, _⟩ := hs.opened o ho
  have hslotSize : f.slotSize = h.slotSize := hsize
  by_cases hfits : n ≠ 0 ∧ data.length ≤ f.slotSize ∧ InReach f.slotSize n
  · obtain ⟨hpos, hlength, hreach⟩ := hfits
    -- The record is put into its slot, and the count may grow.
    rw [hslotSize] at hlength hreach
    obtain ⟨f', disk', o', hwrite, hserves, ho', _⟩ := hs.write ho hpos hlength hreach hn
    rw [Step.after_of_ok hwrite]
    exact ⟨_, _, hserves, o', ho'⟩
  · -- A record that is refused changes nothing.
    have hrefused : f.open? = none ∨ n = 0 ∨ f.slotSize < data.length ∨ ¬InReach f.slotSize n := by
      rw [not_and_or, not_and_or, not_not, Nat.not_le] at hfits
      exact .inr hfits
    obtain ⟨stop, hwrite⟩ := write_refused n data disk hrefused
    rw [Step.after_of_error hwrite]
    exact hs.servesSome ho

/-- Clearing a slot leaves the header as it is. -/
theorem Serves.servesSome_clear (hs : Serves path place h slots (f, disk)) (ho : f.open? = some o)
    (n : Nat) : ServesSome path place h ((SlotFile.clear n).after (f, disk)) := by
  obtain ⟨_, _, hcount, hsize, _⟩ := hs.opened o ho
  have hslotSize : f.slotSize = h.slotSize := hsize
  by_cases hn : n = 0 ∨ o.count < n
  · rw [Step.after_of_ok (clear_of_no_record ho hn)]
    exact hs.servesSome ho
  have hclear : SlotFile.clear n (f, disk) = SlotFile.writeSlot n [] (f, disk) :=
    clear_eq_writeSlot ho hn
  -- The slot is emptied, or it is out of reach and nothing changes.
  obtain ⟨_, hreach⟩ | ⟨hslot, _⟩ | ⟨_, hslot, _⟩ := writeSlot_cases n [] disk ho
  · rw [not_or, Nat.not_lt, hcount] at hn
    rw [hslotSize] at hreach
    obtain ⟨disk', hclear, hserves⟩ := hs.clear ho hn.1 hn.2 hreach
    rw [Step.after_of_ok hclear]
    exact hserves.servesSome ho
  · rw [Step.after_of_error (hclear.trans hslot)]
    exact hs.servesSome ho
  · rw [Step.after_of_error (hclear.trans hslot)]
    exact hs.servesSome ho

/-- Every request leaves the version of an open file and the size of its slots. -/
theorem ServesSome.perform {call : RecordCall} (hs : ServesSome path place h s)
    (hcall : call.Within) : ServesSome path place h (call.perform.after s) := by
  obtain ⟨f, disk⟩ := s
  obtain ⟨count, slots, hs, o, ho⟩ := hs
  cases call with
  -- The answer does not count, only what the request leaves.
  | read n =>
    rw [RecordCall.perform, after_answer, after_read]
    exact hs.servesSome ho
  | write n data =>
    rw [RecordCall.perform, after_answer _ fun _ => .done]
    exact hs.servesSome_write ho hcall data
  | clear n =>
    rw [RecordCall.perform, after_answer _ fun _ => .done]
    exact hs.servesSome_clear ho n
  | count =>
    rw [RecordCall.perform, after_answer, Step.after_of_ok (count_apply ho)]
    exact hs.servesSome ho
  | nextFree =>
    rw [RecordCall.perform, after_answer]
    exact hs.servesSome_nextFree ho
  | startBatch =>
    rw [RecordCall.perform, after_answer _ fun _ => .done, Step.after_of_ok (startBatch_apply ho)]
    exact hs.servesSome_setOpened ho o.allocated true
  | endBatch =>
    obtain ⟨disk', hend, hserves⟩ := hs.endBatch ho
    rw [RecordCall.perform, after_answer _ fun _ => .done, Step.after_of_ok hend]
    exact hserves.servesSome rfl

/-- After the first of some requests the others are done, unless it has ended the program. -/
theorem performAll_cons (call : RecordCall) (rest : List RecordCall) (s : SlotFile × Disk) :
    RecordCall.performAll (call :: rest) s = RecordCall.performAll rest (call.perform.after s) ∨
      RecordCall.performAll (call :: rest) s = call.perform.after s := by
  rw [RecordCall.performAll, RecordCall.run, Step.after_bind]
  obtain ⟨answer, _, hattempt⟩ | ⟨cause, _, hattempt⟩ | ⟨why, _, hattempt⟩ :=
    Step.attempt_cases call.perform s
  · rw [hattempt]
    exact .inl (Step.after_bind_of_same _ (fun _ _ => rfl) _)
  · rw [hattempt]
    exact .inl (Step.after_bind_of_same _ (fun _ _ => rfl) _)
  · rw [hattempt]
    -- A panic ends the requests.
    exact .inr rfl

/-- And so does every sequence of requests. -/
theorem ServesSome.performAll {calls : List RecordCall} (hs : ServesSome path place h s)
    (hcalls : ∀ call ∈ calls, call.Within) :
    ServesSome path place h (RecordCall.performAll calls s) := by
  induction calls generalizing s with
  | nil => exact hs
  | cons call rest ih =>
    have hstep := hs.perform (hcalls call List.mem_cons_self)
    have hrest := ih hstep fun later hlater => hcalls later (List.mem_cons_of_mem _ hlater)
    cases performAll_cons call rest s with
    | inl hlater => rwa [hlater]
    | inr hended => rwa [hended]

end Requests

/-! ### The header is written and read -/

/-- Writing the header makes it say what it is to say, whether it was out of date or not. -/
theorem Serves.writeHeader (hs : Serves path place h slots (f, disk)) (ho : f.open? = some o) :
    ∃ disk', SlotFile.writeHeader (f, disk) =
        .ok () ({ f with open? := some { o with headerDirty := false } }, disk') ∧
      Serves path place h slots
        ({ f with open? := some { o with headerDirty := false } }, disk') := by
  obtain ⟨_, _, hcount, _⟩ := hs.opened o ho
  -- A header that is taken to be out of date is written in any case.
  have hdirty : Serves path place h slots
      ({ f with open? := some { o with headerDirty := true } }, disk) := by
    have hcountLe : o.count ≤ Number.maxUInt32 := by
      rw [hcount]
      exact hs.fits.count_le
    have hset := hs.setOpened ho
      (show ({ o with headerDirty := true } : OpenSlots).place = o.place from rfl) rfl hcountLe
      nofun
    rwa [show ({ h with count := o.count } : Header) = h by rw [hcount]] at hset
  obtain ⟨disk', hsync, hserves, _⟩ := hdirty.syncHeader rfl
  have hwrite : SlotFile.writeHeader (f, disk) =
      SlotFile.syncHeader ({ f with open? := some { o with headerDirty := true } }, disk) := by
    rw [syncHeader_apply (f := { f with open? := some { o with headerDirty := true } }) rfl]
    simp only [SlotFile.writeHeader, Step.bind_apply, opened_apply ho, Step.modify_apply, if_true]
  exact ⟨disk', hwrite.trans hsync, hserves⟩

section Requests

variable [Allocator]

/-- The text of a header of 32, 64 and 32 bits fits the bytes that a header has and is written
without a cut, and reading gives the header back.  So whatever has been asked of a store file
since it was opened, its header can be written with the number of records that it has by then,
and opening the file again finds the version, the size of slots and the number that were
written. -/
theorem header_reads_back (h : Header) (hversion : h.version ≤ Number.maxUInt32)
    (hpos : 0 < h.slotSize) (hsize : h.slotSize ≤ Number.maxUInt64)
    (hcount : h.count ≤ Number.maxUInt32) :
    ((Text.bytes h.text).length ≤ Header.size ∧
      h.encode = Text.bytes h.text ++
        List.replicate (Header.size - (Text.bytes h.text).length) 0 ∧
      Header.decode h.encode = .ok h) ∧
    ∀ (path : String) (disk : Disk) (s : SlotFile × Disk) (calls : List RecordCall),
      SlotFile.openAt path h.version ({ slotSize := h.slotSize }, disk) = .ok () s →
      (∀ call ∈ calls, call.Within) →
      ∃ o written t disk',
        (RecordCall.performAll calls s).1.open? = some o ∧
        written = ⟨h.version, (RecordCall.performAll calls s).1.slotSize, o.count⟩ ∧
        SlotFile.writeHeader (RecordCall.performAll calls s) = .ok () t ∧
        headerOf (t.2.content o.place) = .ok written ∧
        SlotFile.openAt path h.version t =
          .ok () (⟨written.slotSize, some (fresh o.place written)⟩, disk') := by
  have hfits : h.Fits := ⟨hversion, hcount, hpos, hsize⟩
  refine ⟨⟨Nat.le_of_lt (Header.length_bytes_text hfits.bounded),
    Header.encode_eq_append hfits.bounded, Header.decode_encode hfits⟩, ?_⟩
  intro path disk s calls hopen hcalls
  obtain ⟨place, opened, slots, hsame, hserves, hhandle, _⟩ :=
    serves_of_openAt rfl hversion hpos hsize hopen
  -- The file keeps its version and slots over all requests, with some number of records.
  obtain ⟨count, slots', hserves', o, ho⟩ :=
    (hserves.servesSome (congrArg SlotFile.open? hhandle)).performAll hcalls
  obtain ⟨hplace, hversion', hcount', hslotSize, _⟩ := hserves'.opened o ho
  obtain ⟨disk', hwrite, hwritten⟩ := hserves'.writeHeader ho
  obtain ⟨_, _, _, _, hheader⟩ := hwritten.opened _ rfl
  obtain ⟨disk'', hagain, _⟩ := hwritten.openAt
  -- The header on the disk is the one of the handle.
  have hnumbers : ({ opened with count := count } : Header) =
      ⟨h.version, (RecordCall.performAll calls s).1.slotSize, o.count⟩ := by
    rw [hcount', show (RecordCall.performAll calls s).1.slotSize = opened.slotSize from hslotSize,
      ← hsame]
  refine ⟨o, { opened with count := count }, _, disk'', ho, hnumbers, hwrite, ?_, ?_⟩
  · rw [hplace]
    exact hheader rfl
  · rw [hplace, ← hsame]
    exact hagain

end Requests

/-- The longest header there is, of 69 bytes, and the header of a file that has been asked for
the last record: both are read back. -/
theorem header_reads_back_longest :
    (Text.bytes (Header.text ⟨4294967295, 18446744073709551615, 4294967295⟩)).length = 69 ∧
    Header.decode (Header.encode ⟨4294967295, 18446744073709551615, 4294967295⟩) =
      .ok ⟨4294967295, 18446744073709551615, 4294967295⟩ ∧
    ∃ s o written t disk', SlotFile.openAt "db" 1 ({ slotSize := 4 }, .empty) = .ok () s ∧
      (RecordCall.performAll [.write 4294967295 [7]] s).1.open? = some o ∧
      written.count = o.count ∧
      SlotFile.writeHeader (RecordCall.performAll [.write 4294967295 [7]] s) = .ok () t ∧
      SlotFile.openAt "db" 1 t =
        .ok () (⟨written.slotSize, some (fresh o.place written)⟩, disk') := by
  obtain ⟨⟨_, _, hread⟩, _⟩ := header_reads_back
    ⟨4294967295, 18446744073709551615, 4294967295⟩ (by decide) (by decide) (by decide) (by decide)
  obtain ⟨s, hmade⟩ := made_db (show 1 ≤ 4 by decide) (by decide)
  obtain ⟨_, hstore⟩ := header_reads_back ⟨1, 4, 4294967295⟩ (by decide) (by decide) (by decide)
    (by decide)
  obtain ⟨o, written, t, disk', ho, hwritten, hwrite, _, hopen⟩ :=
    hstore "db" .empty s [.write 4294967295 [7]] hmade.opened
      (by simp [RecordCall.Within, Number.maxUInt32])
  exact ⟨by decide +kernel, hread, s, o, written, t, disk', hmade.opened, ho,
    congrArg Header.count hwritten, hwrite, hopen⟩

end Ballroom.SlotFile
