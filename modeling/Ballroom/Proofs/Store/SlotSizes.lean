import Ballroom.Proofs.Store.Openness
import Ballroom.Proofs.Store.Panics

/-!
# The size of the slots that a new file gets

A handle has one size of slots, which is the one it was made with until it opens a file that
has a header: from then on it is the size that this header states (`sizeMet`).  So the handle
always knows the size of the slots of the file that is open, and every file keeps what it
holds, its header included; but a file that is made gets slots of the size that was met last,
which need not be the one that the handle was made with (`slotSize_of_run`,
`not_slotSize_of_created`).
-/

namespace Ballroom.SlotFile

/-! ### Opening and closing files -/

/-- A call that opens a file or closes the one that is open. -/
inductive FileCall where
  | openAt (path : String) (version : Nat)
  | close

namespace FileCall

/-- Does what is asked for. -/
def perform : FileCall → HostStep SlotFile Disk Unit
  | openAt path version => SlotFile.openAt path version
  | close => SlotFile.close

/-- The state after some calls, whether they succeed or fail. -/
def performAll (calls : List FileCall) (s : SlotFile × Disk) : SlotFile × Disk :=
  calls.foldl (fun s call => call.perform.after s) s

/-- The version of the call has 32 bits. -/
def Within : FileCall → Prop
  | openAt _ version => version ≤ Number.maxUInt32
  | close => True

/-- The header that the file which a call opens had before, if it was there. -/
def found? (call : FileCall) (s : SlotFile × Disk) : Option Header :=
  match call.perform s with
  | .ok () t => t.1.open?.bind fun o => (headerOf (s.2.content o.place)).toOption
  | .error _ _ => none

end FileCall

/-- The size of slots after some calls: that of the file with a header that was opened last, and
`size` if there was none. -/
def sizeMet (size : Nat) : List FileCall → SlotFile × Disk → Nat
  | [], _ => size
  | call :: rest, s =>
    sizeMet ((call.found? s).elim size Header.slotSize) rest (call.perform.after s)

variable {path : String} {version size : Nat} {f : SlotFile} {disk : Disk} {s t : SlotFile × Disk}

/-! ### One call -/

/-- A handle with slots of `size` bytes, whose open file has a header that says so. -/
structure Settled (size : Nat) (s : SlotFile × Disk) : Prop where
  slotSize_eq : s.1.slotSize = size
  pos : 0 < size
  le : size ≤ Number.maxUInt64
  opened : ∀ o, s.1.open? = some o →
    o.headerDirty = false ∧ ∃ h, headerOf (s.2.content o.place) = .ok h ∧ h.slotSize = size

/-- Every file that holds something holds the same afterwards. -/
def Keeps (a b : Disk) : Prop :=
  ∀ place, (a.content place).size ≠ 0 → b.content place = a.content place

/-- What is kept from one disk to the next is kept to the one after it. -/
theorem Keeps.trans {a b c : Disk} (h : Keeps a b) (h' : Keeps b c) : Keeps a c := by
  intro place hplace
  have hab := h place hplace
  rw [h' place (by rw [hab]; exact hplace), hab]

/-- Files that are all the same are kept. -/
theorem keeps_of_content_eq {a b : Disk} (h : b.content = a.content) : Keeps a b :=
  fun place _ => congrFun h place

/-- A file of which only the header has been written can be closed without writing. -/
theorem Settled.close (hs : Settled size s) :
    SlotFile.close s = .ok () (⟨size, none⟩, s.2) := by
  obtain ⟨⟨slotSize, open?⟩, disk⟩ := s
  obtain rfl : slotSize = size := hs.slotSize_eq
  cases open? with
  | none => rfl
  | some o =>
    obtain ⟨hclean, _⟩ := hs.opened o rfl
    rw [close_apply rfl, hclean]
    rfl

/-- A handle that was closed still has the size that it has met. -/
theorem Settled.closed (hs : Settled size s) (disk : Disk) :
    Settled size (⟨size, none⟩, disk) :=
  ⟨rfl, hs.pos, hs.le, nofun⟩

/-- Opening closes the file that is open first. -/
theorem Settled.openAt_eq (hs : Settled size s) (path : String) (version : Nat) :
    SlotFile.openAt path version s = SlotFile.openAt path version (⟨size, none⟩, s.2) := by
  have hagain : SlotFile.close (⟨size, none⟩, s.2) = .ok () (⟨size, none⟩, s.2) := rfl
  unfold SlotFile.openAt
  rw [Step.bind_apply, Step.bind_apply, hs.close, hagain]

/-- Nothing in a file is no header. -/
theorem toOption_headerOf_of_size_eq_zero {content : Content} (h : content.size = 0) :
    (headerOf content).toOption = none := by
  have hbytes : content.toBytes = [] := by
    rw [← List.length_eq_zero_iff, Content.length_toBytes, h]
  rw [headerOf, Content.toBytes_take, hbytes]
  decide +kernel

/-- The file of an open handle, as it was found or made: it has the header `h`. -/
structure OpensFile (version size : Nat) (s t : SlotFile × Disk) (o : OpenSlots) (h : Header) :
    Prop where
  opened : t.1.open? = some o
  header : headerOf (t.2.content o.place) = .ok h
  settled : Settled h.slotSize t
  kept : Keeps s.2 t.2
  created : (s.2.content o.place).size = 0 → h = ⟨version, size, 0⟩
  found : (s.2.content o.place).size ≠ 0 → headerOf (s.2.content o.place) = .ok h

/-- A file that is opened keeps its header, and one that is made gets slots of the size that
the handle has. -/
theorem Settled.openAt_ok (hs : Settled size s) (hversion : version ≤ Number.maxUInt32)
    (hopen : SlotFile.openAt path version s = .ok () t) :
    ∃ o h, OpensFile version size s t o h := by
  rw [hs.openAt_eq] at hopen
  cases opening_of_openAt rfl hopen with
  | created place there hleads hempty hsame ht hgrown hkept =>
    have hfits : Header.Fits ⟨version, size, 0⟩ := ⟨hversion, Nat.zero_le _, hs.pos, hs.le⟩
    rw [ht]
    -- The header is all that the file has.
    have hheader : headerOf ((there.writeAt place 0
        (.ofBytes (Header.encode ⟨version, size, 0⟩))).content place) =
        .ok ⟨version, size, 0⟩ := by
      rw [content_writeAt]
      exact headerOf_withHeader _ hfits
    refine ⟨_, ⟨version, size, 0⟩, rfl, hheader, ⟨rfl, hs.pos, hs.le, ?_⟩, ?_, fun _ => rfl, ?_⟩
    · rintro _ ⟨⟩
      exact ⟨rfl, _, hheader, rfl⟩
    · intro p hp
      -- The new file was empty, and is the only one that changes.
      have hne : p ≠ place := by
        rintro rfl
        exact hp (hsame ▸ hempty)
      rw [Disk.writeAt, Disk.content_put_file, if_neg hne, hkept]
    · intro hne
      exact absurd (hsame ▸ hempty) hne
  -- The header was there, and nothing is written.
  | found place h there hleads hlong hheader hsame _ ht hgrown hkept =>
    have hfits := Header.fits_of_decode hheader
    rw [ht]
    refine ⟨_, h, rfl, hheader, ⟨rfl, hfits.slotSize_pos, hfits.slotSize_le, ?_⟩,
      keeps_of_content_eq hkept, ?_, ?_⟩
    · rintro _ ⟨⟩
      exact ⟨rfl, h, hheader, rfl⟩
    · intro hzero
      rw [show (fresh place h).place = place from rfl, hsame] at hzero
      unfold Header.size at hlong
      omega
    · intro _
      rw [show (fresh place h).place = place from rfl, hsame]
      exact hheader

/-- A file that cannot be opened is left as it is, and so is the size of slots. -/
theorem Settled.openAt_error {stop : Stop HostFault} (hs : Settled size s)
    (hopen : SlotFile.openAt path version s = .error stop t) :
    Settled size t ∧ Keeps s.2 t.2 := by
  rw [hs.openAt_eq] at hopen
  obtain ⟨hhandle, hcontent⟩ := eq_of_openAt_error rfl hopen
  have ht : t = (⟨size, none⟩, t.2) := Prod.ext hhandle rfl
  rw [ht]
  exact ⟨hs.closed t.2, keeps_of_content_eq hcontent⟩

/-- A call leaves a handle that knows the slots of its file, and the size that it has met. -/
theorem Settled.perform {call : FileCall} (hs : Settled size s) (hcall : call.Within) :
    Settled ((call.found? s).elim size Header.slotSize) (call.perform.after s) ∧
      Keeps s.2 (call.perform.after s).2 := by
  cases call with
  | close =>
    have hclose : FileCall.close.perform s = .ok () (⟨size, none⟩, s.2) := hs.close
    rw [FileCall.found?, hclose, Step.after_of_ok hclose]
    exact ⟨hs.closed s.2, keeps_of_content_eq rfl⟩
  | openAt path version =>
    cases hopen : (FileCall.openAt path version).perform s with
    | error stop t =>
      rw [FileCall.found?, hopen, Step.after_of_error hopen]
      exact hs.openAt_error hopen
    | ok _ t =>
      obtain ⟨o, h, hfile⟩ := hs.openAt_ok hcall hopen
      -- The size that is met is that of the header, whether it was found or made.
      have hmet : ((FileCall.openAt path version).found? s).elim size Header.slotSize =
          h.slotSize := by
        rw [FileCall.found?, hopen]
        simp only [hfile.opened, Option.bind_some]
        by_cases hzero : (s.2.content o.place).size = 0
        · rw [toOption_headerOf_of_size_eq_zero hzero, hfile.created hzero]
          rfl
        · rw [hfile.found hzero]
          rfl
      rw [hmet, Step.after_of_ok hopen]
      exact ⟨hfile.settled, hfile.kept⟩

/-! ### Runs of calls -/

/-- Calls are performed one behind the other. -/
theorem FileCall.performAll_append (front back : List FileCall) (s : SlotFile × Disk) :
    performAll (front ++ back) s = performAll back (performAll front s) := by
  rw [performAll, List.foldl_append]
  rfl

/-- What one call keeps, all of them keep. -/
theorem Settled.performAll {calls : List FileCall} (hs : Settled size s)
    (hcalls : ∀ call ∈ calls, call.Within) :
    Settled (sizeMet size calls s) (FileCall.performAll calls s) ∧
      Keeps s.2 (FileCall.performAll calls s).2 := by
  induction calls generalizing size s with
  | nil => exact ⟨hs, keeps_of_content_eq rfl⟩
  | cons call rest ih =>
    obtain ⟨hstep, hkept⟩ := hs.perform (hcalls call List.mem_cons_self)
    obtain ⟨hlast, hkept'⟩ :=
      ih hstep fun later hlater => hcalls later (List.mem_cons_of_mem _ hlater)
    exact ⟨hlast, hkept.trans hkept'⟩

/-- The state after some calls to a handle that was made with slots of `size` bytes. -/
def FileCall.run (size : Nat) (disk : Disk) (calls : List FileCall) : SlotFile × Disk :=
  performAll calls ({ slotSize := size }, disk)

/-- Whatever files a handle has opened and closed: the size that it states is that of the file
which is open, by the header of that file; a file that holds something holds the same from then
on; and the next file that is opened keeps the header that it had, but one that is made gets
slots of the size that was met last, which is the one the handle was made with only until a file
of another size has been opened. -/
theorem slotSize_of_run [Allocator] (size : Nat) (hpos : 0 < size) (hle : size ≤ Number.maxUInt64)
    (disk : Disk) (calls : List FileCall) (hcalls : ∀ call ∈ calls, call.Within) :
    (∀ o, (FileCall.run size disk calls).1.open? = some o →
      ∃ h, headerOf ((FileCall.run size disk calls).2.content o.place) = .ok h ∧
        RecordStore.recordSize (FileCall.run size disk calls).1 (FileCall.run size disk calls).2 =
          h.slotSize) ∧
    (∀ front back, calls = front ++ back →
      ∀ place, ((FileCall.run size disk front).2.content place).size ≠ 0 →
        (FileCall.run size disk calls).2.content place =
          (FileCall.run size disk front).2.content place) ∧
    ∀ path version t, version ≤ Number.maxUInt32 →
      SlotFile.openAt path version (FileCall.run size disk calls) = .ok () t →
      ∃ o h, t.1.open? = some o ∧ headerOf (t.2.content o.place) = .ok h ∧
        RecordStore.recordSize t.1 t.2 = h.slotSize ∧
        if ((FileCall.run size disk calls).2.content o.place).size = 0 then
          h = ⟨version, sizeMet size calls ({ slotSize := size }, disk), 0⟩
        else headerOf ((FileCall.run size disk calls).2.content o.place) = .ok h := by
  have hstart : Settled size ({ slotSize := size }, disk) := ⟨rfl, hpos, hle, nofun⟩
  obtain ⟨hlast, _⟩ := hstart.performAll hcalls
  refine ⟨?_, ?_, ?_⟩
  · intro o ho
    obtain ⟨_, h, hheader, hsize⟩ := hlast.opened o ho
    exact ⟨h, hheader, hlast.slotSize_eq.trans hsize.symm⟩
  · intro front back hsplit
    subst hsplit
    have hwithinFront : ∀ call ∈ front, call.Within :=
      fun call hcall => hcalls call (List.mem_append_left _ hcall)
    have hwithinBack : ∀ call ∈ back, call.Within :=
      fun call hcall => hcalls call (List.mem_append_right _ hcall)
    -- The later calls keep what the first ones have left.
    have hback := ((hstart.performAll hwithinFront).1.performAll hwithinBack).2
    have hrun : FileCall.run size disk (front ++ back) =
        FileCall.performAll back (FileCall.run size disk front) :=
      FileCall.performAll_append front back _
    rw [hrun]
    exact hback
  · intro path version t hversion hopen
    -- The next file is opened by the handle that the calls have left.
    obtain ⟨o, h, hfile⟩ := hlast.openAt_ok hversion hopen
    refine ⟨o, h, hfile.opened, hfile.header, hfile.settled.slotSize_eq, ?_⟩
    split
    · rename_i hzero
      exact hfile.created hzero
    · rename_i hne
      exact hfile.found hne

/-! ### A handle that has met another size -/

/-- A handle with slots of 2048 bytes opens a file with slots of 512 and closes it. -/
private theorem run_headerOnly :
    FileCall.run 2048 (headerOnly ⟨10, 512, 0⟩) [.openAt "db" 10, .close] =
      (⟨512, none⟩, headerOnly ⟨10, 512, 0⟩) := by
  have hopen : (FileCall.openAt "db" 10).perform ({ slotSize := 2048 }, headerOnly ⟨10, 512, 0⟩) =
      _ :=
    openAt_headerOnly (h := ⟨10, 512, 0⟩) ⟨by decide, by decide, by decide, by decide⟩
  have hclose : FileCall.close.perform (⟨512, some (fresh ["home", "library", "db"] ⟨10, 512, 0⟩)⟩,
      headerOnly ⟨10, 512, 0⟩) = .ok () (⟨512, none⟩, headerOnly ⟨10, 512, 0⟩) := by
    show SlotFile.close _ = _
    rw [close_apply rfl]
    rfl
  simp only [FileCall.run, FileCall.performAll, List.foldl_cons, List.foldl_nil,
    Step.after_of_ok hopen, Step.after_of_ok hclose]

/-- A file that a handle of slots of 2048 bytes makes after it has opened one with slots of 512
bytes. -/
private theorem openAt_new :
    ∃ t o, SlotFile.openAt "new" 10 (⟨512, none⟩, headerOnly ⟨10, 512, 0⟩) = .ok () t ∧
      t.1.open? = some o ∧ headerOf (t.2.content o.place) = .ok ⟨10, 512, 0⟩ ∧
      ((headerOnly ⟨10, 512, 0⟩).content o.place).size = 0 := by
  have hroute : Disk.route "new" = .ok (Disk.workingDirectory, ["new"]) := by decide +kernel
  have hparent : Path.parent? "new" = some "" := by decide +kernel
  have hname : Text.size "new" = 3 := by decide +kernel
  have hparents : (headerOnly ⟨10, 512, 0⟩).makeParents "new" =
      (.ok (), headerOnly ⟨10, 512, 0⟩) := by
    rw [Disk.makeParents, hparent]
    rfl
  have hfile : (headerOnly ⟨10, 512, 0⟩).openFile "new" = (.ok ["home", "library", "new"],
      (headerOnly ⟨10, 512, 0⟩).put ["home", "library", "new"] (.file .empty)) := by
    simp [Disk.openFile, hroute, headerOnly, Disk.follow, Disk.enter, Disk.entryAt_put,
      Disk.entryAt_empty, Disk.workingDirectory, hname, Disk.maxNameSize]
  -- The handle has the size that it took over from the other file.
  have hopen : SlotFile.openAt "new" 10 (⟨512, none⟩, headerOnly ⟨10, 512, 0⟩) = _ :=
    openAt_of_empty rfl hparents hfile (by rw [Disk.content_put_file, if_pos rfl]; rfl)
  refine ⟨_, _, hopen, rfl, ?_, ?_⟩
  · show headerOf ((Disk.writeAt _ _ _ _).content _) = _
    rw [fresh, content_writeAt]
    exact headerOf_withHeader _ ⟨by decide, by decide, by decide, by decide⟩
  · simp [fresh, headerOnly, Disk.content, Disk.entryAt_put, Disk.entryAt_empty,
      Disk.workingDirectory, Content.size, Content.empty]

/-- After a file with slots of 512 bytes a handle that was made with slots of 2048 bytes makes
one with slots of the size that was met last. -/
theorem slotSize_of_run_met :
    ∃ t o, SlotFile.openAt "new" 10
        (FileCall.run 2048 (headerOnly ⟨10, 512, 0⟩) [.openAt "db" 10, .close]) = .ok () t ∧
      t.1.open? = some o ∧
      headerOf (t.2.content o.place) =
        .ok ⟨10, sizeMet 2048 [.openAt "db" 10, .close]
          ({ slotSize := 2048 }, headerOnly ⟨10, 512, 0⟩), 0⟩ := by
  obtain ⟨t, o, hopen, ho, _, hempty⟩ := openAt_new
  rw [← run_headerOnly] at hopen
  obtain ⟨_, _, hnext⟩ := slotSize_of_run 2048 (by decide) (by decide)
    (headerOnly ⟨10, 512, 0⟩) [.openAt "db" 10, .close]
    (by simp [FileCall.Within, Number.maxUInt32])
  obtain ⟨o', h, ho', hheader, _, hnew⟩ := hnext "new" 10 t (by decide) hopen
  obtain rfl := Option.some.inj (ho.symm.trans ho')
  rw [run_headerOnly, if_pos hempty] at hnew
  exact ⟨t, o, hopen, ho, hnew ▸ hheader⟩

/-- A file that was made does not have slots of the size that the handle was made with. -/
theorem not_slotSize_of_created :
    ¬∀ (size : Nat) (disk : Disk) (calls : List FileCall) (t : SlotFile × Disk) (o : OpenSlots)
      (h : Header), 0 < size → size ≤ Number.maxUInt64 → (∀ call ∈ calls, call.Within) →
      SlotFile.openAt "new" 10 (FileCall.run size disk calls) = .ok () t → t.1.open? = some o →
      ((FileCall.run size disk calls).2.content o.place).size = 0 →
      headerOf (t.2.content o.place) = .ok h → h.slotSize = size := by
  intro hall
  obtain ⟨t, o, hopen, ho, hheader, hempty⟩ := openAt_new
  rw [← run_headerOnly] at hopen
  have hsize := hall 2048 (headerOnly ⟨10, 512, 0⟩) [.openAt "db" 10, .close] t o _ (by decide)
    (by decide) (by simp [FileCall.Within, Number.maxUInt32]) hopen ho
    (by rw [run_headerOnly]; exact hempty) hheader
  cases hsize

end Ballroom.SlotFile
