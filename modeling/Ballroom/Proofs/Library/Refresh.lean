import Ballroom.Proofs.Library.Reachable
import Ballroom.Proofs.Store.Openness

/-!
# Reading a song again

A song on record can be read again (`Rereads`) if the store opens, the slot of its record
holds a song of the same path, and the store closes.  Then the song that was read takes its
place (`Refreshed`), and in every other case nothing changes but the state of the store
(`loadEntry_of_reachable`).
-/

namespace Ballroom

variable {σ ω : Type} [RecordStore σ ω]

namespace StoreHandle

variable {α : Type} {step : HandleStep σ ω α} {s t : StoreHandle σ × ω} {a : α}

/-! ### Requests that succeed -/

omit [RecordStore σ ω] in
/-- A step that keeps the batch leaves the mark of it. -/
theorem KeepsBatch.inBatch_eq (h : KeepsBatch step) (hstep : step s = .ok a t) :
    t.1.inBatch = s.1.inBatch := by
  obtain ⟨store, hafter⟩ := h s.1 s.2
  rw [Step.after_of_ok hstep] at hafter
  rw [hafter]

/-- A store outside of a batch is closed after each operation. -/
theorem closeUnlessBatch_eq (s : StoreHandle σ × ω) :
    closeUnlessBatch s = if s.1.inBatch then .ok () s else close s := by
  obtain ⟨handle, w⟩ := s
  cases hbatch : handle.inBatch <;> simp [closeUnlessBatch, hbatch]

/-- A step on an open store succeeds if the store closes after it, too. -/
theorem during_eq_ok_iff :
    during step s = .ok a t ↔ ∃ held, step s = .ok a held ∧ closeUnlessBatch held = .ok () t := by
  simp only [during, Step.bind_eq_ok_iff, Step.attempt_apply]
  rcases hstep : step s with ⟨b, held⟩ | ⟨cause | why, held⟩
  · constructor
    · rintro ⟨result, _, hresult, _, u, hclose, hok⟩
      obtain ⟨rfl, rfl⟩ := EStateM.Result.ok.inj hresult
      obtain ⟨rfl, rfl⟩ := EStateM.Result.ok.inj hok
      exact ⟨_, rfl, hclose⟩
    · rintro ⟨_, hok, hclose⟩
      obtain ⟨rfl, rfl⟩ := EStateM.Result.ok.inj hok
      exact ⟨_, _, rfl, (), t, hclose, rfl⟩
  · -- The store is closed after a fault, too, but the fault stays.
    simp only [reduceCtorEq, false_and, exists_false, iff_false]
    rintro ⟨result, _, hresult, _, _, _, hok⟩
    obtain ⟨rfl, -⟩ := EStateM.Result.ok.inj hresult
    cases hok
  · -- The program has ended.
    simp

/-- A slot is read if the store opens, tells what is in the slot and closes again, unless
there is a batch. -/
theorem readSingle_eq_ok_iff {number : Nat} {data? : Option Bytes} :
    readSingle number s = .ok data? t ↔
      ∃ opened held, acquire s = .ok () opened ∧
        request (RecordStore.read number) opened = .ok data? held ∧
        (if s.1.inBatch then .ok () held else close held) = .ok () t := by
  -- Neither opening nor reading starts or ends a batch.
  have hsame : ∀ opened held, acquire s = .ok () opened →
      request (RecordStore.read number) opened = .ok data? held →
      closeUnlessBatch held = if s.1.inBatch then .ok () held else close held := by
    intro opened held hopen hread
    rw [closeUnlessBatch_eq, (keepsBatch_request _).inBatch_eq hread,
      keepsBatch_acquire.inBatch_eq hopen]
  rw [readSingle, Step.bind_eq_ok_iff]
  simp only [during_eq_ok_iff]
  constructor
  · intro h
    obtain ⟨_, opened, hopen, held, hread, hclose⟩ := h
    exact ⟨opened, held, hopen, hread, hsame opened held hopen hread ▸ hclose⟩
  · intro h
    obtain ⟨opened, held, hopen, hread, hclose⟩ := h
    exact ⟨(), opened, hopen, held, hread, hsame opened held hopen hread ▸ hclose⟩

end StoreHandle

namespace Library

variable {lib lib' : Library σ} {w w' : ω} {index : Int} {i number : Nat} {old read new : Song}
  {left : StoreHandle σ × ω}

/-! ### Songs that can be read again -/

/-- The song on record at place `i` can be read again: its slot holds a song of the same path.
`read` is that song, and `left` what is left of the handle and the world. -/
structure Rereads (lib : Library σ) (w : ω) (i number : Nat) (old read : Song)
    (left : StoreHandle σ × ω) : Prop where
  onRecord : lib.songs[i]? = some old
  recordNumber : old.recordNumber? = some number
  /-- The store opens, the slot holds a song, and outside of a batch the store closes. -/
  slot : ∃ opened data held, StoreHandle.acquire (lib.handle, w) = .ok () opened ∧
    StoreHandle.request (RecordStore.read number) opened = .ok (some data) held ∧
    Record.decode lib.tables data = .ok read ∧
    (if lib.handle.inBatch then .ok () held else StoreHandle.close held) = .ok () left
  path : read.path? = old.path?

/-- A song is told if and only if it can be read again, and then it takes its place. -/
theorem loadEntry_eq_some_iff {song : Song} :
    loadEntry index (lib, w) = .ok (some song) (lib', w') ↔
      ∃ (i number : Nat) (old read : Song) (left : StoreHandle σ × ω),
        (i : Int) = index ∧ Rereads lib w i number old read left ∧
        song = (read.setRecordNumber number).withIndex i ∧
        lib' = (lib.withHandle left.1).replace i song ∧ w' = left.2 := by
  rw [loadEntry_apply]
  constructor
  · intro h
    -- Each way out but the last tells no song.
    cases htarget : lib.target? index with
    | none => rw [htarget] at h; cases h
    | some target =>
      obtain ⟨i, old, number⟩ := target
      obtain ⟨rfl, hold, hnumber⟩ := target?_eq_some_iff.1 htarget
      rw [htarget] at h
      dsimp only at h
      cases hread : StoreHandle.readSingle number (lib.handle, w) with
      | error stop left => rw [hread] at h; cases h
      | ok data? left =>
        rw [hread] at h
        cases data? with
        | none => cases h
        | some data =>
          dsimp only at h
          cases hdecode : Record.decode lib.tables data with
          | error fault => rw [hdecode] at h; cases h
          | ok read =>
            rw [hdecode] at h
            dsimp only at h
            split at h
            · cases h
            · -- The song that was read has the path of the one on record.
              rename_i hpath
              obtain ⟨opened, held, hopen, hslot, hclose⟩ :=
                StoreHandle.readSingle_eq_ok_iff.1 hread
              obtain ⟨hsong, hstate⟩ := EStateM.Result.ok.inj h
              obtain ⟨rfl, rfl⟩ := Prod.mk.inj hstate
              obtain rfl := Option.some.inj hsong
              have hrereads : Rereads lib w i number old read left := ⟨hold, hnumber,
                ⟨opened, data, held, hopen, hslot, hdecode, hclose⟩, not_not.1 hpath⟩
              exact ⟨i, number, old, read, left, rfl, hrereads, rfl, rfl, rfl⟩
  · -- Every check is passed, so that the last way out is taken.
    intro h
    obtain ⟨i, number, old, read, left, rfl, hrereads, rfl, rfl, rfl⟩ := h
    obtain ⟨opened, data, held, hopen, hslot, hdecode, hclose⟩ := hrereads.slot
    have hread := StoreHandle.readSingle_eq_ok_iff.2 ⟨opened, held, hopen, hslot, hclose⟩
    rw [target?_eq_some_iff.2 ⟨rfl, hrereads.onRecord, hrereads.recordNumber⟩]
    dsimp only
    rw [hread]
    dsimp only
    rw [hdecode]
    dsimp only
    rw [if_neg (not_not_intro hrereads.path)]

/-- If no song is told, nothing but the handle has changed. -/
theorem loadEntry_cases (index : Int) (lib : Library σ) (w : ω) :
    (∃ song s, loadEntry index (lib, w) = .ok (some song) s) ∨
      ∃ handle w', loadEntry index (lib, w) = .ok none (lib.withHandle handle, w') ∨
        ∃ stop, loadEntry index (lib, w) = .error stop (lib.withHandle handle, w') := by
  rw [loadEntry_apply]
  cases lib.target? index with
  | none => exact .inr ⟨lib.handle, w, .inl rfl⟩
  | some target =>
    dsimp only
    cases StoreHandle.readSingle target.2.2 (lib.handle, w) with
    | error stop left => exact .inr ⟨left.1, left.2, .inr ⟨stop, rfl⟩⟩
    -- Every check may end the request, with what reading has left of the handle.
    | ok data? left =>
      cases data? with
      | none => exact .inr ⟨left.1, left.2, .inl rfl⟩
      | some data =>
        dsimp only
        cases Record.decode lib.tables data with
        | error fault => exact .inr ⟨left.1, left.2, .inr ⟨_, rfl⟩⟩
        | ok read =>
          dsimp only
          split
          · exact .inr ⟨left.1, left.2, .inl rfl⟩
          · exact .inl ⟨_, _, rfl⟩

/-! ### What is refreshed -/

/-- The song `new`, which is the song `read` with the number and the index of `old`, has taken
the place of `old`, and nothing else has changed but the counts of their dances. -/
structure Refreshed (lib lib' : Library σ) (i : Nat) (old read new : Song) : Prop where
  tags : ∀ tag ≠ .recordNumber, new.value? tag = read.value? tag
  recordNumber : new.recordNumber? = old.recordNumber?
  index : new.index? = old.index?
  path : new.path? = old.path?
  lasting : new.temporary = false
  entry : lib'.songs[i]? = some new
  otherEntries : ∀ j ≠ i, lib'.songs[j]? = lib.songs[j]?
  getByPath? : ∀ path,
    lib'.getByPath? path = if old.path? = some path then some new else lib.getByPath? path
  getByIndex? : ∀ index : Int,
    lib'.getByIndex? index = if index = i then some new else lib.getByIndex? index
  temporary : lib'.temporary = lib.temporary
  nextTemporary : lib'.nextTemporary = lib.nextTemporary
  danceCounts_size : lib'.danceCounts.size = lib.danceCounts.size
  /-- What was counted for the old dance is counted for the new one. -/
  danceCounts : ∀ (d n : Nat), lib.danceCounts[d]? = some n →
    ∃ n', lib'.danceCounts[d]? = some n' ∧
      n' + (if hasDance d old then 1 else 0) = n + if hasDance d new then 1 else 0

omit [RecordStore σ ω] in
/-- A song of the same path, number and index takes the place of the one on record. -/
theorem refreshed_replace (h : Consistent lib) (hold : lib.songs[i]? = some old)
    (htags : ∀ tag ≠ .recordNumber, new.value? tag = read.value? tag)
    (hnumber : new.recordNumber? = old.recordNumber?) (hindex : new.index? = old.index?)
    (hpath : new.path? = old.path?) (hlasting : new.temporary = false) :
    Refreshed lib (lib.replace i new) i old read new := by
  obtain ⟨hi, _⟩ := Array.getElem?_eq_some_iff.1 hold
  have hentry : (lib.replace i new).songs[i]? = some new := by
    rw [replace_of_path_eq hold hpath]
    exact Array.getElem?_setIfInBounds_self_of_lt hi
  have hothers : ∀ j ≠ i, (lib.replace i new).songs[j]? = lib.songs[j]? := by
    intro j hj
    rw [replace_of_path_eq hold hpath]
    exact Array.getElem?_setIfInBounds_ne hj.symm
  have hsize : (lib.replace i new).songs.size = lib.songs.size := by
    rw [replace_of_path_eq hold hpath]
    exact Array.size_setIfInBounds
  have hplaces : (lib.replace i new).byPath = lib.byPath := by
    rw [replace_of_path_eq hold hpath]
  refine ⟨htags, hnumber, hindex, hpath, hlasting, hentry, hothers, ?byPath, ?byIndex, ?_, ?_, ?_,
    ?counts⟩
  case byPath =>
    intro path
    rw [Library.getByPath?, Library.getByPath?, hplaces]
    split
    · rename_i hsame
      rw [(h.byPath path i).2 ⟨old, hold, hsame⟩]
      exact hentry
    · rename_i hother
      cases hplace : lib.byPath[path]? with
      | none => rfl
      | some j =>
        -- The song with another path is in another place.
        obtain ⟨song, hsong, hsame⟩ := (h.byPath path j).1 hplace
        refine hothers j ?_
        rintro rfl
        obtain rfl := Option.some.inj (hold.symm.trans hsong)
        exact hother hsame
  case byIndex =>
    intro index
    have htemporary : (lib.replace i new).temporary = lib.temporary := by
      rw [replace_of_path_eq hold hpath]
    rw [Library.getByIndex?, Library.getByIndex?, hsize, htemporary]
    by_cases hsame : index = i
    · rw [if_pos hsame, if_neg (by omega), if_pos (by omega), ← hentry]
      congr 1
      omega
    · rw [if_neg hsame]
      -- A negative index is that of a temporary song.
      by_cases hneg : index < 0
      · rw [if_pos hneg, if_pos hneg]
      · rw [if_neg hneg, if_neg hneg, hothers index.toNat (by omega)]
  case counts =>
    -- Before and after, the counts are those of the songs on record.
    intro d n hn
    obtain ⟨hd, _⟩ := Array.getElem?_eq_some_iff.1 hn
    rw [h.counts_size] at hd
    obtain rfl := Option.some.inj ((h.counts d hd).symm.trans hn)
    have hafter : Consistent (lib.replace i new) := by
      obtain ⟨number, hrecord⟩ := (h.onRecord i old hold).number
      refine h.replace hold hpath ?_ ⟨number, hnumber.trans hrecord⟩ hlasting
      rw [hindex, (h.onRecord i old hold).index]
    have htables : (lib.replace i new).tables = lib.tables := by
      rw [replace_of_path_eq hold hpath]
    have hlist : (lib.replace i new).songs.toList = lib.songs.toList.set i new := by
      rw [replace_of_path_eq hold hpath]
      exact Array.toList_setIfInBounds
    have hplace : lib.songs.toList[i]? = some old := by simpa using hold
    obtain ⟨hlt, hget⟩ := List.getElem?_eq_some_iff.1 hplace
    refine ⟨_, hafter.counts d (htables ▸ hd), ?_⟩
    -- One song is taken out of the count of its dance and one comes in.
    have hcounted := List.boole_getElem_le_countP (p := hasDance d) hlt
    rw [hlist, List.countP_set hlt]
    rw [hget] at hcounted ⊢
    omega
  all_goals simp [replace_of_path_eq hold hpath]

/-- A song that is read again is refreshed. -/
theorem Rereads.refreshed (h : Consistent lib) (hrereads : Rereads lib w i number old read left) :
    Refreshed lib ((lib.withHandle left.1).replace i ((read.setRecordNumber number).withIndex i))
      i old read ((read.setRecordNumber number).withIndex i) := by
  have hold := hrereads.onRecord
  obtain ⟨_, _, _, _, _, hdecode, _⟩ := hrereads.slot
  obtain ⟨_, _, hlasting⟩ := Record.path_of_decode hdecode
  have hvalid := Song.recordNumber?_range hrereads.recordNumber
  have htags : ∀ tag ≠ .recordNumber,
      ((read.setRecordNumber number).withIndex i).value? tag = read.value? tag :=
    fun tag htag => if_neg htag
  have hreplaced := refreshed_replace (h.withHandle left.1) hold htags
    ((read.recordNumber?_setRecordNumber hvalid).trans hrereads.recordNumber.symm)
    (h.onRecord i old hold).index.symm
    ((read.path?_setRecordNumber number).trans hrereads.path) hlasting
  -- The handle has no part in any of this.
  exact ⟨hreplaced.tags, hreplaced.recordNumber, hreplaced.index, hreplaced.path,
    hreplaced.lasting, hreplaced.entry, hreplaced.otherEntries, hreplaced.getByPath?,
    hreplaced.getByIndex?, hreplaced.temporary, hreplaced.nextTemporary,
    hreplaced.danceCounts_size, hreplaced.danceCounts⟩

/-- In every state that a library reaches, a song is told if and only if it is on record and
can be read again, and then it is refreshed.  In every other case, whether there was a fault
or nothing to tell, the library is as it was but for the state of its store; so it is if the
program has ended. -/
theorem loadEntry_of_reachable {audio : AudioCheck ω} {tables : Tables} {others : ω → ω → Prop}
    (h : Reachable audio tables CountsWithin others lib w) (index : Int) :
    ((∃ song s, loadEntry index (lib, w) = .ok (some song) s) ↔
      ∃ (i number : Nat) (old read : Song) (left : StoreHandle σ × ω),
        (i : Int) = index ∧ Rereads lib w i number old read left) ∧
    (∀ new lib' w', loadEntry index (lib, w) = .ok (some new) (lib', w') →
      ∃ (i number : Nat) (old read : Song), (i : Int) = index ∧
        Rereads lib w i number old read (lib'.handle, w') ∧ Refreshed lib lib' i old read new) ∧
    ((∃ song s, loadEntry index (lib, w) = .ok (some song) s) ∨
      ∃ handle w', loadEntry index (lib, w) = .ok none (lib.withHandle handle, w') ∨
        ∃ stop, loadEntry index (lib, w) = .error stop (lib.withHandle handle, w')) := by
  refine ⟨⟨?_, ?_⟩, ?_, loadEntry_cases index lib w⟩
  · intro htold
    obtain ⟨song, ⟨lib', w'⟩, htold⟩ := htold
    obtain ⟨i, number, old, read, left, hi, hrereads, _⟩ := loadEntry_eq_some_iff.1 htold
    exact ⟨i, number, old, read, left, hi, hrereads⟩
  · intro hsong
    obtain ⟨i, number, old, read, left, hi, hrereads⟩ := hsong
    exact ⟨_, _, loadEntry_eq_some_iff.2 ⟨i, number, old, read, left, hi, hrereads, rfl, rfl, rfl⟩⟩
  · intro new lib' w' htold
    obtain ⟨i, number, old, read, left, hi, hrereads, rfl, rfl, rfl⟩ :=
      loadEntry_eq_some_iff.1 htold
    refine ⟨i, number, old, read, hi, ?_, hrereads.refreshed h.consistent⟩
    rwa [handle_replace]

/-- The waltz, after someone has found out that it is a tango. -/
private def tango : Song := moonRiver.set .dance (.number 1)

/-- The two songs on record, after someone else has written the record of the first. -/
private def rewritten (calls : List String) : MemoryStore where
  slots := [some (Text.bytes (Record.encode .standard ⟨1, false, .epoch⟩ tango)),
    some (Text.bytes (Record.encode .standard ⟨2, true, .epoch⟩ libertango))]
  calls := calls

/-- Once the waltz has been read again, it is counted as a tango. -/
theorem loadEntry_of_reachable_rewritten :
    ∃ lib calls song lib' w',
      load (fun _ _ => .ok true) danceHandle .standard danceStore =
        .ok lib { danceStore with calls } ∧
      loadEntry 0 (lib, rewritten calls) = .ok (some song) (lib', w') ∧
      lib.danceCounts[0]? = some 1 ∧ lib.danceCounts[1]? = some 1 ∧
      lib'.danceCounts[0]? = some 0 ∧ lib'.danceCounts[1]? = some 2 ∧
      lib'.songs[1]? = lib.songs[1]? := by
  obtain ⟨lib, calls, hload, htables, hhandle, hsongs⟩ := load_danceStore
  have hreachable : Reachable (fun _ _ => .ok true) .standard CountsWithin
      (fun _ _ => True) lib (rewritten calls) :=
    .others trivial (.load (countsWithin_memory (by decide)) hload)
  have hdecode := Record.decode_encode .standard ⟨1, false, .epoch⟩ tango
    (show _ = some "a.mp3" from rfl) (by decide) (by decide)
  have hrereads : Rereads lib (rewritten calls) 0 1 ((asRead 1 moonRiver).withIndex 0)
      (Record.recorded .standard ⟨1, false, .epoch⟩ tango)
      (danceHandle, rewritten ("close" :: "read 1" :: "open db 1" :: calls)) := by
    refine ⟨hsongs 0, by decide +kernel, ?_, by decide +kernel⟩
    rw [hhandle, htables]
    exact ⟨_, _, _, rfl, rfl, hdecode, rfl⟩
  -- At first there is one song of each of the two dances.
  have hcounts := hreachable.consistent.counts
  rw [htables, songs_of_dances hsongs] at hcounts
  have hwaltzes : lib.danceCounts[0]? = some 1 := (hcounts 0 (by decide)).trans (by decide +kernel)
  have htangos : lib.danceCounts[1]? = some 1 := (hcounts 1 (by decide)).trans (by decide +kernel)
  -- What is told is the new song, and what it has taken the place of is the old one.
  obtain ⟨song, hsong⟩ : ∃ song, song = ((Record.recorded .standard ⟨1, false, .epoch⟩
      tango).setRecordNumber 1).withIndex 0 := ⟨_, rfl⟩
  have htold : loadEntry 0 (lib, rewritten calls) = .ok (some song) _ :=
    loadEntry_eq_some_iff.2 ⟨0, 1, _, _, _, rfl, hrereads, hsong, rfl, rfl⟩
  obtain ⟨_, hrefreshed, _⟩ := loadEntry_of_reachable hreachable 0
  obtain ⟨i, _, old, _, hi, hreread, hnew⟩ := hrefreshed song _ _ htold
  obtain rfl : i = 0 := by omega
  have hold : old = (asRead 1 moonRiver).withIndex 0 :=
    Option.some.inj (hreread.onRecord.symm.trans (hsongs 0))
  -- The waltz of the record has become a tango.
  have hdances : hasDance 0 old = true ∧ hasDance 1 old = false ∧ hasDance 0 song = false ∧
      hasDance 1 song = true := by
    rw [hold, hsong]
    decide +kernel
  obtain ⟨waltzes, hwaltzes', hmoved⟩ := hnew.danceCounts 0 1 hwaltzes
  obtain ⟨tangos, htangos', hmoved'⟩ := hnew.danceCounts 1 1 htangos
  simp only [hdances, if_true, Bool.false_eq_true, if_false] at hmoved hmoved'
  obtain rfl : waltzes = 0 := by omega
  obtain rfl : tangos = 2 := by omega
  exact ⟨lib, calls, song, _, _, hload, htold, hwaltzes, htangos, hwaltzes', htangos',
    hnew.otherEntries 1 (by decide)⟩

end Library

end Ballroom
