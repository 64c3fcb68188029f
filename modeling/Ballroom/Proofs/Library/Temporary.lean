import Ballroom.Proofs.Library.Session
import Ballroom.Filter.Process

/-!
# Temporary songs leave no trace

A run of requests comes to the same as the run without its requests about temporary songs, as
far as anything lasts: the store and the world around it, the songs on record, and every
answer that the remaining requests give (`temporary_apart`).  The two runs are compared by
what is left of a library without its temporary songs (`lasting`): each remaining request
does the same to that and answers alike, and the others leave it alone.

The temporary songs themselves get new indices behind the songs on record, one greater than
the other, and can be found under them until they are taken away or the library is closed.
-/

namespace Ballroom.Library

variable {σ ω : Type}

/-! ### What lasts of a library -/

/-- A library without its temporary songs. -/
def lasting (lib : Library σ) : Library σ := { lib with temporary := {}, nextTemporary := 0 }

theorem withHandle_lasting (lib : Library σ) (handle : StoreHandle σ) :
    lib.lasting.withHandle handle = (lib.withHandle handle).lasting := rfl

theorem recordOf?_lasting (lib : Library σ) (song : Song) :
    lib.lasting.recordOf? song = lib.recordOf? song := rfl

theorem target?_lasting (lib : Library σ) (index : Int) :
    lib.lasting.target? index = lib.target? index := rfl

theorem replace_lasting (lib : Library σ) (i : Nat) (song : Song) :
    lib.lasting.replace i song = (lib.replace i song).lasting := by
  unfold replace
  rw [show lib.lasting.songs[i]? = lib.songs[i]? from rfl]
  split <;> rfl

theorem settle_lasting (stamp : Record.Stamp) (song : Song) (lib : Library σ) :
    settle stamp song lib.lasting =
      ((settle stamp song lib).1, (settle stamp song lib).2.lasting) := by
  unfold settle
  dsimp only
  rw [show lib.lasting.byPath = lib.byPath from rfl, show lib.lasting.tables = lib.tables from rfl]
  split
  · rw [replace_lasting]
  · rfl

/-! ### Requests that have nothing to do with temporary songs -/

variable {α : Type}

open Step (mapState outcome_of_mapState)

/-- What lasts of a library, with the world around it. -/
def lastingAt (s : Library σ × ω) : Library σ × ω := (s.1.lasting, s.2)

/-- What lasts of a library, with a song of the caller and the world around it. -/
def lastingWith (s : Song × Library σ × ω) : Song × Library σ × ω := (s.1, lastingAt s.2)

theorem onHandle_lasting (step : HandleStep σ ω α) (s : Library σ × ω) :
    onHandle step (lastingAt s) = mapState lastingAt (onHandle step s) := by
  obtain ⟨lib, w⟩ := s
  simp only [onHandle, Step.focus_apply, lastingAt]
  rw [show lib.lasting.handle = lib.handle from rfl]
  cases step (lib.handle, w) <;> rfl

variable [RecordStore σ ω]

theorem putRecord_lasting (stamp : Record.Stamp) (s : Song × Library σ × ω) :
    putRecord stamp (lastingWith s) = mapState lastingWith (putRecord stamp s) := by
  obtain ⟨song, lib, w⟩ := s
  simp only [putRecord, lastingWith, lastingAt]
  rw [show lib.lasting.handle = lib.handle from rfl, show lib.lasting.tables = lib.tables from rfl]
  cases StoreHandle.write stamp.number _ (lib.handle, w) with
  | error stop t => rfl
  | ok a t =>
    simp only [withHandle_lasting, settle_lasting]
    rfl

/-- Writing a song does not look at temporary songs. -/
theorem writeSong_lasting (now : Instant) (s : Song × Library σ × ω) :
    writeSong now (lastingWith s) = mapState lastingWith (writeSong now s) := by
  obtain ⟨song, lib, w⟩ := s
  simp only [lastingWith, lastingAt, writeSong_apply, recordOf?_lasting]
  split
  · rfl
  · cases lib.recordOf? song with
    | some found => exact putRecord_lasting _ (found.2, lib, w)
    | none =>
      rw [show lib.lasting.handle = lib.handle from rfl]
      cases StoreHandle.allocate (lib.handle, w) with
      | error stop t => rfl
      | ok number t => exact putRecord_lasting _ (song, lib.withHandle t.1, t.2)

/-- Reading a song again does not look at temporary songs. -/
theorem loadEntry_lasting (index : Int) (s : Library σ × ω) :
    loadEntry index (lastingAt s) = mapState lastingAt (loadEntry index s) := by
  obtain ⟨lib, w⟩ := s
  simp only [lastingAt, loadEntry_apply, target?_lasting]
  cases lib.target? index with
  | none => rfl
  -- The store is asked the same, and what it answers goes to the same place.
  | some target =>
    obtain ⟨i, old, number⟩ := target
    rw [show lib.lasting.handle = lib.handle from rfl,
      show lib.lasting.tables = lib.tables from rfl]
    dsimp only
    cases StoreHandle.readSingle number (lib.handle, w) with
    | error stop t => rfl
    | ok data? t =>
      cases data? with
      | none => rfl
      | some data =>
        dsimp only
        cases Record.decode lib.tables data with
        | error fault => rfl
        | ok song =>
          dsimp only
          split
          · rfl
          · rw [withHandle_lasting, replace_lasting]
            rfl

/-- Closing forgets the temporary songs with all others. -/
theorem close_lasting (s : Library σ × ω) :
    Library.close (lastingAt s) = mapState lastingAt (Library.close s) := by
  simp only [Library.close, Step.bind_apply, onHandle_lasting]
  cases onHandle StoreHandle.close s <;> rfl

/-! ### Two runs -/

/-- What a request tells its caller, or why it ended the program. -/
inductive Answer where
  | written (result : Except (Stop LibraryFault) Nat) (left : Song)
  | loaded (result : Except (Stop LibraryFault) (Option Song))
  | index (n : Int)
  | removed (song? : Option Song)
  | done (result : Except (Stop LibraryFault) Unit)

namespace Request

/-- The answer to a request. -/
def answer : Request → Library σ × ω → Answer
  | write song now, s =>
    .written ((writeSong now).outcome (song, s)).1 ((writeSong now).next (song, s)).1
  | load index, s => .loaded ((loadEntry index).outcome s).1
  | addTemporary song, s => .index (s.1.addTemporary song).1
  | removeTemporary index, s => .removed (s.1.removeTemporary index).1
  | startBatch, s => .done (Step.outcome Library.startBatch s).1
  | endBatch, s => .done (Step.outcome Library.endBatch s).1
  | close, s => .done (Step.outcome Library.close s).1

/-- Whether a request has to do with songs that last. -/
def lasts : Request → Bool
  | write song _ => !song.temporary
  | addTemporary _ => false
  | removeTemporary _ => false
  | _ => true

/-- Does requests, one after the other. -/
def performAll (requests : List Request) (s : Library σ × ω) : Library σ × ω :=
  requests.foldl (fun s request => request.perform s) s

/-- A request about songs that last does the same whatever temporary songs there are, and
answers the same. -/
theorem perform_lastingAt {request : Request} (h : request.lasts) (s : Library σ × ω) :
    request.perform (lastingAt s) = lastingAt (request.perform s) ∧
      request.answer (lastingAt s) = request.answer s := by
  cases request with
  | write song now =>
    obtain ⟨hresult, hnext⟩ := outcome_of_mapState (writeSong_lasting now (song, s))
    refine ⟨congrArg Prod.snd hnext, ?_⟩
    show Answer.written _ _ = .written _ _
    -- The answer also tells of the song that the writer is left with.
    rw [← hresult, show ((writeSong now).next (song, s)).1 =
      ((writeSong now).next (song, lastingAt s)).1 from (congrArg Prod.fst hnext).symm]
    rfl
  | load index =>
    obtain ⟨hresult, hnext⟩ := outcome_of_mapState (loadEntry_lasting index s)
    exact ⟨hnext, congrArg Answer.loaded hresult⟩
  | addTemporary song => cases h
  | removeTemporary index => cases h
  | startBatch =>
    obtain ⟨hresult, hnext⟩ := outcome_of_mapState (onHandle_lasting StoreHandle.startBatch s)
    exact ⟨hnext, congrArg Answer.done hresult⟩
  | endBatch =>
    obtain ⟨hresult, hnext⟩ := outcome_of_mapState (onHandle_lasting StoreHandle.endBatch s)
    exact ⟨hnext, congrArg Answer.done hresult⟩
  | close =>
    obtain ⟨hresult, hnext⟩ := outcome_of_mapState (close_lasting s)
    exact ⟨hnext, congrArg Answer.done hresult⟩

/-- A request about temporary songs leaves everything that lasts. -/
theorem lastingAt_perform {request : Request} (h : request.lasts = false) (s : Library σ × ω) :
    lastingAt (request.perform s) = lastingAt s := by
  cases request with
  | write song now =>
    have htemporary : song.temporary = true := by simpa [lasts] using h
    -- A temporary song is not written at all.
    have hwrite : writeSong now (song, s) = .ok 0 (song, s) := by
      obtain ⟨lib, w⟩ := s
      rw [writeSong_apply, if_pos htemporary]
    rw [perform, Step.next_of_ok hwrite]
  | addTemporary song => rfl
  | removeTemporary index => rfl
  | load index => cases h
  | startBatch => cases h
  | endBatch => cases h
  | close => cases h

/-- Two runs that start with the same lasting parts, of which the second one leaves out the
requests about temporary songs, end with the same lasting parts. -/
theorem lastingAt_performAll (requests : List Request) {s t : Library σ × ω}
    (h : lastingAt s = lastingAt t) :
    lastingAt (performAll requests s) = lastingAt (performAll (requests.filter lasts) t) := by
  -- On the requests, from any two states of the same lasting parts.
  induction requests generalizing s t with
  | nil => exact h
  | cons request rest ih =>
    cases hlasts : request.lasts with
    | true =>
      rw [List.filter_cons_of_pos hlasts]
      apply ih
      rw [← (perform_lastingAt hlasts s).1, ← (perform_lastingAt hlasts t).1, h]
    | false =>
      -- Only the first run has this request, which leaves what lasts.
      rw [List.filter_cons_of_neg (by simp [hlasts])]
      apply ih
      rw [lastingAt_perform hlasts, h]

end Request

/-! ### What shows of a library -/

/-- Two libraries with the same store in the same world that show the same songs on record. -/
structure SameView (s t : Library σ × ω) : Prop where
  store : s.1.handle = t.1.handle
  world : s.2 = t.2
  count : s.1.count = t.1.count
  entries : s.1.entries = t.1.entries
  danceCounts : s.1.danceCounts = t.1.danceCounts
  byPath : ∀ path, s.1.getByPath? path = t.1.getByPath? path
  byIndex : ∀ index < (s.1.count : Int), s.1.getByIndex? index = t.1.getByIndex? index
  rows : ∀ f : SongFilter, (f.process s.1).rows = (f.process t.1).rows

omit [RecordStore σ ω] in
/-- An index below the number of songs leads to the same song with and without temporary
ones. -/
theorem getByIndex?_lasting {lib : Library σ} {index : Int} (h : index < (lib.count : Int)) :
    lib.lasting.getByIndex? index = lib.getByIndex? index := by
  unfold getByIndex?
  rw [show lib.lasting.songs = lib.songs from rfl]
  split
  · rfl
  · rw [count] at h
    rw [if_pos (by omega), if_pos (by omega)]

omit [RecordStore σ ω] in
/-- Libraries of the same lasting parts show the same. -/
theorem sameView_of_lastingAt {s t : Library σ × ω} (h : lastingAt s = lastingAt t) :
    SameView s t := by
  obtain ⟨hlib, hworld⟩ := Prod.mk.inj h
  -- Whatever is the same without the temporary songs is the same of both.
  have hsame : ∀ {β : Type} (view : Library σ → β), (∀ lib, view lib.lasting = view lib) →
      view s.1 = view t.1 := by
    intro β view hview
    rw [← hview s.1, ← hview t.1, hlib]
  have hcount : s.1.count = t.1.count := hsame Library.count fun _ => rfl
  refine ⟨hsame Library.handle fun _ => rfl, hworld, hcount, hsame Library.entries fun _ => rfl,
    hsame Library.danceCounts fun _ => rfl, fun path => hsame (·.getByPath? path) fun _ => rfl, ?_,
    fun f => hsame (fun lib => (f.process lib).rows) fun _ => rfl⟩
  intro index hindex
  have hindex' : index < (t.1.count : Int) := by rwa [← hcount]
  rw [← getByIndex?_lasting hindex, ← getByIndex?_lasting hindex', hlib]

/-! ### Temporary songs -/

/-- Whether a request closes the library. -/
def Request.closes (request : Request) (s : Library σ × ω) : Prop :=
  request = .close ∧ ∃ t, Library.close s = .ok () t

/-- None of some requests closes the library. -/
def StaysOpen : List Request → Library σ × ω → Prop
  | [], _ => True
  | request :: later, s => ¬request.closes s ∧ StaysOpen later (request.perform s)

/-- What belongs to the temporary songs of a library, and how many songs are on record. -/
def temporaries (lib : Library σ) : Std.HashMap Int Song × Int × Nat :=
  (lib.temporary, lib.nextTemporary, lib.songs.size)

omit [RecordStore σ ω] in
theorem temporaries_replace (lib : Library σ) (i : Nat) (song : Song) :
    (lib.replace i song).temporaries = lib.temporaries := by
  unfold replace
  split
  · rfl
  · simp [temporaries]

omit [RecordStore σ ω] in
theorem temporaries_settle (stamp : Record.Stamp) (song : Song) (lib : Library σ) :
    (settle stamp song lib).2.temporaries = lib.temporaries := by
  unfold settle
  dsimp only
  split
  · exact temporaries_replace lib _ _
  · rfl

omit [RecordStore σ ω] in
theorem temporaries_onHandle (step : HandleStep σ ω α) (s : Library σ × ω) :
    ((onHandle step).after s).1.temporaries = s.1.temporaries := by
  obtain ⟨lib, w⟩ := s
  rw [Step.after, Step.outcome, onHandle, Step.focus_apply]
  cases step (lib.handle, w) <;> rfl

theorem temporaries_putRecord (stamp : Record.Stamp) (song : Song) (lib : Library σ) (w : ω) :
    ((putRecord stamp).after (song, lib, w)).2.1.temporaries = lib.temporaries := by
  rw [Step.after, Step.outcome]
  simp only [putRecord]
  cases StoreHandle.write stamp.number _ (lib.handle, w) with
  | error stop t => rfl
  | ok a t => exact temporaries_settle stamp song (lib.withHandle t.1)

/-- Writing a song, or failing to, keeps the temporary songs. -/
theorem temporaries_writeSong (now : Instant) (song : Song) (lib : Library σ) (w : ω) :
    ((writeSong now).after (song, lib, w)).2.1.temporaries = lib.temporaries := by
  rw [Step.after, Step.outcome, writeSong_apply]
  cases song.temporary with
  | true => rfl
  | false =>
    -- Whether or not a number could be had, the handle is all that has changed by then.
    rw [if_neg (by decide)]
    cases lib.recordOf? song with
    | some found => exact temporaries_putRecord _ found.2 lib w
    | none =>
      dsimp only
      cases StoreHandle.allocate (lib.handle, w) with
      | error stop t => rfl
      | ok number t => exact temporaries_putRecord _ song (lib.withHandle t.1) t.2

/-- Reading a song again, or failing to, keeps the temporary songs. -/
theorem temporaries_loadEntry (index : Int) (lib : Library σ) (w : ω) :
    ((loadEntry index).after (lib, w)).1.temporaries = lib.temporaries := by
  rcases after_loadEntry index lib w with hsame | ⟨i, old, number, t, _, _, hleft | hread⟩
  · rw [hsame]
  · rw [hleft]
    rfl
  · obtain ⟨data, song, _, _, hleft⟩ := hread
    rw [hleft]
    exact temporaries_replace (lib.withHandle t.1) i _

/-- A library that is not closed keeps its temporary songs. -/
theorem temporaries_close {s : Library σ × ω} (h : ¬Request.close.closes s) :
    (Library.close.after s).1.temporaries = s.1.temporaries := by
  have hstay := temporaries_onHandle StoreHandle.close s
  cases hclose : onHandle StoreHandle.close s with
  | error stop t =>
    -- A library that could not be closed keeps its songs.
    have herror : Library.close s = .error stop t := by
      simp only [Library.close, Step.bind_apply, hclose]
    rwa [Step.after_of_error herror, ← Step.after_of_error hclose]
  | ok a t =>
    have hok : Library.close s = .ok () (t.1.clear, t.2) := by
      simp only [Library.close, Step.bind_apply, hclose, change, Step.modify_apply]
    exact absurd ⟨rfl, _, hok⟩ h

/-- A temporary song that can be found under its index. -/
structure Found (index : Int) (song : Song) (lib : Library σ) : Prop where
  above : (lib.count : Int) ≤ index
  below : index < lib.nextTemporary
  there : lib.temporary[index]? = some song

omit [RecordStore σ ω] in
/-- A temporary song is found at its index. -/
theorem Found.getByIndex? {index : Int} {song : Song} {lib : Library σ}
    (h : Found index song lib) : lib.getByIndex? index = some song := by
  have habove := h.above
  rw [count] at habove
  unfold Library.getByIndex?
  rw [if_neg (by omega), if_neg (by omega), h.there]

omit [RecordStore σ ω] in
/-- A temporary song that was just added is found under its index. -/
theorem found_addTemporary (lib : Library σ) (song : Song) :
    Found (lib.addTemporary song).1
      { song with temporary := true, index? := some (lib.addTemporary song).1 }
      (lib.addTemporary song).2 := by
  refine ⟨Int.le_max_right _ _, ?_, ?_⟩
  · simp only [addTemporary]
    omega
  · simp [addTemporary]

/-- What a request that does not close the library does to its temporary songs. -/
theorem temporaries_perform {request : Request} {s : Library σ × ω} (h : ¬request.closes s) :
    (request.perform s).1.temporaries = s.1.temporaries ∨
      (∃ song, request = .addTemporary song) ∨ ∃ index, request = .removeTemporary index := by
  apply Request.perform_keeps (P := fun t => t.1.temporaries = s.1.temporaries ∨ _) request
    (.inl rfl)
  obtain ⟨lib, w⟩ := s
  cases request with
  | write song now => exact .inl (temporaries_writeSong now song lib w)
  | load index => exact .inl (temporaries_loadEntry index lib w)
  | addTemporary song => exact .inr (.inl ⟨song, rfl⟩)
  | removeTemporary index => exact .inr (.inr ⟨index, rfl⟩)
  | startBatch => exact .inl (temporaries_onHandle StoreHandle.startBatch (lib, w))
  | endBatch => exact .inl (temporaries_onHandle StoreHandle.endBatch (lib, w))
  | close => exact .inl (temporaries_close h)

/-- The index for the next temporary song only grows until the library is closed. -/
theorem nextTemporary_perform {request : Request} {s : Library σ × ω} (h : ¬request.closes s) :
    s.1.nextTemporary ≤ (request.perform s).1.nextTemporary := by
  rcases temporaries_perform h with hsame | ⟨song, rfl⟩ | ⟨index, rfl⟩
  · exact Int.le_of_eq (congrArg (·.2.1) hsame).symm
  · simp only [Request.perform, addTemporary]
    omega
  · exact Int.le_refl _

/-- A temporary song is found until it is taken away or the library is closed. -/
theorem Found.perform {index : Int} {song : Song} {request : Request} {s : Library σ × ω}
    (h : Found index song s.1) (hopen : ¬request.closes s)
    (hkept : request ≠ .removeTemporary index) : Found index song (request.perform s).1 := by
  rcases temporaries_perform hopen with hsame | ⟨other, rfl⟩ | ⟨removed, rfl⟩
  · obtain ⟨htemporary, hrest⟩ := Prod.mk.inj hsame
    obtain ⟨hnext, hsize⟩ := Prod.mk.inj hrest
    refine ⟨?_, hnext ▸ h.below, htemporary ▸ h.there⟩
    rw [count, hsize]
    exact h.above
  · -- The new index is not below the next one, and the song's is.
    have hbelow := h.below
    have hne : max s.1.nextTemporary s.1.songs.size ≠ index := by omega
    refine ⟨h.above, ?_, ?_⟩
    · simp only [Request.perform, addTemporary]
      omega
    · simp only [Request.perform, addTemporary, Std.HashMap.getElem?_insert]
      rw [if_neg (by simpa using hne)]
      exact h.there
  · -- Another song is taken away.
    have hne : removed ≠ index := fun heq => hkept (by rw [heq])
    refine ⟨h.above, h.below, ?_⟩
    simp only [Request.perform, removeTemporary, Std.HashMap.getElem?_erase]
    rw [if_neg (by simpa using hne)]
    exact h.there

/-- Until the library is closed the next index does not fall. -/
theorem nextTemporary_performAll {requests : List Request} {s : Library σ × ω}
    (h : StaysOpen requests s) :
    s.1.nextTemporary ≤ (Request.performAll requests s).1.nextTemporary := by
  induction requests generalizing s with
  | nil => exact Int.le_refl _
  | cons request later ih => exact Int.le_trans (nextTemporary_perform h.1) (ih h.2)

/-- A temporary song stays at its index until it is taken away or the library is closed. -/
theorem Found.performAll {index : Int} {song : Song} {requests : List Request}
    {s : Library σ × ω} (h : Found index song s.1) (hopen : StaysOpen requests s)
    (hkept : Request.removeTemporary index ∉ requests) :
    Found index song (Request.performAll requests s).1 := by
  induction requests generalizing s with
  | nil => exact h
  | cons request later ih =>
    rw [List.mem_cons, not_or] at hkept
    exact ih (h.perform hopen.1 (Ne.symm hkept.1)) hopen.2 hkept.2

/-- A song that is added to a library as a temporary one gets an index that is no index of a
song on record.  Until the library is closed that index is not given again, and it leads to
the song as long as the song is not taken away. -/
structure KeptApart (song : Song) (s : Library σ × ω) : Prop where
  above : (s.1.count : Int) ≤ (s.1.addTemporary song).1
  greater : ∀ later, StaysOpen later ((Request.addTemporary song).perform s) →
    ∀ other, (s.1.addTemporary song).1 <
      ((Request.performAll later ((Request.addTemporary song).perform s)).1.addTemporary other).1
  found : ∀ later, StaysOpen later ((Request.addTemporary song).perform s) →
    Request.removeTemporary (s.1.addTemporary song).1 ∉ later →
    (Request.performAll later ((Request.addTemporary song).perform s)).1.getByIndex?
        (s.1.addTemporary song).1 =
      some { song with temporary := true, index? := some (s.1.addTemporary song).1 }

/-- A temporary song is added at a new index, changes nothing else and is found there. -/
theorem keptApart (song : Song) (s : Library σ × ω) : KeptApart song s := by
  have hfound := found_addTemporary s.1 song
  refine ⟨hfound.above, ?_, ?_⟩
  · intro later hopen other
    have hgrown := nextTemporary_performAll hopen
    exact Int.lt_of_lt_of_le hfound.below (Int.le_trans hgrown (Int.le_max_left _ _))
  · intro later hopen hkept
    exact (hfound.performAll hopen hkept).getByIndex?

/-- Whatever is asked of a library: the store, the songs on record, what a filter finds, and
the answer to every request that is no matter of temporary songs are as if those that are
had been left out; and each temporary song is kept apart from the songs on record and from
all other temporary ones.  This is so after any requests, and so after each of some. -/
theorem temporary_apart (s : Library σ × ω) (requests : List Request) :
    SameView (Request.performAll requests s)
        (Request.performAll (requests.filter Request.lasts) s) ∧
      (∀ request : Request, request.lasts →
        request.answer (Request.performAll requests s) =
          request.answer (Request.performAll (requests.filter Request.lasts) s)) ∧
      ∀ song, KeptApart song (Request.performAll requests s) := by
  have hsame := Request.lastingAt_performAll requests (s := s) (t := s) rfl
  refine ⟨sameView_of_lastingAt hsame, ?_, fun song => keptApart song _⟩
  intro request hlasts
  rw [← (Request.perform_lastingAt hlasts (Request.performAll requests s)).2, hsame,
    (Request.perform_lastingAt hlasts _).2]

end Ballroom.Library
