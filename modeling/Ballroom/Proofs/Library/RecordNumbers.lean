import Ballroom.Proofs.Library.Reachable

/-!
# The numbers of records

Songs are loaded under different numbers, those of their slots (`distinctNumbers_load`).  Of
all requests only writing a song changes a number: a song that is written under a path on
record brings its own number along, if it has one (`numberOf?_writeSong`).  As long as that
is the number that the path has already, numbers stay as they are (`numbers_of_run`).  A
song that brings the number of another path does not take it away from that path, so that
two songs have one record (`not_distinctNumbers_writeSong`).
-/

namespace Ballroom.Library

variable {σ ω : Type}

/-- The number of the record of a path. -/
def numberOf? (lib : Library σ) (path : String) : Option Nat :=
  (lib.getByPath? path).bind Song.recordNumber?

/-- Different songs on record have different numbers. -/
def DistinctNumbers (lib : Library σ) : Prop :=
  ∀ (i j : Nat) (a b : Song) (n : Nat), lib.songs[i]? = some a → lib.songs[j]? = some b →
    a.recordNumber? = some n → b.recordNumber? = some n → i = j

variable {lib lib' : Library σ} {song song' : Song} {path : String} {i n : Nat}

/-! ### Numbers and paths -/

/-- Every song on record has a number. -/
theorem Consistent.numberOf?_eq_some_iff (h : Consistent lib) :
    lib.numberOf? path = some n ↔
      ∃ (i : Nat) (song : Song), lib.songs[i]? = some song ∧ song.path? = some path ∧
        song.recordNumber? = some n := by
  rw [numberOf?, Option.bind_eq_some_iff]
  constructor
  · rintro ⟨song, hsong, hnumber⟩
    obtain ⟨hpath, i, hi⟩ := h.getByPath?.1 hsong
    exact ⟨i, song, hi, hpath, hnumber⟩
  · rintro ⟨i, song, hi, hpath, hnumber⟩
    exact ⟨song, h.getByPath?.2 ⟨hpath, i, hi⟩, hnumber⟩

/-- Numbers are distinct if and only if no two paths have the same. -/
theorem Consistent.distinctNumbers_iff (h : Consistent lib) :
    DistinctNumbers lib ↔
      ∀ p q n, lib.numberOf? p = some n → lib.numberOf? q = some n → p = q := by
  constructor
  · intro hdistinct p q n hp hq
    obtain ⟨i, a, hi, hpa, hna⟩ := h.numberOf?_eq_some_iff.1 hp
    obtain ⟨j, b, hj, hqb, hnb⟩ := h.numberOf?_eq_some_iff.1 hq
    obtain rfl := hdistinct i j a b n hi hj hna hnb
    obtain rfl := Option.some.inj (hi.symm.trans hj)
    exact Option.some.inj (hpa.symm.trans hqb)
  · intro hpaths i j a b n hi hj hna hnb
    obtain ⟨p, hp, _⟩ := (h.onRecord i a hi).path
    obtain ⟨q, hq, _⟩ := (h.onRecord j b hj).path
    obtain rfl := hpaths p q n (h.numberOf?_eq_some_iff.2 ⟨i, a, hi, hp, hna⟩)
      (h.numberOf?_eq_some_iff.2 ⟨j, b, hj, hq, hnb⟩)
    -- A path leads to one place.
    have hplace := (h.byPath p i).2 ⟨a, hi, hp⟩
    exact Option.some.inj (hplace.symm.trans ((h.byPath p j).2 ⟨b, hj, hq⟩))

/-- A song that takes the place of one with its path is the song of that path. -/
theorem Consistent.getByPath?_replace {old : Song} (h : Consistent lib)
    (hold : lib.songs[i]? = some old) (hpath : song.path? = old.path?) (path : String) :
    (lib.replace i song).getByPath? path =
      if song.path? = some path then some song else lib.getByPath? path := by
  have hsize : i < lib.songs.size := (Array.getElem?_eq_some_iff.1 hold).1
  rw [replace_of_path_eq hold hpath]
  simp only [Library.getByPath?]
  by_cases hsame : song.path? = some path
  · have hi : lib.byPath[path]? = some i := (h.byPath path i).2 ⟨old, hold, hpath ▸ hsame⟩
    rw [if_pos hsame, hi, Option.bind_some, Array.getElem?_setIfInBounds, if_pos rfl,
      if_pos hsize]
  · rw [if_neg hsame]
    cases hj : lib.byPath[path]? with
    | none => rfl
    | some j =>
      -- The path has another place.
      have hne : i ≠ j := by
        rintro rfl
        obtain ⟨other, hother, hpath'⟩ := (h.byPath path i).1 hj
        obtain rfl := Option.some.inj (hold.symm.trans hother)
        exact hsame (hpath.trans hpath')
      rw [Option.bind_some, Option.bind_some, Array.getElem?_setIfInBounds, if_neg hne]

/-! ### Loading -/

/-- Songs are found under different numbers, those of their slots. -/
theorem pairwise_of_scan [RecordStore σ ω] {audio : AudioCheck ω} {tables : Tables}
    {seen : Std.HashMap String Nat} {left first : Nat} {s t : StoreHandle σ × ω}
    {songs : List Song} (hfirst : 1 ≤ first) (hlast : first + left ≤ maxRecordNumber + 1)
    (hscan : scan audio tables seen left first s = .ok songs t) :
    songs.Pairwise fun a b => a.recordNumber? ≠ b.recordNumber? := by
  -- On the slots that are left: each song gets the number of its slot.
  induction left generalizing seen first s t songs with
  | zero =>
    obtain ⟨rfl, -⟩ := EStateM.Result.ok.inj hscan
    exact .nil
  | succ left ih =>
    have hnext : first + 1 + left ≤ maxRecordNumber + 1 := by omega
    obtain ⟨song?, u, hread, _⟩ | ⟨why, u, hread⟩ := readSlot_cases tables first s
    swap
    · simp only [scan, Step.bind_apply, hread] at hscan
      cases hscan
    simp only [scan, Step.bind_apply, Step.get_apply, hread] at hscan
    cases song? with
    | none => exact ih (by omega) hnext hscan
    | some song =>
      simp only [Step.ite_apply] at hscan
      split at hscan
      · obtain ⟨rest, v, hrest, hscanned⟩ | ⟨why, v, hrest⟩ :=
          scan_cases audio tables (seen.insert (song.path?.getD "") first) left (first + 1) u
        swap
        · simp only [Step.bind_apply, hrest] at hscan
          cases hscan
        simp only [Step.bind_apply, hrest, Step.pure_apply] at hscan
        obtain ⟨rfl, -⟩ := EStateM.Result.ok.inj hscan
        refine List.Pairwise.cons ?_ (ih (by omega) hnext hrest)
        -- The songs that are found later have greater numbers.
        intro other hother
        obtain ⟨read, n, rfl, hle, hlt⟩ := hscanned.number other hother
        rw [song.recordNumber?_setRecordNumber ⟨hfirst, by omega⟩,
          read.recordNumber?_setRecordNumber ⟨by omega, by omega⟩]
        intro heq
        have hsame := Option.some.inj heq
        omega
      · exact ih (by omega) hnext hscan

/-- Songs are loaded with different numbers. -/
theorem distinctNumbers_load [RecordStore σ ω] {audio : AudioCheck ω} {tables : Tables}
    {handle : StoreHandle σ} {w w' : ω} (hcount : CountsWithin handle w)
    (hload : load audio handle tables w = .ok lib w') : DistinctNumbers lib := by
  obtain ⟨songs, opened, last, counted, scanned, closed, hopen, hlast, hscan, _, _, rfl⟩ :=
    load_eq_fill hload
  have hmax : last ≤ maxRecordNumber := hcount opened last counted hopen hlast
  have hfound := pairwise_of_scan (Nat.le_refl 1) (by omega) hscan
  have hsorted : (songs.mergeSort pathLE).Pairwise fun a b => a.recordNumber? ≠ b.recordNumber? :=
    (List.mergeSort_perm songs pathLE).symm.pairwise hfound fun hne => Ne.symm hne
  intro i j a b n hi hj hna hnb
  rw [getElem?_songs_fill, Option.map_eq_some_iff] at hi hj
  obtain ⟨x, hx, rfl⟩ := hi
  obtain ⟨y, hy, rfl⟩ := hj
  -- Two places with one number would be two songs with it.
  exact eq_of_pairwise_ne hsorted hx hy (hna.trans hnb.symm)

/-! ### Requests -/

/-- A song whose record has been written has the number of the record, if its path is on
record. -/
theorem Consistent.numberOf?_settle (h : Consistent lib) {stamp : Record.Stamp}
    (hnumber : (song.path?.bind fun path => lib.byPath[path]?).isSome →
      1 ≤ stamp.number ∧ stamp.number ≤ maxRecordNumber) (path : String) :
    (Library.settle stamp song lib).2.numberOf? path =
      if song.path? = some path then (lib.numberOf? path).map fun _ => stamp.number
      else lib.numberOf? path := by
  simp only [Library.settle, path?_stamped]
  cases hplace : song.path?.bind fun path => lib.byPath[path]? with
  | none =>
    dsimp only
    split
    · -- The path is not on record, and has no number before or after.
      rename_i hpath
      rw [hpath, Option.bind_some] at hplace
      simp only [numberOf?, Library.getByPath?, hplace, Option.bind_none, Option.map_none]
    · rfl
  | some i =>
    obtain ⟨own, hown, hi⟩ := Option.bind_eq_some_iff.1 hplace
    obtain ⟨old, hold, hsame⟩ := (h.byPath own i).1 hi
    have hpath : ((stamped lib.tables stamp song).withIndex i).path? = old.path? := by
      rw [Song.path?_withIndex, path?_stamped, hown, hsame]
    have hstamped : ((stamped lib.tables stamp song).withIndex i).recordNumber? =
        some stamp.number :=
      recordNumber?_stamped lib.tables stamp song (hnumber (by rw [hplace]; rfl))
    dsimp only
    rw [numberOf?, h.getByPath?_replace hold hpath, Song.path?_withIndex, path?_stamped]
    split
    · rename_i hpath
      obtain rfl := Option.some.inj (hown.symm.trans hpath)
      obtain ⟨m, hm⟩ := (h.onRecord i old hold).number
      -- The path was on record, under the number of the old song.
      have hbefore : lib.numberOf? own = some m :=
        h.numberOf?_eq_some_iff.2 ⟨i, old, hold, hsame, hm⟩
      rw [Option.bind_some, hstamped, hbefore, Option.map_some]
    · rfl

variable [RecordStore σ ω] {w w' : ω}

/-- A song whose record has been put gives its path that number, if the path is on record. -/
theorem Consistent.numberOf?_putRecord (h : Consistent lib) {stamp : Record.Stamp}
    (hnumber : (song.path?.bind fun path => lib.byPath[path]?).isSome →
      1 ≤ stamp.number ∧ stamp.number ≤ maxRecordNumber)
    (hput : Library.putRecord stamp (song, lib, w) = .ok n (song', lib', w')) (path : String) :
    lib'.numberOf? path =
      if song.path? = some path then (lib.numberOf? path).map fun _ => stamp.number
      else lib.numberOf? path := by
  simp only [Library.putRecord] at hput
  cases hwrite : StoreHandle.write stamp.number
      (Text.bytes (Record.encode lib.tables stamp song)) (lib.handle, w) with
  | error stop t => rw [hwrite] at hput; cases hput
  | ok a t =>
    rw [hwrite] at hput
    obtain ⟨-, hstate⟩ := EStateM.Result.ok.inj hput
    obtain ⟨-, hlib, -⟩ := hstate
    exact (h.withHandle t.1).numberOf?_settle hnumber path

/-- A record that could not be put leaves the numbers alone. -/
theorem numberOf?_putRecord_error {stamp : Record.Stamp} {stop : Stop LibraryFault}
    (hput : putRecord stamp (song, lib, w) = .error stop (song', lib', w')) (path : String) :
    lib'.numberOf? path = lib.numberOf? path := by
  simp only [putRecord] at hput
  cases hwrite : StoreHandle.write stamp.number
      (Text.bytes (Record.encode lib.tables stamp song)) (lib.handle, w) with
  | ok a t => rw [hwrite] at hput; cases hput
  | error stop t =>
    rw [hwrite] at hput
    obtain ⟨-, hstate⟩ := EStateM.Result.error.inj hput
    obtain ⟨-, rfl, -⟩ := hstate
    rfl

/-- A song that has been written brings its own number along for its path, if that is on
record.  The numbers of other paths stay as they are. -/
theorem Consistent.numberOf?_writeSong (h : Consistent lib) {now : Instant}
    (hwrite : Library.writeSong now (song, lib, w) = .ok n (song', lib', w')) (path : String) :
    lib'.numberOf? path =
      if song.temporary = false ∧ song.path? = some path then
        (lib.numberOf? path).map song.recordNumber?.getD
      else lib.numberOf? path := by
  rw [writeSong_apply] at hwrite
  cases htemporary : song.temporary with
  | true =>
    -- A temporary song is not written at all.
    rw [htemporary, if_pos rfl] at hwrite
    obtain ⟨-, hstate⟩ := EStateM.Result.ok.inj hwrite
    obtain ⟨-, rfl, -⟩ := hstate
    simp
  | false =>
    rw [htemporary, if_neg (by decide)] at hwrite
    cases hrecord : lib.recordOf? song with
    | some found =>
      obtain ⟨number, chosen⟩ := found
      have hrange := number_of_recordOf? hrecord
      rw [hrecord] at hwrite
      rw [h.numberOf?_putRecord (fun _ => hrange) hwrite path]
      rcases recordOf?_eq_some_iff.1 hrecord with ⟨hown, rfl⟩ | ⟨hown, old, hold, hnumber, rfl⟩
      · -- The song has a number of its own, and brings it along.
        simp only [hown, true_and]
        rfl
      · -- The path is on record under the number that the song is written to.
        rw [path?_adoptDate]
        simp only [true_and]
        split
        · rename_i hpath
          rw [onRecord?, hpath, Option.bind_some] at hold
          have hbefore : lib.numberOf? path = some number := by
            rw [numberOf?, hold, Option.bind_some, hnumber]
          rw [hbefore, hown]
          rfl
        · rfl
    | none =>
      rw [hrecord] at hwrite
      dsimp only at hwrite
      cases hallocate : StoreHandle.allocate (lib.handle, w) with
      | error stop t => rw [hallocate] at hwrite; cases hwrite
      | ok number t =>
        rw [hallocate] at hwrite
        have hplace := h.place_eq_none hrecord
        have hnew : ¬(song.path?.bind fun path => lib.byPath[path]?).isSome := by
          rw [hplace]
          decide
        rw [(h.withHandle t.1).numberOf?_putRecord (fun hsome => absurd hsome hnew) hwrite path]
        simp only [true_and]
        split
        · -- The path is not on record, so that it has no number.
          rename_i hpath
          rw [hpath, Option.bind_some] at hplace
          have hbefore : lib.numberOf? path = none := by
            rw [numberOf?, Library.getByPath?, hplace, Option.bind_none, Option.bind_none]
          have hafter : (lib.withHandle t.1).numberOf? path = none := hbefore
          rw [hbefore, hafter, Option.map_none, Option.map_none]
        · rfl

/-- A song that could not be written leaves the numbers alone. -/
theorem numberOf?_writeSong_error {now : Instant} {stop : Stop LibraryFault}
    (hwrite : writeSong now (song, lib, w) = .error stop (song', lib', w')) (path : String) :
    lib'.numberOf? path = lib.numberOf? path := by
  rw [writeSong_apply] at hwrite
  split at hwrite
  · cases hwrite
  · split at hwrite
    · exact numberOf?_putRecord_error hwrite path
    · split at hwrite
      · obtain ⟨-, hstate⟩ := EStateM.Result.error.inj hwrite
        -- No number could be allocated, and only the handle has changed.
        obtain ⟨-, rfl, -⟩ := hstate
        rfl
      · have hkept := numberOf?_putRecord_error hwrite path
        exact hkept

/-- Loading an entry again leaves the numbers alone. -/
theorem Consistent.numberOf?_loadEntry (h : Consistent lib) (index : Int) (w : ω) (path : String) :
    ((Library.loadEntry index).after (lib, w)).1.numberOf? path = lib.numberOf? path := by
  rcases after_loadEntry index lib w with hsame | ⟨i, old, number, t, htarget, _, hleft⟩
  · rw [hsame]
  obtain ⟨hi, hold, hnumber⟩ := target?_eq_some_iff.1 htarget
  rcases hleft with hleft | ⟨data, song, hdecode, hpath, hleft⟩
  · rw [hleft]
    rfl
  · -- The song that was read takes the number of the one whose place it takes.
    have hrange := Song.recordNumber?_range hnumber
    rw [hleft]
    dsimp only
    rw [numberOf?, (h.withHandle t.1).getByPath?_replace hold (by simpa using hpath)]
    split
    · rename_i hsame
      have hbefore : lib.numberOf? path = some number :=
        h.numberOf?_eq_some_iff.2 ⟨i, old, hold, by simpa [← hpath] using hsame, hnumber⟩
      rw [Option.bind_some, hbefore]
      exact song.recordNumber?_setRecordNumber hrange
    · rfl

omit [RecordStore σ ω] in
/-- A step on the handle leaves the numbers alone. -/
theorem numberOf?_onHandle {α : Type} (step : HandleStep σ ω α) (lib : Library σ) (w : ω)
    (path : String) : (Step.after (onHandle step) (lib, w)).1.numberOf? path =
      lib.numberOf? path := by
  unfold Step.after Step.outcome onHandle
  rw [Step.focus_apply]
  cases step (lib.handle, w) <;> rfl

/-- A library that has been closed has no numbers. -/
theorem numberOf?_close (lib : Library σ) (w : ω) (path : String) :
    (Step.after Library.close (lib, w)).1.numberOf? path = lib.numberOf? path ∨
      (Step.after Library.close (lib, w)).1.numberOf? path = none := by
  unfold Step.after Step.outcome Library.close onHandle
  simp only [Step.bind_apply, Step.focus_apply]
  cases StoreHandle.close (lib.handle, w) with
  | error stop t => exact .inl rfl
  | ok a t => exact .inr (by simp [change, clear, numberOf?, Library.getByPath?])

/-! ### Runs -/

/-- Whether a song that is written keeps the number of its path: it has none of its own, or
that of its path, or its path is not on record. -/
def Request.KeepsNumbers (lib : Library σ) : Request → Prop
  | write song _ => song.temporary = false → ∀ path own n, song.path? = some path →
      song.recordNumber? = some own → lib.numberOf? path = some n → own = n
  | _ => True

/-- A song that has been written leaves the numbers as they were if and only if it kept the
number of its path. -/
theorem Consistent.keepsNumbers_iff (h : Consistent lib) {now : Instant}
    (hwrite : Library.writeSong now (song, lib, w) = .ok n (song', lib', w')) :
    (Request.write song now).KeepsNumbers lib ↔
      ∀ path, lib'.numberOf? path = lib.numberOf? path := by
  constructor
  · intro hkeeps path
    rw [h.numberOf?_writeSong hwrite]
    split
    · rename_i hwritten
      cases hbefore : lib.numberOf? path with
      | none => rfl
      | some m =>
        cases hown : song.recordNumber? with
        | none => rfl
        | some own =>
          rw [hkeeps hwritten.1 path own m hwritten.2 hown hbefore]
          rfl
    · rfl
  · intro hsame hlasting path own m hpath hown hbefore
    -- Otherwise the path would now have the number of the song.
    have hafter := hsame path
    rw [h.numberOf?_writeSong hwrite, if_pos ⟨hlasting, hpath⟩, hown, hbefore] at hafter
    exact Option.some.inj hafter

/-- What is left of a library and a world after requests of a kind, one after the other; in
between others may change the world. -/
inductive Run (allowed : Library σ → Request → Prop) (others : ω → ω → Prop) (s : Library σ × ω) :
    Library σ × ω → Prop
  | nil : Run allowed others s s
  | request {lib : Library σ} {w : ω} {request : Request} (hallowed : allowed lib request)
      (h : Run allowed others s (lib, w)) : Run allowed others s (request.perform (lib, w))
  | others {lib : Library σ} {w w' : ω} (hothers : others w w')
      (h : Run allowed others s (lib, w)) : Run allowed others s (lib, w')

/-- What a request that keeps numbers leaves gives no path another number. -/
theorem Consistent.numberOf?_leave (h : Consistent lib) {request : Request}
    (hkeeps : request.KeepsNumbers lib) (w : ω)
    (hnumber : (request.leave (lib, w)).1.numberOf? path = some n) :
    lib.numberOf? path = some n := by
  cases request with
  | write song now =>
    rw [← hnumber, Request.leave]
    cases hwrite : Library.writeSong now (song, lib, w) with
    | ok length t =>
      rw [Step.after_of_ok hwrite]
      exact ((h.keepsNumbers_iff hwrite).1 hkeeps path).symm
    | error stop t =>
      rw [Step.after_of_error hwrite]
      exact (numberOf?_writeSong_error hwrite path).symm
  | load index => rwa [Request.leave, h.numberOf?_loadEntry] at hnumber
  | addTemporary song => exact hnumber
  | removeTemporary index => exact hnumber
  | startBatch => exact (numberOf?_onHandle StoreHandle.startBatch lib w path).symm.trans hnumber
  | endBatch => exact (numberOf?_onHandle StoreHandle.endBatch lib w path).symm.trans hnumber
  -- Once closed there is nothing on record.
  | close =>
    rcases numberOf?_close lib w path with hsame | hnone
    · exact hsame.symm.trans hnumber
    · cases hnone.symm.trans hnumber

/-- A request that keeps numbers gives no path another number. -/
theorem Consistent.numberOf?_perform (h : Consistent lib) {request : Request}
    (hkeeps : request.KeepsNumbers lib) (w : ω)
    (hnumber : (request.perform (lib, w)).1.numberOf? path = some n) :
    lib.numberOf? path = some n := by
  by_cases hpanics : request.Panics (lib, w)
  · rwa [Request.perform_of_panics hpanics] at hnumber
  · rw [Request.perform_of_not_panics hpanics] at hnumber
    exact h.numberOf?_leave hkeeps w hnumber

/-! ### A library of two songs -/

/-- The song of the first record with another title. -/
private def retitled : Song :=
  ((asRead 1 moonRiver).withIndex 0).set .title (.text "Moon River (live)")

/-- The two songs of the library have the numbers of their slots. -/
private theorem numberOf?_dances {lib : Library MemoryHandle} (h : Consistent lib)
    (hsongs : ∀ i : Nat, lib.songs[i]? =
      ([asRead 1 moonRiver, asRead 2 libertango][i]?).map fun song => song.withIndex i) :
    lib.numberOf? "a.mp3" = some 1 ∧ lib.numberOf? "b.mp3" = some 2 :=
  ⟨h.numberOf?_eq_some_iff.2 ⟨0, _, hsongs 0, by decide +kernel, by decide +kernel⟩,
    h.numberOf?_eq_some_iff.2 ⟨1, _, hsongs 1, by decide +kernel, by decide +kernel⟩⟩

/-- A record that is short enough is written into the first slot. -/
private theorem write_danceStore {data : Bytes} (hlength : data.length ≤ 2048)
    (calls : List String) :
    ∃ w, StoreHandle.write 1 data (danceHandle, { danceStore with calls }) =
      .ok () (danceHandle, w) := by
  have hfault : ∀ call, FaultPlan.fault? {} call = none := fun _ => rfl
  have hfits : ¬2048 < data.length := Nat.not_lt_of_le hlength
  simp [-bind_pure_comp, danceHandle, danceStore, hfault, hfits, StoreHandle.write,
    StoreHandle.writeFitting, StoreHandle.during, StoreHandle.acquire, StoreHandle.isOpen,
    StoreHandle.closeUnlessBatch, StoreHandle.close, StoreHandle.whenOpen,
    StoreHandle.request_apply, MemoryStore.call_apply, RecordStore.isOpen, RecordStore.openAt,
    RecordStore.write, RecordStore.close, RecordStore.recordSize, MemoryStore.setSlot,
    Step.ofExcept]

/-! ### Every run -/

/-- While every song that is written keeps the number of its path, different songs on record
have different numbers, and a path that is on record has the number that it was loaded with. -/
theorem numbers_of_run {audio : AudioCheck ω} {tables : Tables} {handle : StoreHandle σ}
    {others : ω → ω → Prop} {w₀ : ω} {t : Library σ × ω} (hcount : CountsWithin handle w₀)
    (hload : load audio handle tables w₀ = .ok lib w)
    (hrun : Run Request.KeepsNumbers others (lib, w) t) :
    DistinctNumbers t.1 ∧ ∀ path n, t.1.numberOf? path = some n →
      lib.numberOf? path = some n := by
  have hloaded : Consistent lib := consistent_load hcount hload
  have hdistinct : DistinctNumbers lib := distinctNumbers_load hcount hload
  -- Along the run a path may lose its number, as on closing, but never comes by another one;
  -- so what holds of the numbers after loading still does.
  obtain ⟨hconsistent, hkept⟩ : Consistent t.1 ∧ ∀ path n, t.1.numberOf? path = some n →
      lib.numberOf? path = some n := by
    induction hrun with
    | nil => exact ⟨hloaded, fun _ _ hnumber => hnumber⟩
    | request hallowed _ ih =>
      refine ⟨ih.1.perform _ _, ?_⟩
      intro path n hnumber
      exact ih.2 path n (ih.1.numberOf?_perform hallowed _ hnumber)
    | others _ _ ih => exact ih
  refine ⟨?_, hkept⟩
  rw [hconsistent.distinctNumbers_iff]
  intro p q n hp hq
  exact hloaded.distinctNumbers_iff.1 hdistinct p q n (hkept p n hp) (hkept q n hq)

/-- A song on record keeps its number when it is written with another title. -/
theorem numbers_of_run_retitled :
    ∃ lib w, load (fun _ _ => .ok true) danceHandle .standard danceStore = .ok lib w ∧
      lib.numberOf? "a.mp3" = some 1 ∧
      DistinctNumbers ((Request.write retitled .epoch).perform (lib, w)).1 := by
  obtain ⟨lib, calls, hload, _, _, hsongs⟩ := load_danceStore
  have hcount : CountsWithin danceHandle danceStore := countsWithin_memory (by decide)
  obtain ⟨hfirst, _⟩ := numberOf?_dances (consistent_load hcount hload) hsongs
  have hkeeps : (Request.write retitled .epoch).KeepsNumbers lib := by
    intro _ path own n hpath hown hnumber
    obtain rfl : "a.mp3" = path := Option.some.inj hpath
    have howned : retitled.recordNumber? = some 1 := by decide +kernel
    obtain rfl := Option.some.inj (howned.symm.trans hown)
    exact Option.some.inj (hfirst.symm.trans hnumber)
  have hrun : Run Request.KeepsNumbers (fun _ _ => False) (lib, { danceStore with calls })
      ((Request.write retitled .epoch).perform (lib, { danceStore with calls })) :=
    .request hkeeps .nil
  exact ⟨lib, _, hload, hfirst, (numbers_of_run hcount hload hrun).1⟩

/-- The song of the first record under another path. -/
private def renamed : Song := ((asRead 1 moonRiver).withIndex 0).set .file (.text "b.mp3")

/-- A song on record that is written under the path of another one takes its own number
along, so that one record belongs to two songs. -/
theorem not_distinctNumbers_writeSong :
    ∃ lib w lib' w' song' n,
      load (fun _ _ => .ok true) danceHandle .standard danceStore = .ok lib w ∧
      lib.songs[0]? = some ((asRead 1 moonRiver).withIndex 0) ∧
      lib.numberOf? "b.mp3" = some 2 ∧
      writeSong .epoch (renamed, lib, w) = .ok n (song', lib', w') ∧
      lib'.numberOf? "b.mp3" = some 1 ∧ ¬DistinctNumbers lib' := by
  obtain ⟨lib, calls, hload, htables, hhandle, hsongs⟩ := load_danceStore
  have hconsistent : Consistent lib := consistent_load (countsWithin_memory (by decide)) hload
  obtain ⟨hfirst, hsecond⟩ := numberOf?_dances hconsistent hsongs
  have hlength :
      (Text.bytes (Record.encode .standard ⟨1, false, .epoch⟩ renamed)).length ≤ 2048 := by
    decide +kernel
  obtain ⟨w', hput⟩ := write_danceStore hlength calls
  -- The song has a number of its own, and it is not asked whose number that is.
  have hrecord : lib.recordOf? renamed = some (1, renamed) :=
    recordOf?_eq_some_iff.2 (.inl ⟨by decide +kernel, rfl⟩)
  obtain ⟨n, song', lib', w'', hwrite⟩ : ∃ n song' lib' w'',
      writeSong .epoch (renamed, lib, { danceStore with calls }) = .ok n (song', lib', w'') := by
    rw [writeSong_apply, hrecord]
    simp only [putRecord, htables, hhandle, hput]
    exact ⟨_, _, _, _, rfl⟩
  have hafter := hconsistent.numberOf?_writeSong hwrite
  have hfirst' : lib'.numberOf? "a.mp3" = some 1 := by
    rw [hafter, hfirst]
    rfl
  have hsecond' : lib'.numberOf? "b.mp3" = some 1 := by
    rw [hafter, hsecond]
    rfl
  refine ⟨lib, _, lib', w'', song', n, hload, hsongs 0, hsecond, hwrite, hsecond', ?_⟩
  have hconsistent' := hconsistent.of_writeSong hwrite
  -- Two songs under one number would be of one path.
  intro hdistinct
  have hsame := hconsistent'.distinctNumbers_iff.1 hdistinct "a.mp3" "b.mp3" 1 hfirst' hsecond'
  exact absurd hsame (by decide)

end Ballroom.Library
