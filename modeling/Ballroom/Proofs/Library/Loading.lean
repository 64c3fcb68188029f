import Ballroom.Proofs.Library.OnDisk
import Ballroom.Proofs.Record.RoundTrip

/-!
# Which songs a library is loaded with

A library is loaded with the songs that the slots of its store offer: a slot offers a song
if its bytes can be read and decoded and the audio file is there.  Of several slots that
offer songs of one path the first counts (`loadedFrom_of_scan`), and nothing else makes
loading fail than a store that cannot be opened, counted or closed (`load_finds`).
-/

namespace Ballroom.Library

open StoreHandle (Reads readThrough readThrough_succ request_apply)

/-- Slot `n` holds the record of a song of a path whose audio file is there. -/
structure Offers (told : Nat → Except HostFault (Option Bytes)) (tables : Tables)
    (there : String → Except HostFault Bool) (n : Nat) (path : String) (song : Song) : Prop where
  record : ∃ data, told n = .ok (some data) ∧ Record.decode tables data = .ok song
  named : song.path? = some path
  found : there path = .ok true

/-- Slot `n` is the first from `first` on that offers a song of a path. -/
structure FirstOffer (told : Nat → Except HostFault (Option Bytes)) (tables : Tables)
    (there : String → Except HostFault Bool) (first n : Nat) (path : String) (song : Song) :
    Prop where
  le : first ≤ n
  offers : Offers told tables there n path song
  first : ∀ m other, first ≤ m → m < n → ¬Offers told tables there m path other

variable {told : Nat → Except HostFault (Option Bytes)} {tables : Tables}
  {there : String → Except HostFault Bool} {first left n : Nat} {path : String} {song : Song}

/-! ### Offers -/

/-- A slot offers one song at most. -/
theorem Offers.unique {other : Song} {path' : String} (h : Offers told tables there n path song)
    (h' : Offers told tables there n path' other) : path = path' ∧ song = other := by
  obtain ⟨data, hdata, hdecode⟩ := h.record
  obtain ⟨data', hdata', hdecode'⟩ := h'.record
  obtain rfl := Option.some.inj (Except.ok.inj (hdata.symm.trans hdata'))
  obtain rfl := Except.ok.inj (hdecode.symm.trans hdecode')
  exact ⟨Option.some.inj (h.named.symm.trans h'.named), rfl⟩

/-- Among slots from `first` on that offer songs of a path there is a first one. -/
theorem exists_firstOffer (hle : first ≤ n) (hoffers : Offers told tables there n path song) :
    ∃ m other, m ≤ n ∧ FirstOffer told tables there first m path other := by
  induction n using Nat.strong_induction_on generalizing song with
  | _ n ih =>
    by_cases hearlier : ∃ m other, first ≤ m ∧ m < n ∧ Offers told tables there m path other
    · obtain ⟨m, other, hfirst, hlt, hother⟩ := hearlier
      obtain ⟨k, found, hk, hfound⟩ := ih m hlt hfirst hother
      exact ⟨k, found, by omega, hfound⟩
    · refine ⟨n, song, Nat.le_refl n, hle, hoffers, ?_⟩
      intro m other hfirst hlt hother
      exact hearlier ⟨m, other, hfirst, hlt, hother⟩

/-- A path is offered by one slot first, with one song. -/
theorem FirstOffer.unique {m : Nat} {other : Song}
    (h : FirstOffer told tables there first n path song)
    (h' : FirstOffer told tables there first m path other) : n = m ∧ song = other := by
  obtain rfl : n = m := by
    rcases Nat.lt_trichotomy n m with hlt | heq | hlt
    · exact absurd h.offers (h'.first n song h.le hlt)
    · exact heq
    · exact absurd h'.offers (h.first m other h'.le hlt)
  exact ⟨rfl, (h.offers.unique h'.offers).2⟩

/-- A slot that offers no song of a path does not matter for it. -/
theorem firstOffer_succ_iff (hnone : ∀ other, ¬Offers told tables there first path other) :
    FirstOffer told tables there (first + 1) n path song ↔
      FirstOffer told tables there first n path song := by
  constructor
  · rintro ⟨hle, hoffers, hfirst⟩
    refine ⟨by omega, hoffers, ?_⟩
    intro m other hm hlt
    -- An earlier offer would be that slot, which offers nothing.
    by_cases heq : m = first
    · exact heq ▸ hnone other
    · exact hfirst m other (by omega) hlt
  · rintro ⟨hle, hoffers, hfirst⟩
    have hne : n ≠ first := by
      rintro rfl
      exact hnone song hoffers
    exact ⟨by omega, hoffers, fun m other hm hlt => hfirst m other (by omega) hlt⟩

/-! ### Scanning a steady store -/

/-- The songs found in the `left` slots from `first` on: those that are the first to be
offered under a path, apart from the paths `seen`, each with the number of its slot. -/
def Finds (told : Nat → Except HostFault (Option Bytes)) (tables : Tables)
    (there : String → Except HostFault Bool) (seen : Std.HashMap String Nat) (left first : Nat)
    (songs : List Song) : Prop :=
  ∀ song, song ∈ songs ↔ ∃ n path read, song = Song.setRecordNumber read n ∧ n < first + left ∧
    seen.contains path = false ∧ FirstOffer told tables there first n path read

variable {seen : Std.HashMap String Nat} {songs : List Song}

/-- Without slots nothing is found. -/
theorem finds_nil : Finds told tables there seen 0 first [] := by
  intro song
  constructor
  · exact fun hmem => absurd hmem List.not_mem_nil
  · rintro ⟨n, path, read, _, hlt, _, hoffer⟩
    have hle := hoffer.le
    omega

/-- A slot is passed over that offers no song of a path that has not been seen. -/
theorem Finds.skip (hnone : ∀ path other, seen.contains path = false →
      ¬Offers told tables there first path other)
    (h : Finds told tables there seen left (first + 1) songs) :
    Finds told tables there seen (left + 1) first songs := by
  intro song
  rw [h song]
  constructor
  · rintro ⟨n, path, read, hsong, hlt, hnew, hoffer⟩
    exact ⟨n, path, read, hsong, by omega, hnew,
      (firstOffer_succ_iff fun other => hnone path other hnew).1 hoffer⟩
  · rintro ⟨n, path, read, hsong, hlt, hnew, hoffer⟩
    exact ⟨n, path, read, hsong, by omega, hnew,
      (firstOffer_succ_iff fun other => hnone path other hnew).2 hoffer⟩

/-- A song that is offered under a new path is found, and no later one of its path. -/
theorem Finds.take (hoffers : Offers told tables there first path song)
    (hnew : seen.contains path = false)
    (h : Finds told tables there (seen.insert path first) left (first + 1) songs) :
    Finds told tables there seen (left + 1) first (song.setRecordNumber first :: songs) := by
  -- The slot offers nothing under another path.
  have hnone : ∀ {path' : String}, path' ≠ path →
      ∀ other, ¬Offers told tables there first path' other :=
    fun hne other hother => hne (hother.unique hoffers).1
  intro other
  rw [List.mem_cons, h other]
  constructor
  · rintro (rfl | ⟨n, path', read, hother, hlt, hnew', hoffer⟩)
    · exact ⟨first, path, song, rfl, by omega, hnew, Nat.le_refl first, hoffers,
        fun m _ hle hlt => absurd hle (Nat.not_le_of_lt hlt)⟩
    · rw [Std.HashMap.contains_insert, Bool.or_eq_false_iff] at hnew'
      have hne : path' ≠ path := by
        rintro rfl
        simp at hnew'
      exact ⟨n, path', read, hother, by omega, hnew'.2,
        (firstOffer_succ_iff (hnone hne)).1 hoffer⟩
  · rintro ⟨n, path', read, hother, hlt, hnew', hoffer⟩
    by_cases hpath : path' = path
    · subst hpath
      -- The slot is the first that offers its path, so that the song is the one that was
      -- taken.
      obtain ⟨rfl, rfl⟩ := hoffer.unique ⟨Nat.le_refl first, hoffers,
        fun m _ hle hlt => absurd hle (Nat.not_le_of_lt hlt)⟩
      exact .inl hother
    · refine .inr ⟨n, path', read, hother, by omega, ?_,
        (firstOffer_succ_iff (hnone hpath)).2 hoffer⟩
      rw [Std.HashMap.contains_insert, Bool.or_eq_false_iff]
      exact ⟨by simpa using Ne.symm hpath, hnew'⟩

variable {σ ω : Type} [RecordStore σ ω] {storePath : String} {version : Nat}
  {keeps : σ × ω → Prop} {audio : AudioCheck ω} {s : StoreHandle σ × ω}

/-- What a scan sees of a slot. -/
private theorem readSlot_of_reads (tables : Tables) (h : Steady storePath version told keeps)
    (hs : Reads keeps s) (n : Nat) :
    ∃ song?, readSlot tables n s = .ok song? ((StoreHandle.read n).after s) ∧
      ∀ song, song? = some song ↔
        ∃ data, told n = .ok (some data) ∧ Record.decode tables data = .ok song := by
  obtain ⟨hread, _⟩ := hs.read h n
  unfold readSlot
  rw [Step.bind_apply, hread]
  cases told n with
  | error fault => exact ⟨none, rfl, by simp⟩
  | ok data? =>
    cases data? with
    | none => exact ⟨none, rfl, by simp⟩
    | some data =>
      -- What cannot be decoded is seen as nothing, like an empty slot.
      refine ⟨(Record.decode tables data).toOption, rfl, ?_⟩
      intro song
      cases hdecode : Record.decode tables data with
      | error fault => simp [hdecode, Except.toOption]
      | ok read => simp [hdecode, Except.toOption]

/-- A file counts as missing also if it cannot be told. -/
theorem isThere_iff {w : ω} : isThere audio w path = true ↔ audio w path = .ok true := by
  unfold isThere
  cases audio w path with
  | error fault => simp
  | ok found => simp

/-- A scan finds the songs that are offered first, and leaves what reading leaves. -/
theorem scan_of_reads (audio : AudioCheck ω) (tables : Tables) (seen : Std.HashMap String Nat)
    (left first : Nat) (h : Steady storePath version told keeps)
    (haudio : ∀ t, keeps t → audio t.2 = there) (hs : Reads keeps s) :
    ∃ songs, scan audio tables seen left first s = .ok songs (readThrough first left s) ∧
      Reads keeps (readThrough first left s) ∧ Finds told tables there seen left first songs := by
  -- On the slots that are left; the store can be read again behind each of them.
  induction left generalizing seen first s with
  | zero => exact ⟨[], rfl, hs, finds_nil⟩
  | succ left ih =>
    obtain ⟨_, hnext⟩ := hs.read h first
    obtain ⟨song?, hslot, hheld⟩ := readSlot_of_reads tables h hs first
    have hthere := haudio _ hnext.keeps
    rw [readThrough_succ]
    simp only [scan, Step.bind_apply, Step.get_apply, hslot]
    cases song? with
    | none =>
      -- The slot holds no song, and so offers none.
      obtain ⟨songs, hscan, hreads, hfinds⟩ := ih seen (first + 1) hnext
      refine ⟨songs, hscan, hreads, hfinds.skip ?_⟩
      intro path other _ hother
      exact absurd ((hheld other).2 hother.record) (by simp)
    | some song =>
      obtain ⟨data, hdata, hdecode⟩ := (hheld song).1 rfl
      obtain ⟨⟨path, hpath, _⟩, _⟩ := Record.path_of_decode hdecode
      simp only [hpath, Option.getD_some, Step.ite_apply]
      split
      · rename_i htaken
        rw [Bool.and_eq_true, Bool.not_eq_true', isThere_iff, hthere] at htaken
        obtain ⟨songs, hscan, hreads, hfinds⟩ := ih (seen.insert path first) (first + 1) hnext
        refine ⟨song.setRecordNumber first :: songs, ?_, hreads,
          hfinds.take ⟨⟨data, hdata, hdecode⟩, hpath, htaken.1⟩ htaken.2⟩
        simp only [Step.bind_apply, hscan, Step.pure_apply]
      · -- The file is missing, or an earlier slot has the path.
        rename_i hpassed
        obtain ⟨songs, hscan, hreads, hfinds⟩ := ih seen (first + 1) hnext
        refine ⟨songs, hscan, hreads, hfinds.skip ?_⟩
        intro path' other hnew hother
        obtain rfl := Option.some.inj ((hheld other).2 hother.record)
        obtain rfl := Option.some.inj (hother.named.symm.trans hpath)
        rw [Bool.and_eq_true, Bool.not_eq_true', isThere_iff, hthere] at hpassed
        exact hpassed ⟨hother.found, hnew⟩

/-! ### The library that is filled -/

/-- A library with what the slots up to `last` of a store offer, and with its parts in step. -/
structure LoadedFrom (told : Nat → Except HostFault (Option Bytes)) (tables : Tables)
    (there : String → Except HostFault Bool) (last : Nat) (lib : Library σ) : Prop where
  /-- A path is on record if and only if a slot offers a song of it. -/
  onRecord : ∀ path, (lib.getByPath? path).isSome ↔
    ∃ n song, 1 ≤ n ∧ n ≤ last ∧ Offers told tables there n path song
  /-- The song of a path is the first that is offered, under the number of its slot. -/
  first : ∀ n path song, n ≤ last → FirstOffer told tables there 1 n path song →
    ∃ i : Nat, lib.byPath[path]? = some i ∧
      lib.getByPath? path = some ((song.setRecordNumber n).withIndex i)
  consistent : Consistent lib
  tables : lib.tables = tables

omit [RecordStore σ ω] in
/-- A library that is filled with the songs of a scan has what the slots offer. -/
theorem loadedFrom_fill {handle : StoreHandle σ} {last : Nat} (hlast : last ≤ maxRecordNumber)
    (hscanned : Scanned {} last 1 songs) (hfinds : Finds told tables there {} last 1 songs) :
    LoadedFrom told tables there last (fill (empty handle tables) songs) := by
  have hconsistent : Consistent (fill (empty handle tables) songs) :=
    consistent_fill hscanned hlast
  have hfirst : ∀ n path song, n ≤ last → FirstOffer told tables there 1 n path song →
      ∃ i : Nat, (fill (empty handle tables) songs).byPath[path]? = some i ∧
        (fill (empty handle tables) songs).getByPath? path =
          some ((song.setRecordNumber n).withIndex i) := by
    intro n path song hle hoffer
    -- The first offer was found by the scan, and has its place among the sorted songs.
    have hmem : song.setRecordNumber n ∈ songs :=
      (hfinds _).2 ⟨n, path, song, rfl, by omega, by simp, hoffer⟩
    obtain ⟨i, hi⟩ : ∃ i : Nat, (songs.mergeSort pathLE)[i]? = some (song.setRecordNumber n) :=
      List.getElem?_of_mem (List.mem_mergeSort.2 hmem)
    have hat : (fill (empty handle tables) songs).songs[i]? =
        some ((song.setRecordNumber n).withIndex i) := by
      rw [getElem?_songs_fill, hi, Option.map_some]
    have hpath : ((song.setRecordNumber n).withIndex i).path? = some path := by
      rw [Song.path?_withIndex, Song.path?_setRecordNumber, hoffer.offers.named]
    exact ⟨i, (hconsistent.byPath path i).2 ⟨_, hat, hpath⟩,
      hconsistent.getByPath?.2 ⟨hpath, i, hat⟩⟩
  refine ⟨fun path => ?_, hfirst, hconsistent, rfl⟩
  constructor
  · intro hsome
    obtain ⟨song, hsong⟩ := Option.isSome_iff_exists.1 hsome
    obtain ⟨hpath, i, hi⟩ := hconsistent.getByPath?.1 hsong
    rw [getElem?_songs_fill, Option.map_eq_some_iff] at hi
    obtain ⟨found, hfound, rfl⟩ := hi
    obtain ⟨n, path', read, rfl, hlt, _, hoffer⟩ :=
      (hfinds found).1 (List.mem_mergeSort.1 (List.mem_of_getElem? hfound))
    rw [Song.path?_withIndex, Song.path?_setRecordNumber, hoffer.offers.named] at hpath
    obtain rfl := Option.some.inj hpath
    exact ⟨n, read, hoffer.le, by omega, hoffer.offers⟩
  · rintro ⟨n, song, hle, hlast, hoffers⟩
    -- Of the slots that offer a song of the path there is a first one.
    obtain ⟨m, found, hm, hoffer⟩ := exists_firstOffer hle hoffers
    obtain ⟨i, _, hget⟩ := hfirst m path found (by omega) hoffer
    rw [hget, Option.isSome_some]

/-! ### Loading -/

/-- Loading step by step: a store that cannot be opened, counted or closed makes it fail. -/
theorem load_apply (audio : AudioCheck ω) (tables : Tables) (handle : StoreHandle σ) (w : ω) :
    load audio handle tables w =
      match StoreHandle.acquire (handle, w) with
      | .error stop t => .error stop t.2
      | .ok () opened => match StoreHandle.count opened with
        | .error (.panic why) t => .error (.panic why) t.2
        | .error (.fault cause) t => match Step.attempt StoreHandle.close t with
          | .error stop u => .error stop u.2
          | .ok _ u => .error (.fault cause) u.2
        | .ok n counted => match scan audio tables {} n 1 counted with
          | .error stop t => .error stop t.2
          | .ok songs scanned => match StoreHandle.close scanned with
            | .error stop t => .error stop t.2
            | .ok () closed => .ok (fill (empty closed.1 tables) songs) closed.2 := by
  unfold load scanStore countOrClose
  simp only [Step.bind_apply]
  cases StoreHandle.acquire (handle, w) with
  | error stop t => rfl
  | ok a opened =>
    dsimp only
    rw [Step.attempt_apply]
    rcases StoreHandle.count opened with ⟨n, counted⟩ | ⟨cause | why, t⟩
    · dsimp only [Step.pure_apply]
      cases scan audio tables {} n 1 counted with
      | error stop t => rfl
      | ok songs scanned =>
        dsimp only
        cases StoreHandle.close scanned <;> rfl
    · -- The store is closed, and the fault of that does not matter.
      simp only [Step.bind_apply, Step.fail_apply]
      cases Step.attempt StoreHandle.close t <;> rfl
    · rfl

/-- A store that cannot be counted makes loading fail with the fault of that, unless the program
ends when the store is closed then: loading ends with it. -/
theorem load_of_count_error (audio : AudioCheck ω) (tables : Tables) {handle : StoreHandle σ}
    {w : ω} {opened failed : StoreHandle σ × ω} {stop : Stop LibraryFault}
    (hacquire : StoreHandle.acquire (handle, w) = .ok () opened)
    (hcount : StoreHandle.count opened = .error stop failed) :
    (∃ w', load audio handle tables w = .error stop w') ∨
      ∃ why t w', StoreHandle.close failed = .error (.panic why) t ∧
        load audio handle tables w = .error (.panic why) w' := by
  have hload := load_apply audio tables handle w
  rw [hacquire] at hload
  dsimp only at hload
  rw [hcount] at hload
  cases stop with
  | panic why => exact .inl ⟨_, hload⟩
  | fault cause =>
    dsimp only at hload
    by_cases hpanics : Step.Panics (StoreHandle.close (ω := ω)) failed
    · obtain ⟨why, t, hclose⟩ := hpanics
      rw [Step.attempt_apply, hclose] at hload
      exact .inr ⟨why, t, _, hclose, hload⟩
    · obtain ⟨result, hattempt⟩ := Step.attempt_of_not_panics hpanics
      rw [hattempt] at hload
      exact .inl ⟨_, hload⟩

/-- A steady store that is opened, counted and closed gives a library with what its slots
offer. -/
theorem exists_loaded (audio : AudioCheck ω) (tables : Tables) {handle : StoreHandle σ} {w : ω}
    {opened counted closed : StoreHandle σ × ω} {last : Nat}
    (h : Steady handle.path handle.version told keeps)
    (haudio : ∀ t, keeps t → audio t.2 = there) (hkeeps : keeps (handle.store, w))
    (hacquire : StoreHandle.acquire (handle, w) = .ok () opened)
    (hcount : StoreHandle.count opened = .ok last counted)
    (hclose : StoreHandle.close (readThrough 1 last counted) = .ok () closed) :
    ∃ lib, load audio handle tables w = .ok lib closed.2 ∧
      LoadedFrom told tables there last lib ∧ lib.handle = closed.1 := by
  obtain ⟨hreads, hlast⟩ := (StoreHandle.reads_of_acquire h hkeeps hacquire).count h hcount
  obtain ⟨songs, hscan, _, hfinds⟩ := scan_of_reads audio tables {} last 1 h haudio hreads
  -- The scan is the one whose songs are known to be of different paths.
  have hscanned : Scanned {} last 1 songs := by
    obtain ⟨found, _, hfound, hscanned⟩ | ⟨_, _, hpanic⟩ :=
      scan_cases audio tables {} last 1 counted
    · obtain ⟨rfl, -⟩ := EStateM.Result.ok.inj (hfound.symm.trans hscan)
      exact hscanned
    · cases hpanic.symm.trans hscan
  refine ⟨_, ?_, loadedFrom_fill hlast hscanned hfinds, rfl⟩
  rw [load_apply, hacquire]
  dsimp only
  rw [hcount]
  dsimp only
  rw [hscan]
  dsimp only
  rw [hclose]

/-- A steady store keeps what it holds while it is loaded from, and is closed by then. -/
theorem kept_of_closed {handle : StoreHandle σ} {w : ω} {opened counted closed : StoreHandle σ × ω}
    {last : Nat} (h : Steady handle.path handle.version told keeps)
    (hkeeps : keeps (handle.store, w))
    (hacquire : StoreHandle.acquire (handle, w) = .ok () opened)
    (hcount : StoreHandle.count opened = .ok last counted)
    (hclose : StoreHandle.close (readThrough 1 last counted) = .ok () closed) :
    keeps (closed.1.store, closed.2) ∧ closed.1.isOpen closed.2 = false := by
  obtain ⟨hreads, _⟩ := (StoreHandle.reads_of_acquire h hkeeps hacquire).count h hcount
  exact (hreads.readThrough h 1 last).close h hclose

/-- A library is loaded from every steady store that can be opened, counted and closed.  It
has what the slots offer; the store is closed and holds what it held.  A store that cannot
be opened, counted or closed makes loading fail with the fault of that. -/
theorem load_finds (audio : AudioCheck ω) (tables : Tables) {handle : StoreHandle σ} {w : ω}
    (h : Steady handle.path handle.version told keeps)
    (haudio : ∀ t, keeps t → audio t.2 = there) (hkeeps : keeps (handle.store, w)) :
    match StoreHandle.acquire (handle, w) with
    | .error stop _ => ∃ w', load audio handle tables w = .error stop w'
    | .ok () opened => match StoreHandle.count opened with
      -- A store that cannot be counted is closed, which might end the program.
      | .error stop failed => (∃ w', load audio handle tables w = .error stop w') ∨
          ∃ why t w', StoreHandle.close failed = .error (.panic why) t ∧
            load audio handle tables w = .error (.panic why) w'
      | .ok last counted => match StoreHandle.close (readThrough 1 last counted) with
        | .error stop _ => ∃ w', load audio handle tables w = .error stop w'
        | .ok () closed => ∃ lib, load audio handle tables w = .ok lib closed.2 ∧
            LoadedFrom told tables there last lib ∧ keeps (lib.handle.store, closed.2) ∧
            lib.handle.isOpen closed.2 = false := by
  have hload := load_apply audio tables handle w
  cases hacquire : StoreHandle.acquire (handle, w) with
  | error stop t =>
    rw [hacquire] at hload
    exact ⟨_, hload⟩
  | ok a opened =>
    rw [hacquire] at hload
    dsimp only at hload ⊢
    cases hcount : StoreHandle.count opened with
    | error stop t => exact load_of_count_error audio tables hacquire hcount
    | ok last counted =>
      rw [hcount] at hload
      dsimp only at hload ⊢
      cases hclose : StoreHandle.close (readThrough 1 last counted) with
      | error stop t =>
        obtain ⟨hreads, _⟩ := (StoreHandle.reads_of_acquire h hkeeps hacquire).count h hcount
        obtain ⟨songs, hscan, _⟩ := scan_of_reads audio tables {} last 1 h haudio hreads
        -- The scan has not failed, so that the fault is that of closing.
        rw [hscan] at hload
        dsimp only at hload
        rw [hclose] at hload
        exact ⟨_, hload⟩
      | ok b closed =>
        obtain ⟨lib, hlib, hloaded, hhandle⟩ :=
          exists_loaded audio tables h haudio hkeeps hacquire hcount hclose
        obtain ⟨hkept, hclosed⟩ := kept_of_closed h hkeeps hacquire hcount hclose
        dsimp only
        exact ⟨lib, hlib, hloaded, by rwa [hhandle], by rwa [hhandle]⟩

/-- A song that is not danced to. -/
private def unknown : Song := Song.empty.set .file (.text "a.mp3")

/-- The record of the song under a number. -/
private def unknownRecord (n : Nat) : Bytes :=
  Text.bytes (Record.encode .standard ⟨n, true, .epoch⟩ unknown)

/-- A store whose first slot cannot be read and whose second cannot be decoded. -/
private def spoiltStore : MemoryStore where
  slots := [some (unknownRecord 1), some [], some (unknownRecord 9), some (unknownRecord 4)]
  plan := ⟨[("read 1", .disk .endOfFile)]⟩

private def spoiltHandle : StoreHandle MemoryHandle := ⟨⟨⟩, "db", 1, false⟩

/-- The song of the third slot counts, under the number of that slot. -/
theorem load_finds_spoilt :
    ∃ lib w song, load (fun _ _ => .ok true) spoiltHandle .standard spoiltStore = .ok lib w ∧
      lib.getByPath? "a.mp3" = some song ∧ song.recordNumber? = some 3 ∧
      w.slots = spoiltStore.slots ∧ lib.handle.isOpen w = false := by
  have hsteady : Steady spoiltHandle.path spoiltHandle.version
      (MemoryStore.told spoiltStore.plan spoiltStore.slots)
      (MemoryStore.Holds spoiltStore.plan spoiltStore.slots) :=
    MemoryStore.steady_of_holds _ _ (by decide)
  have hpath : unknown.path? = some "a.mp3" := rfl
  have hdecode := Record.decode_encode .standard ⟨9, true, .epoch⟩ unknown hpath (by decide)
    (by decide)
  obtain ⟨lib, hload, hfrom, hkept, hclosed⟩ :=
    load_finds (fun _ _ => .ok true) .standard hsteady (fun _ _ => rfl) ⟨rfl, rfl⟩
  obtain ⟨i, _, hget⟩ := hfrom.first 3 "a.mp3" _ (by decide)
    ⟨by decide, ⟨⟨_, rfl, hdecode⟩, by decide +kernel, rfl⟩, by
      intro m other hle hlt hoffers
      obtain ⟨data, hdata, hread⟩ := hoffers.record
      -- The first slot cannot be read, and the second holds nothing that can be decoded.
      obtain rfl | rfl : m = 1 ∨ m = 2 := by omega
      · cases hdata
      · obtain rfl := Option.some.inj (Except.ok.inj hdata)
        rw [Record.decode_nil] at hread
        cases hread⟩
  exact ⟨lib, _, _, hload, hget, rfl, hkept.slots, hclosed⟩

/-! ### Store files -/

section

open StoreHandle (Has)

variable [Allocator] {handle : StoreHandle SlotFile} {disk disk' : Disk} {place : Place}
  {h : Header} {slots : Nat → Bytes} {audio : AudioCheck Disk}

/-- A library that was loaded through a handle that had not been opened has what the slots of
the file tell. -/
theorem loadedFrom_of_unopened {lib : Library SlotFile} (hstart : Unopened handle disk)
    (hload : load audio handle tables disk = .ok lib disk') :
    ∃ place header slots, Has place header slots (lib.handle, disk') ∧
      lib.handle.store.open? = none ∧
      LoadedFrom (SlotFile.told header slots) tables (audio disk') header.count lib := by
  obtain ⟨songs, opened, n, counted, scanned, closed, hopen, hcount, hscan, hclose, hscanned,
    rfl⟩ := load_eq_fill hload
  obtain ⟨place, header, slots, hjust⟩ := hstart.startable.opened hstart.slotSize_pos hopen
  obtain ⟨rfl, rfl⟩ := hjust.count hcount
  have hstore := hjust.store
  have hhas : Has place header slots counted :=
    ⟨hjust.version, hjust.serves, hjust.browsable (eq_of_scan hscan).2⟩
  -- The file is not changed from here on, as its header has just been read or written.
  have hquiet : SlotFile.Quiet counted.1.path place header slots counted.2
      (counted.1.store, counted.2) := by
    refine ⟨hhas.serves, rfl, ?_⟩
    intro o ho
    rw [hstore] at ho
    obtain rfl := Option.some.inj ho
    rfl
  have hsteady := SlotFile.steady_of_quiet counted.1.path place header slots counted.2
    hhas.browsable
  have hreads : Reads _ counted := ⟨hquiet, by rw [StoreHandle.isOpen_eq, hstore]; rfl⟩
  -- What the scan has found is what the file tells of its slots.
  obtain ⟨found, hfound, _, hfinds⟩ := scan_of_reads audio tables {} header.count 1 hsteady
    (fun t ht => by rw [ht.same]) hreads
  rw [StoreHandle.readThrough_same] at hfound
  obtain ⟨rfl, rfl⟩ := EStateM.Result.ok.inj (hfound.symm.trans hscan)
  obtain ⟨hkept, _⟩ := hreads.close hsteady hclose
  have hsame : disk' = counted.2 := hkept.same
  obtain ⟨middle, hclosed, hhas', _⟩ := hhas.close
  rw [hclosed] at hclose
  obtain ⟨-, hstate⟩ := EStateM.Result.ok.inj hclose
  rw [hstate] at hhas'
  refine ⟨place, header, slots, hhas', ?_, ?_⟩
  · have hopen? := congrArg (fun t => t.1.store.open?) hstate
    exact hopen?.symm
  · rw [hsame]
    exact loadedFrom_fill hhas.serves.fits.count_le hscanned hfinds

/-- A library is loaded from every store file that is closed, and has the file as it was. -/
theorem exists_loaded_of_closed (audio : AudioCheck Disk) (tables : Tables)
    (hhas : Has place h slots (handle, disk)) (hclosed : handle.store.open? = none) :
    ∃ lib, load audio handle tables disk = .ok lib disk ∧
      LoadedFrom (SlotFile.told h slots) tables (audio disk) h.count lib ∧
      Has place h slots (lib.handle, disk) := by
  have hsteady := SlotFile.steady_of_quiet handle.path place h slots disk hhas.browsable
  rw [hhas.version] at hsteady
  -- There is no header to write: the file is closed.
  have hquiet : SlotFile.Quiet handle.path place h slots disk (handle.store, disk) := by
    refine ⟨hhas.serves, rfl, ?_⟩
    intro o ho
    rw [hclosed] at ho
    cases ho
  obtain ⟨hacquire, hopened⟩ := hhas.acquire hclosed
  have hcount : StoreHandle.count (({ handle with
      store := ⟨h.slotSize, some (SlotFile.fresh place h)⟩ } : StoreHandle SlotFile), disk) =
        .ok h.count (_, disk) := rfl
  obtain ⟨middle, hclose, hhas', _⟩ := hopened.close
  rw [← StoreHandle.readThrough_same 1 h.count (_, disk)] at hclose
  have haudio : ∀ t, SlotFile.Quiet handle.path place h slots disk t → audio t.2 = audio disk :=
    fun t ht => by rw [ht.same]
  obtain ⟨lib, hload, hfrom, hhandle⟩ :=
    exists_loaded audio tables hsteady haudio hquiet hacquire hcount hclose
  obtain ⟨hkept, _⟩ := kept_of_closed hsteady hquiet hacquire hcount hclose
  obtain rfl := hkept.same
  refine ⟨lib, hload, hfrom, ?_⟩
  rw [hhandle]
  exact hhas'

end

end Ballroom.Library
