import Ballroom.Proofs.Library.Consistent
import Ballroom.Proofs.Store.Memory

/-!
# Every reachable library is consistent

A library that was loaded from any store that counts with 32 bits is consistent, and it
stays so over every sequence of requests.
-/

namespace Ballroom.Library

open StoreHandle (request_apply)
open MemoryStore (call_apply)

section

variable {σ ω : Type} [RecordStore σ ω] {audio : AudioCheck ω} {tables : Tables}
  {others : ω → ω → Prop}

/-- A steady store counts with 32 bits. -/
theorem countsWithin_of_steady {handle : StoreHandle σ} {w : ω}
    {told : Nat → Except HostFault (Option Bytes)} {keeps : σ × ω → Prop}
    (h : Steady handle.path handle.version told keeps) (hkeeps : keeps (handle.store, w)) :
    CountsWithin handle w := by
  intro opened n counted hopen hcount
  have hreads := StoreHandle.reads_of_acquire h hkeeps hopen
  exact (hreads.count h hcount).2

/-- A library that was just loaded is consistent. -/
theorem consistent_load {handle : StoreHandle σ} {lib : Library σ} {w w' : ω}
    (hcount : CountsWithin handle w) (hload : load audio handle tables w = .ok lib w') :
    Consistent lib := by
  obtain ⟨songs, opened, n, counted, _, closed, hopen, hn, _, _, hscanned, rfl⟩ :=
    load_eq_fill hload
  exact consistent_fill hscanned (hcount opened n counted hopen hn)

/-- The parts of a library belong together in every state that it reaches. -/
theorem Reachable.consistent {lib : Library σ} {w : ω}
    (h : Reachable audio tables CountsWithin others lib w) : Consistent lib := by
  induction h with
  | load hcount hload => exact consistent_load hcount hload
  | request request _ ih => exact ih.perform request _
  | others _ _ ih => exact ih

/-- In every state that a library reaches its parts belong together, and looking a song up
by its path and by its index gives the same song. -/
theorem consistent_of_reachable {lib : Library σ} {w : ω}
    (h : Reachable audio tables CountsWithin others lib w) :
    Consistent lib ∧
      ∀ (path : String) (i : Nat), lib.byPath[path]? = some i →
        i < lib.count ∧ lib.getByPath? path = lib.getByIndex? i := by
  have hconsistent := h.consistent
  refine ⟨hconsistent, ?_⟩
  intro path i hi
  obtain ⟨song, hsong, _⟩ := (hconsistent.byPath path i).1 hi
  obtain ⟨hlt, _⟩ := Array.getElem?_eq_some_iff.1 hsong
  have hnonneg : ¬(i : Int) < 0 := by omega
  simp [count, getByPath?, getByIndex?, hi, hlt, hnonneg]

end

/-! ### Libraries of a store in memory -/

/-- A store in memory counts its slots. -/
theorem countsWithin_memory {handle : StoreHandle MemoryHandle} {m : MemoryStore}
    (h : m.slots.length ≤ maxRecordNumber) : CountsWithin handle m :=
  countsWithin_of_steady (MemoryStore.steady_of_holds handle.path handle.version h) ⟨rfl, rfl⟩

/-- A song of the first dance. -/
private def waltz : Song := (Song.empty.set .file (.text "a.mp3")).set .dance (.number 0)

/-- A store whose first slot is empty. -/
private def waltzStore : MemoryStore where
  slots := [none, some (Text.bytes (Record.encode .standard ⟨1, true, .epoch⟩ waltz))]

/-- A closed handle on a store in memory. -/
private def memoryHandle : StoreHandle MemoryHandle := ⟨⟨⟩, "db", 1, false⟩

/-- A store with one waltz is loaded. -/
private theorem load_waltzStore :
    ∃ lib w, load (fun _ _ => .ok true) memoryHandle .standard waltzStore = .ok lib w ∧
      lib.songs.size = 1 := by
  have hpath : waltz.path? = some "a.mp3" := rfl
  have hdecode := Record.decode_encode .standard ⟨1, true, .epoch⟩ waltz hpath (by decide)
    (by decide)
  have hfault : ∀ call, FaultPlan.fault? {} call = none := fun _ => rfl
  simp [-bind_pure_comp, memoryHandle, waltzStore, hfault, load, scanStore, countOrClose, scan,
    readSlot, isThere, hdecode, Except.toOption, fill, StoreHandle.acquire, StoreHandle.isOpen,
    StoreHandle.count, StoreHandle.onlyOpen, StoreHandle.read, StoreHandle.close,
    StoreHandle.whenOpen, request_apply, call_apply, RecordStore.isOpen, RecordStore.openAt,
    RecordStore.count, RecordStore.read, RecordStore.close, MemoryStore.slot?]

/-- A library of one song, after the song has been written under its path with no dance. -/
theorem consistent_of_reachable_waltz :
    ∃ lib w, load (fun _ _ => .ok true) memoryHandle .standard waltzStore = .ok lib w ∧
      lib.songs.size = 1 ∧
      Consistent ((Request.write (waltz.remove .dance) .epoch).perform (lib, w)).1 := by
  obtain ⟨lib, w, hload, hsize⟩ := load_waltzStore
  have hcount : CountsWithin memoryHandle waltzStore := countsWithin_memory (by decide)
  have hreachable : Reachable (fun _ _ => .ok true) .standard CountsWithin (fun _ _ => True)
      lib w := .load hcount hload
  exact ⟨lib, w, hload, hsize, (consistent_of_reachable (.request _ hreachable)).1⟩

/-! ### A library of two songs -/

/-- A waltz. -/
def moonRiver : Song :=
  ((Song.empty.set .file (.text "a.mp3")).set .title (.text "Moon River")).set .dance (.number 0)

/-- A tango. -/
def libertango : Song :=
  ((Song.empty.set .file (.text "b.mp3")).set .title (.text "Libertango")).set .dance (.number 1)

/-- A song as the record with a number holds it. -/
def asRead (n : Nat) (song : Song) : Song :=
  (Record.recorded .standard ⟨n, true, .epoch⟩ song).setRecordNumber n

/-- A store with the records of the two songs. -/
def danceStore : MemoryStore where
  slots := [some (Text.bytes (Record.encode .standard ⟨1, true, .epoch⟩ moonRiver)),
    some (Text.bytes (Record.encode .standard ⟨2, true, .epoch⟩ libertango))]

/-- A closed handle on a store in memory. -/
def danceHandle : StoreHandle MemoryHandle := ⟨⟨⟩, "db", 1, false⟩

/-- A library is loaded from two records of songs of different paths. -/
private theorem load_pair {first second : Song} {data data' : Bytes} {path path' : String}
    (hfirst : Record.decode .standard data = .ok first) (hpath : first.path? = some path)
    (hsecond : Record.decode .standard data' = .ok second) (hpath' : second.path? = some path')
    (hne : path ≠ path') :
    ∃ calls, load (fun _ _ => .ok true) danceHandle .standard
        { slots := [some data, some data'] } =
      .ok (fill (empty danceHandle .standard)
        [first.setRecordNumber 1, second.setRecordNumber 2])
          { slots := [some data, some data'], calls } := by
  have hfault : ∀ call, FaultPlan.fault? {} call = none := fun _ => rfl
  refine ⟨["close", "read 2", "read 1", "count", "open db 1"], ?_⟩
  simp [-bind_pure_comp, danceHandle, hfault, load, scanStore, countOrClose, scan, readSlot,
    isThere, hfirst, hpath, hsecond, hpath', hne, Except.toOption, StoreHandle.acquire,
    StoreHandle.isOpen, StoreHandle.count, StoreHandle.onlyOpen, StoreHandle.read,
    StoreHandle.close, StoreHandle.whenOpen, request_apply, call_apply, RecordStore.isOpen,
    RecordStore.openAt, RecordStore.count, RecordStore.read, RecordStore.close,
    MemoryStore.slot?]
  -- What is left are the texts of the calls.
  exact ⟨rfl, rfl, rfl⟩

/-- The two songs are on record in the order of their paths. -/
theorem load_danceStore :
    ∃ lib calls, load (fun _ _ => .ok true) danceHandle .standard danceStore =
        .ok lib { danceStore with calls } ∧
      lib.tables = .standard ∧ lib.handle = danceHandle ∧
      ∀ i : Nat, lib.songs[i]? =
        ([asRead 1 moonRiver, asRead 2 libertango][i]?).map fun song => song.withIndex i := by
  have hfirst := Record.decode_encode .standard ⟨1, true, .epoch⟩ moonRiver
    (show _ = some "a.mp3" from rfl) (by decide) (by decide)
  have hsecond := Record.decode_encode .standard ⟨2, true, .epoch⟩ libertango
    (show _ = some "b.mp3" from rfl) (by decide) (by decide)
  have hpath : (Record.recorded .standard ⟨1, true, .epoch⟩ moonRiver).path? = some "a.mp3" := by
    decide +kernel
  have hpath' : (Record.recorded .standard ⟨2, true, .epoch⟩ libertango).path? =
      some "b.mp3" := by
    decide +kernel
  -- The slots are in the order of the paths already.
  have hsorted : [asRead 1 moonRiver, asRead 2 libertango].mergeSort pathLE =
      [asRead 1 moonRiver, asRead 2 libertango] :=
    List.mergeSort_of_pairwise (by decide +kernel)
  obtain ⟨calls, hload⟩ := load_pair hfirst hpath hsecond hpath' (by decide)
  refine ⟨_, calls, hload, rfl, rfl, ?_⟩
  intro i
  rw [← hsorted]
  exact getElem?_songs_fill _ _ i

/-- Nothing but the two songs is on record. -/
theorem songs_of_dances {lib : Library MemoryHandle} (hsongs : ∀ i : Nat, lib.songs[i]? =
      ([asRead 1 moonRiver, asRead 2 libertango][i]?).map fun song => song.withIndex i) :
    lib.songs = #[(asRead 1 moonRiver).withIndex 0, (asRead 2 libertango).withIndex 1] := by
  apply Array.ext_getElem?
  intro i
  rw [hsongs]
  match i with
  | 0 => rfl
  | 1 => rfl
  | i + 2 => rfl

end Ballroom.Library
