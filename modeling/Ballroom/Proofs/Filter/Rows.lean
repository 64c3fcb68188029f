import Ballroom.Proofs.Library.Reachable
import Ballroom.Proofs.Text.Bytes
import Ballroom.Service
import Mathlib.Data.List.Basic

/-!
# The rows of a filter

A run of a filter without a playlist lists the songs on record that it accepts, each of
them once, in the order of their keys and, for one key, of their indices
(`rows_of_reachable`).  `orderedEntries` is the view of the rows that carries this: the
rows are its indices (`acceptedRows_eq`), it is a rearrangement of the accepted songs, and
neighbours stand in the order that `Precedes` says.
-/

namespace Ballroom

namespace Library

variable {σ : Type}

/-! ### Songs and their indices -/

/-- An entry is a place of the library with its song. -/
theorem mem_entries {lib : Library σ} {index : Int} {song : Song} :
    (index, song) ∈ lib.entries ↔ ∃ i : Nat, index = i ∧ lib.songs[i]? = some song := by
  simp only [entries, List.mem_map, Prod.mk.injEq, Prod.exists]
  constructor
  · rintro ⟨other, i, hmem, rfl, rfl⟩
    exact ⟨i, rfl, by simpa using List.mem_zipIdx_iff_getElem?.1 hmem⟩
  · rintro ⟨i, rfl, hsong⟩
    exact ⟨song, i, List.mem_zipIdx_iff_getElem?.2 (by simpa using hsong), rfl, rfl⟩

/-- The songs on record are listed by rising indices. -/
theorem pairwise_entries (lib : Library σ) : lib.entries.Pairwise fun a b => a.1 < b.1 := by
  have hplaces : (lib.songs.toList.zipIdx.map Prod.snd).Pairwise (· < ·) := by
    rw [List.zipIdx_map_snd]
    exact List.pairwise_lt_range'
  rw [entries, List.pairwise_map]
  refine (List.pairwise_map.1 hplaces).imp ?_
  intro a b hlt
  exact Int.ofNat_lt.2 hlt

/-- Entries are counted by their songs. -/
theorem countP_entries (lib : Library σ) (p : Song → Bool) :
    lib.entries.countP (fun entry => p entry.2) = lib.songs.toList.countP p := by
  have hsongs : lib.entries.map Prod.snd = lib.songs.toList := by
    rw [entries, List.map_map]
    exact List.zipIdx_map_fst 0 lib.songs.toList
  rw [← hsongs, List.countP_map]
  rfl

/-- The song on record at a place is found by its index. -/
theorem getByIndex?_natCast {lib : Library σ} {i : Nat} {song : Song}
    (hsong : lib.songs[i]? = some song) : lib.getByIndex? i = some song := by
  obtain ⟨hlt, _⟩ := Array.getElem?_eq_some_iff.1 hsong
  have hnonneg : ¬(i : Int) < 0 := by omega
  simp only [getByIndex?, if_neg hnonneg, Int.toNat_natCast, if_pos hlt, hsong]

end Library

namespace SongFilter

open Library (hasDance)

variable {σ : Type}

/-! ### The order of the rows -/

/-- Which of two songs stands first: the one with the lesser key or, for one key, with the
lesser index.  Without tags to sort by only the index counts. -/
def Precedes (f : SongFilter) (a b : Int × Song) : Prop :=
  if f.sort = [] then a.1 < b.1
  else Text.compareBytes (f.sortKey a.2) (f.sortKey b.2) = .lt ∨
    f.sortKey a.2 = f.sortKey b.2 ∧ a.1 < b.1

/-- A song with its index as it is sorted. -/
def hit (f : SongFilter) (entry : Int × Song) : Hit := ⟨f.sortKey entry.2, entry.1⟩

/-- The accepted songs with their indices, in the order of the library. -/
def acceptedEntries (f : SongFilter) (lib : Library σ) : List (Int × Song) :=
  lib.entries.filter fun entry => f.accepts entry.2

/-- The accepted songs with their indices, in the order of the rows. -/
def orderedEntries (f : SongFilter) (lib : Library σ) : List (Int × Song) :=
  if f.sort.isEmpty then f.acceptedEntries lib
  else (f.acceptedEntries lib).mergeSort fun a b => Hit.le (f.hit a) (f.hit b)

/-- A song with a lesser key, or with the same key and no greater index, is in order. -/
theorem Hit.le_iff {a b : Hit} :
    Hit.le a b ↔ Text.compareBytes a.key b.key = .lt ∨ a.key = b.key ∧ a.index ≤ b.index := by
  rw [Hit.le, Ordering.isLE_then_iff_or, Text.compareBytes_eq_iff, Std.isLE_compare]

/-- The order of the hits is transitive. -/
theorem Hit.le_trans {a b c : Hit} (hab : Hit.le a b) (hbc : Hit.le b c) : Hit.le a c := by
  rw [Hit.le_iff] at *
  -- The keys decide, unless all three are the same.
  rcases hab with hab | ⟨hab, hindexab⟩
  · rcases hbc with hbc | ⟨hbc, _⟩
    · exact .inl (Text.compareBytes_lt_trans hab hbc)
    · exact .inl (hbc ▸ hab)
  · rw [hab]
    rcases hbc with hbc | ⟨hbc, hindexbc⟩
    · exact .inl hbc
    · exact .inr ⟨hbc, hindexab.trans hindexbc⟩

/-- Two hits are always in one order or the other. -/
theorem Hit.le_total (a b : Hit) : Hit.le a b || Hit.le b a := by
  rw [Bool.or_eq_true, Hit.le_iff, Hit.le_iff]
  by_cases hkey : a.key = b.key
  · rcases Int.le_total a.index b.index with hle | hle
    · exact .inl (.inr ⟨hkey, hle⟩)
    · exact .inr (.inr ⟨hkey.symm, hle⟩)
  · rcases Text.compareBytes_isLE_total a.key b.key with hle | hle
    · exact .inl (.inl (Text.compareBytes_eq_lt hle hkey))
    · exact .inr (.inl (Text.compareBytes_eq_lt hle (Ne.symm hkey)))

/-! ### The entries behind the rows -/

/-- An entry is accepted if its song is. -/
theorem mem_acceptedEntries {f : SongFilter} {lib : Library σ} {index : Int} {song : Song} :
    (index, song) ∈ f.acceptedEntries lib ↔
      ∃ i : Nat, index = i ∧ lib.songs[i]? = some song ∧ f.accepts song := by
  rw [acceptedEntries, List.mem_filter, Library.mem_entries]
  constructor
  · rintro ⟨⟨i, hindex, hsong⟩, haccepts⟩
    exact ⟨i, hindex, hsong, haccepts⟩
  · rintro ⟨i, hindex, hsong, haccepts⟩
    exact ⟨⟨i, hindex, hsong⟩, haccepts⟩

/-- The accepted songs are listed by rising indices. -/
theorem pairwise_acceptedEntries (f : SongFilter) (lib : Library σ) :
    (f.acceptedEntries lib).Pairwise fun a b => a.1 < b.1 :=
  (Library.pairwise_entries lib).sublist List.filter_sublist

/-- The rows are the indices of the entries that are in the order of the rows. -/
theorem acceptedRows_eq (f : SongFilter) (lib : Library σ) :
    f.acceptedRows lib = (f.orderedEntries lib).map Prod.fst := by
  unfold acceptedRows orderedEntries
  dsimp only
  split
  · rfl
  · -- Sorting the hits is sorting the entries by their hits.
    have hsort := List.map_mergeSort (r := fun a b => Hit.le (f.hit a) (f.hit b)) (s := Hit.le)
      (f := f.hit) (l := f.acceptedEntries lib) (fun _ _ _ _ => rfl)
    rw [show ((lib.entries.filter fun entry => f.accepts entry.2).map fun entry =>
      (⟨f.sortKey entry.2, entry.1⟩ : Hit)) = (f.acceptedEntries lib).map f.hit from rfl, ← hsort,
      List.map_map]
    rfl

/-- The entries in the order of the rows are the accepted ones. -/
theorem orderedEntries_perm (f : SongFilter) (lib : Library σ) :
    (f.orderedEntries lib).Perm (f.acceptedEntries lib) := by
  unfold orderedEntries
  split
  · exact List.Perm.refl _
  · exact List.mergeSort_perm _ _

/-- The entries in the order of the rows are the places of the songs that are accepted. -/
theorem mem_orderedEntries {f : SongFilter} {lib : Library σ} {index : Int} {song : Song} :
    (index, song) ∈ f.orderedEntries lib ↔
      ∃ i : Nat, index = i ∧ lib.songs[i]? = some song ∧ f.accepts song :=
  (f.orderedEntries_perm lib).mem_iff.trans mem_acceptedEntries

/-- No two entries have the same index. -/
theorem pairwise_index_orderedEntries (f : SongFilter) (lib : Library σ) :
    (f.orderedEntries lib).Pairwise fun a b => a.1 ≠ b.1 :=
  (f.orderedEntries_perm lib).symm.pairwise
    ((f.pairwise_acceptedEntries lib).imp fun hlt => Int.ne_of_lt hlt) fun hne => Ne.symm hne

/-- The entries stand in their order. -/
theorem pairwise_orderedEntries (f : SongFilter) (lib : Library σ) :
    (f.orderedEntries lib).Pairwise f.Precedes := by
  by_cases hsort : f.sort = []
  · -- Unsorted entries are in the order of the library.
    have hentries : f.orderedEntries lib = f.acceptedEntries lib := by simp [orderedEntries, hsort]
    rw [hentries]
    refine (f.pairwise_acceptedEntries lib).imp ?_
    intro a b hlt
    rwa [Precedes, if_pos hsort]
  · have hentries : f.orderedEntries lib =
        (f.acceptedEntries lib).mergeSort fun a b => Hit.le (f.hit a) (f.hit b) := by
      simp [orderedEntries, hsort]
    have hsorted : (f.orderedEntries lib).Pairwise fun a b => Hit.le (f.hit a) (f.hit b) := by
      rw [hentries]
      apply List.pairwise_mergeSort
      · exact fun _ _ _ hab hbc => Hit.le_trans hab hbc
      · exact fun a b => Hit.le_total (f.hit a) (f.hit b)
    refine (hsorted.and (f.pairwise_index_orderedEntries lib)).imp ?_
    rintro a b ⟨hle, hne⟩
    -- Two hits of one key have different indices, so that one index is the lower.
    rw [Precedes, if_neg hsort]
    rcases Hit.le_iff.1 hle with hlt | ⟨hkey, hindex⟩
    · exact .inl hlt
    · exact .inr ⟨hkey, by have : a.1 ≤ b.1 := hindex; omega⟩

/-! ### What a run shows -/

/-- Whether the song of an index is of the dance at place `d` of the table. -/
def isOfDance (lib : Library σ) (d : Nat) (index : Int) : Bool :=
  (lib.getByIndex? index).any (hasDance d)

/-- Counts one more row. -/
private def countRow (lib : Library σ) (counts : Array Nat) (index : Int) : Array Nat :=
  match (lib.getByIndex? index).bind Library.dancePlace? with
  | some d => counts.modify d (· + 1)
  | none => counts

/-- A row counts for the dance of its song and for no other. -/
private theorem getElem?_countRow (lib : Library σ) (counts : Array Nat) (index : Int) (d : Nat) :
    (countRow lib counts index)[d]? =
      (counts[d]?).map fun n => n + if isOfDance lib d index then 1 else 0 := by
  have hdance : isOfDance lib d index =
      decide ((lib.getByIndex? index).bind Library.dancePlace? = some d) := by
    cases hsong : lib.getByIndex? index with
    | none => simp [isOfDance, hsong]
    | some song => simp [isOfDance, hsong, Library.dancePlace?_eq_some_iff]
  unfold countRow
  rw [hdance]
  cases (lib.getByIndex? index).bind Library.dancePlace? with
  | none => simp
  | some e =>
    by_cases hed : e = d
    · simp [Array.getElem?_modify, hed]
    · simp [Array.getElem?_modify, hed]

/-- Rows count for a dance as often as they are of it. -/
private theorem getElem?_foldl_countRow (lib : Library σ) {rows : List Int} {counts : Array Nat}
    {d n : Nat} (hn : counts[d]? = some n) :
    (rows.foldl (countRow lib) counts)[d]? = some (n + rows.countP (isOfDance lib d)) := by
  -- On the rows, from any count that the dance has so far.
  induction rows generalizing counts n with
  | nil => simpa using hn
  | cons index rest ih =>
    have hnext : (countRow lib counts index)[d]? =
        some (n + if isOfDance lib d index then 1 else 0) := by
      rw [getElem?_countRow, hn, Option.map_some]
    rw [List.foldl_cons, ih hnext, List.countP_cons]
    congr 1
    omega

/-- The tally counts the rows of each dance of the table. -/
theorem getElem?_tally (f : SongFilter) (lib : Library σ) (rows : List Int) {d : Nat}
    (hd : d < f.tables.size .dance) :
    (f.tally lib rows)[d]? = some (rows.countP (isOfDance lib d)) := by
  have hzero : (Array.replicate (f.tables.size .dance) 0)[d]? = some 0 := by
    rw [Array.getElem?_replicate, if_pos hd]
  have htally : f.tally lib rows =
      rows.foldl (countRow lib) (Array.replicate (f.tables.size .dance) 0) := rfl
  rw [htally, getElem?_foldl_countRow lib hzero, Nat.zero_add]

private theorem size_foldl_countRow (lib : Library σ) (rows : List Int) (counts : Array Nat) :
    (rows.foldl (countRow lib) counts).size = counts.size := by
  induction rows generalizing counts with
  | nil => rfl
  | cons index rest ih =>
    rw [List.foldl_cons, ih, countRow]
    split
    · exact Array.size_modify
    · rfl

/-- A tally has a count for each dance of the table, and no others. -/
theorem size_tally (f : SongFilter) (lib : Library σ) (rows : List Int) :
    (f.tally lib rows).size = f.tables.size .dance :=
  (size_foldl_countRow lib rows _).trans Array.size_replicate

/-- Looking up every place of a list finds each of its elements. -/
private theorem map_range_getElem? {α : Type} (l : List α) :
    (List.range l.length).map (fun i => l[i]?) = l.map some := by
  apply List.ext_getElem
  · simp
  · simp

/-- Without a playlist a filter has a row for each entry. -/
private theorem count_process {f : SongFilter} (hlist : f.songList? = none) (lib : Library σ) :
    (f.process lib).count = (f.orderedEntries lib).length := by
  simp only [count, process, rowsFor, hlist, acceptedRows_eq, if_true, List.length_map]

/-- Without a playlist a row is the index of its entry. -/
private theorem row?_process {f : SongFilter} (hlist : f.songList? = none) (lib : Library σ)
    (position : Nat) :
    (f.process lib).row? position = ((f.orderedEntries lib)[position]?).map Prod.fst := by
  simp only [row?, process, rowsFor, hlist, acceptedRows_eq, if_true, List.getElem?_map]

/-- The entry of a row has the song that the index of the row leads to. -/
private theorem exists_entry_of_row? {f : SongFilter} (hlist : f.songList? = none)
    {lib : Library σ} {position : Nat} {index : Int}
    (hrow : (f.process lib).row? position = some index) :
    ∃ song, (f.orderedEntries lib)[position]? = some (index, song) ∧
      lib.getByIndex? index = some song := by
  rw [row?_process hlist, Option.map_eq_some_iff] at hrow
  obtain ⟨⟨_, song⟩, hat, rfl⟩ := hrow
  obtain ⟨i, rfl, hsong, _⟩ := mem_orderedEntries.1 (List.mem_of_getElem? hat)
  exact ⟨song, hat, Library.getByIndex?_natCast hsong⟩

/-- The rows that a query pairs with their songs are the entries behind the rows. -/
theorem snd_query {τ : Type} (s : Service σ τ) {f : SongFilter} (hlist : f.songList? = none) :
    (s.query f).2 = f.orderedEntries s.library := by
  -- The query asks for one row after the other, and for the song of each.
  have hquery : (s.query f).2 = (List.range (f.process s.library).count).filterMap fun position =>
      ((f.process s.library).row? position).bind fun index =>
        (s.library.getByIndex? index).map fun song => (index, song) := rfl
  -- No row is dropped, because its index leads to the song of its entry.
  have hentry : ∀ position, (((f.process s.library).row? position).bind fun index =>
      (s.library.getByIndex? index).map fun song => (index, song)) =
        (f.orderedEntries s.library)[position]? := by
    intro position
    cases hrow : (f.process s.library).row? position with
    | none =>
      rw [row?_process hlist, Option.map_eq_none_iff] at hrow
      rw [hrow, Option.bind_none]
    | some index =>
      obtain ⟨song, hat, hsong⟩ := exists_entry_of_row? hlist hrow
      rw [hat, Option.bind_some, hsong, Option.map_some]
  have hplaces := congrArg (List.filterMap id) (map_range_getElem? (f.orderedEntries s.library))
  rw [List.filterMap_map, List.filterMap_map] at hplaces
  rw [hquery, funext hentry, count_process hlist]
  exact hplaces.trans List.filterMap_some

/-- The rows of a filter that has run over a library, and the songs that a query answers. -/
structure Lists (f : SongFilter) (lib : Library σ) (run : SongFilter)
    (answer : List (Int × Song)) : Prop where
  count : run.count = lib.songs.toList.countP f.accepts
  row_isSome : ∀ position, (run.row? position).isSome ↔ position < run.count
  /-- The rows are the indices of the songs on record that are accepted, and no others. -/
  accepted : ∀ index, (∃ position, run.row? position = some index) ↔
    ∃ song ∈ lib.songs, song.index? = some index ∧ f.accepts song
  once : ∀ p q index, run.row? p = some index → run.row? q = some index → p = q
  ordered : ∀ p q i j a b, p < q → run.row? p = some i → run.row? q = some j →
    lib.getByIndex? i = some a → lib.getByIndex? j = some b → f.Precedes (i, a) (j, b)
  danceCounts : ∀ d < f.tables.size .dance, run.danceCounts[d]? =
    some ((List.range run.count).countP fun position =>
      (run.row? position).any (isOfDance lib d))
  answer_length : answer.length = run.count
  /-- Every row is answered with its song. -/
  answer : ∀ position index, run.row? position = some index →
    ∃ song, lib.getByIndex? index = some song ∧ answer[position]? = some (index, song)

/-- Counting the places of a list is counting its elements. -/
private theorem countP_range_getElem? {α : Type} (l : List α) (p : α → Bool) :
    (List.range l.length).countP (fun i => (l[i]?).any p) = l.countP p := by
  have hcounted := congrArg (List.countP (Option.any p)) (map_range_getElem? l)
  rwa [List.countP_map, List.countP_map] at hcounted

/-- A library whose songs carry their indices is listed by the entries behind the rows. -/
theorem lists_of_consistent {lib : Library σ} (h : Library.Consistent lib) {f : SongFilter}
    (hlist : f.songList? = none) :
    Lists f lib (f.process lib) (f.orderedEntries lib) := by
  constructor
  case count =>
    rw [count_process hlist, (f.orderedEntries_perm lib).length_eq, acceptedEntries,
      ← List.countP_eq_length_filter, Library.countP_entries]
  case row_isSome =>
    intro position
    rw [row?_process hlist, count_process hlist, Option.isSome_map]
    simp
  case accepted =>
    intro index
    constructor
    · rintro ⟨position, hrow⟩
      obtain ⟨song, hat, _⟩ := exists_entry_of_row? hlist hrow
      obtain ⟨i, rfl, hi, haccepts⟩ := mem_orderedEntries.1 (List.mem_of_getElem? hat)
      exact ⟨song, Array.mem_of_getElem? hi, (h.onRecord i song hi).index, haccepts⟩
    · rintro ⟨song, hmem, hindex, haccepts⟩
      -- The index that a song carries is its place.
      obtain ⟨i, hi⟩ := Array.getElem?_of_mem hmem
      obtain rfl := Option.some.inj (hindex.symm.trans (h.onRecord i song hi).index)
      obtain ⟨position, hat⟩ :=
        List.getElem?_of_mem (mem_orderedEntries.2 ⟨i, rfl, hi, haccepts⟩)
      exact ⟨position, by rw [row?_process hlist, hat, Option.map_some]⟩
  case once =>
    intro p q index hp hq
    obtain ⟨_, hatp, _⟩ := exists_entry_of_row? hlist hp
    obtain ⟨_, hatq, _⟩ := exists_entry_of_row? hlist hq
    exact Library.eq_of_pairwise_ne (f.pairwise_index_orderedEntries lib) hatp hatq rfl
  case ordered =>
    intro p q i j a b hlt hp hq ha hb
    obtain ⟨_, hatp, ha'⟩ := exists_entry_of_row? hlist hp
    obtain ⟨_, hatq, hb'⟩ := exists_entry_of_row? hlist hq
    obtain rfl := Option.some.inj (ha.symm.trans ha')
    obtain rfl := Option.some.inj (hb.symm.trans hb')
    exact Library.rel_of_pairwise (f.pairwise_orderedEntries lib) hlt hatp hatq
  case danceCounts =>
    intro d hd
    -- The tally runs over the rows, and so does the count.
    have hcounts : (f.process lib).danceCounts =
        f.tally lib ((f.orderedEntries lib).map Prod.fst) := by
      simp only [process, rowsFor, hlist, acceptedRows_eq]
    have hplaces := countP_range_getElem? ((f.orderedEntries lib).map Prod.fst) (isOfDance lib d)
    rw [List.length_map, ← count_process hlist] at hplaces
    rw [hcounts, getElem?_tally f lib _ hd, ← hplaces]
    simp only [row?_process hlist, List.getElem?_map]
  case answer_length => exact (count_process hlist lib).symm
  case answer =>
    intro position index hrow
    obtain ⟨song, hat, hget⟩ := exists_entry_of_row? hlist hrow
    exact ⟨song, hget, hat⟩

/-- Over a library in any state that it reaches, a filter without a playlist lists each
accepted song on record once and in order, and a query answers all of these songs. -/
theorem rows_of_reachable {τ ω : Type} [RecordStore σ ω] {audio : Library.AudioCheck ω}
    {tables : Tables} {others : ω → ω → Prop} {w : ω} {s : Service σ τ}
    (h : Library.Reachable audio tables Library.CountsWithin others s.library w)
    {f : SongFilter} (hlist : f.songList? = none) :
    Lists f s.library (f.process s.library) (s.query f).2 := by
  rw [snd_query s hlist]
  exact lists_of_consistent h.consistent hlist

/-- A filter that accepts every song and sorts by title. -/
private def byTitle : SongFilter := { tables := .standard, sort := [.title] }

/-- Of two songs the one that is last by path is first by title. -/
theorem rows_of_reachable_dances :
    ∃ lib w answer,
      Library.load (fun _ _ => .ok true) Library.danceHandle .standard Library.danceStore =
        .ok lib w ∧
      Lists byTitle lib (byTitle.process lib) answer ∧
      (byTitle.process lib).count = 2 ∧ (byTitle.process lib).row? 0 = some 1 := by
  obtain ⟨lib, calls, hload, _, _, hsongs⟩ := Library.load_danceStore
  have hreachable : Library.Reachable (fun _ _ => .ok true) .standard Library.CountsWithin
      (fun _ _ => True) lib { Library.danceStore with calls } :=
    .load (Library.countsWithin_memory (by decide)) hload
  let s : Service MemoryHandle Unit := ⟨lib, (), .default, none⟩
  have hlists : Lists byTitle lib (byTitle.process lib) (s.query byTitle).2 :=
    rows_of_reachable (s := s) hreachable rfl
  have hall := Library.songs_of_dances hsongs
  have hcount : (byTitle.process lib).count = 2 := by
    rw [hlists.count, hall]
    decide +kernel
  refine ⟨lib, _, _, hload, hlists, hcount, ?_⟩
  -- Both songs are accepted, so that each has one of the two rows.
  have hrow : ∀ index song, song ∈ lib.songs → song.index? = some index → byTitle.accepts song →
      ∃ position < 2, (byTitle.process lib).row? position = some index := by
    intro index song hmem hindex haccepts
    obtain ⟨position, hposition⟩ := (hlists.accepted index).2 ⟨song, hmem, hindex, haccepts⟩
    have hlt := (hlists.row_isSome position).1 (by rw [hposition, Option.isSome_some])
    exact ⟨position, hcount ▸ hlt, hposition⟩
  obtain ⟨p, hp, hrowp⟩ := hrow 0 ((Library.asRead 1 Library.moonRiver).withIndex 0)
    (by simp [hall]) rfl (by decide +kernel)
  obtain ⟨q, hq, hrowq⟩ := hrow 1 ((Library.asRead 2 Library.libertango).withIndex 1)
    (by simp [hall]) rfl (by decide +kernel)
  rcases Nat.lt_trichotomy p q with hlt | rfl | hlt
  · -- Sorted by path, the rows would not be in the order of the titles.
    have hfirst := Library.getByIndex?_natCast (show lib.songs[0]? = some _ from hsongs 0)
    have hsecond := Library.getByIndex?_natCast (show lib.songs[1]? = some _ from hsongs 1)
    have hprecedes := hlists.ordered p q 0 1 _ _ hlt hrowp hrowq hfirst hsecond
    rw [Precedes, if_neg (by decide)] at hprecedes
    exact absurd hprecedes (by decide +kernel)
  · cases hrowp.symm.trans hrowq
  · obtain rfl : q = 0 := by omega
    exact hrowq

end SongFilter

end Ballroom
