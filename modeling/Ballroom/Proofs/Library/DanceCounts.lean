import Ballroom.Library.Basic

/-!
# Counting songs by dance

What `countIn` and `countOut` do to the count of one dance.  Counts are kept to 32 bits,
so that counting in is exact only as long as there is room.
-/

namespace Ballroom.Library

/-- Whether the dance of a song is the one at place `d` of the table. -/
def hasDance (d : Nat) (song : Song) : Bool :=
  (song.number? .dance).map Int64.toInt = some (d : Int)

/-- A song has its place in the table if and only if it is of the dance at that place. -/
theorem dancePlace?_eq_some_iff {song : Song} {d : Nat} :
    dancePlace? song = some d ↔ hasDance d song := by
  unfold dancePlace? hasDance place?
  cases song.number? .dance with
  | none => simp
  | some n =>
    simp only [Option.bind_some, Option.map_some, Option.some.injEq, decide_eq_true_eq]
    -- Numbers below zero name no place, and no dance either.
    split
    · simp only [Option.some.injEq]
      omega
    · simp only [reduceCtorEq, false_iff]
      omega

@[simp] theorem size_countIn (counts : Array Nat) (song : Song) :
    (countIn counts song).size = counts.size := by
  unfold countIn
  split <;> simp

@[simp] theorem size_countOut (counts : Array Nat) (song : Song) :
    (countOut counts song).size = counts.size := by
  unfold countOut
  split <;> simp

/-- Changing the count of the dance of a song leaves the other counts alone. -/
private theorem getElem?_modify_dance (counts : Array Nat) (song : Song) (f : Nat → Nat)
    (d : Nat) :
    (match dancePlace? song with
      | some e => counts.modify e f
      | none => counts)[d]? =
      (counts[d]?).map fun n => if hasDance d song then f n else n := by
  cases hplace : dancePlace? song with
  | none =>
    have h : hasDance d song = false := by
      rw [← Bool.not_eq_true, ← dancePlace?_eq_some_iff, hplace]
      simp
    simp [h]
  | some e =>
    have h : hasDance d song = decide (e = d) := by
      rw [Bool.eq_iff_iff, ← dancePlace?_eq_some_iff, hplace]
      simp
    -- One count is changed: that of the place of the song.
    by_cases hed : e = d
    · simp [Array.getElem?_modify, h, hed]
    · simp [Array.getElem?_modify, h, hed]

/-- A song counts for its dance and no other, up to the largest number of 32 bits. -/
theorem getElem?_countIn (counts : Array Nat) (song : Song) (d : Nat) :
    (countIn counts song)[d]? =
      (counts[d]?).map fun n => if hasDance d song then min (n + 1) Number.maxUInt32 else n :=
  getElem?_modify_dance counts song (fun n => min (n + 1) Number.maxUInt32) d

/-- A song that is counted out is taken off its dance and no other. -/
theorem getElem?_countOut (counts : Array Nat) (song : Song) (d : Nat) :
    (countOut counts song)[d]? =
      (counts[d]?).map fun n => if hasDance d song then n - 1 else n :=
  getElem?_modify_dance counts song (· - 1) d

@[simp] theorem size_foldl_countIn (songs : List Song) (counts : Array Nat) :
    (songs.foldl countIn counts).size = counts.size := by
  induction songs generalizing counts with
  | nil => rfl
  | cons song rest ih => rw [List.foldl_cons, ih, size_countIn]

/-- Counting songs in one after the other is exact while there is room. -/
theorem getElem?_foldl_countIn {songs : List Song} {counts : Array Nat} {d n : Nat}
    (hn : counts[d]? = some n) (hroom : n + songs.countP (hasDance d) ≤ Number.maxUInt32) :
    (songs.foldl countIn counts)[d]? = some (n + songs.countP (hasDance d)) := by
  -- On the songs, from any count that leaves room for them.
  induction songs generalizing counts n with
  | nil => simpa using hn
  | cons song rest ih =>
    rw [List.countP_cons] at hroom ⊢
    rw [List.foldl_cons]
    have hnext : (countIn counts song)[d]? = some (n + if hasDance d song then 1 else 0) := by
      rw [getElem?_countIn, hn, Option.map_some]
      split
      · rename_i h
        rw [h] at hroom
        rw [Nat.min_eq_left (by simp only [if_true] at hroom; omega)]
      · rfl
    rw [ih hnext (by omega)]
    congr 1
    omega

/-- Counting one song out and another in moves one count from the one dance to the other. -/
theorem getElem?_countIn_countOut {counts : Array Nat} {old new : Song} {d n : Nat}
    (hn : counts[d]? = some n)
    (hroom : n - (if hasDance d old then 1 else 0) < Number.maxUInt32) :
    (countIn (countOut counts old) new)[d]? =
      some (n - (if hasDance d old then 1 else 0) + (if hasDance d new then 1 else 0)) := by
  have hout : (countOut counts old)[d]? = some (n - if hasDance d old then 1 else 0) := by
    rw [getElem?_countOut, hn, Option.map_some]
    split <;> rfl
  rw [getElem?_countIn, hout, Option.map_some]
  split
  · rw [Nat.min_eq_left hroom]
  · rfl

end Ballroom.Library
