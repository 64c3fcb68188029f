import Ballroom.Song

/-!
# Paths and numbers of songs

What setting tags does to the path of a song and to the number of its record.
-/

namespace Ballroom.Song

/-- A number of a record is read back from the song that it was set for. -/
theorem recordNumber?_setRecordNumber (song : Song) {n : Nat}
    (h : 1 ≤ n ∧ n ≤ maxRecordNumber) : (song.setRecordNumber n).recordNumber? = some n := by
  have hbound : maxRecordNumber = 4294967295 := by decide
  -- A number of 32 bits is kept by 64 bits with a sign.
  have hint : (Int64.ofInt n).toInt = n := Int64.toInt_ofInt_of_le (by omega) (by omega)
  have hnumber : (song.setRecordNumber n).number? .recordNumber = some (Int64.ofInt n) := rfl
  have hvalid : 0 < (n : Int) ∧ (n : Int) ≤ maxRecordNumber := by omega
  rw [recordNumber?, hnumber, Option.bind_some, hint, if_pos hvalid, Int.toNat_natCast]

@[simp] theorem path?_set_of_ne {song : Song} {tag : Tag} (h : tag ≠ .file)
    (value : TagValue) : (song.set tag value).path? = song.path? := by
  simp [path?, text?, Ne.symm h]

@[simp] theorem path?_setRecordNumber (song : Song) (n : Nat) :
    (song.setRecordNumber n).path? = song.path? := path?_set_of_ne (by decide) _

@[simp] theorem path?_withIndex (song : Song) (i : Int) :
    (song.withIndex i).path? = song.path? := rfl

/-- The path of a song is one of its tags. -/
theorem path?_congr {song other : Song} (h : song.value? = other.value?) :
    song.path? = other.path? := by
  rw [path?, path?, text?, text?, h]

/-- The number of a song's record is one of its tags. -/
theorem recordNumber?_congr {song other : Song} (h : song.value? = other.value?) :
    song.recordNumber? = other.recordNumber? := by
  rw [recordNumber?, recordNumber?, number?, number?, h]

/-- The number of a record is between 1 and the greatest one. -/
theorem recordNumber?_range {song : Song} {n : Nat} (h : song.recordNumber? = some n) :
    1 ≤ n ∧ n ≤ maxRecordNumber := by
  unfold recordNumber? at h
  cases hnumber : song.number? .recordNumber with
  | none => rw [hnumber] at h; cases h
  | some k =>
    rw [hnumber, Option.bind_some] at h
    split at h
    · obtain rfl := Option.some.inj h
      omega
    · cases h

end Ballroom.Song
