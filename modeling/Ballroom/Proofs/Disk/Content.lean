import Ballroom.Disk.Content

/-!
# The bytes of a file, place by place

`Content.byteAt` is the byte at a place of a file, and NUL behind its end.  Overwriting
part of a file is then a choice between two functions, and what is read up to a NUL
depends on the bytes of its window alone.
-/

namespace Ballroom.Content

/-- The byte at a place, and NUL behind the end. -/
def byteAt (c : Content) (i : Nat) : UInt8 := c.toBytes.getD i 0

/-- A file of bytes has their number as its size. -/
@[simp] theorem size_ofBytes (bytes : Bytes) : (ofBytes bytes).size = bytes.length := by
  rw [← length_toBytes, toBytes_ofBytes]

/-- A padded file has the size that it was padded to. -/
theorem size_padded {size : Nat} {bytes : Bytes} (h : bytes.length ≤ size) :
    (padded size bytes).size = size := by
  rw [← length_toBytes, toBytes_padded, List.length_append, List.length_replicate]
  omega

/-! ### Overwriting -/

/-- A file grows to the end of what is written over it. -/
theorem size_overwrite (c : Content) (offset : Nat) (data : Content) :
    (c.overwrite offset data).size = max c.size (offset + data.size) := by
  rw [← length_toBytes, toBytes_overwrite]
  simp only [List.length_append, List.length_take, List.length_replicate, List.length_drop,
    length_toBytes]
  omega

/-- A byte is one of the data where they were written, and otherwise what it was. -/
theorem byteAt_overwrite (c : Content) (offset : Nat) (data : Content) (i : Nat) :
    (c.overwrite offset data).byteAt i =
      if offset ≤ i ∧ i < offset + data.size then data.byteAt (i - offset) else c.byteAt i := by
  have hfront : (c.toBytes.take offset ++ List.replicate (offset - c.toBytes.length) 0).length =
      offset := by
    rw [List.length_append, List.length_take, List.length_replicate]
    omega
  rw [byteAt, toBytes_overwrite, List.getD_eq_getElem?_getD]
  by_cases hstart : i < offset
  · -- In front of the data there are the old bytes and the NULs behind their end.
    rw [if_neg (by omega), List.append_assoc, List.getElem?_append_left (by omega), byteAt,
      List.getD_eq_getElem?_getD]
    by_cases hsize : i < c.toBytes.length
    · rw [List.getElem?_append_left (by rw [List.length_take]; omega),
        List.getElem?_take_of_lt hstart]
    · rw [List.getElem?_append_right (by rw [List.length_take]; omega), List.getElem?_replicate,
        List.length_take, if_pos (by omega), List.getElem?_eq_none (by omega)]
      rfl
  · by_cases hend : i < offset + data.size
    · -- Within the data.
      rw [if_pos (by omega), List.append_assoc, List.getElem?_append_right (by omega), hfront,
        List.getElem?_append_left (by rw [length_toBytes]; omega), byteAt,
        List.getD_eq_getElem?_getD]
    · -- Behind the data the old bytes go on.
      rw [if_neg (by omega), List.getElem?_append_right
          (by rw [List.length_append, hfront, length_toBytes]; omega),
        List.length_append, hfront, length_toBytes, List.getElem?_drop, byteAt,
        List.getD_eq_getElem?_getD]
      congr 2
      omega

/-- Bytes before the start of what is written stay. -/
theorem byteAt_overwrite_of_lt {c data : Content} {offset i : Nat} (h : i < offset) :
    (c.overwrite offset data).byteAt i = c.byteAt i := by
  rw [byteAt_overwrite, if_neg (by omega)]

/-- Bytes behind the end of what is written stay. -/
theorem byteAt_overwrite_of_le {c data : Content} {offset i : Nat} (h : offset + data.size ≤ i) :
    (c.overwrite offset data).byteAt i = c.byteAt i := by
  rw [byteAt_overwrite, if_neg (by omega)]

/-! ### Windows -/

/-- NULs at the end make no difference to what stands in front of the first NUL. -/
theorem takeWhile_append_replicate (bytes : Bytes) (n : Nat) :
    (bytes ++ List.replicate n 0).takeWhile (· ≠ 0) = bytes.takeWhile (· ≠ 0) := by
  rw [List.takeWhile_append]
  split
  · -- The bytes have no NUL themselves, and the first one behind them ends the run.
    rename_i h
    rw [(List.takeWhile_prefix _).eq_of_length h]
    simp
  · rfl

/-- The bytes from a place on are those of the file and NULs behind its end. -/
theorem map_byteAt_range (c : Content) (start n : Nat) :
    ((List.range n).map fun i => c.byteAt (start + i)) =
      (c.toBytes.drop start).take n ++
        List.replicate (n - ((c.toBytes.drop start).take n).length) 0 := by
  apply List.ext_getElem?
  intro i
  rw [List.getElem?_map]
  by_cases hi : i < n
  · rw [List.getElem?_range hi, Option.map_some, byteAt, List.getD_eq_getElem?_getD]
    -- A place of the window is in the file or behind its end.
    by_cases hsize : start + i < c.toBytes.length
    · rw [List.getElem?_append_left (by rw [List.length_take, List.length_drop]; omega),
        List.getElem?_take_of_lt hi, List.getElem?_drop, List.getElem?_eq_getElem hsize]
      rfl
    · rw [List.getElem?_append_right (by rw [List.length_take, List.length_drop]; omega),
        List.getElem?_replicate, if_pos (by rw [List.length_take, List.length_drop]; omega),
        List.getElem?_eq_none (by omega)]
      rfl
  · -- Behind the window there is nothing on either side.
    have hlength : n ≤ i := by omega
    rw [List.getElem?_eq_none (by simpa using hlength), List.getElem?_eq_none]
    · rfl
    · rw [List.length_append, List.length_replicate, List.length_take]
      omega

/-- The beginning of a file, byte by byte. -/
theorem toBytes_take_eq {c : Content} {n : Nat} (h : n ≤ c.size) :
    (c.take n).toBytes = (List.range n).map c.byteAt := by
  have hrange := map_byteAt_range c 0 n
  have hlength : (c.toBytes.take n).length = n := by
    rw [List.length_take, length_toBytes]
    omega
  simp only [Nat.zero_add, List.drop_zero, hlength, Nat.sub_self, List.replicate_zero,
    List.append_nil] at hrange
  rw [toBytes_take, hrange]

/-- Contents of the same size with the same byte at every place have the same bytes. -/
theorem toBytes_ext {a b : Content} (hsize : a.size = b.size)
    (hbyte : ∀ i, a.byteAt i = b.byteAt i) : a.toBytes = b.toBytes := by
  -- The bytes of a file are listed by its size and by the byte at each place.
  have hall : ∀ c : Content, c.toBytes = (List.range c.size).map c.byteAt := by
    intro c
    rw [← toBytes_take_eq (Nat.le_refl c.size), toBytes_take, ← length_toBytes, List.take_length]
  rw [hall a, hall b, hsize]
  exact List.map_congr_left fun i _ => hbyte i

/-! ### The order of writes -/

/-- Writing over files of the same bytes gives the same bytes. -/
theorem toBytes_overwrite_congr {a b : Content} (h : a.toBytes = b.toBytes) (offset : Nat)
    (data : Content) : (a.overwrite offset data).toBytes = (b.overwrite offset data).toBytes := by
  rw [toBytes_overwrite, toBytes_overwrite, h]

/-- Data that end before others start can be written before or after them. -/
theorem toBytes_overwrite_comm (c : Content) {offset offset' : Nat} {data data' : Content}
    (h : offset + data.size ≤ offset') :
    ((c.overwrite offset data).overwrite offset' data').toBytes =
      ((c.overwrite offset' data').overwrite offset data).toBytes := by
  apply toBytes_ext
  · simp only [size_overwrite]
    omega
  · intro i
    simp only [byteAt_overwrite]
    -- No place is in both of the windows.
    split
    · rw [if_neg (by omega)]
    · rfl

/-- Data that are written over are as good as not written. -/
theorem toBytes_overwrite_overwrite (c : Content) (offset : Nat) {data data' : Content}
    (h : data.size ≤ data'.size) :
    ((c.overwrite offset data).overwrite offset data').toBytes =
      (c.overwrite offset data').toBytes := by
  apply toBytes_ext
  · simp only [size_overwrite]
    omega
  · intro i
    simp only [byteAt_overwrite]
    -- A place of the first data is one of the second.
    split
    · rfl
    · rw [if_neg (by omega)]

/-- The NULs behind the end of a file make no difference to what is read up to a NUL. -/
theorem upToNul_window (c : Content) (start n : Nat) :
    ((c.drop start).take n).upToNul =
      ((List.range n).map fun i => c.byteAt (start + i)).takeWhile (· ≠ 0) := by
  rw [upToNul_eq, toBytes_take, toBytes_drop, map_byteAt_range, takeWhile_append_replicate]

end Ballroom.Content
