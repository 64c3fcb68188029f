import Ballroom.Proofs.Disk.Content
import Ballroom.Proofs.Store.Header
import Ballroom.Store.SlotFile

/-!
# Where the slots of a store file are

The header and the slots of a store file lie behind each other and do not overlap, so that
writing one of them leaves the others as they read before.
-/

namespace Ballroom.SlotFile

/-- What the slot of a number holds, up to its first NUL. -/
def slotBytes (content : Content) (slotSize number : Nat) : Bytes :=
  ((content.drop (offset slotSize number)).take slotSize).upToNul

/-- What the header of a file says. -/
def headerOf (content : Content) : Except StoreFault Header :=
  Header.decode (content.take Header.size).toBytes

/-- What is written into a slot. -/
abbrev withSlot (content : Content) (slotSize number : Nat) (data : Bytes) : Content :=
  content.overwrite (offset slotSize number) (.padded slotSize data)

/-- A header that is written. -/
abbrev withHeader (content : Content) (h : Header) : Content :=
  content.overwrite 0 (.ofBytes h.encode)

/-! ### Slots -/

/-- No slot begins within the header. -/
theorem size_le_offset (slotSize number : Nat) : Header.size ≤ offset slotSize number :=
  Nat.le_add_right _ _

/-- A slot ends where the next one starts at the latest. -/
theorem offset_add_le (slotSize : Nat) {m n : Nat} (hm : m ≠ 0) (hmn : m < n) :
    offset slotSize m + slotSize ≤ offset slotSize n := by
  have hmul : (m - 1 + 1) * slotSize ≤ (n - 1) * slotSize :=
    Nat.mul_le_mul_right slotSize (by omega)
  rw [Nat.add_mul, Nat.one_mul] at hmul
  unfold offset
  omega

/-- A slot reads the same in files that have the same bytes there. -/
theorem slotBytes_congr {a b : Content} {slotSize number : Nat}
    (h : ∀ i < slotSize, a.byteAt (offset slotSize number + i) =
      b.byteAt (offset slotSize number + i)) :
    slotBytes a slotSize number = slotBytes b slotSize number := by
  rw [slotBytes, slotBytes, Content.upToNul_window, Content.upToNul_window]
  congr 1
  exact List.map_congr_left fun i hi => h i (List.mem_range.1 hi)

/-- The slots of a file without more than a header are empty. -/
@[simp] theorem slotBytes_of_size_le {content : Content} {slotSize number : Nat}
    (h : content.size ≤ Header.size) : slotBytes content slotSize number = [] := by
  rw [slotBytes, Content.upToNul_eq, Content.toBytes_take, Content.toBytes_drop,
    List.drop_of_length_le]
  · simp
  · rw [Content.length_toBytes]
    exact h.trans (size_le_offset slotSize number)

/-- A slot holds the data that were written into it, up to their first NUL. -/
theorem slotBytes_withSlot (content : Content) {slotSize : Nat} (number : Nat) {data : Bytes}
    (h : data.length ≤ slotSize) :
    slotBytes (withSlot content slotSize number data) slotSize number =
      data.takeWhile (· ≠ 0) := by
  -- Every byte of the slot is one that was written.
  have hwindow : ∀ i ∈ List.range slotSize,
      (withSlot content slotSize number data).byteAt (offset slotSize number + i) =
        (Content.padded slotSize data).byteAt (0 + i) := by
    intro i hi
    rw [List.mem_range] at hi
    rw [Content.byteAt_overwrite, Content.size_padded h, if_pos (by omega)]
    congr 1
    omega
  rw [slotBytes, Content.upToNul_window, List.map_congr_left hwindow, ← Content.upToNul_window,
    Content.upToNul_eq, Content.toBytes_take, Content.toBytes_drop, Content.toBytes_padded,
    List.drop_zero, List.take_of_length_le, Content.takeWhile_append_replicate]
  rw [List.length_append, List.length_replicate]
  omega

/-- Writing into one slot leaves the others alone. -/
theorem slotBytes_withSlot_of_ne (content : Content) {slotSize m n : Nat} {data : Bytes}
    (h : data.length ≤ slotSize) (hm : m ≠ 0) (hn : n ≠ 0) (hmn : m ≠ n) :
    slotBytes (withSlot content slotSize n data) slotSize m = slotBytes content slotSize m := by
  apply slotBytes_congr
  intro i hi
  cases Nat.lt_or_gt_of_ne hmn with
  -- The other slot ends before this one begins, or begins behind its end.
  | inl hlt =>
    have hoffset := offset_add_le slotSize hm hlt
    exact Content.byteAt_overwrite_of_lt (by omega)
  | inr hgt =>
    have hoffset := offset_add_le slotSize hn hgt
    exact Content.byteAt_overwrite_of_le (by rw [Content.size_padded h]; omega)

/-- Writing the header leaves the slots alone. -/
@[simp] theorem slotBytes_withHeader (content : Content) (h : Header) (slotSize number : Nat) :
    slotBytes (withHeader content h) slotSize number = slotBytes content slotSize number := by
  apply slotBytes_congr
  intro i _
  have hoffset := size_le_offset slotSize number
  apply Content.byteAt_overwrite_of_le
  rw [Content.size_ofBytes, Header.length_encode]
  omega

/-! ### The header -/

/-- A header reads the same in files that start with the same bytes. -/
theorem headerOf_congr {a b : Content} (ha : Header.size ≤ a.size) (hb : Header.size ≤ b.size)
    (h : ∀ i < Header.size, a.byteAt i = b.byteAt i) : headerOf a = headerOf b := by
  rw [headerOf, headerOf, Content.toBytes_take_eq ha, Content.toBytes_take_eq hb]
  congr 1
  exact List.map_congr_left fun i hi => h i (List.mem_range.1 hi)

theorem size_le_withSlot {content : Content} (h : Header.size ≤ content.size)
    (slotSize number : Nat) (data : Bytes) :
    Header.size ≤ (withSlot content slotSize number data).size := by
  rw [Content.size_overwrite]
  omega

theorem size_le_withHeader (content : Content) (h : Header) :
    Header.size ≤ (withHeader content h).size := by
  rw [Content.size_overwrite, Content.size_ofBytes, Header.length_encode]
  omega

/-- Writing into a slot leaves the header alone. -/
theorem headerOf_withSlot {content : Content} (h : Header.size ≤ content.size)
    (slotSize number : Nat) (data : Bytes) :
    headerOf (withSlot content slotSize number data) = headerOf content := by
  apply headerOf_congr (size_le_withSlot h slotSize number data) h
  intro i hi
  have hoffset := size_le_offset slotSize number
  exact Content.byteAt_overwrite_of_lt (by omega)

/-- What is read from a file in front of the slots is what was written there. -/
theorem headerOf_withHeader_eq (content : Content) (h : Header) :
    headerOf (withHeader content h) = Header.decode h.encode := by
  -- Every byte of the header is one that was written.
  have hwindow : ∀ i ∈ List.range Header.size,
      (withHeader content h).byteAt i = (Content.ofBytes h.encode).byteAt i := by
    intro i hi
    rw [List.mem_range] at hi
    rw [Content.byteAt_overwrite, Content.size_ofBytes, Header.length_encode, if_pos (by omega)]
    rfl
  have hsize : Header.size ≤ (Content.ofBytes h.encode).size := by simp
  rw [headerOf, Content.toBytes_take_eq (size_le_withHeader content h),
    List.map_congr_left hwindow, ← Content.toBytes_take_eq hsize, Content.toBytes_take,
    Content.toBytes_ofBytes, List.take_of_length_le (by simp)]

/-- A header that was written into a file is read from it. -/
theorem headerOf_withHeader (content : Content) {h : Header} (hfits : h.Fits) :
    headerOf (withHeader content h) = .ok h := by
  rw [headerOf_withHeader_eq, Header.decode_encode hfits]

/-! ### The order of writes -/

/-- The header can be written before or after a slot. -/
theorem toBytes_withSlot_withHeader (content : Content) (h : Header) (slotSize number : Nat)
    (data : Bytes) :
    (withSlot (withHeader content h) slotSize number data).toBytes =
      (withHeader (withSlot content slotSize number data) h).toBytes := by
  apply Content.toBytes_overwrite_comm
  rw [Content.size_ofBytes, Header.length_encode]
  have hoffset := size_le_offset slotSize number
  omega

/-- Of two headers that are written one after the other the second stays. -/
theorem toBytes_withHeader_withHeader (content : Content) (h h' : Header) :
    (withHeader (withHeader content h) h').toBytes = (withHeader content h').toBytes := by
  apply Content.toBytes_overwrite_overwrite
  rw [Content.size_ofBytes, Content.size_ofBytes, Header.length_encode, Header.length_encode]

end Ballroom.SlotFile
