import Ballroom.Text.Utf8

/-!
# The bytes of a text, character by character

What can be said of the bytes of a text from its characters: only a NUL has a zero byte,
so that bytes that are cut off at a zero are those of a text that is cut off at a NUL, and
digits and other ASCII characters have one byte each.  `compareBytes` is a total order of
texts in which only equal texts are equal.
-/

namespace Ballroom.Text

/-- The bytes of a text are those of its characters in turn. -/
theorem bytes_eq_flatMap (s : String) : bytes s = s.toList.flatMap String.utf8EncodeChar := by
  have h : s.toUTF8 = s.toList.utf8Encode := String.utf8Encode_toList.symm
  rw [bytes, h, List.utf8Encode, List.toList_data_toByteArray]

/-- Bytes are read as a text if they are its bytes. -/
theorem Utf8.decode_eq_ok_iff {data : Bytes} {s : String} :
    Utf8.decode data = .ok s ↔ data = bytes s := by
  constructor
  · intro h
    -- The reader takes a text over only if its bytes are the ones that were read.
    unfold Utf8.decode String.fromUTF8? at h
    split at h
    · rename_i t hvalid
      obtain rfl := Except.ok.inj h
      split at hvalid
      · obtain rfl := Option.some.inj hvalid
        rfl
      · cases hvalid
    · cases h
  · rintro rfl
    exact Utf8.decode_bytes s

/-- Behind the first byte of a character there are only bytes from 128 on. -/
private theorem ne_zero_of_mem_utf8EncodeChar {c : Char} (h : c ≠ '\x00') :
    ∀ b ∈ String.utf8EncodeChar c, b ≠ 0 := by
  have hpos : c.val.toNat ≠ 0 := fun hzero => h (Char.ext (UInt32.toNat_inj.1 hzero))
  have hbyte : ∀ {n : Nat}, 0 < n → n < 256 → UInt8.ofNat n ≠ 0 := by
    intro n hn hlt heq
    have hnat := congrArg UInt8.toNat heq
    rw [UInt8.toNat_ofNat', Nat.mod_eq_of_lt hlt] at hnat
    exact Nat.ne_of_gt hn hnat
  intro b hb
  unfold String.utf8EncodeChar at hb
  dsimp only at hb
  -- A character of one byte is that byte; each byte of a longer sequence has its mark added.
  split at hb
  · rename_i hle
    rw [List.mem_singleton] at hb
    exact hb ▸ hbyte (Nat.pos_of_ne_zero hpos) (by omega)
  · split at hb
    · simp only [List.mem_cons, List.not_mem_nil, or_false] at hb
      rcases hb with rfl | rfl <;> exact hbyte (by omega) (by omega)
    · split at hb
      · simp only [List.mem_cons, List.not_mem_nil, or_false] at hb
        rcases hb with rfl | rfl | rfl <;> exact hbyte (by omega) (by omega)
      · simp only [List.mem_cons, List.not_mem_nil, or_false] at hb
        rcases hb with rfl | rfl | rfl | rfl <;> exact hbyte (by omega) (by omega)

/-- A text without NULs has no zero byte. -/
theorem ne_zero_of_mem_bytes {s : String} (h : ∀ c ∈ s.toList, c ≠ '\x00') :
    ∀ b ∈ bytes s, b ≠ 0 := by
  intro b hb
  rw [bytes_eq_flatMap, List.mem_flatMap] at hb
  obtain ⟨c, hc, hb⟩ := hb
  exact ne_zero_of_mem_utf8EncodeChar (h c hc) b hb

/-- What the bytes of a text are up to the first zero byte: those of the text up to its first
NUL. -/
theorem takeWhile_bytes (s : String) :
    (bytes s).takeWhile (· ≠ 0) = bytes (String.ofList (s.toList.takeWhile (· ≠ '\x00'))) := by
  rw [bytes_eq_flatMap, bytes_eq_flatMap, String.toList_ofList]
  induction s.toList with
  | nil => rfl
  | cons c rest ih =>
    rw [List.flatMap_cons, List.takeWhile_cons]
    by_cases hc : c = '\x00'
    · -- A NUL is a zero byte.
      subst hc
      rfl
    · -- Any other character has no zero byte, so that nothing is cut within it.
      have hpos : ∀ b ∈ String.utf8EncodeChar c, decide (b ≠ 0) = true :=
        fun b hb => decide_eq_true (ne_zero_of_mem_utf8EncodeChar hc b hb)
      rw [List.takeWhile_append_of_pos hpos, ih, if_pos (decide_eq_true hc), List.flatMap_cons]

/-- The bytes of joined texts are joined. -/
theorem bytes_append (a b : String) : bytes (a ++ b) = bytes a ++ bytes b := by
  rw [bytes_eq_flatMap, String.toList_append, List.flatMap_append, ← bytes_eq_flatMap,
    ← bytes_eq_flatMap]

/-- A text of ASCII characters has one byte for each of them. -/
theorem bytes_eq_map_of_ascii {s : String} (h : ∀ c ∈ s.toList, c.toNat < 128) :
    bytes s = s.toList.map fun c => c.val.toUInt8 := by
  rw [bytes_eq_flatMap]
  generalize s.toList = cs at h
  induction cs with
  | nil => rfl
  | cons c rest ih =>
    -- Below 128 the encoding is the code itself.
    have hone : String.utf8EncodeChar c = [c.val.toUInt8] :=
      if_pos (Nat.le_of_lt_succ (h c (by simp)))
    rw [List.flatMap_cons, hone, ih fun d hd => h d (by simp [hd])]
    rfl

/-- A text of ASCII characters has as many bytes as characters. -/
theorem length_bytes_of_ascii {s : String} (h : ∀ c ∈ s.toList, c.toNat < 128) :
    (bytes s).length = s.toList.length := by
  rw [bytes_eq_map_of_ascii h, List.length_map]

/-! ### The byte order of texts -/

/-- A text is equal to itself in the byte order. -/
@[simp] theorem compareBytes_self (a : String) : compareBytes a a = .eq :=
  Std.ReflOrd.compare_self

/-- Only equal texts are equal in the byte order. -/
theorem compareBytes_eq_iff {a b : String} : compareBytes a b = .eq ↔ a = b := by
  constructor
  · intro h
    exact bytes_injective (Std.LawfulEqOrd.eq_of_compare h)
  · rintro rfl
    exact compareBytes_self a

/-- The byte order read the other way. -/
theorem compareBytes_swap (a b : String) : (compareBytes a b).swap = compareBytes b a :=
  (Std.OrientedOrd.eq_swap).symm

/-- The byte order is transitive. -/
theorem compareBytes_isLE_trans {a b c : String} (hab : (compareBytes a b).isLE)
    (hbc : (compareBytes b c).isLE) : (compareBytes a c).isLE :=
  Std.TransOrd.isLE_trans hab hbc

/-- The strict byte order is transitive. -/
theorem compareBytes_lt_trans {a b c : String} (hab : compareBytes a b = .lt)
    (hbc : compareBytes b c = .lt) : compareBytes a c = .lt := by
  unfold compareBytes at *
  exact Std.TransCmp.lt_trans hab hbc

/-- Any two texts are in order one way or the other. -/
theorem compareBytes_isLE_total (a b : String) :
    (compareBytes a b).isLE ∨ (compareBytes b a).isLE := by
  rw [← compareBytes_swap a b]
  cases compareBytes a b <;> decide

/-- Different texts that are in order are in strict order. -/
theorem compareBytes_eq_lt {a b : String} (h : (compareBytes a b).isLE) (hne : a ≠ b) :
    compareBytes a b = .lt := by
  cases hcmp : compareBytes a b with
  | lt => rfl
  | eq => exact absurd (compareBytes_eq_iff.1 hcmp) hne
  | gt => rw [hcmp] at h; exact absurd h (by decide)

end Ballroom.Text
