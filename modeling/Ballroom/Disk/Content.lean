import Ballroom.Text.Utf8

/-! # Contents of files

What a file holds, as stretches: runs of NULs, of which only the length is kept, and the
bytes behind them.  So a record that is written far behind the end of a file costs no more
than one at its start.

`Content.toBytes` gives the bytes.  Every operation comes with the equation that says what
it does to them: `toBytes_append`, `toBytes_take`, `toBytes_drop`, `toBytes_overwrite` and
`upToNul_eq`. -/

namespace Ballroom

/-- A run of NULs and the bytes behind it. -/
structure Stretch where
  gap : Nat
  bytes : Array UInt8
  deriving DecidableEq, Repr

namespace Stretch

/-- All bytes of a stretch. -/
def toBytes (s : Stretch) : Bytes := List.replicate s.gap 0 ++ s.bytes.toList

/-- The number of bytes. -/
def size (s : Stretch) : Nat := s.gap + s.bytes.size

/-- The size of a stretch counts its NULs and the bytes behind them. -/
@[simp] theorem length_toBytes (s : Stretch) : s.toBytes.length = s.size := by
  simp [toBytes, size]

end Stretch

/-- What a file holds. -/
structure Content where
  stretches : List Stretch
  deriving DecidableEq, Repr

namespace Content

/-- All bytes of a file. -/
def toBytes (c : Content) : Bytes := c.stretches.flatMap Stretch.toBytes

/-- The number of bytes. -/
def size (c : Content) : Nat := c.stretches.foldr (fun s n => s.size + n) 0

/-- Nothing. -/
def empty : Content := ⟨[]⟩

/-- Bytes as they are. -/
def ofBytes (bytes : Bytes) : Content := ⟨[⟨0, bytes.toArray⟩]⟩

/-- A number of NULs. -/
def nuls (n : Nat) : Content := if n = 0 then empty else ⟨[⟨n, #[]⟩]⟩

/-- One content behind another. -/
def append (a b : Content) : Content := ⟨a.stretches ++ b.stretches⟩

instance : Append Content := ⟨append⟩

@[simp] theorem toBytes_mk_nil : toBytes ⟨[]⟩ = [] := rfl

/-- The bytes of a first stretch stand in front of those of the others. -/
@[simp] theorem toBytes_mk_cons (s : Stretch) (rest : List Stretch) :
    toBytes ⟨s :: rest⟩ = s.toBytes ++ toBytes ⟨rest⟩ := by simp [toBytes]

/-- The size of a file is the number of its bytes, however it is cut into stretches. -/
@[simp] theorem length_toBytes (c : Content) : c.toBytes.length = c.size := by
  obtain ⟨stretches⟩ := c
  induction stretches with
  | nil => rfl
  | cons s rest ih => simp_all [size]

@[simp] theorem toBytes_empty : empty.toBytes = [] := rfl

@[simp] theorem toBytes_ofBytes (bytes : Bytes) : (ofBytes bytes).toBytes = bytes := by
  simp [ofBytes, Stretch.toBytes]

/-- A file of NULs holds that many zero bytes. -/
@[simp] theorem toBytes_nuls (n : Nat) : (nuls n).toBytes = List.replicate n 0 := by
  cases n <;> simp [nuls, Stretch.toBytes]

/-- The bytes of files that are joined are joined. -/
@[simp] theorem toBytes_append (a b : Content) : (a ++ b).toBytes = a.toBytes ++ b.toBytes := by
  change (append a b).toBytes = _
  simp [append, toBytes]

/-- Bytes with NULs behind them, `size` bytes in all if that many are needed. -/
def padded (size : Nat) (bytes : Bytes) : Content := ofBytes bytes ++ nuls (size - bytes.length)

/-- A padded file ends in as many zeros as its bytes leave room for. -/
theorem toBytes_padded (size : Nat) (bytes : Bytes) :
    (padded size bytes).toBytes = bytes ++ List.replicate (size - bytes.length) 0 := by
  simp [padded]

/-- The stretches of the first `n` bytes. -/
def takeStretches (n : Nat) : List Stretch → List Stretch
  | [] => []
  | s :: rest =>
    if s.size ≤ n then s :: takeStretches (n - s.size) rest
    -- The cut goes through this stretch.
    else if n = 0 then []
    else if n ≤ s.gap then [⟨n, #[]⟩]
    else [⟨s.gap, s.bytes.extract 0 (n - s.gap)⟩]

/-- The first `n` bytes. -/
def take (n : Nat) (c : Content) : Content := ⟨takeStretches n c.stretches⟩

/-- The stretches behind the first `n` bytes. -/
def dropStretches (n : Nat) : List Stretch → List Stretch
  | [] => []
  | s :: rest =>
    if s.size ≤ n then dropStretches (n - s.size) rest
    else if n ≤ s.gap then ⟨s.gap - n, s.bytes⟩ :: rest
    else ⟨0, s.bytes.extract (n - s.gap)⟩ :: rest

/-- The bytes behind the first `n`. -/
def drop (n : Nat) (c : Content) : Content := ⟨dropStretches n c.stretches⟩

/-- Taking from the stretches takes from the bytes. -/
@[simp] theorem toBytes_take (n : Nat) (c : Content) : (c.take n).toBytes = c.toBytes.take n := by
  obtain ⟨stretches⟩ := c
  simp only [take]
  -- One stretch at a time: it is taken whole, cut, or not reached.
  induction stretches generalizing n with
  | nil => simp [takeStretches]
  | cons s rest ih =>
    simp only [takeStretches, toBytes_mk_cons, List.take_append, Stretch.length_toBytes]
    split
    · rename_i h
      simp [ih, List.take_of_length_le, h]
    · rename_i h
      rw [Nat.sub_eq_zero_of_le (Nat.le_of_not_le h), List.take_zero, List.append_nil]
      split
      · simp_all
      · split
        · rename_i hgap
          have : n - s.gap = 0 := by omega
          simp [Stretch.toBytes, List.take_append, Nat.min_eq_left hgap, this]
        · rename_i hgap
          simp [Stretch.toBytes, List.take_append, Nat.min_eq_right (Nat.le_of_not_le hgap)]

/-- Dropping from the stretches drops from the bytes. -/
@[simp] theorem toBytes_drop (n : Nat) (c : Content) : (c.drop n).toBytes = c.toBytes.drop n := by
  obtain ⟨stretches⟩ := c
  simp only [drop]
  induction stretches generalizing n with
  | nil => simp [dropStretches]
  | cons s rest ih =>
    simp only [dropStretches, toBytes_mk_cons, List.drop_append, Stretch.length_toBytes]
    split
    · rename_i h
      simp [ih, List.drop_of_length_le, h]
    · rename_i h
      rw [Nat.sub_eq_zero_of_le (Nat.le_of_not_le h), List.drop_zero]
      split
      · rename_i hgap
        have : n - s.gap = 0 := by omega
        simp [Stretch.toBytes, List.drop_append, this]
      · rename_i hgap
        have : s.gap - n = 0 := by omega
        simp [Stretch.toBytes, List.drop_append, this, List.take_of_length_le]

/-- A content with `data` written from `offset` on; a gap is filled with NULs. -/
def overwrite (c : Content) (offset : Nat) (data : Content) : Content :=
  c.take offset ++ nuls (offset - c.size) ++ data ++ c.drop (offset + data.size)

/-- What is written over a file stands at its place, behind zeros if the file ended before
it. -/
theorem toBytes_overwrite (c : Content) (offset : Nat) (data : Content) :
    (c.overwrite offset data).toBytes =
      c.toBytes.take offset ++ List.replicate (offset - c.toBytes.length) 0 ++ data.toBytes
        ++ c.toBytes.drop (offset + data.toBytes.length) := by
  simp [overwrite]

/-- The bytes of stretches up to the first NUL. -/
def upToNulIn : List Stretch → Bytes
  | [] => []
  | s :: rest =>
    if s.gap ≠ 0 then []
    else if s.bytes.toList.all (· ≠ 0) then s.bytes.toList ++ upToNulIn rest
    else s.bytes.toList.takeWhile (· ≠ 0)

/-- The bytes up to the first NUL. -/
def upToNul (c : Content) : Bytes := upToNulIn c.stretches

/-- What is read of stretches up to the first NUL is what their bytes have before it. -/
theorem upToNul_eq (c : Content) : c.upToNul = c.toBytes.takeWhile (· ≠ 0) := by
  obtain ⟨stretches⟩ := c
  simp only [upToNul]
  induction stretches with
  | nil => rfl
  | cons s rest ih =>
    simp only [upToNulIn, toBytes_mk_cons, Stretch.toBytes]
    cases s.gap with
    -- A gap begins with a NUL.
    | succ n => simp [List.replicate_succ]
    | zero =>
      -- Without a gap the first NUL is in the bytes of the stretch or behind it.
      by_cases hall : s.bytes.toList.all (· ≠ 0)
      · rw [if_neg (by simp), if_pos hall, ih, List.replicate_zero, List.nil_append,
          List.takeWhile_append_of_pos (List.all_eq_true.1 hall)]
      · rw [if_neg (by simp), if_neg hall, List.replicate_zero, List.nil_append,
          List.takeWhile_append]
        split
        · rename_i h
          have heq := (List.takeWhile_prefix fun x => decide (x ≠ 0)).eq_of_length h
          exact absurd (heq ▸ List.all_takeWhile) hall
        · rfl

end Content

end Ballroom
