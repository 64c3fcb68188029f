import Ballroom.Store.Header
import Ballroom.Proofs.Number.Decimal
import Ballroom.Proofs.Text.Bytes
import Mathlib.Data.Nat.Digits.Defs

/-!
# Headers of store files

A header that was written is read back (`decode_encode`), as long as its numbers fit the
fields that the reader gives them, and a header that was read has such numbers
(`fits_of_decode`).
-/

namespace Ballroom.Header

/-- The numbers of a header are ones that the reader takes. -/
structure Fits (h : Header) : Prop where
  version_le : h.version ≤ Number.maxUInt32
  count_le : h.count ≤ Number.maxUInt32
  slotSize_pos : 0 < h.slotSize
  slotSize_le : h.slotSize ≤ Number.maxUInt64

/-- The numbers of a header are within their types; there may be no room in the slots. -/
structure Bounded (h : Header) : Prop where
  version_le : h.version ≤ Number.maxUInt32
  count_le : h.count ≤ Number.maxUInt32
  slotSize_le : h.slotSize ≤ Number.maxUInt64

/-- A header that fits has numbers within their widths. -/
theorem Fits.bounded {h : Header} (hfits : h.Fits) : h.Bounded :=
  ⟨hfits.version_le, hfits.count_le, hfits.slotSize_le⟩

/-! ### The text of a header -/

/-- The line of a number under its key. -/
private def line (key : String) (n : Nat) : List Char := key.toList ++ (toString n).toList

/-- The text of a header is three lines. -/
private theorem toList_text (h : Header) :
    h.text.toList = line versionKey h.version ++ '\n' :: (line sizeKey h.slotSize ++
      '\n' :: (line countKey h.count ++ '\n' :: [])) := by
  simp only [text, line, String.toList_append, show "\n".toList = ['\n'] from rfl,
    List.append_assoc, List.cons_append, List.nil_append]

/-- Headers are plain ASCII: a key or a digit is no line break and no NUL. -/
private theorem plain_line {key : String} (hkey : Text.Plain key) (n : Nat) :
    ∀ c ∈ line key n, c ≠ '\n' ∧ c ≠ '\r' ∧ c ≠ '\x00' := by
  intro c hc
  rw [line, ← String.toList_append] at hc
  exact Text.plain_append hkey (Number.plain_toString n) c hc

/-- A header is read as the three lines that it was written as. -/
private theorem lines_text (h : Header) :
    Text.lines h.text.toList =
      [line versionKey h.version, line sizeKey h.slotSize, line countKey h.count] := by
  have hplain : ∀ {key : String}, Text.Plain key → ∀ n, ∀ c ∈ line key n, c ≠ '\n' ∧ c ≠ '\r' :=
    fun hkey n c hc => ⟨(plain_line hkey n c hc).1, (plain_line hkey n c hc).2.1⟩
  rw [toList_text, Text.lines_append_newline (hplain (by decide) _),
    Text.lines_append_newline (hplain (by decide) _),
    Text.lines_append_newline (hplain (by decide) _)]
  rfl

/-- Behind its own key a line has its number. -/
private theorem behind?_line (key : String) (n : Nat) :
    behind? key (line key n) = some (toString n).toList := by
  rw [behind?, line, if_pos (List.isPrefixOf_iff_prefix.2 (List.prefix_append _ _)),
    ← String.length_toList, List.drop_left]

/-- A number behind a key is read back. -/
private theorem readNat?_behind {bound n : Nat} (h : n ≤ bound) :
    Number.readNat? bound (Text.trim (toString n).toList) = some n := by
  have hblank : ∀ c ∈ (toString n).toList, Text.isBlank c = false :=
    fun c hc => Number.isBlank_of_isDigit (Number.isDigit_of_mem_toString hc)
  rw [Text.trim_eq_self hblank, Number.readNat?_toString h]

/-- The text of a header is read as that header, unless its slots have no room. -/
theorem ofText?_text {h : Header} (hbounded : h.Bounded) :
    ofText? h.text = if 0 < h.slotSize then some h else none := by
  -- Each line has its own key, which the others do not begin with.
  have hsize : behind? versionKey (line sizeKey h.slotSize) = none := by
    simp [behind?, line, versionKey, sizeKey]
  have hcount : behind? versionKey (line countKey h.count) = none := by
    simp [behind?, line, versionKey, countKey]
  have hcount' : behind? sizeKey (line countKey h.count) = none := by
    simp [behind?, line, sizeKey, countKey]
  simp only [ofText?, lines_text, List.foldl_cons, List.foldl_nil, Found.line, behind?_line, hsize,
    hcount, hcount', readNat?_behind hbounded.version_le, readNat?_behind hbounded.slotSize_le,
    readNat?_behind hbounded.count_le]

/-! ### The bytes of a header -/

/-- A line is no longer than its key and the digits of its number. -/
private theorem length_line (key : String) {n e : Nat} (hpos : 0 < e) (hn : n < 10 ^ e) :
    (line key n).length ≤ key.length + e := by
  have hdigits := Nat.toDigits_length 10 n e hpos hn
  rw [line, List.length_append, Number.toList_toString, String.length_toList]
  omega

/-- A header fits the bytes that it is given. -/
theorem length_bytes_text {h : Header} (hbounded : h.Bounded) :
    (Text.bytes h.text).length < size := by
  -- Keys, numbers and line breaks are ASCII, so that characters are bytes.
  have hascii : ∀ {key : String}, (∀ c ∈ key.toList, c.toNat < 128) →
      ∀ n, ∀ c ∈ line key n, c.toNat < 128 := by
    intro key hkey n c hc
    rw [line, List.mem_append] at hc
    cases hc with
    | inl hc => exact hkey c hc
    | inr hc =>
      have hdigit := Number.isDigit_of_mem_toString hc
      rw [Char.isDigit_iff_toNat] at hdigit
      have hle : c.toNat ≤ 57 := hdigit.2
      omega
  have htext : ∀ c ∈ h.text.toList, c.toNat < 128 := by
    intro c hc
    simp only [toList_text, List.mem_append, List.mem_cons, List.not_mem_nil, or_false] at hc
    rcases hc with hc | rfl | hc | rfl | hc | rfl
    · exact hascii (by simp [versionKey]) _ c hc
    · decide
    · exact hascii (by simp [sizeKey]) _ c hc
    · decide
    · exact hascii (by simp [countKey]) _ c hc
    · decide
  -- Numbers of 32 and 64 bits have 10 and 20 digits at most.
  have hversion := length_line versionKey (e := 10) (by decide)
    (Nat.lt_of_le_of_lt hbounded.version_le (by decide))
  have hslots := length_line sizeKey (e := 20) (by decide)
    (Nat.lt_of_le_of_lt hbounded.slotSize_le (by decide))
  have hcount := length_line countKey (e := 10) (by decide)
    (Nat.lt_of_le_of_lt hbounded.count_le (by decide))
  have hkeys : versionKey.length = 9 ∧ sizeKey.length = 8 ∧ countKey.length = 9 := by decide
  rw [Text.length_bytes_of_ascii htext, toList_text]
  simp only [List.length_append, List.length_cons, List.length_nil, size]
  omega

/-- The text of a header is written whole, with NULs behind it. -/
theorem encode_eq_append {h : Header} (hbounded : h.Bounded) :
    h.encode =
      Text.bytes h.text ++ List.replicate (size - (Text.bytes h.text).length) 0 := by
  have hwhole : (Text.bytes h.text).take size = Text.bytes h.text :=
    List.take_of_length_le (Nat.le_of_lt (length_bytes_text hbounded))
  simp only [encode, hwhole]

/-- An encoded header has the size of headers. -/
@[simp] theorem length_encode (h : Header) : h.encode.length = size := by
  have hle : ((Text.bytes h.text).take size).length ≤ size := by
    rw [List.length_take]
    exact Nat.min_le_left _ _
  simp only [encode, List.length_append, List.length_replicate]
  omega

/-- A header that was written is read back, unless there is no room in its slots. -/
theorem decode_encode_eq {h : Header} (hbounded : h.Bounded) :
    decode h.encode =
      if 0 < h.slotSize then .ok h else .error (.malformedHeader h.text) := by
  -- No zero byte stands in the text, so that it ends where the padding begins.
  have hzero : ∀ b ∈ Text.bytes h.text, b ≠ 0 := by
    apply Text.ne_zero_of_mem_bytes
    intro c hc
    simp only [toList_text, List.mem_append, List.mem_cons, List.not_mem_nil, or_false] at hc
    rcases hc with hc | rfl | hc | rfl | hc | rfl
    · exact (plain_line (by decide) _ c hc).2.2
    · decide
    · exact (plain_line (by decide) _ c hc).2.2
    · decide
    · exact (plain_line (by decide) _ c hc).2.2
    · decide
  -- The text is not cut.
  have hbytes : (Text.bytes h.text).take size = Text.bytes h.text :=
    List.take_of_length_le (Nat.le_of_lt (length_bytes_text hbounded))
  have htext : h.encode.takeWhile (· ≠ 0) = Text.bytes h.text := by
    simp only [encode, hbytes]
    rw [List.takeWhile_append_of_pos (by simpa using hzero)]
    simp
  simp only [decode, htext, Text.Utf8.decode_bytes, ofText?_text hbounded]
  by_cases hpos : 0 < h.slotSize
  · simp only [if_pos hpos]
  · simp only [if_neg hpos]

/-- A header that was written is read back. -/
theorem decode_encode {h : Header} (hfits : h.Fits) : decode h.encode = .ok h := by
  rw [decode_encode_eq hfits.bounded, if_pos hfits.slotSize_pos]

/-! ### What was read -/

/-- The numbers found so far are within their bounds. -/
private structure Found.Bounded (found : Found) : Prop where
  version : ∀ n, found.version? = some n → n ≤ Number.maxUInt32
  slotSize : ∀ n, found.slotSize? = some n → n ≤ Number.maxUInt64
  count : ∀ n, found.count? = some n → n ≤ Number.maxUInt32

/-- A number that is read is within its bound. -/
private theorem le_of_readNat? {bound n : Nat} {cs : List Char}
    (h : Number.readNat? bound cs = some n) : n ≤ bound := by
  unfold Number.readNat? at h
  rw [Option.filter_eq_some_iff] at h
  simpa using h.2

/-- A line adds a number within its bound, or none. -/
private theorem Found.Bounded.line {found : Found} (h : found.Bounded) (cs : List Char) :
    (found.line cs).Bounded := by
  unfold Found.line
  split
  · exact ⟨fun _ hn => le_of_readNat? hn, h.slotSize, h.count⟩
  · split
    · exact ⟨h.version, fun _ hn => le_of_readNat? hn, h.count⟩
    · split
      · exact ⟨h.version, h.slotSize, fun _ hn => le_of_readNat? hn⟩
      · exact h

/-- Numbers that lines have given are within their bounds. -/
private theorem Found.Bounded.foldl {found : Found} (h : found.Bounded) (lines : List (List Char)) :
    (lines.foldl Found.line found).Bounded := by
  induction lines generalizing found with
  | nil => exact h
  | cons cs rest ih => exact ih (h.line cs)

/-- A header that was read has numbers that the reader takes. -/
theorem fits_of_decode {bytes : Bytes} {h : Header} (hread : decode bytes = .ok h) : h.Fits := by
  unfold decode at hread
  split at hread
  · cases hread
  · rename_i s _
    split at hread
    · rename_i found hfound
      obtain rfl := Except.ok.inj hread
      have hbounded : ((Text.lines s.toList).foldl Found.line {}).Bounded :=
        Found.Bounded.foldl ⟨by simp, by simp, by simp⟩ _
      unfold ofText? at hfound
      dsimp only at hfound
      split at hfound
      -- All three numbers were found, each read within its bound.
      · rename_i version slotSize count hversion hslotSize hcount
        split at hfound
        · rename_i hpos
          obtain rfl := Option.some.inj hfound
          exact ⟨hbounded.version _ hversion, hbounded.count _ hcount, hpos,
            hbounded.slotSize _ hslotSize⟩
        · cases hfound
      · cases hfound
    · cases hread

end Ballroom.Header
