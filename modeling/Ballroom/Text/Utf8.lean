/-! # Bytes of a text

Texts are stored and compared by their UTF-8 bytes.  This file fixes the view of a text as
a list of bytes and the byte order that every sorted collection of the library uses.

`Utf8.decode` reads bytes as text and says, where it cannot, at which byte the first
ill-formed sequence starts and how many bytes of it are beyond repair.  A sequence
that merely stops at the end of the input is told apart from one that no further
byte could mend. -/

namespace Ballroom

/-- A run of bytes, as a file or a record slot holds it. -/
abbrev Bytes := List UInt8

namespace Text

/-- The UTF-8 bytes of a text. -/
def bytes (s : String) : Bytes := s.toUTF8.data.toList

/-- The number of UTF-8 bytes of a text. -/
def size (s : String) : Nat := s.utf8ByteSize

/-- The order of two texts by their UTF-8 bytes, a proper beginning first. -/
def compareBytes (a b : String) : Ordering := compare (bytes a) (bytes b)

/-- The size of a text is the number of its bytes. -/
theorem length_bytes (s : String) : (bytes s).length = size s := rfl

/-- Texts of the same bytes are the same. -/
theorem bytes_injective {a b : String} (h : bytes a = bytes b) : a = b := by
  apply String.toByteArray_inj.1
  apply ByteArray.ext
  exact Array.toList_inj.1 h

/-! ### Reading UTF-8 -/

namespace Utf8

/-- The first place at which bytes are not UTF-8. -/
structure Fault where
  /-- The number of bytes before the ill-formed sequence. -/
  index : Nat
  /-- The length of the ill-formed sequence; `none` if the input ends inside it. -/
  length? : Option Nat
  deriving DecidableEq, Repr

/-- The wording of a fault. -/
def Fault.message (f : Fault) : String :=
  match f.length? with
  | some n => "invalid utf-8 sequence of " ++ toString n ++ " bytes from index " ++ toString f.index
  | none => "incomplete utf-8 byte sequence from index " ++ toString f.index

/-- What the bytes at the start of a character turn out to be. -/
inductive Sequence where
  /-- A well-formed sequence of `width` bytes. -/
  | whole (width : Nat)
  /-- The first `length` bytes begin no well-formed sequence. -/
  | broken (length : Nat)
  /-- The input ends before the sequence does. -/
  | cut
  deriving DecidableEq, Repr

/-- The first bytes that start a sequence of several bytes: its width and the range
of its second byte.  The narrowed ranges exclude overlong forms, surrogates and
numbers above the last code point. -/
def lead? (b : UInt8) : Option (Nat × UInt8 × UInt8) :=
  if 0xC2 ≤ b && b ≤ 0xDF then some (2, 0x80, 0xBF)
  else if b == 0xE0 then some (3, 0xA0, 0xBF)
  else if b == 0xED then some (3, 0x80, 0x9F)
  else if 0xE1 ≤ b && b ≤ 0xEF then some (3, 0x80, 0xBF)
  else if b == 0xF0 then some (4, 0x90, 0xBF)
  else if 0xF1 ≤ b && b ≤ 0xF3 then some (4, 0x80, 0xBF)
  else if b == 0xF4 then some (4, 0x80, 0x8F)
  else none

/-- Checks the `left` continuation bytes of a sequence of which `found` bytes are good. -/
def continuation (found : Nat) : Nat → Bytes → Sequence
  | 0, _ => .whole found
  | _ + 1, [] => .cut
  | left + 1, b :: rest =>
    if 0x80 ≤ b && b ≤ 0xBF then continuation (found + 1) left rest else .broken found

/-- The sequence that starts with the byte `b` and goes on with `rest`. -/
def sequence (b : UInt8) (rest : Bytes) : Sequence :=
  if b < 0x80 then .whole 1
  else match lead? b, rest with
    | none, _ => .broken 1
    -- The first byte alone can still be mended.
    | some _, [] => .cut
    | some (width, low, high), c :: rest =>
      if low ≤ c && c ≤ high then continuation 2 (width - 2) rest else .broken 1

/-- The first fault of bytes whose first byte is byte `index` of the input. -/
def faultFrom? (index : Nat) : Bytes → Option Fault
  | [] => none
  | b :: rest =>
    match sequence b rest with
    | .whole width => faultFrom? (index + width) (rest.drop (width - 1))
    | .broken length => some ⟨index, some length⟩
    | .cut => some ⟨index, none⟩
termination_by bs => bs.length
decreasing_by
  rw [List.length_drop, List.length_cons]
  omega

/-- The text that the bytes spell, or the place where they stop being UTF-8. -/
def decode (bs : Bytes) : Except Fault String :=
  match String.fromUTF8? ⟨bs.toArray⟩ with
  | some s => .ok s
  | none => .error ((faultFrom? 0 bs).getD ⟨bs.length, none⟩)

/-- Reading the bytes of a text gives the text back. -/
theorem decode_bytes (s : String) : decode (bytes s) = .ok s := by
  have h : (⟨(bytes s).toArray⟩ : ByteArray) = s.toByteArray := by
    apply ByteArray.ext
    simp [bytes, String.toUTF8]
  have hs : String.fromUTF8? s.toByteArray = some s := dif_pos s.isValidUTF8
  simp only [decode, h, hs]

end Utf8

end Text

end Ballroom
