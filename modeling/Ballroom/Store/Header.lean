import Ballroom.Fault
import Ballroom.Text.Splitting
import Ballroom.Number.Decimal

/-! # The header of a store file

A store file starts with a text of a fixed number of bytes that names its version, the
size of its slots and the number of its records, filled up with NULs.  Reading is
lenient: lines may come in any order, unknown lines are passed over and the last line of
a key counts. -/

namespace Ballroom

/-- What the header of a store file says. -/
structure Header where
  version : Nat
  slotSize : Nat
  count : Nat
  deriving DecidableEq, Repr

namespace Header

/-- The bytes that a header takes. -/
def size : Nat := 128

/-- The start of the line with the version. -/
def versionKey : String := "#VERSION="

/-- The start of the line with the size of the slots. -/
def sizeKey : String := "#RASIZE="

/-- The start of the line with the number of records. -/
def countKey : String := "#RACOUNT="

/-- The text of a header. -/
def text (h : Header) : String :=
  versionKey ++ toString h.version ++ "\n" ++ sizeKey ++ toString h.slotSize ++ "\n"
    ++ countKey ++ toString h.count ++ "\n"

/-- The bytes of a header. -/
def encode (h : Header) : Bytes :=
  let bytes := (Text.bytes h.text).take size
  bytes ++ List.replicate (size - bytes.length) 0

/-- What stands behind `key` at the start of a line. -/
def behind? (key : String) (line : List Char) : Option (List Char) :=
  if key.toList.isPrefixOf line then some (line.drop key.length) else none

/-- The numbers that the lines of a header have given so far. -/
structure Found where
  version? : Option Nat := none
  slotSize? : Option Nat := none
  count? : Option Nat := none

/-- Takes one line of a header into account.  A key without a readable number takes back
what an earlier line has given. -/
def Found.line (found : Found) (line : List Char) : Found :=
  match behind? versionKey line with
  | some v => { found with version? := Number.readNat? Number.maxUInt32 (Text.trim v) }
  | none => match behind? sizeKey line with
    | some v => { found with slotSize? := Number.readNat? Number.maxUInt64 (Text.trim v) }
    | none => match behind? countKey line with
      | some v => { found with count? := Number.readNat? Number.maxUInt32 (Text.trim v) }
      | none => found

/-- The header that a text gives, if all numbers are there and slots hold something. -/
def ofText? (s : String) : Option Header :=
  let found := (Text.lines s.toList).foldl Found.line {}
  match found.version?, found.slotSize?, found.count? with
  | some version, some slotSize, some count =>
    -- Slots without room would all start at the same place.
    if 0 < slotSize then some ⟨version, slotSize, count⟩ else none
  | _, _, _ => none

/-- Reads the bytes of a header, of which those up to the first NUL are the text. -/
def decode (bytes : Bytes) : Except StoreFault Header :=
  match Text.Utf8.decode (bytes.takeWhile (· ≠ 0)) with
  | .error fault => .error (.headerNotText fault)
  | .ok s => match ofText? s with
    | some h => .ok h
    | none => .error (.malformedHeader s)

end Header

end Ballroom
