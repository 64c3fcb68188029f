/-! # Whole numbers in decimal

How a whole number is read from text and how it is written with leading zeros.  A
reader takes one sign and ASCII digits and nothing else, and refuses a number outside
the width it is asked for. -/

namespace Ballroom.Number

/-- The largest 32-bit number. -/
def maxUInt32 : Nat := 0xFFFFFFFF

/-- The largest 64-bit number. -/
def maxUInt64 : Nat := 0xFFFFFFFFFFFFFFFF

/-- The number that a non-empty run of ASCII digits spells. -/
def readDigits? (cs : List Char) : Option Nat :=
  if cs ≠ [] && cs.all Char.isDigit then some (Nat.ofDigitChars 10 cs 0) else none

/-- A number without sign or with a plus sign, at most `bound`. -/
def readNat? (bound : Nat) (cs : List Char) : Option Nat :=
  let digits := match cs with
    | '+' :: rest => rest
    | _ => cs
  (readDigits? digits).filter (· ≤ bound)

/-- A number with an optional sign that fits 64 bits. -/
def readInt64? (cs : List Char) : Option Int64 :=
  let value? : Option Int := match cs with
    | '-' :: rest => (readDigits? rest).map fun n => -(n : Int)
    | '+' :: rest => (readDigits? rest).map fun n => (n : Int)
    | _ => (readDigits? cs).map fun n => (n : Int)
  (value?.filter fun n => Int64.minValue.toInt ≤ n ∧ n ≤ Int64.maxValue.toInt).map Int64.ofInt

/-- The 64-bit number nearest to `n`. -/
def clampInt64 (n : Int) : Int64 :=
  Int64.ofInt (max Int64.minValue.toInt (min Int64.maxValue.toInt n))

/-- A number in at least `width` characters: zeros stand between the sign, which counts,
and the digits. -/
def padded (width : Nat) (n : Int) : String :=
  let digits := (toString n.natAbs).toList
  if n < 0 then String.ofList ('-' :: digits.leftpad (width - 1) '0')
  else String.ofList (digits.leftpad width '0')

/-- The sixteen lower-case hexadecimal digits of a 64-bit number. -/
def hex64 (n : Nat) : String := String.ofList ((Nat.toDigits 16 n).leftpad 16 '0')

/-- The digits that a number is written with read as the number. -/
theorem readDigits?_toString (n : Nat) : readDigits? (toString n).toList = some n := by
  have hne : (Nat.toDigits 10 n) ≠ [] := Nat.toDigits_ne_nil
  have hall : (Nat.toDigits 10 n).all Char.isDigit := by
    simp only [List.all_eq_true]
    exact fun c hc => Nat.isDigit_of_mem_toDigits (by decide) (by decide) hc
  simp [readDigits?, hne, hall, Nat.ofDigitChars_toDigits]

end Ballroom.Number
