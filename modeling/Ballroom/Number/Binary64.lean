import Ballroom.Number.Decimal

/-! # Binary floating point, exactly

Numbers of the 64-bit binary format as a sign, a whole mantissa and a power of two, and
the one rounding that everything else uses: the nearest such number to a quotient of two
whole numbers, the even mantissa winning a tie.  All arithmetic is on whole numbers. -/

namespace Ballroom.Number

/-- The finite number `± mantissa · 2 ^ exponent`.  In a normal number the mantissa has 53
bits; a subnormal number has a shorter one and the least exponent. -/
structure Binary64 where
  negative : Bool
  mantissa : Nat
  exponent : Int
  deriving DecidableEq, Repr

namespace Binary64

/-- The bits of a mantissa. -/
def precision : Nat := 53

/-- The least exponent. -/
def minExponent : Int := -1074

/-- The greatest exponent. -/
def maxExponent : Int := 971

/-- Zero with a sign. -/
def zero (negative : Bool) : Binary64 := ⟨negative, 0, minExponent⟩

/-- `n / d` rounded to a whole number, a half to the even neighbour. -/
def divideEven (n d : Nat) : Nat :=
  let q := n / d
  let r := n % d
  if 2 * r < d then q
  else if d < 2 * r then q + 1
  else if q % 2 = 0 then q else q + 1

/-- The quotient `(n / d) / 2 ^ e` as a quotient of whole numbers. -/
def scaled (n d : Nat) (e : Int) : Nat × Nat :=
  if 0 ≤ e then (n, d * Nat.pow 2 e.toNat) else (n * Nat.pow 2 (-e).toNat, d)

/-- The exponent at which `n / d` has a mantissa of 53 bits before rounding, or the least
exponent if that is greater. -/
def exponentOf (n d : Nat) : Int :=
  let guess : Int := (n.log2 : Int) - d.log2 - precision
  -- The guess leaves 53 or 54 bits.
  let (a, b) := scaled n d guess
  let exact := if a / b < Nat.pow 2 precision then guess else guess + 1
  max minExponent exact

/-- The mantissa and exponent nearest to `n / d`; `none` if that is beyond every finite
number. -/
def nearest? (n d : Nat) : Option (Nat × Int) :=
  if n = 0 then some (0, minExponent)
  else
    let e := exponentOf n d
    let (a, b) := scaled n d e
    let m := divideEven a b
    -- Rounding up may take one more bit, which is the next power of two.
    let (m, e) := if m = Nat.pow 2 precision then (Nat.pow 2 (precision - 1), e + 1) else (m, e)
    if e ≤ maxExponent then some (m, e) else none

/-- The number nearest to `± n / d`; `none` if that is beyond every finite number. -/
def ofQuotient? (negative : Bool) (n d : Nat) : Option Binary64 :=
  (nearest? n d).map fun (m, e) => ⟨negative, m, e⟩

/-- The size of the number as a quotient of whole numbers. -/
def magnitude (x : Binary64) : Nat × Nat :=
  if 0 ≤ x.exponent then (x.mantissa * Nat.pow 2 x.exponent.toNat, 1)
  else (x.mantissa, Nat.pow 2 (-x.exponent).toNat)

/-- The product, rounded; `none` if it is beyond every finite number. -/
def mul? (x y : Binary64) : Option Binary64 :=
  let (a, b) := x.magnitude
  let (c, d) := y.magnitude
  ofQuotient? (x.negative != y.negative) (a * c) (b * d)

/-- The quotient by a number that is not zero, rounded. -/
def div? (x y : Binary64) : Option Binary64 :=
  let (a, b) := x.magnitude
  let (c, d) := y.magnitude
  ofQuotient? (x.negative != y.negative) (a * d) (b * c)

/-- The nearest whole number, a half going away from zero. -/
def round (x : Binary64) : Int :=
  let (n, d) := x.magnitude
  let r : Int := ((2 * n + d) / (2 * d) : Nat)
  if x.negative then -r else r

end Binary64

/-- What a text in the notation of floating-point numbers denotes. -/
inductive FloatText where
  | finite (value : Binary64)
  | infinite (negative : Bool)
  | notANumber
  deriving DecidableEq, Repr

namespace FloatText

/-- `± digits · 10 ^ power`, rounded to the nearest number.  A power that decides between
zero and infinity by itself is not computed. -/
def ofDecimal (negative : Bool) (digits : Nat) (power : Int) : FloatText :=
  let places : Int := (digits.log2 : Int) * 30103 / 100000
  if digits = 0 then .finite (.zero negative)
  else if 400 < places + power then .infinite negative
  else if places + power < -400 then .finite (.zero negative)
  else
    let value? :=
      if 0 ≤ power then Binary64.ofQuotient? negative (digits * Nat.pow 10 power.toNat) 1
      else Binary64.ofQuotient? negative digits (Nat.pow 10 (-power).toNat)
    match value? with
    | some x => .finite x
    | none => .infinite negative

/-- The power of ten behind an exponent mark: an optional sign and digits up to the end. -/
def readPower? : List Char → Option Int
  | '-' :: cs => (readDigits? cs).map fun n => -(n : Int)
  | '+' :: cs => (readDigits? cs).map fun n => (n : Int)
  | cs => (readDigits? cs).map fun n => (n : Int)

/-- Digits with an optional point among them and an optional power of ten behind. -/
def readUnsigned? (negative : Bool) (cs : List Char) : Option FloatText :=
  let (whole, rest) := cs.span Char.isDigit
  let (fraction, rest) := match rest with
    | '.' :: rest => rest.span Char.isDigit
    | _ => ([], rest)
  if whole.isEmpty && fraction.isEmpty then none
  else
    let digits := Nat.ofDigitChars 10 (whole ++ fraction) 0
    let power? : Option Int := match rest with
      | [] => some 0
      | 'e' :: rest => readPower? rest
      | 'E' :: rest => readPower? rest
      | _ => none
    power?.map fun power => ofDecimal negative digits (power - fraction.length)

/-- The words for what is not finite, in any case. -/
def readWord? (negative : Bool) (cs : List Char) : Option FloatText :=
  let word := String.ofList (cs.map Char.toLower)
  if word == "inf" || word == "infinity" then some (.infinite negative)
  else if word == "nan" then some .notANumber
  else none

/-- The number that the whole text denotes, if it is in the notation. -/
def read? (cs : List Char) : Option FloatText :=
  let (negative, cs) := match cs with
    | '-' :: rest => (true, rest)
    | '+' :: rest => (false, rest)
    | _ => (false, cs)
  (readUnsigned? negative cs).or (readWord? negative cs)

/-- The 64-bit whole number nearest to the value, a half going away from zero; the ends of
the range stand for what lies beyond them and zero for what is not a number. -/
def toInt64 : FloatText → Int64
  | .finite x => clampInt64 x.round
  | .infinite negative => if negative then Int64.minValue else Int64.maxValue
  | .notANumber => 0

end FloatText

end Ballroom.Number
