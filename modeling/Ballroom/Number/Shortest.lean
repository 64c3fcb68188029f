import Ballroom.Number.Binary64

/-! # The shortest decimal of a floating-point number

`Shortest.decimal` finds the fewest digits that read back as the number: it tries the
decimal grids from one digit upward, and on each the two points next to the number.  Of
two points that both read back the nearer one is taken.  `Shortest.text` then writes the
digits, positionally for moderate powers of ten and with a signed exponent elsewhere. -/

namespace Ballroom.Number.Shortest

/-- The numbers that round to `x`, as an interval of quotients over `den`: from `low` to
`high`, the ends included iff `closed`. -/
structure Interval where
  low : Nat
  value : Nat
  high : Nat
  den : Nat
  closed : Bool

/-- Half of the gap to either neighbour belongs to a number; below a power of two the
lower gap is half as wide. -/
def interval (x : Binary64) : Interval :=
  let (n, d) := x.magnitude
  let unit := if 0 ≤ x.exponent then Nat.pow 2 x.exponent.toNat else 1
  let narrow := x.mantissa = Nat.pow 2 (Binary64.precision - 1) ∧ Binary64.minExponent < x.exponent
  -- Quarters of the unit make both half gaps whole.
  { low := 4 * n - (if narrow then unit else 2 * unit)
    value := 4 * n
    high := 4 * n + 2 * unit
    den := 4 * d
    closed := x.mantissa % 2 = 0 }

/-- `c · 10 ^ s` and the interval's numerators over one denominator. -/
def onGrid (i : Interval) (c : Nat) (s : Int) : Nat × Nat :=
  if 0 ≤ s then (c * Nat.pow 10 s.toNat * i.den, 1) else (c * i.den, Nat.pow 10 (-s).toNat)

/-- Whether `c · 10 ^ s` rounds to the number. -/
def readsBack (i : Interval) (c : Nat) (s : Int) : Bool :=
  let (a, b) := onGrid i c s
  if i.closed then i.low * b ≤ a && a ≤ i.high * b else i.low * b < a && a < i.high * b

/-- How far `c · 10 ^ s` lies from the number, in a unit that depends on `s` only. -/
def distance (i : Interval) (c : Nat) (s : Int) : Nat :=
  let (a, b) := onGrid i c s
  if a ≤ i.value * b then i.value * b - a else a - i.value * b

/-- The greatest multiple of `10 ^ s` that is not above the number, divided by `10 ^ s`. -/
def below (i : Interval) (s : Int) : Nat :=
  if 0 ≤ s then i.value / (i.den * Nat.pow 10 s.toNat)
  else i.value * Nat.pow 10 (-s).toNat / i.den

/-- The point of the grid of spacing `10 ^ s` that reads back, if there is one; of two the
nearer, and the even one if they are equally near. -/
def pick? (i : Interval) (s : Int) : Option Nat :=
  let c := below i s
  match c != 0 && readsBack i c s, readsBack i (c + 1) s with
  | false, false => none
  | true, false => some c
  | false, true => some (c + 1)
  | true, true =>
    let near := distance i c s
    let far := distance i (c + 1) s
    if near < far || (near == far && c % 2 == 0) then some c else some (c + 1)

/-- The power of ten of the leading digit. -/
def leadingPower (i : Interval) : Int :=
  let guess : Int := ((i.value.log2 : Int) - i.den.log2) * 30103 / 100000
  let fits (s : Int) : Bool := 1 ≤ below i s && below i s ≤ 9
  ([guess - 1, guess, guess + 1].find? fits).getD guess

/-- The grids of one, two, … digits, tried in turn. -/
def search (i : Interval) (lead : Int) : Nat → Nat → Option (Nat × Int)
  | 0, _ => none
  | tries + 1, digits =>
    -- The grid on which the leading digit is followed by `digits` more.
    let s := lead - digits
    match pick? i s with
    | some c => some (c, s)
    | none => search i lead tries (digits + 1)

/-- The shortest `c · 10 ^ s` that reads back as a number that is not zero.  A point that
was found one grid too early, at the next power of ten, loses its zero. -/
def decimal (x : Binary64) : Nat × Int :=
  let i := interval x
  let (c, s) := (search i (leadingPower i) 18 0).getD (x.mantissa, 0)
  if c % 10 = 0 then (c / 10, s + 1) else (c, s)

/-- The choices of the written form. -/
structure Form where
  /-- The least power of the leading digit that is written positionally. -/
  minPositional : Int
  /-- The greatest power of the leading digit that is written positionally. -/
  maxPositional : Int

/-- Powers from -5 to 15 are written positionally; every positional number has a point
with at least one digit behind it, and every exponent a sign. -/
def form : Form := ⟨-5, 15⟩

/-- Writes the digits of `c` with the leading one at the power `lead` of ten. -/
def write (c : Nat) (lead : Int) : String :=
  let digits := (toString c).toList
  if form.minPositional ≤ lead ∧ lead ≤ form.maxPositional then
    if lead < 0 then
      String.ofList ('0' :: '.' :: List.replicate (-lead - 1).toNat '0' ++ digits)
    else
      let whole := lead.toNat + 1
      if digits.length ≤ whole then
        String.ofList (digits ++ List.replicate (whole - digits.length) '0' ++ ['.', '0'])
      else String.ofList (digits.take whole ++ '.' :: digits.drop whole)
  else
    let head := match digits with
      | [] => []
      | [d] => [d]
      | d :: rest => d :: '.' :: rest
    let sign := if lead < 0 then '-' else '+'
    String.ofList (head ++ 'e' :: sign :: (toString lead.natAbs).toList)

/-- The shortest text that reads back as the number. -/
def text (x : Binary64) : String :=
  let sign := if x.negative then "-" else ""
  if x.mantissa = 0 then sign ++ "0.0"
  else
    let (c, s) := decimal x
    sign ++ write c (s + (toString c).length - 1)

end Ballroom.Number.Shortest
