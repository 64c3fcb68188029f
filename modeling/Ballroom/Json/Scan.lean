import Ballroom.Json.Value

/-! # The tokens of JSON

Reading texts, numbers and words from the front of a run of characters, and skipping
whole values that nobody asked for.  A failure says only of which sort it is: the input
is malformed, it ends too early, or it is JSON that does not fit what is wanted. -/

namespace Ballroom.Json

/-- Why a text was not read. -/
inductive Fault where
  /-- The text is not JSON. -/
  | malformed
  /-- The text ends inside a value. -/
  | unfinished
  /-- The text is JSON, but not what was asked for. -/
  | mismatch
  deriving DecidableEq, Repr

/-- What was read and the characters behind it. -/
abbrev Scanned (α : Type) := Except Fault (α × List Char)

namespace Scan

/-- The blanks of JSON. -/
def isGap (c : Char) : Bool := c == ' ' || c == '\n' || c == '\t' || c == '\r'

/-- The characters from the first one that is no blank. -/
def skipGap (cs : List Char) : List Char := cs.dropWhile isGap

/-- Reads the given letters. -/
def word : List Char → List Char → Except Fault (List Char)
  | [], cs => .ok cs
  | _ :: _, [] => .error .unfinished
  | w :: ws, c :: cs => if w = c then word ws cs else .error .malformed

/-- The value of a hexadecimal digit. -/
def hexDigit? (c : Char) : Option Nat :=
  if '0' ≤ c ∧ c ≤ '9' then some (c.toNat - 48)
  else if 'a' ≤ c ∧ c ≤ 'f' then some (c.toNat - 87)
  else if 'A' ≤ c ∧ c ≤ 'F' then some (c.toNat - 55)
  else none

/-- The four hexadecimal digits of an escape.  Fewer than four bytes are an early end. -/
def hexFour (cs : List Char) : Except Fault Nat :=
  match cs with
  | a :: b :: c :: d :: _ =>
    match hexDigit? a, hexDigit? b, hexDigit? c, hexDigit? d with
    | some a, some b, some c, some d => .ok (((a * 16 + b) * 16 + c) * 16 + d)
    | _, _, _, _ => .error .malformed
  | cs => if (String.ofList cs).utf8ByteSize < 4 then .error .unfinished else .error .malformed

/-- The second half of a character that is written as a pair of escapes, the first half
being `high`, with the number of characters it takes. -/
def lowHalf (high : Nat) (cs : List Char) : Except Fault (Char × Nat) :=
  match cs with
  | [] => .error .unfinished
  | ['\\'] => .error .unfinished
  | '\\' :: 'u' :: rest => do
    let low ← hexFour rest
    if low < 0xDC00 || 0xDFFF < low then .error .malformed
    else .ok (Char.ofNat ((high - 0xD800) * 0x400 + (low - 0xDC00) + 0x10000), 6)
  | _ => .error .malformed

/-- The character that is written behind a backslash, and the number of characters that
its escape takes.  Half of a pair stands for no character. -/
def escaped (cs : List Char) : Except Fault (Char × Nat) :=
  match cs with
  | [] => .error .unfinished
  | '"' :: _ => .ok ('"', 1)
  | '\\' :: _ => .ok ('\\', 1)
  | '/' :: _ => .ok ('/', 1)
  | 'b' :: _ => .ok ('\x08', 1)
  | 'f' :: _ => .ok ('\x0c', 1)
  | 'n' :: _ => .ok ('\n', 1)
  | 'r' :: _ => .ok ('\r', 1)
  | 't' :: _ => .ok ('\t', 1)
  | 'u' :: rest => do
    let n ← hexFour rest
    if 0xDC00 ≤ n && n ≤ 0xDFFF then .error .malformed
    else if 0xD800 ≤ n && n ≤ 0xDBFF then
      -- The first half of a pair: its second half has to follow at once.
      let (c, taken) ← lowHalf n (rest.drop 4)
      .ok (c, 5 + taken)
    else .ok (Char.ofNat n, 5)
  | _ => .error .malformed

/-- The characters of a text whose opening quote has been read. -/
def textChars (cs : List Char) : Scanned (List Char) :=
  match cs with
  | [] => .error .unfinished
  | '"' :: rest => .ok ([], rest)
  | '\\' :: rest =>
    match escaped rest with
    | .error e => .error e
    | .ok (c, taken) => (textChars (rest.drop taken)).map fun (s, rest) => (c :: s, rest)
  | c :: rest =>
    if c.toNat < 0x20 then .error .malformed
    else (textChars rest).map fun (s, rest) => (c :: s, rest)
termination_by cs.length
decreasing_by all_goals simp; try omega

/-- A text whose opening quote has been read. -/
def text (cs : List Char) : Scanned String :=
  (textChars cs).map fun (s, rest) => (String.ofList s, rest)

/-- Skips a text whose opening quote has been read; a lone half of a pair is passed over. -/
def skipText (cs : List Char) : Except Fault (List Char) :=
  match cs with
  | [] => .error .unfinished
  | '"' :: rest => .ok rest
  | '\\' :: 'u' :: rest =>
    match hexFour rest with
    | .error e => .error e
    -- Nobody asks which character it is, so it need not be one.
    | .ok _ => skipText (rest.drop 4)
  | '\\' :: rest =>
    match escaped rest with
    | .error e => .error e
    | .ok _ => skipText (rest.drop 1)
  | c :: rest => if c.toNat < 0x20 then .error .malformed else skipText rest
termination_by cs.length
decreasing_by all_goals simp; try omega

/-- Skips digits. -/
def skipDigits (cs : List Char) : List Char := cs.dropWhile Char.isDigit

/-- Skips the power of ten behind an exponent mark. -/
def skipPower (cs : List Char) : Except Fault (List Char) :=
  let cs := match cs with
    | '+' :: rest => rest
    | '-' :: rest => rest
    | _ => cs
  match cs with
  | c :: rest => if c.isDigit then .ok (skipDigits rest) else .error .malformed
  | [] => .error .malformed

/-- Skips a number whose sign has been read. -/
def skipNumber (cs : List Char) : Except Fault (List Char) := do
  let rest ← match cs with
    | '0' :: c :: rest => if c.isDigit then .error .malformed else .ok (c :: rest)
    | c :: rest => if c.isDigit then .ok (skipDigits rest) else .error .malformed
    | [] => .error .malformed
  match rest with
  | '.' :: c :: rest =>
    if c.isDigit then
      match skipDigits rest with
      | 'e' :: rest => skipPower rest
      | 'E' :: rest => skipPower rest
      | rest => .ok rest
    else .error .malformed
  | ['.'] => .error .malformed
  | 'e' :: rest => skipPower rest
  | 'E' :: rest => skipPower rest
  | rest => .ok rest

/-- Powers of ten up to this one are single factors. -/
def maxFactor : Nat := 308

/-- `10 ^ n`, rounded. -/
def powerOfTen (n : Nat) : Number.Binary64 :=
  (Number.Binary64.ofQuotient? false (Nat.pow 10 n) 1).getD (.zero false)

/-- `x / 10 ^ n`: rounded quotients by the largest factor as long as `n` is above it, and
then one by what is left. -/
def scaleDown (x : Number.Binary64) (n : Nat) : Number.Binary64 :=
  if n ≤ maxFactor then (x.div? (powerOfTen n)).getD x
  else if x.mantissa = 0 then x
  else scaleDown ((x.div? (powerOfTen maxFactor)).getD x) (n - maxFactor)
termination_by n
decreasing_by
  have : maxFactor = 308 := rfl
  omega

/-- `x · 10 ^ power`, where a positive power is one rounded product.  What is beyond every
finite number is no number. -/
def scale (x : Number.Binary64) (power : Int) : Except Fault Number.Binary64 :=
  if power < 0 then .ok (scaleDown x (-power).toNat)
  else if x.mantissa = 0 then .ok x
  else if maxFactor < power.toNat then .error .malformed
  else match x.mul? (powerOfTen power.toNat) with
    | some y => .ok y
    | none => .error .malformed

/-- A floating-point number from its sign, its significant digits as a number of 64 bits
and a power of ten.  The digits are rounded before they are scaled. -/
def floating (negative : Bool) (digits : Nat) (power : Int) : Except Fault Number := do
  let x := (Number.Binary64.ofQuotient? false digits 1).getD (.zero false)
  let y ← scale x power
  .ok (.floating ⟨negative, y.mantissa, y.exponent⟩)

/-- A power of ten is kept in 32 bits. -/
def maxPower : Nat := 0x7FFFFFFF

/-- The power of ten behind an exponent mark, added to `start`.  One that does not fit
leaves zero or is an error, by its sign. -/
def numberPower (negative : Bool) (digits : Nat) (start : Int) (cs : List Char) : Scanned Number :=
  let (up, cs) := match cs with
    | '+' :: rest => (true, rest)
    | '-' :: rest => (false, rest)
    | _ => (true, cs)
  match cs with
  | [] => .error .unfinished
  | c :: _ =>
    if !c.isDigit then .error .malformed
    else
      let power := Nat.ofDigitChars 10 (cs.takeWhile Char.isDigit) 0
      let rest := skipDigits cs
      if power ≤ maxPower then
        (floating negative digits (if up then start + power else start - power)).map (·, rest)
      -- Zero stays zero, and what is small enough becomes zero.
      else if digits ≠ 0 && up then .error .malformed
      else .ok (.floating (.zero negative), rest)

/-- The end of a floating-point number: a power of ten, if there is one. -/
def numberEnd (negative : Bool) (digits : Nat) (power : Int) (cs : List Char) : Scanned Number :=
  match cs with
  | 'e' :: rest => numberPower negative digits power rest
  | 'E' :: rest => numberPower negative digits power rest
  | rest => (floating negative digits power).map (·, rest)

/-- Whether another digit would lead beyond 64 bits. -/
def isFull (digits : Nat) (c : Char) : Bool :=
  Number.maxUInt64 < digits * 10 + (c.toNat - 48)

/-- The digits behind the point, as many as 64 bits hold; the others are passed over. -/
def fraction (negative : Bool) (digits : Nat) (power : Int) : List Char → Scanned Number
  | c :: rest =>
    if c.isDigit then
      if isFull digits c then numberEnd negative digits power (skipDigits rest)
      else fraction negative (digits * 10 + (c.toNat - 48)) (power - 1) rest
    else numberEnd negative digits power (c :: rest)
  | [] => numberEnd negative digits power []

/-- The part of a number behind the point, which has at least one digit. -/
def afterPoint (negative : Bool) (digits : Nat) (power : Int) (cs : List Char) : Scanned Number :=
  match cs with
  | [] => .error .unfinished
  | c :: _ =>
    if !c.isDigit then .error .malformed
    else if isFull digits c then numberEnd negative digits power (skipDigits cs)
    else fraction negative digits power cs

/-- A number whose whole part is complete: whole if nothing follows and 64 bits hold it.
Zero with a minus sign is kept as a floating-point number. -/
def numberTail (negative : Bool) (digits : Nat) (cs : List Char) : Scanned Number :=
  match cs with
  | '.' :: rest => afterPoint negative digits 0 rest
  | 'e' :: rest => numberPower negative digits 0 rest
  | 'E' :: rest => numberPower negative digits 0 rest
  | rest =>
    if !negative then .ok (.whole digits, rest)
    else if digits = 0 || 0x8000000000000000 < digits then (floating true digits 0).map (·, rest)
    else .ok (.whole (-(digits : Int)), rest)

/-- A whole part that is longer than 64 bits: the digits that do not fit count as a power
of ten. -/
def longNumber (negative : Bool) (digits : Nat) (cs : List Char) : Scanned Number :=
  let dropped := (cs.takeWhile Char.isDigit).length
  match skipDigits cs with
  | '.' :: rest => afterPoint negative digits dropped rest
  | rest => numberEnd negative digits dropped rest

/-- The digits of a whole part. -/
def wholePart (negative : Bool) (digits : Nat) : List Char → Scanned Number
  | c :: rest =>
    if c.isDigit then
      if isFull digits c then longNumber negative digits (c :: rest)
      else wholePart negative (digits * 10 + (c.toNat - 48)) rest
    else numberTail negative digits (c :: rest)
  | [] => numberTail negative digits []

/-- A number whose sign has been read.  A leading zero stands alone. -/
def number (negative : Bool) (cs : List Char) : Scanned Number :=
  match cs with
  | [] => .error .unfinished
  -- A zero is a whole part of its own, so that no digit may follow.
  | '0' :: c :: rest =>
    if c.isDigit then .error .malformed else numberTail negative 0 (c :: rest)
  | c :: rest =>
    if c.isDigit then wholePart negative (c.toNat - 48) rest else .error .malformed

/-- Skips a value of any depth.  Every step takes a character, so the number of characters
bounds the steps. -/
def skipValue : Nat → List Char → Except Fault (List Char)
  | 0, _ => .error .unfinished
  | steps + 1, cs =>
    match skipGap cs with
    | [] => .error .unfinished
    | 'n' :: rest => word "ull".toList rest
    | 't' :: rest => word "rue".toList rest
    | 'f' :: rest => word "alse".toList rest
    | '"' :: rest => skipText rest
    | '-' :: rest => skipNumber rest
    | '[' :: rest =>
      match skipGap rest with
      | [] => .error .unfinished
      | ']' :: rest => .ok rest
      | rest => skipItems steps rest
    | '\x7b' :: rest =>
      match skipGap rest with
      | [] => .error .unfinished
      | '\x7d' :: rest => .ok rest
      | rest => skipMembers steps rest
    | c :: rest => if c.isDigit then skipNumber (c :: rest) else .error .malformed
where
  /-- Skips the items of a list up to its end. -/
  skipItems : Nat → List Char → Except Fault (List Char)
    | 0, _ => .error .unfinished
    | steps + 1, cs =>
      match skipValue steps cs with
      | .error e => .error e
      | .ok rest =>
        match skipGap rest with
        | [] => .error .unfinished
        | ',' :: rest => skipItems steps rest
        | ']' :: rest => .ok rest
        | _ => .error .malformed
  /-- Skips the members of an object up to its end. -/
  skipMembers : Nat → List Char → Except Fault (List Char)
    | 0, _ => .error .unfinished
    | steps + 1, cs =>
      match skipGap cs with
      | [] => .error .unfinished
      | '"' :: rest =>
        match skipText rest with
        | .error e => .error e
        | .ok rest =>
          match skipGap rest with
          | [] => .error .unfinished
          | ':' :: rest =>
            match skipValue steps rest with
            | .error e => .error e
            | .ok rest =>
              match skipGap rest with
              | [] => .error .unfinished
              | ',' :: rest => skipMembers steps rest
              | '\x7d' :: rest => .ok rest
              | _ => .error .malformed
          | _ => .error .malformed
      | _ => .error .malformed

end Scan

end Ballroom.Json
