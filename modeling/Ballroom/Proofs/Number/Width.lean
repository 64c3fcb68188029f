import Ballroom.Proofs.Number.Decimal
import Ballroom.Proofs.Text.Bytes
import Mathlib.Algebra.Order.Group.Nat

/-!
# Numbers of one width

Numbers that are written with as many digits come in the order of their texts:
`compareBytes_padded` says so of decimal numbers with leading zeros and `compareBytes_hex64` of
hexadecimal ones.  `fixedDigits` is what they have in common.  It grows by one digit at the end
(`fixedDigits_succ`), which carries the induction.
-/

namespace Ballroom

/-- Runs of one length are compared before what follows them. -/
theorem compare_append_of_length_eq {α : Type*} [Ord α] {s t : List α} (h : s.length = t.length)
    (u v : List α) : compare (s ++ u) (t ++ v) = (compare s t).then (compare u v) := by
  induction s generalizing t with
  | nil =>
    obtain rfl := List.eq_nil_of_length_eq_zero h.symm
    rfl
  | cons a s ih =>
    cases t with
    | nil => cases h
    | cons b t =>
      rw [List.cons_append, List.cons_append, List.compare_cons_cons, List.compare_cons_cons,
        ih (Nat.succ.inj h), Ordering.then_assoc]

namespace Number

variable {b width m n : Nat}

/-! ### Digits -/

/-- The digits of a number behind as many zeros as fill the width. -/
def fixedDigits (b width n : Nat) : List Char := (Nat.toDigits b n).leftpad width '0'

/-- There is at least one digit. -/
theorem fixedDigits_ne_nil (b width n : Nat) : fixedDigits b width n ≠ [] := by
  simp [fixedDigits, List.leftpad, Nat.toDigits_ne_nil]

/-- The last digit is the remainder. -/
theorem fixedDigits_succ (hb : 1 < b) (hwidth : 0 < width) (n : Nat) :
    fixedDigits b (width + 1) n =
      fixedDigits b width (n / b) ++ [Nat.digitChar (n % b)] := by
  unfold fixedDigits
  rw [Nat.toDigits_eq_if hb (n := n)]
  split
  · rename_i hlt
    -- A number of one digit has zeros in front of it.
    obtain ⟨k, rfl⟩ : ∃ k, width = k + 1 := ⟨width - 1, by omega⟩
    have hzero : Nat.toDigits b 0 = ['0'] := Nat.toDigits_of_lt_base (by omega)
    rw [Nat.div_eq_of_lt hlt, Nat.mod_eq_of_lt hlt, hzero]
    simp [List.leftpad, List.replicate_succ']
  · simp [List.leftpad]

/-- A number that fits its width has as many digits as the width says. -/
theorem length_fixedDigits (hb : 1 < b) (hwidth : 0 < width) (hn : n < b ^ width) :
    (fixedDigits b width n).length = width := by
  have hle := (Nat.length_toDigits_le_iff hb hwidth).2 hn
  rw [fixedDigits, List.length_leftpad]
  omega

/-- The digits up to that of 15 are ASCII characters. -/
theorem ascii_of_mem_fixedDigits (hb : 1 < b) (hle : b ≤ 16) {c : Char}
    (hc : c ∈ fixedDigits b width n) : c.toNat < 128 := by
  have hdigit : ∀ d < 16, (Nat.digitChar d).toNat < 128 := by decide
  rw [fixedDigits, List.leftpad, List.mem_append] at hc
  rcases hc with hc | hc
  · rw [List.eq_of_mem_replicate hc]
    decide
  · -- The last digit is that of the remainder; the others are those of the quotient.
    induction n using Nat.strongRecOn with
    | ind n ih =>
      rw [Nat.toDigits_eq_if hb] at hc
      split at hc
      · rename_i hlt
        obtain rfl := List.mem_singleton.1 hc
        exact hdigit n (by omega)
      · rename_i hge
        rw [List.mem_append, List.mem_singleton] at hc
        rcases hc with hc | rfl
        · exact ih (n / b) (Nat.div_lt_self (by omega) hb) hc
        · exact hdigit (n % b) (lt_of_lt_of_le (Nat.mod_lt n (by omega)) hle)

/-- Each digit is one byte. -/
theorem bytes_fixedDigits (hb : 1 < b) (hle : b ≤ 16) (width n : Nat) :
    Text.bytes (String.ofList (fixedDigits b width n)) =
      (fixedDigits b width n).map fun c => c.val.toUInt8 := by
  rw [Text.bytes_eq_map_of_ascii, String.toList_ofList]
  intro c hc
  rw [String.toList_ofList] at hc
  exact ascii_of_mem_fixedDigits hb hle hc

/-! ### Reading -/

/-- To the base 10 they are decimal digits. -/
theorem isDigit_of_mem_fixedDigits {c : Char} (h : c ∈ fixedDigits 10 width n) : c.isDigit := by
  rw [fixedDigits, ← toList_toString] at h
  exact isDigit_of_mem_leftpad h

/-- Leading zeros do not change the number that is read. -/
theorem readDigits?_fixedDigits (width n : Nat) :
    readDigits? (fixedDigits 10 width n) = some n := by
  have hne := fixedDigits_ne_nil 10 width n
  have hall : (fixedDigits 10 width n).all Char.isDigit :=
    List.all_eq_true.2 fun _ hc => isDigit_of_mem_fixedDigits hc
  -- Zeros in front add nothing to the value.
  have hvalue : Nat.ofDigitChars 10 (fixedDigits 10 width n) 0 = n := by
    rw [fixedDigits, List.leftpad, Nat.ofDigitChars_append, Nat.ofDigitChars_replicate_zero,
      Nat.mul_zero, Nat.ofDigitChars_toDigits (by decide) (by decide)]
  simp [readDigits?, hne, hall, hvalue]

/-! ### Order -/

/-- A number is compared by what it is without its last digit, and then by that digit. -/
theorem compare_div_then_mod (b m n : Nat) :
    (compare (m / b) (n / b)).then (compare (m % b) (n % b)) = compare m n := by
  have hm := Nat.div_add_mod m b
  have hn := Nat.div_add_mod n b
  -- The quotients decide unless they are equal, and then the remainders do.
  rcases Nat.lt_trichotomy (m / b) (n / b) with hlt | heq | hgt
  · rw [Nat.compare_eq_lt.2 hlt, Nat.compare_eq_lt.2 (Nat.lt_of_div_lt_div hlt)]
    rfl
  · rw [Nat.compare_eq_eq.2 heq]
    rw [heq] at hm
    rcases Nat.lt_trichotomy (m % b) (n % b) with hlt | heq | hgt
    · rw [Nat.compare_eq_lt.2 hlt, Nat.compare_eq_lt.2 (by omega)]
      rfl
    · rw [Nat.compare_eq_eq.2 heq, Nat.compare_eq_eq.2 (by omega)]
      rfl
    · rw [Nat.compare_eq_gt.2 hgt, Nat.compare_eq_gt.2 (by omega)]
      rfl
  · rw [Nat.compare_eq_gt.2 hgt, Nat.compare_eq_gt.2 (Nat.lt_of_div_lt_div hgt)]
    rfl

/-- The characters of digits are in the order of the digits. -/
theorem compare_digitChar : ∀ m < 16, ∀ n < 16,
    compare (Nat.digitChar m).val.toUInt8 (Nat.digitChar n).val.toUInt8 = compare m n := by
  decide

/-- Numbers of one width come in the order of their digits. -/
theorem compareBytes_fixedDigits (hb : 1 < b) (hle : b ≤ 16) (hwidth : 0 < width)
    (hm : m < b ^ width) (hn : n < b ^ width) :
    Text.compareBytes (String.ofList (fixedDigits b width m))
      (String.ofList (fixedDigits b width n)) = compare m n := by
  rw [Text.compareBytes, bytes_fixedDigits hb hle, bytes_fixedDigits hb hle]
  -- One digit at the end at a time: the quotients are of one width less.
  induction width, hwidth using Nat.le_induction generalizing m n with
  | base =>
    rw [Nat.pow_one] at hm hn
    have hone : ∀ {k}, k < b → fixedDigits b 1 k = [Nat.digitChar k] := by
      intro k hk
      rw [fixedDigits, Nat.toDigits_of_lt_base hk]
      rfl
    rw [hone hm, hone hn, List.map_singleton, List.map_singleton, List.compare_cons_cons,
      compare_digitChar m (by omega) n (by omega)]
    cases compare m n <;> rfl
  | succ width hwidth ih =>
    have hdiv : ∀ {k}, k < b ^ (width + 1) → k / b < b ^ width := by
      intro k hk
      exact Nat.div_lt_of_lt_mul (by rwa [← Nat.pow_succ'])
    have hmod : ∀ k, k % b < 16 := fun k => lt_of_lt_of_le (Nat.mod_lt k (by omega)) hle
    rw [fixedDigits_succ hb hwidth, fixedDigits_succ hb hwidth, List.map_append, List.map_append,
      compare_append_of_length_eq, ih (hdiv hm) (hdiv hn), List.map_singleton, List.map_singleton,
      List.compare_cons_cons, compare_digitChar _ (hmod m) _ (hmod n), ← compare_div_then_mod b m n]
    · cases compare (m % b) (n % b) <;> rfl
    · rw [List.length_map, List.length_map, length_fixedDigits hb hwidth (hdiv hm),
        length_fixedDigits hb hwidth (hdiv hn)]

/-! ### Written numbers -/

/-- A padded natural number has its digits behind zeros. -/
theorem padded_natCast (width n : Nat) :
    padded width n = String.ofList (fixedDigits 10 width n) := by
  rw [padded, if_neg (by omega), Int.natAbs_natCast, toList_toString, fixedDigits]

/-- A padded number that fits its width is as long as that. -/
theorem length_bytes_padded (hwidth : 0 < width) (hn : n < 10 ^ width) :
    (Text.bytes (padded width n)).length = width := by
  rw [padded_natCast, bytes_fixedDigits (by decide) (by decide), List.length_map,
    length_fixedDigits (by decide) hwidth hn]

/-- Padded numbers that fit their width come in the order of the numbers. -/
theorem compareBytes_padded (hwidth : 0 < width) (hm : m < 10 ^ width) (hn : n < 10 ^ width) :
    Text.compareBytes (padded width m) (padded width n) = compare m n := by
  rw [padded_natCast, padded_natCast,
    compareBytes_fixedDigits (by decide) (by decide) hwidth hm hn]

/-- A 64-bit number in hexadecimal has sixteen bytes. -/
theorem length_bytes_hex64 (hn : n ≤ maxUInt64) : (Text.bytes (hex64 n)).length = 16 := by
  have hlt : n < 16 ^ 16 := Nat.lt_of_le_of_lt hn (by decide)
  rw [hex64, ← fixedDigits, bytes_fixedDigits (by decide) (by decide), List.length_map,
    length_fixedDigits (by decide) (by decide) hlt]

/-- 64-bit numbers in hexadecimal come in the order of the numbers. -/
theorem compareBytes_hex64 (hm : m ≤ maxUInt64) (hn : n ≤ maxUInt64) :
    Text.compareBytes (hex64 m) (hex64 n) = compare m n := by
  have hlt : ∀ {k}, k ≤ maxUInt64 → k < 16 ^ 16 := fun hk => Nat.lt_of_le_of_lt hk (by decide)
  rw [hex64, hex64, ← fixedDigits, ← fixedDigits,
    compareBytes_fixedDigits (by decide) (by decide) (by decide) (hlt hm) (hlt hn)]

end Number

end Ballroom
