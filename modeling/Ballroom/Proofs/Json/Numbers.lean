import Ballroom.Json.Scan
import Ballroom.Proofs.Number.Decimal

/-!
# Reading back numbers

A number that is read from a text is read from the text with more behind it as well, if what is
behind is no part of a number (`Ends`), and a whole one has at most 64 bits
(`readsNumber_number`).  Each reader of a part of a number is shown to do so from those that it
calls.  A whole number of 64 bits is read back from its text
(`number_toString_of_nonneg`, `number_toString_of_neg`).
-/

namespace Ballroom.Json

/-- The whole numbers of 64 bits, with or without sign, and all floating-point ones. -/
def Number.Fits : Number → Prop
  | .whole n => -0x8000000000000000 ≤ n ∧ n ≤ Ballroom.Number.maxUInt64
  | .floating _ => True

namespace Scan

/-- What can stand behind a number: it does not begin with a part of one. -/
def Ends (rest : List Char) : Prop :=
  ∀ c, rest.head? = some c → c.isDigit = false ∧ c ≠ '.' ∧ c ≠ 'e' ∧ c ≠ 'E'

/-- A reader of numbers that does not look behind them. -/
def ReadsNumber (read : List Char → Scanned Number) : Prop :=
  ∀ cs n r, read cs = .ok (n, r) →
    n.Fits ∧ ∀ rest, Ends rest → read (cs ++ rest) = .ok (n, r ++ rest)

variable {negative : Bool} {digits : Nat} {power : Int} {rest : List Char}

/-- No digit stands where a number ends. -/
theorem Ends.dropWhile_eq (h : Ends rest) : rest.dropWhile Char.isDigit = rest := by
  cases rest with
  | nil => rfl
  | cons c rest => rw [List.dropWhile_cons, (h c rfl).1]; rfl

/-- What follows a number adds no digits to it. -/
theorem Ends.takeWhile_eq (h : Ends rest) : rest.takeWhile Char.isDigit = [] := by
  cases rest with
  | nil => rfl
  | cons c rest => rw [List.takeWhile_cons, (h c rfl).1]; rfl

/-- Digits are skipped up to the end of the number and no further. -/
theorem Ends.skipDigits_append (h : Ends rest) (cs : List Char) :
    skipDigits (cs ++ rest) = skipDigits cs ++ rest := by
  unfold skipDigits
  rw [List.dropWhile_append, h.dropWhile_eq]
  split
  · rename_i hempty
    rw [List.isEmpty_iff.1 hempty, List.nil_append]
  · rfl

/-- The digits of a number are the same whatever follows it. -/
theorem Ends.takeWhile_append (h : Ends rest) (cs : List Char) :
    (cs ++ rest).takeWhile Char.isDigit = cs.takeWhile Char.isDigit := by
  rw [List.takeWhile_append, h.takeWhile_eq]
  split
  · rename_i hall
    rw [List.append_nil]
    exact ((List.takeWhile_prefix _).eq_of_length hall).symm
  · rfl

theorem ends_nil : Ends [] := nofun

/-- A reader is shown not to look behind a number by another one that does not, and that it agrees
with whatever follows. -/
theorem ReadsNumber.of_agrees {read : List Char → Scanned Number}
    (h : ∀ cs n r, read cs = .ok (n, r) → ∃ other cs', ReadsNumber other ∧
      ∀ rest, Ends rest → read (cs ++ rest) = other (cs' ++ rest)) : ReadsNumber read := by
  intro cs n r hread
  obtain ⟨other, cs', hother, hagrees⟩ := h cs n r hread
  have hsame := hagrees [] ends_nil
  rw [List.append_nil, List.append_nil, hread] at hsame
  obtain ⟨hfits, happend⟩ := hother cs' n r hsame.symm
  refine ⟨hfits, fun rest hrest => ?_⟩
  rw [hagrees rest hrest]
  exact happend rest hrest

/-- A number that is complete does not depend on what is behind it. -/
theorem readsNumber_map {result : Except Fault Number} (h : ∀ n, result = .ok n → n.Fits) :
    ReadsNumber fun cs => result.map (·, cs) := by
  intro cs n r hread
  cases result with
  | error fault => cases hread
  | ok m =>
    obtain ⟨rfl, rfl⟩ := Prod.mk.inj (Except.ok.inj hread)
    exact ⟨h _ rfl, fun _ _ => rfl⟩

/-! ### Behind the whole part -/

/-- A number that is computed from its digits is a floating-point one. -/
theorem fits_of_floating {n : Number} (h : floating negative digits power = .ok n) : n.Fits := by
  unfold floating at h
  simp only [bind, Except.bind] at h
  split at h
  · cases h
  · rw [← Except.ok.inj h]
    trivial

/-- A floating-point number that is computed is read without a look at what follows. -/
theorem readsNumber_floating :
    ReadsNumber fun cs => (floating negative digits power).map (·, cs) :=
  readsNumber_map fun _ => fits_of_floating

/-- The power of ten behind its sign. -/
private def unsignedPower (negative : Bool) (digits : Nat) (start : Int) (up : Bool)
    (cs : List Char) : Scanned Number :=
  match cs with
  | [] => .error .unfinished
  | c :: _ =>
    if !c.isDigit then .error .malformed
    else
      let power := Nat.ofDigitChars 10 (cs.takeWhile Char.isDigit) 0
      let rest := skipDigits cs
      if power ≤ maxPower then
        (floating negative digits (if up then start + power else start - power)).map (·, rest)
      else if digits ≠ 0 && up then .error .malformed
      else .ok (.floating (.zero negative), rest)

/-- A power of ten is read up to its last digit. -/
private theorem readsNumber_unsignedPower (start : Int) (up : Bool) :
    ReadsNumber (unsignedPower negative digits start up) := by
  apply ReadsNumber.of_agrees
  intro cs n r h
  cases cs with
  | nil => cases h
  | cons c cs =>
    obtain ⟨power, hpower⟩ :
        ∃ power, Nat.ofDigitChars 10 ((c :: cs).takeWhile Char.isDigit) 0 = power := ⟨_, rfl⟩
    -- Neither the power nor what is behind it depends on what follows.
    have hsame : ∀ rest, Ends rest →
        unsignedPower negative digits start up (c :: cs ++ rest) =
          if !c.isDigit then .error .malformed
          else if power ≤ maxPower then
            (floating negative digits (if up then start + power else start - power)).map
              (·, skipDigits (c :: cs) ++ rest)
          else if digits ≠ 0 && up then .error .malformed
          else .ok (.floating (.zero negative), skipDigits (c :: cs) ++ rest) := by
      intro rest hrest
      rw [← hpower, ← hrest.skipDigits_append, ← hrest.takeWhile_append (c :: cs)]
      rfl
    simp only [unsignedPower, hpower] at h
    split at h
    · cases h
    rename_i hdigit
    split at h
    · rename_i hle
      -- A power that fits is added or taken away.
      refine ⟨fun rest => (floating negative digits
        (if up then start + power else start - power)).map (·, rest), skipDigits (c :: cs),
        readsNumber_floating, fun rest hrest => ?_⟩
      rw [hsame rest hrest, if_neg hdigit, if_pos hle]
    rename_i hlarge
    split at h
    · cases h
    · rename_i hzero
      -- Beyond it the number is zero: an error was ruled out by the reading.
      refine ⟨fun rest => (Except.ok (.floating (.zero negative))).map (·, rest),
        skipDigits (c :: cs), readsNumber_map ?_, fun rest hrest => ?_⟩
      · rintro _ ⟨⟩
        trivial
      · rw [hsame rest hrest, if_neg hdigit, if_neg hlarge, if_neg hzero]
        rfl

/-- A power of ten is read with or without a sign. -/
theorem readsNumber_numberPower : ReadsNumber (numberPower negative digits power) := by
  apply ReadsNumber.of_agrees
  intro cs n r h
  cases cs with
  | nil => cases h
  | cons c cs =>
    -- A sign says whether the power is added, and without one it is.
    by_cases hplus : c = '+'
    · subst hplus
      exact ⟨_, cs, readsNumber_unsignedPower power true, fun _ _ => rfl⟩
    by_cases hminus : c = '-'
    · subst hminus
      exact ⟨_, cs, readsNumber_unsignedPower power false, fun _ _ => rfl⟩
    refine ⟨unsignedPower negative digits power true, c :: cs,
      readsNumber_unsignedPower power true, fun rest _ => ?_⟩
    unfold numberPower unsignedPower
    simp [hplus, hminus]

/-- Nothing is left to read where a number ends. -/
private theorem numberEnd_of_ends (h : Ends rest) :
    numberEnd negative digits power rest =
      (floating negative digits power).map (·, rest) := by
  unfold numberEnd
  split
  · exact absurd rfl (h _ rfl).2.2.1
  · exact absurd rfl (h _ rfl).2.2.2
  · rfl

/-- What may follow the digits of a fraction is a power of ten or the end. -/
theorem readsNumber_numberEnd : ReadsNumber (numberEnd negative digits power) := by
  apply ReadsNumber.of_agrees
  intro cs n r _
  cases cs with
  -- Only a mark of a power leads on, and it must be the next character.
  | nil => exact ⟨_, [], readsNumber_floating, fun rest hrest => numberEnd_of_ends hrest⟩
  | cons c cs =>
    by_cases hsmall : c = 'e'
    · subst hsmall
      exact ⟨_, cs, readsNumber_numberPower, fun _ _ => rfl⟩
    by_cases hlarge : c = 'E'
    · subst hlarge
      exact ⟨_, cs, readsNumber_numberPower, fun _ _ => rfl⟩
    refine ⟨fun cs => (floating negative digits power).map (·, cs), c :: cs,
      readsNumber_floating, fun rest _ => ?_⟩
    unfold numberEnd
    simp [hsmall, hlarge]

/-- At the end of a run of digits nothing but the end of the number is left to read. -/
theorem fraction_of_ends (h : Ends rest) :
    fraction negative digits power rest = numberEnd negative digits power rest := by
  cases rest with
  | nil => rfl
  | cons c rest => rw [fraction, (h c rfl).1]; rfl

/-- The digits behind the point are read up to the last, also those that no longer count. -/
theorem readsNumber_fraction : ReadsNumber (fraction negative digits power) := by
  intro cs n r h
  -- The digits and the power of ten change with each digit that is read.
  induction cs generalizing digits power with
  | nil =>
    obtain ⟨hfits, happend⟩ := readsNumber_numberEnd [] n r h
    refine ⟨hfits, fun rest hrest => ?_⟩
    rw [List.nil_append, fraction_of_ends hrest]
    exact happend rest hrest
  | cons c cs ih =>
    simp only [List.cons_append, fraction] at h ⊢
    split at h
    · rename_i hdigit
      simp only [if_pos hdigit]
      split at h
      · -- The digit has no more room: it and the ones behind it are skipped.
        rename_i hfull
        simp only [if_pos hfull]
        obtain ⟨hfits, happend⟩ := readsNumber_numberEnd _ n r h
        refine ⟨hfits, fun rest hrest => ?_⟩
        rw [hrest.skipDigits_append]
        exact happend rest hrest
      · rename_i hroom
        simp only [if_neg hroom]
        exact ih h
    · rename_i hdigit
      simp only [if_neg hdigit]
      exact readsNumber_numberEnd _ n r h

/-- A point is followed by one digit at least, and by the rest of the fraction. -/
theorem readsNumber_afterPoint : ReadsNumber (afterPoint negative digits power) := by
  apply ReadsNumber.of_agrees
  intro cs n r h
  cases cs with
  | nil => cases h
  | cons c cs =>
    simp only [afterPoint] at h
    split at h
    · cases h
    rename_i hdigit
    split at h
    · -- The first digit has no more room.
      rename_i hfull
      refine ⟨numberEnd negative digits power, skipDigits (c :: cs), readsNumber_numberEnd,
        fun rest hrest => ?_⟩
      simp only [afterPoint, List.cons_append, if_neg hdigit, if_pos hfull]
      rw [← List.cons_append, hrest.skipDigits_append]
    · -- It has room, and the fraction goes on as it does behind any digit.
      rename_i hroom
      refine ⟨fraction negative digits power, c :: cs, readsNumber_fraction, fun rest _ => ?_⟩
      simp only [afterPoint, List.cons_append, if_neg hdigit, if_neg hroom]

/-! ### The whole part -/

/-- A number without anything behind its whole part. -/
private def bareNumber (negative : Bool) (digits : Nat) : Except Fault Number :=
  if !negative then .ok (.whole digits)
  else if digits = 0 || 0x8000000000000000 < digits then floating true digits 0
  else .ok (.whole (-(digits : Int)))

/-- A number without point and power fits, as a whole number or as a floating-point one. -/
private theorem fits_of_bareNumber (hle : digits ≤ Ballroom.Number.maxUInt64) {n : Number}
    (h : bareNumber negative digits = .ok n) : n.Fits := by
  unfold bareNumber at h
  split at h
  · rw [← Except.ok.inj h]
    exact ⟨by omega, by omega⟩
  split at h
  · exact fits_of_floating h
  · -- What is left are whole numbers below zero that 64 bits with a sign hold.
    rename_i hnarrow
    simp only [Bool.or_eq_true, decide_eq_true_eq, not_or] at hnarrow
    rw [← Except.ok.inj h]
    exact ⟨by omega, by omega⟩

/-- Without a point and without a power the digits are the number. -/
private theorem numberTail_of_unmarked (hpoint : rest.head? ≠ some '.')
    (hsmall : rest.head? ≠ some 'e') (hlarge : rest.head? ≠ some 'E') :
    numberTail negative digits rest = (bareNumber negative digits).map (·, rest) := by
  unfold numberTail bareNumber
  split
  · exact absurd rfl hpoint
  · exact absurd rfl hsmall
  · exact absurd rfl hlarge
  · split
    · rfl
    split
    · rfl
    · rfl

/-- The digits are the number if nothing of it follows. -/
private theorem numberTail_of_ends (h : Ends rest) :
    numberTail negative digits rest = (bareNumber negative digits).map (·, rest) :=
  numberTail_of_unmarked (fun hhead => (h _ hhead).2.1 rfl) (fun hhead => (h _ hhead).2.2.1 rfl)
    (fun hhead => (h _ hhead).2.2.2 rfl)

/-- Behind the whole part there may be a fraction, a power of ten or nothing. -/
theorem readsNumber_numberTail (hle : digits ≤ Ballroom.Number.maxUInt64) :
    ReadsNumber (numberTail negative digits) := by
  have hbare : ReadsNumber fun cs => (bareNumber negative digits).map (·, cs) :=
    readsNumber_map fun _ => fits_of_bareNumber hle
  apply ReadsNumber.of_agrees
  intro cs n r _
  cases cs with
  | nil => exact ⟨_, [], hbare, fun rest hrest => numberTail_of_ends hrest⟩
  | cons c cs =>
    -- Each mark leads to a reader of its own, which starts behind it.
    by_cases hpoint : c = '.'
    · subst hpoint
      exact ⟨_, cs, readsNumber_afterPoint, fun _ _ => rfl⟩
    by_cases hsmall : c = 'e'
    · subst hsmall
      exact ⟨_, cs, readsNumber_numberPower, fun _ _ => rfl⟩
    by_cases hlarge : c = 'E'
    · subst hlarge
      exact ⟨_, cs, readsNumber_numberPower, fun _ _ => rfl⟩
    refine ⟨_, c :: cs, hbare, fun rest _ => ?_⟩
    apply numberTail_of_unmarked <;> simpa

/-- What is behind a whole part that is longer than 64 bits. -/
private def behindLong (negative : Bool) (digits : Nat) (power : Int) (cs : List Char) :
    Scanned Number :=
  match cs with
  | '.' :: rest => afterPoint negative digits power rest
  | rest => numberEnd negative digits power rest

/-- A long number without a point may have a power of ten all the same. -/
private theorem behindLong_of_unmarked (h : rest.head? ≠ some '.') :
    behindLong negative digits power rest = numberEnd negative digits power rest := by
  unfold behindLong
  split
  · exact absurd rfl h
  · rfl

/-- Behind a number with too many digits there may be a fraction or a power of ten. -/
private theorem readsNumber_behindLong : ReadsNumber (behindLong negative digits power) := by
  apply ReadsNumber.of_agrees
  intro cs n r _
  cases cs with
  | nil =>
    exact ⟨_, [], readsNumber_numberEnd, fun rest hrest =>
      behindLong_of_unmarked fun hhead => (hrest _ hhead).2.1 rfl⟩
  | cons c cs =>
    by_cases hpoint : c = '.'
    · subst hpoint
      exact ⟨_, cs, readsNumber_afterPoint, fun _ _ => rfl⟩
    · exact ⟨_, c :: cs, readsNumber_numberEnd, fun rest _ =>
        behindLong_of_unmarked (by simpa using hpoint)⟩

/-- The digits that no longer count are passed over and counted. -/
theorem readsNumber_longNumber : ReadsNumber (longNumber negative digits) := by
  apply ReadsNumber.of_agrees
  intro cs n r _
  refine ⟨behindLong negative digits (cs.takeWhile Char.isDigit).length, skipDigits cs,
    readsNumber_behindLong, fun rest hrest => ?_⟩
  rw [← hrest.skipDigits_append, ← hrest.takeWhile_append cs]
  rfl

/-- At the end of the digits the whole part is complete. -/
theorem wholePart_of_ends (h : Ends rest) :
    wholePart negative digits rest = numberTail negative digits rest := by
  cases rest with
  | nil => rfl
  | cons c rest => rw [wholePart, (h c rfl).1]; rfl

/-- The whole part is read digit by digit as long as it fits 64 bits. -/
theorem readsNumber_wholePart (hle : digits ≤ Ballroom.Number.maxUInt64) :
    ReadsNumber (wholePart negative digits) := by
  intro cs n r h
  -- On the text, for whatever digits have been read.
  induction cs generalizing digits with
  | nil =>
    obtain ⟨hfits, happend⟩ := readsNumber_numberTail hle [] n r h
    refine ⟨hfits, fun rest hrest => ?_⟩
    rw [List.nil_append, wholePart_of_ends hrest]
    exact happend rest hrest
  | cons c cs ih =>
    simp only [List.cons_append, wholePart] at h ⊢
    split at h
    · rename_i hdigit
      simp only [if_pos hdigit]
      split at h
      · rename_i hfull
        simp only [if_pos hfull]
        exact readsNumber_longNumber _ n r h
      · rename_i hroom
        simp only [if_neg hroom]
        -- The digit leads to no more than 64 bits.
        have hnext : digits * 10 + (c.toNat - 48) ≤ Ballroom.Number.maxUInt64 := by
          simpa [isFull] using hroom
        exact ih hnext h
    · rename_i hdigit
      simp only [if_neg hdigit]
      exact readsNumber_numberTail hle _ n r h

/-- The value of a digit is not more than nine. -/
theorem toNat_sub_le {c : Char} (h : c.isDigit) : c.toNat - 48 ≤ 9 := by
  rw [Char.isDigit_iff_toNat] at h
  have hle : c.toNat ≤ 57 := h.2
  omega

/-- A zero is a whole part of its own. -/
theorem number_zero (h : ∀ c, rest.head? = some c → c.isDigit = false) :
    number negative ('0' :: rest) = numberTail negative 0 rest := by
  cases rest with
  | nil => rfl
  | cons c rest => rw [number, h c rfl]; rfl

/-- Another digit is the first one of a whole part. -/
theorem number_of_ne_zero {c : Char} (hzero : c ≠ '0') (cs : List Char) :
    number negative (c :: cs) =
      if c.isDigit then wholePart negative (c.toNat - 48) cs else .error .malformed := by
  rw [number]
  intro c' rest heq _
  exact absurd heq hzero

/-- A number is read without a look behind it, and fits. -/
theorem readsNumber_number : ReadsNumber (number negative) := by
  apply ReadsNumber.of_agrees
  intro cs n r h
  cases cs with
  | nil => cases h
  | cons c cs =>
    by_cases hzero : c = '0'
    · subst hzero
      -- No digit may follow a leading zero, neither in the text nor where it ends.
      refine ⟨_, cs, readsNumber_numberTail (by decide), fun rest hrest => number_zero ?_⟩
      intro c hc
      cases cs with
      | nil => exact (hrest c hc).1
      | cons d cs =>
        obtain rfl := Option.some.inj hc
        rw [number] at h
        split at h
        · cases h
        · rename_i hdigit
          simpa using hdigit
    · rw [number_of_ne_zero hzero] at h
      split at h
      · rename_i hdigit
        have hle := toNat_sub_le hdigit
        have hfits : c.toNat - 48 ≤ Ballroom.Number.maxUInt64 := Nat.le_trans hle (by decide)
        refine ⟨wholePart negative (c.toNat - 48), cs, readsNumber_wholePart hfits,
          fun rest _ => ?_⟩
        rw [List.cons_append, number_of_ne_zero hzero, if_pos hdigit]
      · cases h

/-! ### Whole numbers -/

/-- More digits make no smaller number. -/
theorem le_ofDigitChars (cs : List Char) (digits : Nat) :
    digits ≤ Nat.ofDigitChars 10 cs digits := by
  induction cs generalizing digits with
  | nil => exact Nat.le_refl _
  | cons c cs ih =>
    rw [Nat.ofDigitChars_cons]
    have hrest := ih (10 * digits + (c.toNat - '0'.toNat))
    omega

/-- The digits of a number that is not too long are all read. -/
theorem wholePart_of_digits {cs : List Char} (hcs : ∀ c ∈ cs, c.isDigit)
    (hle : Nat.ofDigitChars 10 cs digits ≤ Ballroom.Number.maxUInt64) :
    wholePart negative digits cs = numberTail negative (Nat.ofDigitChars 10 cs digits) [] := by
  induction cs generalizing digits with
  | nil => rfl
  | cons c cs ih =>
    rw [Nat.ofDigitChars_cons, Nat.mul_comm] at hle ⊢
    -- The digits up to here make no larger number than all of them, which has room.
    have hnext := le_ofDigitChars cs (digits * 10 + (c.toNat - '0'.toNat))
    have hroom : isFull digits c = false := by
      simp only [isFull, decide_eq_false_iff_not]
      exact Nat.not_lt.2 (Nat.le_trans hnext hle)
    rw [wholePart, if_pos (hcs c List.mem_cons_self), hroom]
    exact ih (fun c hc => hcs c (List.mem_cons_of_mem _ hc)) hle

/-- A number other than zero does not begin with a zero. -/
theorem head?_toDigits_ne_zero {n : Nat} (h : 0 < n) : (Nat.toDigits 10 n).head? ≠ some '0' := by
  induction n using Nat.strongRecOn with
  | ind n ih =>
    by_cases hlt : n < 10
    · rw [Nat.toDigits_of_lt_base hlt, List.head?_cons]
      intro hzero
      have := Nat.digitChar_eq_zero.1 (Option.some.inj hzero)
      omega
    · rw [Nat.toDigits_of_base_le (by decide) (by omega), List.head?_append]
      have hfirst := ih (n / 10) (by omega) (by omega)
      cases hhead : (Nat.toDigits 10 (n / 10)).head? with
      | none => exact absurd (List.head?_eq_none_iff.1 hhead) Nat.toDigits_ne_nil
      | some c => rw [hhead] at hfirst; exact hfirst

/-- The digits of a number of 64 bits are its whole part. -/
theorem number_toDigits {n : Nat} (hle : n ≤ Ballroom.Number.maxUInt64) :
    number negative (Nat.toDigits 10 n) = numberTail negative n [] := by
  by_cases hzero : n = 0
  · subst hzero
    rfl
  obtain ⟨c, cs, hdigits, hc⟩ := Ballroom.Number.exists_cons_toDigits n
  have hvalue : Nat.ofDigitChars 10 (c :: cs) 0 = n := by
    rw [← hdigits]
    exact Nat.ofDigitChars_toDigits (by decide) (by decide)
  have hall : ∀ d ∈ cs, d.isDigit := by
    intro d hd
    have hmem : d ∈ Nat.toDigits 10 n := by
      rw [hdigits]
      exact List.mem_cons_of_mem _ hd
    exact Nat.isDigit_of_mem_toDigits (by decide) (by decide) hmem
  -- A leading zero would end the number.
  have hfirst : c ≠ '0' := by
    have hhead := head?_toDigits_ne_zero (Nat.pos_of_ne_zero hzero)
    rw [hdigits] at hhead
    intro hc
    exact hhead (congrArg some hc)
  rw [Nat.ofDigitChars_cons, Nat.mul_zero, Nat.zero_add] at hvalue
  rw [hdigits, number_of_ne_zero hfirst, if_pos hc,
    wholePart_of_digits hall (by rw [← hvalue] at hle; exact hle)]
  exact congrArg (numberTail negative · []) hvalue

/-- A whole number without sign is read back from its text. -/
theorem number_toString_of_nonneg {n : Int} (hpos : 0 ≤ n) (hfits : (Number.whole n).Fits)
    (hrest : Ends rest) :
    number false ((toString n).toList ++ rest) = .ok (.whole n, rest) := by
  rw [Ballroom.Number.toList_toString_int, if_pos hpos]
  have hle : n.toNat ≤ Ballroom.Number.maxUInt64 := by
    have := hfits.2
    omega
  have hread : number false (Nat.toDigits 10 n.toNat) = .ok (.whole n, []) := by
    rw [number_toDigits hle, ← Int.toNat_of_nonneg hpos]
    rfl
  exact (readsNumber_number _ _ _ hread).2 rest hrest

/-- A whole number below zero is read back from its text, behind the sign. -/
theorem number_toString_of_neg {n : Int} (hneg : n < 0) (hfits : (Number.whole n).Fits)
    (hrest : Ends rest) :
    ∃ cs, (toString n).toList = '-' :: cs ∧ number true (cs ++ rest) = .ok (.whole n, rest) := by
  rw [Ballroom.Number.toList_toString_int, if_neg (by omega)]
  have hle : (-n).toNat ≤ 0x8000000000000000 := by
    have := hfits.1
    omega
  have hread : number true (Nat.toDigits 10 (-n).toNat) = .ok (.whole n, []) := by
    rw [number_toDigits (Nat.le_trans hle (by decide)), numberTail_of_ends ends_nil]
    -- The digits stand for a number below zero that fits, so no floating-point one is made of
    -- it.
    have hnarrow : ¬((-n).toNat = 0 || 0x8000000000000000 < (-n).toNat) = true := by
      simp only [Bool.or_eq_true, decide_eq_true_eq]
      omega
    rw [bareNumber, if_neg (by decide), if_neg hnarrow]
    have hback : -((-n).toNat : Int) = n := by omega
    rw [hback]
    rfl
  exact ⟨_, rfl, (readsNumber_number _ _ _ hread).2 rest hrest⟩

end Scan

end Ballroom.Json
