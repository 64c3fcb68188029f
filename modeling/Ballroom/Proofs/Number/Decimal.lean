import Ballroom.Proofs.Text.Plain

/-!
# Reading back decimal numbers

The texts that `toString` makes of numbers consist of digits with at most one sign in
front, and the readers of `Ballroom.Number` find the same number in them.
-/

namespace Ballroom.Number

/-- A natural number is written as its decimal digits. -/
theorem toList_toString (n : Nat) : (toString n).toList = Nat.toDigits 10 n := by
  simp

/-- A natural number is written with digits only. -/
theorem isDigit_of_mem_toString {n : Nat} {c : Char} (h : c ∈ (toString n).toList) :
    c.isDigit := by
  rw [toList_toString] at h
  exact Nat.isDigit_of_mem_toDigits (by decide) (by decide) h

/-- A digit is none of the characters that are no digits. -/
theorem ne_of_isDigit {c d : Char} (hc : c.isDigit) (hd : d.isDigit = false) : c ≠ d := by
  rintro rfl
  rw [hd] at hc
  exact absurd hc (by decide)

/-- A digit is no blank. -/
theorem isBlank_of_isDigit {c : Char} (h : c.isDigit) : Text.isBlank c = false := by
  rw [Char.isDigit_iff_toNat] at h
  have hlo : 48 ≤ c.toNat := h.1
  have hhi : c.toNat ≤ 57 := h.2
  -- No range of blanks meets the codes of the digits.
  simp only [Text.isBlank, Bool.or_eq_false_iff, Bool.and_eq_false_iff, decide_eq_false_iff_not,
    beq_eq_false_iff_ne]
  omega

/-! ### The characters of a written number -/

/-- A whole number is written as its digits, with a sign in front if it is negative. -/
theorem toList_toString_int (n : Int) :
    (toString n).toList =
      if 0 ≤ n then Nat.toDigits 10 n.toNat else '-' :: Nat.toDigits 10 (-n).toNat := by
  rw [Int.toString_eq_repr, Int.repr_eq_if]
  split
  · exact Nat.toList_repr
  · rw [String.toList_append, Nat.toList_repr]
    rfl

/-- A whole number is written with digits and minus signs only. -/
theorem isDigit_or_sign_of_mem_toString {n : Int} {c : Char} (h : c ∈ (toString n).toList) :
    c.isDigit ∨ c = '-' := by
  rw [toList_toString_int] at h
  split at h
  · exact .inl (Nat.isDigit_of_mem_toDigits (by decide) (by decide) h)
  · cases List.mem_cons.1 h with
    | inl h => exact .inr h
    | inr h => exact .inl (Nat.isDigit_of_mem_toDigits (by decide) (by decide) h)

/-- A text of digits and signs is plain. -/
theorem plain_of_digits {s : String} (h : ∀ c ∈ s.toList, c.isDigit ∨ c = '-' ∨ c = '+') :
    Text.Plain s := by
  intro c hc
  rcases h c hc with hd | rfl | rfl
  · exact ⟨ne_of_isDigit hd (by decide), ne_of_isDigit hd (by decide),
      ne_of_isDigit hd (by decide)⟩
  · decide
  · decide

/-- A written natural number is plain. -/
theorem plain_toString (n : Nat) : Text.Plain (toString n) :=
  plain_of_digits fun _ hc => .inl (isDigit_of_mem_toString hc)

/-- A written whole number is plain. -/
theorem plain_toString_int (n : Int) : Text.Plain (toString n) := by
  apply plain_of_digits
  intro c hc
  cases isDigit_or_sign_of_mem_toString hc with
  | inl h => exact .inl h
  | inr h => exact .inr (.inl h)

/-- Leading zeros add nothing but digits. -/
theorem isDigit_of_mem_leftpad {width n : Nat} {c : Char}
    (h : c ∈ (toString n).toList.leftpad width '0') : c.isDigit := by
  rw [List.leftpad, List.mem_append] at h
  cases h with
  | inl h => rw [List.eq_of_mem_replicate h]; decide
  | inr h => exact isDigit_of_mem_toString h

/-- A padded number has digits and minus signs only. -/
theorem isDigit_or_sign_of_mem_padded {width : Nat} {n : Int} {c : Char}
    (h : c ∈ (padded width n).toList) : c.isDigit ∨ c = '-' := by
  unfold padded at h
  split at h
  · rw [String.toList_ofList] at h
    cases List.mem_cons.1 h with
    | inl h => exact .inr h
    | inr h => exact .inl (isDigit_of_mem_leftpad h)
  · rw [String.toList_ofList] at h
    exact .inl (isDigit_of_mem_leftpad h)

/-- A padded number is plain. -/
theorem plain_padded (width : Nat) (n : Int) : Text.Plain (padded width n) := by
  apply plain_of_digits
  intro c hc
  cases isDigit_or_sign_of_mem_padded hc with
  | inl h => exact .inl h
  | inr h => exact .inr (.inl h)

/-! ### Reading -/

/-- The digits of a number read as the number. -/
theorem readDigits?_toDigits (n : Nat) : readDigits? (Nat.toDigits 10 n) = some n := by
  have h := readDigits?_toString n
  rwa [toList_toString] at h

/-- The first character of a written number is a digit. -/
theorem exists_cons_toDigits (n : Nat) :
    ∃ c rest, Nat.toDigits 10 n = c :: rest ∧ c.isDigit := by
  cases h : Nat.toDigits 10 n with
  | nil => exact absurd h Nat.toDigits_ne_nil
  | cons c rest =>
    have hmem : c ∈ Nat.toDigits 10 n := by rw [h]; simp
    exact ⟨c, rest, rfl, Nat.isDigit_of_mem_toDigits (by decide) (by decide) hmem⟩

/-- A number within the bound is read back from its text. -/
theorem readNat?_toString {bound n : Nat} (h : n ≤ bound) :
    readNat? bound (toString n).toList = some n := by
  obtain ⟨c, rest, hcons, hc⟩ := exists_cons_toDigits n
  have hplus : c ≠ '+' := ne_of_isDigit hc (by decide)
  have hread := readDigits?_toDigits n
  rw [toList_toString, hcons]
  rw [hcons] at hread
  -- The first character is no plus sign, so that all of them are read as digits.
  unfold readNat?
  split
  · rename_i heq
    exact absurd (List.cons.inj heq).1 hplus
  · show (readDigits? (c :: rest)).filter (· ≤ bound) = some n
    rw [hread, Option.filter_some, if_pos (by simpa using h)]

/-- The numbers of 64 bits pass the check for the width. -/
private theorem filter_int64 {n : Int}
    (h : Int64.minValue.toInt ≤ n ∧ n ≤ Int64.maxValue.toInt) :
    ((some n).filter fun n => Int64.minValue.toInt ≤ n ∧ n ≤ Int64.maxValue.toInt) = some n := by
  rw [Option.filter_some, if_pos (decide_eq_true h)]

/-- A whole number of 64 bits is read back from its text. -/
theorem readInt64?_toString {n : Int}
    (h : Int64.minValue.toInt ≤ n ∧ n ≤ Int64.maxValue.toInt) :
    readInt64? (toString n).toList = some (Int64.ofInt n) := by
  rw [toList_toString_int]
  by_cases hn : 0 ≤ n
  · rw [if_pos hn]
    obtain ⟨c, rest, hcons, hc⟩ := exists_cons_toDigits n.toNat
    have hminus : c ≠ '-' := ne_of_isDigit hc (by decide)
    have hplus : c ≠ '+' := ne_of_isDigit hc (by decide)
    have hread := readDigits?_toDigits n.toNat
    have hnat : (n.toNat : Int) = n := by omega
    rw [hcons] at hread ⊢
    unfold readInt64?
    split
    -- The first character is no sign, so that all of them are digits.
    · rename_i heq
      exact absurd (List.cons.inj heq).1 hminus
    · rename_i heq
      exact absurd (List.cons.inj heq).1 hplus
    · rw [hread]
      show ((some (n.toNat : Int)).filter _).map Int64.ofInt = _
      rw [hnat, filter_int64 h, Option.map_some]
  · rw [if_neg hn]
    -- The sign is taken off, and the digits are those of the amount.
    have hread := readDigits?_toDigits (-n).toNat
    have hneg : -((-n).toNat : Int) = n := by omega
    simp only [readInt64?, hread]
    show ((some (-((-n).toNat : Int))).filter _).map Int64.ofInt = _
    rw [hneg, filter_int64 h, Option.map_some]

end Ballroom.Number
