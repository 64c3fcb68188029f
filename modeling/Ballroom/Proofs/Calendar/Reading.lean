import Mathlib.Data.List.TakeWhile
import Ballroom.Proofs.Calendar.Date
import Ballroom.Proofs.Number.Width

/-!
# Reading written dates

Every date of the calendar is read back from its text (`read?_text`): years of four digits, and
those with a sign, which may have more.
-/

namespace Ballroom.Date

open Number

/-- A mark ends a run of digits. -/
theorem takeWhile_isDigit_append_mark {digits : List Char} (h : ∀ c ∈ digits, c.isDigit)
    (rest : List Char) : (digits ++ '-' :: rest).takeWhile Char.isDigit = digits := by
  rw [List.takeWhile_append_of_pos h, List.takeWhile_cons_of_neg (by decide), List.append_nil]

/-- A number has no blanks in front of it. -/
theorem trimLeft_fixedDigits {width n : Nat} (rest : List Char) :
    Text.trimLeft (fixedDigits 10 width n ++ rest) = fixedDigits 10 width n ++ rest := by
  obtain ⟨c, digits, hcons⟩ := List.exists_cons_of_ne_nil (fixedDigits_ne_nil 10 width n)
  have hdigit : c.isDigit := isDigit_of_mem_fixedDigits (by rw [hcons]; simp)
  rw [hcons, Text.trimLeft, List.cons_append, List.dropWhile_cons, isBlank_of_isDigit hdigit,
    if_neg (by decide)]

/-- A number that fills its field is read from what follows. -/
theorem readField?_fixedDigits {width n : Nat} (hwidth : 0 < width) (hn : n < 10 ^ width)
    (rest : List Char) :
    readField? width (fixedDigits 10 width n ++ rest) = some (n, rest) := by
  -- The field is taken whole, and all of it is digits.
  have htake : (fixedDigits 10 width n ++ rest).take width = fixedDigits 10 width n :=
    List.take_left' (length_fixedDigits (by decide) hwidth hn)
  have hdigits : (fixedDigits 10 width n).takeWhile Char.isDigit = fixedDigits 10 width n :=
    List.takeWhile_eq_self_iff.2 fun _ hc => isDigit_of_mem_fixedDigits hc
  simp only [readField?, trimLeft_fixedDigits, htake, hdigits, readDigits?_fixedDigits,
    Option.map_some, List.drop_left]

/-- A number of any width is read behind a sign, up to the mark. -/
theorem signed_fixedDigits (width n : Nat) (rest : List Char) (value : Nat → Int) :
    readYear?.signed (fixedDigits 10 width n ++ '-' :: rest) value =
      some (value n, '-' :: rest) := by
  have hdigits := takeWhile_isDigit_append_mark
    (fun _ hc => isDigit_of_mem_fixedDigits hc : ∀ c ∈ fixedDigits 10 width n, c.isDigit) rest
  simp only [readYear?.signed, hdigits, readDigits?_fixedDigits, Option.map_some, List.drop_left]

/-- A year without a sign starts with a digit. -/
theorem readYear?_fixedDigits {n : Nat} (hn : n < 10 ^ 4) (rest : List Char) :
    readYear? (fixedDigits 10 4 n ++ rest) = some ((n : Int), rest) := by
  obtain ⟨c, digits, hcons⟩ := List.exists_cons_of_ne_nil (fixedDigits_ne_nil 10 4 n)
  have hdigit : c.isDigit := isDigit_of_mem_fixedDigits (by rw [hcons]; simp)
  have hfield := readField?_fixedDigits (by decide) hn rest
  rw [readYear?, trimLeft_fixedDigits]
  rw [hcons, List.cons_append] at hfield ⊢
  split
  -- The first character is a digit and so no sign.
  · rename_i heq
    exact absurd (List.cons.inj heq).1 (ne_of_isDigit hdigit (by decide))
  · rename_i heq
    exact absurd (List.cons.inj heq).1 (ne_of_isDigit hdigit (by decide))
  · rw [hfield, Option.map_some]

/-- A minus sign is read off the year. -/
theorem readYear?_minus (cs : List Char) :
    readYear? ('-' :: cs) = readYear?.signed cs fun n => -(n : Int) := by
  have hblank : Text.isBlank '-' = false := by decide
  rw [readYear?, Text.trimLeft, List.dropWhile_cons, hblank, if_neg (by decide)]
  rfl

/-- A plus sign is read off the year. -/
theorem readYear?_plus (cs : List Char) :
    readYear? ('+' :: cs) = readYear?.signed cs fun n => (n : Int) := by
  have hblank : Text.isBlank '+' = false := by decide
  rw [readYear?, Text.trimLeft, List.dropWhile_cons, hblank, if_neg (by decide)]
  rfl

/-- Every year is read back, whether or not it is written with a sign. -/
theorem readYear?_yearText (year : Int) (rest : List Char) :
    readYear? ((yearText year).toList ++ '-' :: rest) = some (year, '-' :: rest) := by
  unfold yearText
  split
  · -- Years of up to four digits have no sign.
    rename_i hyear
    obtain ⟨n, rfl⟩ := Int.eq_ofNat_of_zero_le hyear.1
    rw [padded_natCast, String.toList_ofList, readYear?_fixedDigits (by omega)]
  · split
    · -- The year is before 0, and the amount is written behind a minus sign.
      obtain ⟨n, hn⟩ := Int.eq_ofNat_of_zero_le (a := -year) (by omega)
      have hyear : -(n : Int) = year := by omega
      have hsign : "-".toList = ['-'] := rfl
      rw [hn, padded_natCast, String.toList_append, hsign, String.toList_ofList,
        List.singleton_append, List.cons_append, readYear?_minus, signed_fixedDigits, hyear]
    · obtain ⟨n, rfl⟩ := Int.eq_ofNat_of_zero_le (a := year) (by omega)
      have hsign : "+".toList = ['+'] := rfl
      rw [padded_natCast, String.toList_append, hsign, String.toList_ofList,
        List.singleton_append, List.cons_append, readYear?_plus, signed_fixedDigits]

/-- Every date of the calendar is read back from its text. -/
theorem read?_text {d : Date} (h : d.isValid) : Date.read? d.text = some d := by
  -- Months and days of the calendar fill two digits, so that a mark or the end follows.
  obtain ⟨⟨hmonth, hday⟩, _⟩ := isValid_iff.1 h
  have hlength := monthLength_le d.year d.month
  have htext : d.text.toList = (yearText d.year).toList ++ '-' ::
      (fixedDigits 10 2 d.month ++ '-' :: (fixedDigits 10 2 d.day ++ [])) := by
    simp only [text, padded_natCast, String.toList_append, String.toList_ofList,
      List.append_assoc, List.append_nil]
    rfl
  simp only [read?, htext, readYear?_yearText, readMark?, if_true, Option.bind_eq_bind,
    Option.bind_some]
  rw [readField?_fixedDigits (by decide) (by omega)]
  simp only [if_true, Option.bind_some]
  rw [readField?_fixedDigits (by decide) (by omega)]
  simp [h]

end Ballroom.Date
