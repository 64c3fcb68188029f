import Ballroom.Json.Scan

/-!
# Reading back a quoted text

A text in quotes is read back as it was (`text_flatMap_escape`): each character is read back from
its escape, and none of the escapes is the quote that ends the text.
-/

namespace Ballroom.Json

/-- A control character is written as four hexadecimal digits, of which two count. -/
private theorem escapeDigits_eq : ∀ n < 0x20,
    escapeDigits n = ['0', '0', Nat.digitChar (n / 16), Nat.digitChar (n % 16)] ∧
      Scan.hexDigit? (Nat.digitChar (n / 16)) = some (n / 16) ∧
      Scan.hexDigit? (Nat.digitChar (n % 16)) = some (n % 16) := by
  decide

namespace Scan

/-- The digits of an escape are read as the number that they were written for. -/
theorem hexFour_escapeDigits {n : Nat} (h : n < 0x20) (rest : List Char) :
    hexFour (escapeDigits n ++ rest) = .ok n := by
  obtain ⟨hdigits, hhigh, hlow⟩ := escapeDigits_eq n h
  have hzero : hexDigit? '0' = some 0 := by decide
  simp only [hdigits, List.cons_append, List.nil_append, hexFour, hzero, hhigh, hlow,
    Except.ok.injEq]
  omega

/-- A control character is read back from its digits. -/
theorem escaped_escapeDigits {c : Char} (h : c.toNat < 0x20) (rest : List Char) :
    escaped ('u' :: (escapeDigits c.toNat ++ rest)) = .ok (c, 5) := by
  simp only [escaped, hexFour_escapeDigits h, bind, Except.bind]
  rw [if_neg (by simp; omega), if_neg (by simp; omega), Char.ofNat_toNat]

/-- A backslash and what it makes of the characters behind it. -/
theorem textChars_backslash {c : Char} {taken : Nat} {cs : List Char}
    (h : escaped cs = .ok (c, taken)) :
    textChars ('\\' :: cs) =
      (textChars (cs.drop taken)).map fun (s, rest) => (c :: s, rest) := by
  rw [textChars]
  simp [h]

/-- The escapes of a single letter. -/
private theorem textChars_mark {c mark : Char} {rest : List Char}
    (h : escaped (mark :: rest) = .ok (c, 1)) :
    textChars (['\\', mark] ++ rest) = (textChars rest).map fun (s, rest) => (c :: s, rest) :=
  textChars_backslash h

/-- A character that needs no escape stands for itself. -/
theorem textChars_of_plain {c : Char} (hquote : c ≠ '"') (hslash : c ≠ '\\')
    (hc : ¬c.toNat < 0x20) (rest : List Char) :
    textChars (c :: rest) = (textChars rest).map fun (s, rest) => (c :: s, rest) := by
  rw [textChars]
  · rw [if_neg hc]
  · exact hquote
  · exact hslash

/-- A character is read back from its escape. -/
theorem textChars_escape (c : Char) (rest : List Char) :
    textChars (escape c ++ rest) = (textChars rest).map fun (s, rest) => (c :: s, rest) := by
  -- The two marks of a text, then the five control characters that have a letter.
  by_cases hquote : c = '"'
  · subst hquote
    exact textChars_mark rfl
  by_cases hslash : c = '\\'
  · subst hslash
    exact textChars_mark rfl
  simp only [escape, if_neg hquote, if_neg hslash]
  split
  · subst_vars
    exact textChars_mark rfl
  split
  · subst_vars
    exact textChars_mark rfl
  split
  · subst_vars
    exact textChars_mark rfl
  split
  · subst_vars
    exact textChars_mark rfl
  split
  · subst_vars
    exact textChars_mark rfl
  split
  · rename_i hcontrol
    -- Any other control character is written by its number, in four digits.
    have hlength : (escapeDigits c.toNat).length = 4 := by
      rw [(escapeDigits_eq c.toNat hcontrol).1]
      rfl
    have hread := textChars_backslash (escaped_escapeDigits hcontrol rest)
    rwa [List.drop_succ_cons, List.drop_left' hlength] at hread
  · rename_i hcontrol
    exact textChars_of_plain hquote hslash hcontrol rest

/-- The characters of a text are read back up to the quote that ends it. -/
theorem textChars_flatMap_escape (s rest : List Char) :
    textChars (s.flatMap escape ++ '"' :: rest) = .ok (s, rest) := by
  induction s with
  | nil => rw [List.flatMap_nil, List.nil_append, textChars]
  | cons c s ih =>
    rw [List.flatMap_cons, List.append_assoc, textChars_escape, ih]
    rfl

end Scan

/-- A quoted text is its escaped characters between two quotation marks. -/
theorem toList_quote (s : String) :
    (quote s).toList = '"' :: (s.toList.flatMap escape ++ ['"']) := by
  simp [quote]

/-- A text is read back from its quoted form, behind the first quote. -/
theorem Scan.text_quote (s : String) (rest : List Char) :
    Scan.text (s.toList.flatMap escape ++ '"' :: rest) = .ok (s, rest) := by
  rw [text, textChars_flatMap_escape]
  simp [Except.map]

end Ballroom.Json
