/-! # Splitting texts

How a text is cut: at its ends, where blanks are trimmed, between words and between lines.
Blanks are the characters of the Unicode property `White_Space`.  A line ends at a line
feed, which takes one carriage return before it along; a text that does not end in a line
feed has a last line all the same, and that line keeps a carriage return at its end.

Everything works on the characters of a text, so that it can be reasoned about by
induction. -/

namespace Ballroom.Text

/-! ### Blanks and words -/

/-- The Unicode property `White_Space`. -/
def isBlank (c : Char) : Bool :=
  let n := c.toNat
  (9 ≤ n && n ≤ 13) || n == 0x20 || n == 0x85 || n == 0xA0 || n == 0x1680
    || (0x2000 ≤ n && n ≤ 0x200A) || n == 0x2028 || n == 0x2029 || n == 0x202F
    || n == 0x205F || n == 0x3000

/-- The characters without the blanks before them. -/
def trimLeft (cs : List Char) : List Char := cs.dropWhile isBlank

/-- The characters without the blanks behind them. -/
def trimRight (cs : List Char) : List Char := (cs.reverse.dropWhile isBlank).reverse

/-- The characters without the blanks at either end. -/
def trim (cs : List Char) : List Char := trimRight (trimLeft cs)

/-- Puts a character in front of the first word of a list of words. -/
def consHead (c : Char) : List (List Char) → List (List Char)
  | [] => [[c]]
  | w :: ws => (c :: w) :: ws

/-- The maximal runs of characters that are not blank, in order. -/
def words : List Char → List (List Char)
  | [] => []
  | c :: rest =>
    if isBlank c then words rest
    else match rest with
      | [] => [[c]]
      | d :: _ => if isBlank d then [c] :: words rest else consHead c (words rest)

/-- The words of a text. -/
def wordsOf (s : String) : List String := (words s.toList).map String.ofList

/-- No word holds a blank. -/
theorem not_isBlank_of_mem_words {cs w : List Char} (hw : w ∈ words cs) :
    ∀ c ∈ w, isBlank c = false := by
  induction cs generalizing w with
  | nil => simp [words] at hw
  | cons c rest ih =>
    unfold words at hw
    split at hw
    · exact ih hw
    · rename_i hc
      have hc : isBlank c = false := by simpa using hc
      split at hw
      · simp_all
      · split at hw
        · rcases List.mem_cons.1 hw with rfl | hw
          · simp [hc]
          · exact ih hw
        · revert hw
          rename_i d tail hd
          cases hws : words (d :: tail) with
          | nil =>
            simp only [consHead, List.mem_singleton]
            rintro rfl
            simp [hc]
          | cons v vs =>
            rw [hws] at ih
            simp only [consHead, List.mem_cons]
            rintro (rfl | hw)
            · have hv := ih (w := v) (by simp)
              intro x hx
              rcases List.mem_cons.1 hx with rfl | hx
              · exact hc
              · exact hv x hx
            · exact ih (by simp [hw])

/-- No word is empty. -/
theorem ne_nil_of_mem_words {cs w : List Char} (hw : w ∈ words cs) : w ≠ [] := by
  induction cs generalizing w with
  | nil => simp [words] at hw
  | cons c rest ih =>
    unfold words at hw
    split at hw
    · exact ih hw
    · split at hw
      · simp_all
      · split at hw
        · rcases List.mem_cons.1 hw with rfl | hw
          · simp
          · exact ih hw
        · revert hw
          cases hws : words _ with
          | nil => simp +contextual [consHead]
          | cons v vs =>
            simp only [consHead, List.mem_cons]
            rintro (rfl | hw)
            · simp
            · exact ih (by simp [hws, hw])

/-! ### Lines -/

/-- The lines of a run of characters. -/
def lines : List Char → List (List Char)
  | [] => []
  | '\n' :: rest => [] :: lines rest
  -- Only the return next to the feed goes with it.
  | '\r' :: '\n' :: rest => [] :: lines rest
  | c :: rest =>
    match lines rest with
    | [] => [[c]]
    | line :: later => (c :: line) :: later

/-- The lines of a text. -/
def linesOf (s : String) : List String := (lines s.toList).map String.ofList

/-- A line without line breaks, ended by a line feed, comes back in front of the rest. -/
theorem lines_append_newline {line rest : List Char}
    (h : ∀ c ∈ line, c ≠ '\n' ∧ c ≠ '\r') :
    lines (line ++ '\n' :: rest) = line :: lines rest := by
  induction line with
  | nil => simp [lines]
  | cons c line ih =>
    obtain ⟨hn, hr⟩ := h c (by simp)
    have ih := ih fun d hd => h d (by simp [hd])
    rw [List.cons_append, lines, ih] <;> simp_all

end Ballroom.Text
