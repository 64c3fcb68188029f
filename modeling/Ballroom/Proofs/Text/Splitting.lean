import Ballroom.Proofs.Text.Plain
import Ballroom.Text.Splitting

/-!
# Lines and words

What a text is cut into.  The characters of a line are those of the text, but no line feeds
(`mem_lines`), the first line feed ends the first line (`lines_append_feed`), and words that
are written with blanks between them are found again (`wordsOf_intercalate`).
-/

namespace Ballroom.Text

/-! ### Lines -/

/-- A line consists of characters of the text and holds no line feed. -/
theorem mem_lines {cs line : List Char} {c : Char} (hline : line ∈ lines cs) (hc : c ∈ line) :
    c ∈ cs ∧ c ≠ '\n' := by
  fun_induction lines cs generalizing line with
  | case1 => cases hline
  -- A line that a feed ends: the feed, and a return before it, are in no line.
  | case2 rest ih =>
    rcases List.mem_cons.1 hline with rfl | hline
    · cases hc
    · obtain ⟨hmem, hne⟩ := ih hline hc
      exact ⟨List.mem_cons_of_mem _ hmem, hne⟩
  | case3 rest ih =>
    rcases List.mem_cons.1 hline with rfl | hline
    · cases hc
    · obtain ⟨hmem, hne⟩ := ih hline hc
      exact ⟨List.mem_cons_of_mem _ (List.mem_cons_of_mem _ hmem), hne⟩
  | case4 d rest hfeed _ hrest ih =>
    -- The last line, which no line feed ends.
    obtain rfl := List.mem_singleton.1 hline
    obtain rfl := List.mem_singleton.1 hc
    exact ⟨List.mem_cons_self, fun h => hfeed h⟩
  -- A character in front of the first line of the rest.
  | case5 d rest hfeed _ first later hrest ih =>
    rw [hrest] at ih
    rcases List.mem_cons.1 hline with rfl | hline
    · rcases List.mem_cons.1 hc with rfl | hc
      · exact ⟨List.mem_cons_self, fun h => hfeed h⟩
      · obtain ⟨hmem, hne⟩ := ih List.mem_cons_self hc
        exact ⟨List.mem_cons_of_mem _ hmem, hne⟩
    · obtain ⟨hmem, hne⟩ := ih (List.mem_cons_of_mem _ hline) hc
      exact ⟨List.mem_cons_of_mem _ hmem, hne⟩

/-- The lines of a text without carriage returns and NULs are plain. -/
theorem plain_of_mem_linesOf {s line : String} (h : ∀ c ∈ s.toList, c ≠ '\r' ∧ c ≠ '\x00')
    (hline : line ∈ linesOf s) : Plain line := by
  obtain ⟨cs, hcs, rfl⟩ := List.mem_map.1 hline
  intro c hc
  rw [String.toList_ofList] at hc
  obtain ⟨hmem, hne⟩ := mem_lines hcs hc
  exact ⟨hne, h c hmem⟩

/-- A line without the carriage return that may stand at its end. -/
def withoutReturn (line : List Char) : List Char :=
  if line.getLast? = some '\r' then line.dropLast else line

/-- A line without carriage returns stays as it is. -/
theorem withoutReturn_eq_self {line : List Char} (h : ∀ c ∈ line, c ≠ '\r') :
    withoutReturn line = line :=
  if_neg fun hlast => h '\r' (List.mem_of_getLast? hlast) rfl

/-- The return at the end of a line does not touch its first character. -/
theorem withoutReturn_cons {line : List Char} (hne : line ≠ []) (c : Char) :
    withoutReturn (c :: line) = c :: withoutReturn line := by
  obtain ⟨d, rest, rfl⟩ := List.exists_cons_of_ne_nil hne
  unfold withoutReturn
  rw [List.getLast?_cons_cons, List.dropLast_cons_cons]
  split <;> rfl

/-- A character that is no part of a line break comes in front of the first line. -/
theorem lines_cons {c : Char} {rest : List Char} (hc : c ≠ '\n')
    (hbreak : c = '\r' → ∀ later, rest ≠ '\n' :: later) :
    lines (c :: rest) =
      match lines rest with
      | [] => [[c]]
      | line :: later => (c :: line) :: later := by
  have hpair : ∀ later, c = '\r' → rest = '\n' :: later → False :=
    fun later hreturn => hbreak hreturn later
  exact lines.eq_4 c rest hc hpair

/-- The first line feed ends a line, and takes a carriage return before it along. -/
theorem lines_append_feed {line rest : List Char} (h : '\n' ∉ line) :
    lines (line ++ '\n' :: rest) = withoutReturn line :: lines rest := by
  induction line with
  | nil => simp [lines, withoutReturn]
  | cons c tail ih =>
    obtain ⟨hc, htail⟩ := not_or.1 (mt List.mem_cons.2 h)
    cases tail with
    | nil =>
      -- The last character of the line may be the return that goes with the feed.
      by_cases hreturn : c = '\r'
      · subst hreturn
        simp [lines, withoutReturn]
      · have hself : withoutReturn [c] = [c] := withoutReturn_eq_self (by simpa using hreturn)
        rw [hself, List.cons_append, lines_cons (Ne.symm hc) fun h => absurd h hreturn,
          List.nil_append, lines]
    | cons d tail =>
      -- The character is not the last one, so that no feed follows it.
      obtain ⟨hd, _⟩ := not_or.1 (mt List.mem_cons.2 htail)
      rw [withoutReturn_cons (by simp), List.cons_append, lines_cons (Ne.symm hc), ih htail]
      rintro - later heq
      exact hd (List.cons.inj heq).1.symm

/-- A text without line feeds is one line. -/
theorem lines_of_no_feed {line : List Char} (hne : line ≠ []) (h : '\n' ∉ line) :
    lines line = [line] := by
  induction line with
  | nil => exact absurd rfl hne
  | cons c tail ih =>
    obtain ⟨hc, htail⟩ := not_or.1 (mt List.mem_cons.2 h)
    have hbreak : ∀ later, tail ≠ '\n' :: later := by
      rintro later rfl
      exact htail List.mem_cons_self
    rw [lines_cons (Ne.symm hc) fun _ => hbreak]
    cases tail with
    | nil => rfl
    | cons d tail => rw [ih (by simp) htail]

/-! ### Words -/

variable {w : List Char} {ws : List (List Char)} {blank : Char}

/-- Characters without blanks are one word. -/
theorem words_of_not_blank (hne : w ≠ []) (h : ∀ c ∈ w, isBlank c = false) : words w = [w] := by
  induction w with
  | nil => exact absurd rfl hne
  | cons c rest ih =>
    cases rest with
    | nil => simp [words, h c (by simp)]
    | cons d rest =>
      have ih := ih (by simp) fun e he => h e (List.mem_cons_of_mem _ he)
      rw [words, h c (by simp), if_neg (by decide), ih]
      simp [h d (by simp), consHead]

/-- The first blank ends a word. -/
theorem words_append_blank (hne : w ≠ []) (h : ∀ c ∈ w, isBlank c = false)
    (hblank : isBlank blank) (rest : List Char) :
    words (w ++ blank :: rest) = w :: words rest := by
  induction w with
  | nil => exact absurd rfl hne
  | cons c tail ih =>
    cases tail with
    | nil =>
      simp [words, h c (by simp), hblank]
    | cons d tail =>
      -- The word goes on, and the rest of it is the first word found.
      have ih := ih (by simp) fun e he => h e (List.mem_cons_of_mem _ he)
      rw [List.cons_append] at ih
      rw [List.cons_append, List.cons_append, words, h c (by simp), if_neg (by decide), ih]
      simp [h d (by simp), consHead]

/-- Words with a blank between each two of them are the words of the whole. -/
theorem words_intercalate (h : ∀ w ∈ ws, w ≠ [] ∧ ∀ c ∈ w, isBlank c = false) :
    words ([' '].intercalate ws) = ws := by
  induction ws with
  | nil => rfl
  | cons w rest ih =>
    obtain ⟨hne, hword⟩ := h w (by simp)
    cases rest with
    -- The last word has no blank behind it.
    | nil => rw [List.intercalate_singleton, words_of_not_blank hne hword]
    | cons v rest =>
      rw [List.intercalate_cons_cons, List.append_assoc, List.singleton_append,
        words_append_blank hne hword (by decide), ih fun u hu => h u (List.mem_cons_of_mem _ hu)]

/-- The words of a text are found again in a text that has nothing else but single blanks
between them. -/
theorem wordsOf_intercalate (s : String) : wordsOf (" ".intercalate (wordsOf s)) = wordsOf s := by
  have hwords : (wordsOf s).map String.toList = words s.toList := by
    simp [wordsOf, List.map_map, Function.comp_def]
  rw [wordsOf, String.toList_intercalate, hwords, show " ".toList = [' '] from rfl,
    words_intercalate fun w hw => ⟨ne_nil_of_mem_words hw, not_isBlank_of_mem_words hw⟩]
  rfl

/-- A word consists of characters of the text. -/
theorem mem_of_mem_words {cs : List Char} {c : Char} (hw : w ∈ words cs) (hc : c ∈ w) :
    c ∈ cs := by
  fun_induction words cs generalizing w with
  | case1 => cases hw
  | case2 d rest _ ih => exact List.mem_cons_of_mem _ (ih hw hc)
  | case3 d _ =>
    obtain rfl := List.mem_singleton.1 hw
    exact hc
  | case4 d _ e rest _ ih =>
    rcases List.mem_cons.1 hw with rfl | hw
    · exact List.mem_cons.2 (.inl (List.mem_singleton.1 hc))
    · exact List.mem_cons_of_mem _ (ih hw hc)
  -- A character in front of the first word of the rest.
  | case5 d _ e rest _ ih =>
    cases hrest : words (e :: rest) with
    | nil =>
      rw [hrest] at hw
      obtain rfl := List.mem_singleton.1 hw
      exact List.mem_cons.2 (.inl (List.mem_singleton.1 hc))
    | cons v vs =>
      rw [hrest] at hw ih
      rcases List.mem_cons.1 hw with rfl | hw
      · rcases List.mem_cons.1 hc with rfl | hc
        · exact List.mem_cons_self
        · exact List.mem_cons_of_mem _ (ih List.mem_cons_self hc)
      · exact List.mem_cons_of_mem _ (ih (List.mem_cons_of_mem _ hw) hc)

/-- Joined words consist of their own characters and the blanks between them. -/
private theorem mem_intercalate {c : Char} (hc : c ∈ [' '].intercalate ws) :
    c = ' ' ∨ ∃ w ∈ ws, c ∈ w := by
  induction ws with
  | nil => cases hc
  | cons w rest ih =>
    cases rest with
    | nil =>
      rw [List.intercalate_singleton] at hc
      exact .inr ⟨w, by simp, hc⟩
    | cons v rest =>
      rw [List.intercalate_cons_cons, List.append_assoc, List.mem_append] at hc
      rcases hc with hc | hc
      · exact .inr ⟨w, by simp, hc⟩
      · rcases List.mem_cons.1 hc with rfl | hc
        · exact .inl rfl
        · rcases ih hc with hblank | ⟨u, hu, hc⟩
          · exact .inl hblank
          · exact .inr ⟨u, List.mem_cons_of_mem _ hu, hc⟩

/-- The words of a plain text make a plain text. -/
theorem plain_intercalate_wordsOf {s : String} (h : Plain s) :
    Plain (" ".intercalate (wordsOf s)) := by
  have hwords : (wordsOf s).map String.toList = words s.toList := by
    simp [wordsOf, List.map_map, Function.comp_def]
  intro c hc
  rw [String.toList_intercalate, hwords] at hc
  rcases mem_intercalate hc with rfl | ⟨w, hw, hc⟩
  · decide
  · exact h c (mem_of_mem_words hw hc)

end Ballroom.Text
