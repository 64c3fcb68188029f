import Ballroom.Record.Value

/-!
# Plain texts

A plain text has no line break and no NUL, so that it stays on one line and within one
slot.  Flattened texts are plain, and so are texts of digits and signs.
-/

namespace Ballroom.Text

/-- A text without line breaks and NULs. -/
def Plain (s : String) : Prop := ∀ c ∈ s.toList, c ≠ '\n' ∧ c ≠ '\r' ∧ c ≠ '\x00'

instance (s : String) : Decidable (Plain s) :=
  List.decidableBAll (fun c => c ≠ '\n' ∧ c ≠ '\r' ∧ c ≠ '\x00') s.toList

/-- Plain texts that are joined are plain. -/
theorem plain_append {a b : String} (ha : Plain a) (hb : Plain b) : Plain (a ++ b) := by
  intro c hc
  rw [String.toList_append, List.mem_append] at hc
  cases hc with
  | inl hc => exact ha c hc
  | inr hc => exact hb c hc

/-- A flattened text is plain. -/
theorem plain_flatten (s : String) : Plain (Record.flatten s) := by
  intro c hc
  simp only [Record.flatten, String.toList_ofList, List.mem_map, List.mem_filter] at hc
  obtain ⟨d, ⟨_, hd⟩, rfl⟩ := hc
  have hd : d ≠ '\x00' := by simpa using hd
  -- What was a line break is a blank now, and what was none is itself.
  unfold Record.flattenChar
  split
  · decide
  · rename_i h
    rw [not_or] at h
    exact ⟨h.1, h.2, hd⟩

/-- A text that is plain already stays as it is. -/
theorem flatten_eq_self {s : String} (h : Plain s) : Record.flatten s = s := by
  have hfilter : s.toList.filter (· ≠ '\x00') = s.toList := by
    rw [List.filter_eq_self]
    intro c hc
    simpa using (h c hc).2.2
  have hmap : s.toList.map Record.flattenChar = s.toList := by
    refine (List.map_congr_left fun c hc => ?_).trans (List.map_id _)
    obtain ⟨hn, hr, _⟩ := h c hc
    simp [Record.flattenChar, hn, hr]
  simp only [Record.flatten, hfilter, hmap, String.ofList_toList]

/-- A text keeps at least one character if one of them is not a NUL. -/
theorem flatten_ne_empty {s : String} (h : ∃ c ∈ s.toList, c ≠ '\x00') :
    Record.flatten s ≠ "" := by
  obtain ⟨c, hc, hne⟩ := h
  intro hempty
  have hmem : c ∈ s.toList.filter (· ≠ '\x00') := List.mem_filter.2 ⟨hc, by simpa using hne⟩
  -- The character that is kept would be a character of the empty text.
  have hnil := congrArg String.toList hempty
  simp only [Record.flatten, String.toList_ofList, String.toList_empty, List.map_eq_nil_iff] at hnil
  rw [hnil] at hmem
  exact absurd hmem List.not_mem_nil

/-- Characters without blanks have none to trim. -/
theorem trim_eq_self {cs : List Char} (h : ∀ c ∈ cs, isBlank c = false) : trim cs = cs := by
  have hdrop : ∀ l : List Char, (∀ c ∈ l, isBlank c = false) → l.dropWhile isBlank = l := by
    intro l hl
    cases l with
    | nil => rfl
    | cons c rest => rw [List.dropWhile_cons, hl c (by simp), if_neg (by decide)]
  -- Both ends are trimmed by one cut, the second of them in reverse.
  rw [trim, trimLeft, hdrop cs h, trimRight, hdrop cs.reverse (by simpa using h),
    List.reverse_reverse]

end Ballroom.Text
