import Ballroom.Proofs.Json.Escaping
import Ballroom.Proofs.Json.Reading

/-!
# Reading back a document

A value that was read from a text is read back from its indented text (`readsBack_of_canonical`),
if each of its floating-point numbers is read back from its own text.  That is the only
condition: rounding in two steps, the reader may miss the number that the shortest text stands
for by a unit in the last place.
-/

namespace Ballroom.Json

/-- The indented text of a value is read as this value. -/
def ReadsBack (v : Json) : Prop := parse v.pretty = .ok v

/-- A floating-point number is part of a value. -/
inductive HasFloating (x : Number.Binary64) : Json → Prop
  | self : HasFloating x (.number (.floating x))
  | item {vs : List Json} {v : Json} (hv : v ∈ vs) (h : HasFloating x v) :
      HasFloating x (.list vs)
  | member {ms : Members} {m : String × Json} (hm : m ∈ ms) (h : HasFloating x m.2) :
      HasFloating x (.object ms)

/-- Wherever it stands, the indented text of a value is read as this value, and nothing but
blanks behind it is left out. -/
def ReadsAnywhere (depth : Nat) (v : Json) : Prop :=
  ∀ (indent steps : Nat) (rest : List Char), Scan.Ends rest →
    2 * (indented indent v).toList.length ≤ steps →
      ∃ r, parseValue steps (depth + 1) ((indented indent v).toList ++ rest) = .ok (v, r) ∧
        Scan.skipGap r = Scan.skipGap rest

variable {depth : Nat} {rest : List Char}

/-! ### Blanks -/

/-- Blanks in front of a text do not change where it begins. -/
theorem Scan.skipGap_append_of_nil {cs : List Char} (h : skipGap cs = []) (rest : List Char) :
    skipGap (cs ++ rest) = skipGap rest := by
  unfold skipGap at *
  rw [List.dropWhile_append, h]
  rfl

/-- A text that does not consist of blanks begins where it did, whatever follows. -/
theorem Scan.skipGap_append_of_cons {cs tail : List Char} {c : Char} (h : skipGap cs = c :: tail)
    (rest : List Char) : skipGap (cs ++ rest) = c :: (tail ++ rest) := by
  unfold skipGap at *
  rw [List.dropWhile_append, h]
  rfl

/-- Nothing is skipped in front of a character that is no blank. -/
theorem Scan.skipGap_of_not_isGap {c : Char} (h : isGap c = false) (cs : List Char) :
    skipGap (c :: cs) = c :: cs := by
  rw [skipGap, List.dropWhile_cons, h]
  rfl

/-- A line break and its indentation are blanks. -/
theorem Scan.skipGap_newline (indent : Nat) : skipGap (newline indent).toList = [] := by
  simp [newline, skipGap, isGap]

theorem Scan.ends_newline (indent : Nat) (rest : List Char) :
    Ends ((newline indent).toList ++ rest) := by
  intro c hc
  simp only [newline, String.toList_ofList, List.cons_append, List.head?_cons,
    Option.some.injEq] at hc
  subst hc
  decide

/-- Blanks in front of a value are passed over. -/
theorem parseValue_append_of_blank {gap : List Char} (h : Scan.skipGap gap = [])
    (steps depth : Nat) (cs : List Char) :
    parseValue steps depth (gap ++ cs) = parseValue steps depth cs := by
  rw [← parseValue_skipGap, Scan.skipGap_append_of_nil h, parseValue_skipGap]

/-! ### Values without parts -/

/-- What begins without a blank and stands in front of anything that may follow is read
anywhere. -/
private theorem readsAnywhere_of_valueAt {v : Json}
    (h : ∀ indent steps rest, Scan.Ends rest →
      2 * (indented indent v).toList.length ≤ steps + 1 → ∃ c tail,
        (indented indent v).toList = c :: tail ∧ Scan.isGap c = false ∧
          ValueAt steps (depth + 1) (c :: (tail ++ rest)) v rest) : ReadsAnywhere depth v := by
  intro indent steps rest hrest hsteps
  cases steps with
  -- A text has a character at least, so that there are steps for it.
  | zero =>
    obtain ⟨c, tail, htext, _⟩ := h indent 0 rest hrest (by omega)
    rw [htext, List.length_cons] at hsteps
    omega
  | succ steps =>
    obtain ⟨c, tail, htext, hc, hvalue⟩ := h indent steps rest hrest hsteps
    refine ⟨rest, ?_, rfl⟩
    rw [parseValue_eq_ok_iff, htext, List.cons_append, Scan.skipGap_of_not_isGap hc]
    exact hvalue

/-- A word is read wherever it stands. -/
theorem Scan.word_append (letters rest : List Char) :
    word letters (letters ++ rest) = .ok rest := by
  induction letters with
  | nil => rfl
  | cons c letters ih => rw [List.cons_append, word, if_pos rfl, ih]

theorem readsAnywhere_null : ReadsAnywhere depth .null := by
  apply readsAnywhere_of_valueAt
  intro indent steps rest _ _
  exact ⟨'n', "ull".toList, by simp [indented], rfl, .null (Scan.word_append _ _)⟩

theorem readsAnywhere_bool (b : Bool) : ReadsAnywhere depth (.bool b) := by
  apply readsAnywhere_of_valueAt
  intro indent steps rest _ _
  cases b with
  | true => exact ⟨'t', "rue".toList, by simp [indented], rfl, .true (Scan.word_append _ _)⟩
  | false => exact ⟨'f', "alse".toList, by simp [indented], rfl, .false (Scan.word_append _ _)⟩

theorem readsAnywhere_text (s : String) : ReadsAnywhere depth (.text s) := by
  apply readsAnywhere_of_valueAt
  intro indent steps rest _ _
  refine ⟨'"', _, toList_quote s, rfl, .text ?_⟩
  rw [List.append_assoc]
  exact Scan.text_quote s rest

/-- A digit is no blank. -/
theorem Scan.isGap_of_isDigit {c : Char} (h : c.isDigit) : isGap c = false := by
  simp only [isGap, Bool.or_eq_false_iff, beq_eq_false_iff_ne]
  exact ⟨⟨⟨Number.ne_of_isDigit h (by decide), Number.ne_of_isDigit h (by decide)⟩,
    Number.ne_of_isDigit h (by decide)⟩, Number.ne_of_isDigit h (by decide)⟩

/-- Whole numbers are read anywhere, with or without a sign. -/
theorem readsAnywhere_whole {n : Int} (hn : (Number.whole n).Fits) :
    ReadsAnywhere depth (.number (.whole n)) := by
  apply readsAnywhere_of_valueAt
  intro indent steps rest hrest _
  by_cases hneg : n < 0
  · obtain ⟨cs, hcs, hread⟩ := Scan.number_toString_of_neg hneg hn hrest
    exact ⟨'-', cs, hcs, rfl, .negative hread⟩
  · have hpos : 0 ≤ n := by omega
    obtain ⟨c, cs, hdigits, hc⟩ := Number.exists_cons_toDigits n.toNat
    -- The first digit tells the reader that a number comes.
    have htext : (toString n).toList = c :: cs := by
      rw [Number.toList_toString_int, if_pos hpos, hdigits]
    have hread := Scan.number_toString_of_nonneg hpos hn hrest
    rw [htext] at hread
    exact ⟨c, cs, htext, Scan.isGap_of_isDigit hc, .positive hc hread⟩

/-- A number that is read does not depend on what stands behind it. -/
private theorem ValueAt.append {steps depth : Nat} {cs r : List Char} {n : Number}
    (h : ValueAt steps depth cs (.number n) r) (hrest : Scan.Ends rest) (steps' depth' : Nat) :
    ValueAt steps' depth' (cs ++ rest) (.number n) (r ++ rest) := by
  -- The value is a number, so that only the two number rules remain.
  generalize hv : Json.number n = v at h
  cases h with
  | negative h =>
    cases hv
    exact .negative ((Scan.readsNumber_number _ _ _ h).2 rest hrest)
  | positive hc h =>
    cases hv
    exact .positive hc ((Scan.readsNumber_number _ _ _ h).2 rest hrest)
  | object => cases hv
  | _ => cases hv

/-- A floating-point number that is read back from its text alone is read anywhere. -/
theorem readsAnywhere_floating {x : Number.Binary64} (h : ReadsBack (.number (.floating x))) :
    ReadsAnywhere depth (.number (.floating x)) := by
  intro indent steps rest hrest hsteps
  have htext : indented indent (.number (.floating x)) = pretty (.number (.floating x)) := rfl
  -- Alone the text is read up to blanks, and a number does not look behind them.
  obtain ⟨r, hread, hr⟩ := finish_eq_ok_iff.1 h
  have hvalue := parseValue_eq_ok_iff.1 hread
  obtain ⟨c, tail, hcs, _⟩ := hvalue.exists_cons
  rw [htext] at hsteps ⊢
  refine ⟨r ++ rest, ?_, Scan.skipGap_append_of_nil hr rest⟩
  cases steps with
  | zero =>
    have hnil : (pretty (.number (.floating x))).toList = [] :=
      List.length_eq_zero_iff.1 (by omega)
    rw [hnil] at hcs
    cases hcs
  | succ steps =>
    have happend := hvalue.append hrest steps (depth + 1)
    rw [hcs] at happend
    rw [parseValue_eq_ok_iff, Scan.skipGap_append_of_cons hcs]
    exact happend

/-! ### Lists and objects -/

private theorem ends_comma (rest : List Char) : Scan.Ends (',' :: rest) := by
  intro c hc
  rw [List.head?_cons] at hc
  obtain rfl := Option.some.inj hc
  decide

/-- The items of a list are read up to the bracket that ends it. -/
theorem items_indentedItems {vs : List Json} (hne : vs ≠ [])
    (hvs : ∀ v ∈ vs, ReadsAnywhere depth v) (indent outer steps : Nat) (rest : List Char)
    (hsteps : 2 * (indentedItems indent vs).toList.length + 1 ≤ steps) :
    parseValue.items steps (depth + 1)
      ((indentedItems indent vs).toList ++ ((newline outer).toList ++ ']' :: rest)) =
        .ok (vs, rest) := by
  -- On the items: each has a line and a step of its own.
  induction vs generalizing steps with
  | nil => exact absurd rfl hne
  | cons v later ih =>
    obtain ⟨steps, rfl⟩ := Nat.exists_eq_add_one.2 (show 0 < steps by omega)
    rw [items_eq_ok_iff]
    have hfirst := hvs v List.mem_cons_self
    cases later with
    | nil =>
      simp only [indentedItems, String.toList_append, List.append_assoc, List.length_append]
        at hsteps ⊢
      obtain ⟨r, hread, hr⟩ := hfirst indent steps _ (Scan.ends_newline outer (']' :: rest))
        (by omega)
      -- The last item, with the bracket on the next line.
      refine .last ((parseValue_append_of_blank (Scan.skipGap_newline indent) _ _ _).trans hread)
        ?_
      rw [hr, Scan.skipGap_append_of_nil (Scan.skipGap_newline outer)]
      exact Scan.skipGap_of_not_isGap (by decide) _
    | cons w later =>
      simp only [indentedItems, String.toList_append, List.append_assoc, List.length_append]
        at hsteps ⊢
      have hcomma : ",".toList = [','] := by simp
      simp only [hcomma, List.cons_append, List.nil_append, List.length_singleton] at hsteps ⊢
      obtain ⟨r, hread, hr⟩ := hfirst indent steps _ (ends_comma _) (by omega)
      -- A comma directly behind the item.
      refine .more ((parseValue_append_of_blank (Scan.skipGap_newline indent) _ _ _).trans hread)
        (hr.trans (Scan.skipGap_of_not_isGap (by decide) _)) ?_
      have hlater := ih (by simp) (fun u hu => hvs u (List.mem_cons_of_mem _ hu)) steps (by omega)
      simpa using hlater

/-- The name of a member on a line of its own. -/
private theorem nameAt_quote (indent : Nat) (key : String) (rest : List Char) :
    NameAt ((newline indent).toList ++ ((quote key).toList ++ ':' :: rest)) key rest := by
  refine ⟨key.toList.flatMap escape ++ '"' :: ':' :: rest, ':' :: rest, ?_, ?_, ?_⟩
  · rw [Scan.skipGap_append_of_nil (Scan.skipGap_newline indent), toList_quote, List.cons_append,
      Scan.skipGap_of_not_isGap (by decide), List.append_assoc]
    rfl
  · exact Scan.text_quote key _
  · exact Scan.skipGap_of_not_isGap (by decide) _

/-- The members of an object are read up to the brace that ends it. -/
theorem members_indentedMembers {ms : Members} (hne : ms ≠ [])
    (hms : ∀ m ∈ ms, ReadsAnywhere depth m.2) (indent outer steps : Nat) (rest : List Char)
    (hsteps : 2 * (indentedMembers indent ms).toList.length + 1 ≤ steps) :
    parseValue.members steps (depth + 1)
      ((indentedMembers indent ms).toList ++ ((newline outer).toList ++ '\x7d' :: rest)) =
        .ok (ms, rest) := by
  -- As for items, with the name and a colon in front of each value.
  induction ms generalizing steps with
  | nil => exact absurd rfl hne
  | cons m later ih =>
    obtain ⟨steps, rfl⟩ := Nat.exists_eq_add_one.2 (show 0 < steps by omega)
    rw [members_eq_ok_iff]
    obtain ⟨key, v⟩ := m
    have hfirst : ReadsAnywhere depth v := hms (key, v) List.mem_cons_self
    have hcolon : ": ".toList = [':', ' '] := by simp
    have hblank : Scan.skipGap [' '] = [] := rfl
    cases later with
    | nil =>
      simp only [indentedMembers, String.toList_append, List.append_assoc, List.length_append]
        at hsteps ⊢
      obtain ⟨r, hread, hr⟩ := hfirst indent steps _ (Scan.ends_newline outer ('\x7d' :: rest))
        (by omega)
      rw [hcolon]
      -- The last member, with the brace on the next line.
      refine .last (nameAt_quote indent key _)
        ((parseValue_append_of_blank hblank _ _ _).trans hread) ?_
      rw [hr, Scan.skipGap_append_of_nil (Scan.skipGap_newline outer)]
      exact Scan.skipGap_of_not_isGap (by decide) _
    | cons w later =>
      simp only [indentedMembers, String.toList_append, List.append_assoc, List.length_append]
        at hsteps ⊢
      have hcomma : ",".toList = [','] := by simp
      simp only [hcomma, List.cons_append, List.nil_append, List.length_singleton] at hsteps ⊢
      obtain ⟨r, hread, hr⟩ := hfirst indent steps _ (ends_comma _) (by omega)
      rw [hcolon]
      refine .more (nameAt_quote indent key _)
        ((parseValue_append_of_blank hblank _ _ _).trans hread)
        (hr.trans (Scan.skipGap_of_not_isGap (by decide) _)) ?_
      have hlater := ih (by simp) (fun u hu => hms u (List.mem_cons_of_mem _ hu)) steps (by omega)
      simpa using hlater

/-- A list is read anywhere if its items are. -/
theorem readsAnywhere_list {vs : List Json} (hvs : ∀ v ∈ vs, ReadsAnywhere depth v) :
    ReadsAnywhere (depth + 1) (.list vs) := by
  apply readsAnywhere_of_valueAt
  intro indent steps rest _ hsteps
  cases vs with
  -- An empty list is written on one line.
  | nil =>
    exact ⟨'[', [']'], by simp [indented], rfl,
      .emptyList (by omega) (Scan.skipGap_of_not_isGap (by decide) rest)⟩
  | cons v later =>
    have htext : (indented indent (.list (v :: later))).toList = '[' ::
        ((indentedItems (indent + 1) (v :: later)).toList ++
          ((newline indent).toList ++ [']'])) := by
      simp [indented]
    rw [htext, List.length_cons, List.length_append] at hsteps
    refine ⟨'[', _, htext, rfl, .list (by omega) ?_⟩
    rw [List.append_assoc, List.append_assoc]
    exact items_indentedItems (by simp) hvs (indent + 1) indent steps rest (by omega)

/-- An object in order is read anywhere if its members are. -/
theorem readsAnywhere_object {ms : Members} (hsorted : ms.Sorted)
    (hms : ∀ m ∈ ms, ReadsAnywhere depth m.2) : ReadsAnywhere (depth + 1) (.object ms) := by
  apply readsAnywhere_of_valueAt
  intro indent steps rest _ hsteps
  cases ms with
  -- An empty object is written on one line.
  | nil =>
    exact ⟨'\x7b', ['\x7d'], by simp [indented], rfl,
      .emptyObject (by omega) (Scan.skipGap_of_not_isGap (by decide) rest)⟩
  | cons m later =>
    have htext : (indented indent (.object (m :: later))).toList = '\x7b' ::
        ((indentedMembers (indent + 1) (m :: later)).toList ++
          ((newline indent).toList ++ ['\x7d'])) := by
      simp [indented]
    rw [htext, List.length_cons, List.length_append] at hsteps
    -- Members in order make the object that they are the members of.
    rw [← ofMembers_of_sorted hsorted]
    refine ⟨'\x7b', _, (ofMembers_of_sorted hsorted).symm ▸ htext, rfl, .object (by omega) ?_⟩
    rw [List.append_assoc, List.append_assoc]
    exact members_indentedMembers (by simp) hms (indent + 1) indent steps rest (by omega)

/-! ### Whole documents -/

/-- A canonical value is read anywhere, if the floating-point numbers in it are read back. -/
theorem readsAnywhere_of_canonical {v : Json} (h : Canonical depth v)
    (hfloating : ∀ x, HasFloating x v → ReadsBack (.number (.floating x))) :
    ReadsAnywhere depth v := by
  induction h with
  | null => exact readsAnywhere_null
  | bool b => exact readsAnywhere_bool b
  | text s => exact readsAnywhere_text s
  | @number _ n hn =>
    cases n with
    | whole n => exact readsAnywhere_whole hn
    | floating x => exact readsAnywhere_floating (hfloating x .self)
  | list _ ih => exact readsAnywhere_list fun v hv => ih v hv fun x hx => hfloating x (.item hv hx)
  | object hsorted _ ih =>
    exact readsAnywhere_object hsorted fun m hm => ih m hm fun x hx => hfloating x (.member hm hx)

/-- A canonical value is read back from its indented text, if the floating-point numbers in it
are. -/
theorem readsBack_of_canonical {v : Json} (h : Canonical (depthLimit - 1) v)
    (hfloating : ∀ x, HasFloating x v → ReadsBack (.number (.floating x))) : ReadsBack v := by
  have hends : Scan.Ends [] := nofun
  obtain ⟨r, hread, hr⟩ := readsAnywhere_of_canonical h hfloating 0
    (2 * v.pretty.toList.length + 2) [] hends (by show 2 * v.pretty.toList.length ≤ _; omega)
  rw [List.append_nil] at hread
  exact finish_eq_ok_iff.2 ⟨r, hread, hr⟩

end Ballroom.Json
