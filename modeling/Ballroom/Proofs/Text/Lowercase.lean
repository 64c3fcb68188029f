import Ballroom.Text.Case
import Mathlib.Data.List.Basic

/-!
# Lower case and parts of a text

The lower-case form of a part of a text is not always part of the lower-case form of the
text, for a capital sigma at the end of a word has a form of its own, and where the part ends
need not be the end of a word.  `lowerWithin` is the lower-case form of a part with what stands
around it; it is that of the part by itself if and only if the sigmas of the part agree
(`lowerWithin_eq_lowercase_iff`).
-/

namespace Ballroom.Text

variable {before after own x y : List Char}

/-! ### Parts -/

/-- A part stands in a run of characters if and only if it has some before and some behind it. -/
theorem containsChars_iff {part cs : List Char} : containsChars part cs ↔ part <:+: cs := by
  induction cs with
  | nil => simp [containsChars]
  | cons c rest ih =>
    rw [containsChars, Bool.or_eq_true, List.isPrefixOf_iff_prefix, ih, List.infix_cons_iff]

/-- A text contains another if and only if that one stands somewhere in it. -/
theorem contains_iff {s part : String} : contains s part ↔ part.toList <:+: s.toList :=
  containsChars_iff

/-! ### Lower case within a text -/

/-- The lower-case form of characters with others around them.  What is before them is
reversed. -/
def lowerWithin (before : List Char) : List Char → List Char → List Char
  | [], _ => []
  | c :: rest, after =>
    (if c = 'Σ' then [if endsWord before (rest ++ after) then 'ς' else 'σ'] else lowerChar c)
      ++ lowerWithin (c :: before) rest after

/-- With nothing behind it, a part runs to the end of the text. -/
theorem lowerFrom_eq (before cs : List Char) : lowerFrom before cs = lowerWithin before cs [] := by
  induction cs generalizing before with
  | nil => rfl
  | cons c rest ih => rw [lowerFrom, lowerWithin, List.append_nil, ih]

/-- The lower-case form of a text is that of a part with nothing around it. -/
theorem toList_lowercase (s : String) : (lowercase s).toList = lowerWithin [] s.toList [] := by
  rw [lowercase, String.toList_ofList, lowerFrom_eq]

/-- Each of two parts has the other one beside it. -/
theorem lowerWithin_append :
    lowerWithin before (x ++ y) after =
      lowerWithin before x (y ++ after) ++ lowerWithin (x.reverse ++ before) y after := by
  -- What has been passed moves to the front, one character at a time.
  induction x generalizing before with
  | nil => rfl
  | cons c rest ih =>
    rw [List.cons_append, lowerWithin, lowerWithin, ih, List.append_assoc, List.append_assoc,
      List.reverse_cons, List.append_assoc, List.singleton_append]

/-- The lower-case form of a text has that of each part with what stands around it. -/
theorem lowerWithin_infix_lowercase {s : String} (h : s.toList = before ++ x ++ after) :
    lowerWithin before.reverse x after <:+: (lowercase s).toList := by
  rw [toList_lowercase, h, lowerWithin_append, lowerWithin_append]
  simp only [List.append_nil]
  exact List.infix_append _ _ _

/-! ### Sigmas -/

/-- Every capital sigma of a part ends a word where the part stands if and only if it does so
in the part by itself.  What is before the part is reversed. -/
def SigmasAgree (before part after : List Char) : Prop :=
  ∀ i < part.length, part[i]? = some 'Σ' →
    endsWord ((part.take i).reverse ++ before) (part.drop (i + 1) ++ after) =
      endsWord (part.take i).reverse (part.drop (i + 1))

instance (before part after : List Char) : Decidable (SigmasAgree before part after) :=
  inferInstanceAs (Decidable (∀ i < part.length, part[i]? = some 'Σ' →
    endsWord ((part.take i).reverse ++ before) (part.drop (i + 1) ++ after) =
      endsWord (part.take i).reverse (part.drop (i + 1))))

/-- Characters that are passed over leave the answer to those behind them. -/
theorem meetsCased_append (x y : List Char) :
    meetsCased (x ++ y) =
      if x.all fun c => inRanges caseIgnorableRanges c.toNat then meetsCased y
      else meetsCased x := by
  induction x with
  | nil => rfl
  | cons c rest ih =>
    unfold meetsCased at ih ⊢
    rw [List.cons_append, List.find?_cons, List.find?_cons, List.all_cons]
    -- The first character is passed over, or it decides the question.
    cases inRanges caseIgnorableRanges c.toNat with
    | true => simpa using ih
    | false => simp

/-- What is not cased beside a part says as little as nothing beside it. -/
theorem meetsCased_append_of_not (x : List Char) (h : meetsCased y = false) :
    meetsCased (x ++ y) = meetsCased x := by
  rw [meetsCased_append]
  split
  · -- All of the part is passed over, and neither what follows nor the end of the text is
    -- cased.
    rename_i hignorable
    have hnone := meetsCased_append x []
    rw [if_pos hignorable, List.append_nil] at hnone
    rw [h, hnone]
    rfl
  · rfl

/-- The sigmas of whole words agree. -/
theorem sigmasAgree_of_words (hbefore : meetsCased before = false)
    (hafter : meetsCased after = false) (part : List Char) : SigmasAgree before part after := by
  intro i _ _
  rw [endsWord, endsWord, meetsCased_append_of_not _ hbefore, meetsCased_append_of_not _ hafter]

/-- Two places of a character have the same lower-case form unless it is a sigma that ends a
word in one of them only. -/
private theorem lowerWithin_cons_eq_iff {c : Char} {rest : List Char} :
    lowerWithin (own ++ before) (c :: rest) after = lowerWithin own (c :: rest) [] ↔
      (c = 'Σ' → endsWord (own ++ before) (rest ++ after) = endsWord own rest) ∧
        lowerWithin (c :: own ++ before) rest after = lowerWithin (c :: own) rest [] := by
  rw [lowerWithin, lowerWithin, List.append_nil, List.cons_append]
  by_cases hc : c = 'Σ'
  · simp only [hc, if_true, List.cons_append, List.nil_append, List.cons.injEq, true_imp_iff]
    -- The two forms of a sigma are different characters.
    cases endsWord (own ++ before) (rest ++ after) <;> cases endsWord own rest <;> simp
  · simp [hc]

/-- The characters `own` stand before a part in either place. -/
private theorem lowerWithin_eq_iff :
    lowerWithin (own ++ before) x after = lowerWithin own x [] ↔
      ∀ i < x.length, x[i]? = some 'Σ' →
        endsWord ((x.take i).reverse ++ (own ++ before)) (x.drop (i + 1) ++ after) =
          endsWord ((x.take i).reverse ++ own) (x.drop (i + 1)) := by
  -- What has been compared joins the characters before the part in both places.
  induction x generalizing own with
  | nil => simp [lowerWithin]
  | cons c rest ih =>
    rw [lowerWithin_cons_eq_iff, ih]
    -- The first character is the one at place 0.
    simp only [List.length_cons, Nat.forall_lt_succ_left, List.getElem?_cons_zero,
      Option.some.injEq, List.take_zero, List.reverse_nil, List.nil_append, List.drop_succ_cons,
      List.drop_zero, List.getElem?_cons_succ, List.take_succ_cons, List.reverse_cons,
      List.append_assoc, List.cons_append]

/-- A part of a text has the lower-case form that it has by itself if and only if its sigmas
agree. -/
theorem lowerWithin_eq_lowercase_iff {part : String} :
    lowerWithin before part.toList after = (lowercase part).toList ↔
      SigmasAgree before part.toList after := by
  have hiff : lowerWithin ([] ++ before) part.toList after = lowerWithin [] part.toList [] ↔ _ :=
    lowerWithin_eq_iff
  simp only [List.nil_append, List.append_nil] at hiff
  rw [toList_lowercase, hiff]
  rfl

end Ballroom.Text
