import Ballroom.Json.Value
import Ballroom.Proofs.Text.Bytes

/-!
# The members of an object

The members of an object stand in the strict byte order of their keys (`Sorted`), also after one
of them is set (`Sorted.insert`), and so an object that is made of its own members is the same
(`ofMembers_of_sorted`).
-/

namespace Ballroom.Json

/-- The keys stand in strict byte order. -/
def Members.Sorted (ms : Members) : Prop :=
  ms.Pairwise fun a b => Text.compareBytes a.1 b.1 = .lt

namespace Members

variable {ms : Members} {key : String} {value : Json}

/-- A member of an object in which a key was set is that key or was there before. -/
theorem mem_insert {m : String × Json} (h : m ∈ insert key value ms) :
    m = (key, value) ∨ m ∈ ms := by
  induction ms with
  | nil => exact .inl (List.mem_singleton.1 h)
  | cons first rest ih =>
    obtain ⟨k, v⟩ := first
    unfold insert at h
    split at h
    · -- The member of that key is replaced.
      cases List.mem_cons.1 h with
      | inl hnew => exact .inl hnew
      | inr hrest => exact .inr (List.mem_cons_of_mem _ hrest)
    split at h
    · exact List.mem_cons.1 h
    · cases List.mem_cons.1 h with
      | inl hfirst => exact .inr (by simp [hfirst])
      | inr hrest =>
        cases ih hrest with
        | inl hnew => exact .inl hnew
        | inr hold => exact .inr (List.mem_cons_of_mem _ hold)

/-- A key that does not come before another one comes behind it. -/
private theorem compareBytes_of_not_lt {a b : String} (hne : b ≠ a)
    (h : Text.compareBytes a b ≠ .lt) : Text.compareBytes b a = .lt := by
  rw [← Text.compareBytes_swap]
  cases hcmp : Text.compareBytes a b with
  | lt => exact absurd hcmp h
  | eq => exact absurd (Text.compareBytes_eq_iff.1 hcmp).symm hne
  | gt => rfl

/-- Setting a key keeps the order. -/
theorem Sorted.insert (h : Sorted ms) : Sorted (Members.insert key value ms) := by
  induction ms with
  | nil => exact List.pairwise_singleton _ _
  | cons first rest ih =>
    obtain ⟨k, v⟩ := first
    obtain ⟨hfirst, hrest⟩ := List.pairwise_cons.1 h
    unfold Members.insert
    split
    · -- The key is there: only its value changes.
      rename_i hkey
      exact List.pairwise_cons.2 ⟨fun m hm => hkey ▸ hfirst m hm, hrest⟩
    rename_i hkey
    split
    · -- It stands before the first member, and so before all of them.
      rename_i hbefore
      refine List.pairwise_cons.2 ⟨?_, h⟩
      intro m hm
      cases List.mem_cons.1 hm with
      | inl hm => rw [hm]; exact hbefore
      | inr hm => exact Text.compareBytes_lt_trans hbefore (hfirst m hm)
    · rename_i hbefore
      -- It goes to the rest, which is behind the first member with it, too.
      refine List.pairwise_cons.2 ⟨?_, ih hrest⟩
      intro m hm
      cases mem_insert hm with
      | inl hnew => rw [hnew]; exact compareBytes_of_not_lt hkey (fun hlt => hbefore hlt)
      | inr hold => exact hfirst m hold

/-- A key that is behind all others becomes the last member. -/
theorem insert_eq_append (h : ∀ m ∈ ms, Text.compareBytes m.1 key = .lt) :
    insert key value ms = ms ++ [(key, value)] := by
  induction ms with
  | nil => rfl
  | cons first rest ih =>
    obtain ⟨k, v⟩ := first
    have hlt : Text.compareBytes k key = .lt := h (k, v) List.mem_cons_self
    -- The key is neither before the first member nor that member, so it goes on to the rest.
    have hgt : Text.compareBytes key k = .gt := by
      rw [← Text.compareBytes_swap, hlt]
      rfl
    have hne : k ≠ key := by
      intro hkey
      rw [hkey, Text.compareBytes_self] at hlt
      cases hlt
    rw [insert, if_neg hne, hgt, ih fun m hm => h m (List.mem_cons_of_mem _ hm)]
    rfl

/-- Members that come in order are set one behind the other. -/
private theorem foldl_insert (later : Members) (h : Sorted (ms ++ later)) :
    later.foldl (fun ms (k, v) => insert k v ms) ms = ms ++ later := by
  induction later generalizing ms with
  | nil => simp
  | cons first rest ih =>
    obtain ⟨k, v⟩ := first
    -- What is set already comes before the next key.
    have hlast : ∀ m ∈ ms, Text.compareBytes m.1 k = .lt := by
      intro m hm
      exact (List.pairwise_append.1 h).2.2 m hm (k, v) List.mem_cons_self
    have hsplit : ms ++ (k, v) :: rest = (ms ++ [(k, v)]) ++ rest := by simp
    rw [List.foldl_cons, hsplit]
    show rest.foldl _ (insert k v ms) = _
    rw [insert_eq_append hlast]
    exact ih (hsplit ▸ h)

/-- Setting keys one after the other keeps the order. -/
private theorem sorted_foldl_insert (later : Members) (h : Sorted ms) :
    Sorted (later.foldl (fun ms (k, v) => insert k v ms) ms) := by
  induction later generalizing ms with
  | nil => exact h
  | cons first rest ih => exact ih h.insert

/-- What was set is one of the members that were given or of those at the start. -/
private theorem mem_foldl_insert {m : String × Json} (later : Members)
    (h : m ∈ later.foldl (fun ms (k, v) => insert k v ms) ms) : m ∈ ms ∨ m ∈ later := by
  induction later generalizing ms with
  | nil => exact .inl h
  | cons first rest ih =>
    cases ih h with
    | inr hrest => exact .inr (List.mem_cons_of_mem _ hrest)
    | inl hset =>
      cases mem_insert hset with
      | inl hfirst => exact .inr (by simp [hfirst])
      | inr hold => exact .inl hold

end Members

/-- An object that is made of members in order has these members. -/
theorem ofMembers_of_sorted {ms : Members} (h : ms.Sorted) : ofMembers ms = .object ms :=
  congrArg Json.object (Members.foldl_insert ms h)

/-- An object that is made of any members has some of them, in order. -/
theorem ofMembers_eq (members : List (String × Json)) :
    ∃ ms : Members, ofMembers members = .object ms ∧ ms.Sorted ∧ ∀ m ∈ ms, m ∈ members := by
  refine ⟨_, rfl, Members.sorted_foldl_insert members List.Pairwise.nil, ?_⟩
  intro m hm
  cases Members.mem_foldl_insert members hm with
  | inl hnone => cases hnone
  | inr hgiven => exact hgiven

end Ballroom.Json
