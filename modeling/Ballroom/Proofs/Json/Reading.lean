import Ballroom.Json.Parser
import Ballroom.Proofs.Json.Members
import Ballroom.Proofs.Json.Numbers

/-!
# What a text is read as

A value that is read from a text is canonical (`canonical_of_parse`): its whole numbers have at
most 64 bits, the members of its objects stand in order, and it does not nest too deep.  The
proof goes through an inversion of the reader (`ValueAt`, `ItemsAt`, `MembersAt`), which says
once what can stand where a value is read, and which other modules use as well.
-/

namespace Ballroom.Json

/-- The values that texts stand for, with lists and objects nesting at most `depth` deep. -/
inductive Canonical : Nat → Json → Prop
  | null {depth : Nat} : Canonical depth .null
  | bool {depth : Nat} (b : Bool) : Canonical depth (.bool b)
  | number {depth : Nat} {n : Number} (hn : n.Fits) : Canonical depth (.number n)
  | text {depth : Nat} (s : String) : Canonical depth (.text s)
  | list {depth : Nat} {vs : List Json} (hvs : ∀ v ∈ vs, Canonical depth v) :
      Canonical (depth + 1) (.list vs)
  | object {depth : Nat} {ms : Members} (hsorted : ms.Sorted)
      (hms : ∀ m ∈ ms, Canonical depth m.2) : Canonical (depth + 1) (.object ms)

/-! ### One step of the reader -/

/-- How a value stands in front of `r`, with `steps` left for what is inside it. -/
inductive ValueAt (steps depth : Nat) : List Char → Json → List Char → Prop
  | null {cs r : List Char} (h : Scan.word "ull".toList cs = .ok r) :
      ValueAt steps depth ('n' :: cs) .null r
  | true {cs r : List Char} (h : Scan.word "rue".toList cs = .ok r) :
      ValueAt steps depth ('t' :: cs) (.bool true) r
  | false {cs r : List Char} (h : Scan.word "alse".toList cs = .ok r) :
      ValueAt steps depth ('f' :: cs) (.bool false) r
  | text {cs r : List Char} {s : String} (h : Scan.text cs = .ok (s, r)) :
      ValueAt steps depth ('"' :: cs) (.text s) r
  | negative {cs r : List Char} {n : Number} (h : Scan.number true cs = .ok (n, r)) :
      ValueAt steps depth ('-' :: cs) (.number n) r
  | positive {c : Char} {cs r : List Char} {n : Number} (hc : c.isDigit)
      (h : Scan.number false (c :: cs) = .ok (n, r)) :
      ValueAt steps depth (c :: cs) (.number n) r
  | emptyList {cs r : List Char} (hdepth : 1 < depth) (h : Scan.skipGap cs = ']' :: r) :
      ValueAt steps depth ('[' :: cs) (.list []) r
  | list {cs r : List Char} {vs : List Json} (hdepth : 1 < depth)
      (h : parseValue.items steps (depth - 1) cs = .ok (vs, r)) :
      ValueAt steps depth ('[' :: cs) (.list vs) r
  | emptyObject {cs r : List Char} (hdepth : 1 < depth) (h : Scan.skipGap cs = '\x7d' :: r) :
      ValueAt steps depth ('\x7b' :: cs) (.object []) r
  | object {cs r : List Char} {ms : List (String × Json)} (hdepth : 1 < depth)
      (h : parseValue.members steps (depth - 1) cs = .ok (ms, r)) :
      ValueAt steps depth ('\x7b' :: cs) (ofMembers ms) r

/-- How the items of a list stand in front of `r`. -/
inductive ItemsAt (steps depth : Nat) (cs : List Char) : List Json → List Char → Prop
  | last {rest r : List Char} {v : Json} (hvalue : parseValue steps depth cs = .ok (v, rest))
      (hend : Scan.skipGap rest = ']' :: r) : ItemsAt steps depth cs [v] r
  | more {rest next r : List Char} {v : Json} {vs : List Json}
      (hvalue : parseValue steps depth cs = .ok (v, rest))
      (hcomma : Scan.skipGap rest = ',' :: next)
      (hmore : parseValue.items steps depth next = .ok (vs, r)) : ItemsAt steps depth cs (v :: vs) r

/-- How the name of a member stands in front of `rest`. -/
def NameAt (cs : List Char) (key : String) (rest : List Char) : Prop :=
  ∃ quoted behind, Scan.skipGap cs = '"' :: quoted ∧ Scan.text quoted = .ok (key, behind) ∧
    Scan.skipGap behind = ':' :: rest

/-- How the members of an object stand in front of `r`. -/
inductive MembersAt (steps depth : Nat) (cs : List Char) :
    List (String × Json) → List Char → Prop
  | last {value rest r : List Char} {key : String} {v : Json} (hname : NameAt cs key value)
      (hvalue : parseValue steps depth value = .ok (v, rest))
      (hend : Scan.skipGap rest = '\x7d' :: r) : MembersAt steps depth cs [(key, v)] r
  | more {value rest next r : List Char} {key : String} {v : Json} {ms : List (String × Json)}
      (hname : NameAt cs key value) (hvalue : parseValue steps depth value = .ok (v, rest))
      (hcomma : Scan.skipGap rest = ',' :: next)
      (hmore : parseValue.members steps depth next = .ok (ms, r)) :
      MembersAt steps depth cs ((key, v) :: ms) r

/-- A mapped result is a value if and only if there was one to map. -/
theorem map_eq_ok_iff {ε α β : Type} {f : α → β} {x : Except ε α} {b : β} :
    x.map f = .ok b ↔ ∃ a, x = .ok a ∧ f a = b := by
  cases x <;> simp [Except.map]

/-- Items are read if and only if they stand there. -/
theorem items_eq_ok_iff {steps depth : Nat} {cs r : List Char} {vs : List Json} :
    parseValue.items (steps + 1) depth cs = .ok (vs, r) ↔ ItemsAt steps depth cs vs r := by
  rw [parseValue.items]
  constructor
  · intro h
    split at h
    · cases h
    rename_i hvalue
    split at h
    · cases h
    · -- A comma: the other items stand behind it.
      rename_i hcomma
      obtain ⟨_, hmore, heq⟩ := map_eq_ok_iff.1 h
      cases heq
      exact .more hvalue hcomma hmore
    · -- The bracket: this was the last one.
      rename_i hend
      cases h
      exact .last hvalue hend
    · cases h
  · intro h
    cases h with
    | last hvalue hend => simp only [hvalue, hend]
    | more hvalue hcomma hmore =>
      simp only [hvalue, hcomma]
      exact map_eq_ok_iff.2 ⟨_, hmore, rfl⟩

/-- Members are read if and only if they stand there. -/
theorem members_eq_ok_iff {steps depth : Nat} {cs r : List Char} {ms : List (String × Json)} :
    parseValue.members (steps + 1) depth cs = .ok (ms, r) ↔ MembersAt steps depth cs ms r := by
  rw [parseValue.members]
  constructor
  · intro h
    -- A fault at any of the steps is a fault of the whole; two ways lead out without one.
    split at h
    · cases h
    · rename_i hquote
      split at h
      · cases h
      rename_i htext
      split at h
      · cases h
      · rename_i hcolon
        split at h
        · cases h
        rename_i hvalue
        split at h
        · cases h
        · -- A comma: the other members stand behind it.
          rename_i hcomma
          obtain ⟨_, hmore, heq⟩ := map_eq_ok_iff.1 h
          cases heq
          exact .more ⟨_, _, hquote, htext, hcolon⟩ hvalue hcomma hmore
        · rename_i hend
          cases h
          exact .last ⟨_, _, hquote, htext, hcolon⟩ hvalue hend
        · cases h
      · cases h
    · cases h
  · intro h
    cases h with
    | last hname hvalue hend =>
      obtain ⟨_, _, hquote, htext, hcolon⟩ := hname
      simp only [hquote, htext, hcolon, hvalue, hend]
    | more hname hvalue hcomma hmore =>
      obtain ⟨_, _, hquote, htext, hcolon⟩ := hname
      simp only [hquote, htext, hcolon, hvalue, hcomma]
      exact map_eq_ok_iff.2 ⟨_, hmore, rfl⟩

/-! ### Values that are read -/

/-! ### Blanks in front -/

/-- Blanks are skipped at once. -/
theorem Scan.skipGap_skipGap (cs : List Char) : skipGap (skipGap cs) = skipGap cs := by
  induction cs with
  | nil => rfl
  | cons c cs ih =>
    by_cases hc : isGap c
    · simpa [skipGap, hc] using ih
    · simp [skipGap, hc]

/-- Blanks in front of a value do not count. -/
theorem parseValue_skipGap (steps depth : Nat) (cs : List Char) :
    parseValue steps depth (Scan.skipGap cs) = parseValue steps depth cs := by
  cases steps with
  | zero => rfl
  | succ steps => rw [parseValue, parseValue, Scan.skipGap_skipGap]

/-- Blanks in front of the items do not count. -/
theorem items_skipGap (steps depth : Nat) (cs : List Char) :
    parseValue.items steps depth (Scan.skipGap cs) = parseValue.items steps depth cs := by
  cases steps with
  | zero => rfl
  | succ steps => rw [parseValue.items, parseValue.items, parseValue_skipGap]

/-- Blanks in front of the members do not count. -/
theorem members_skipGap (steps depth : Nat) (cs : List Char) :
    parseValue.members steps depth (Scan.skipGap cs) = parseValue.members steps depth cs := by
  cases steps with
  | zero => rfl
  | succ steps => rw [parseValue.members, parseValue.members, Scan.skipGap_skipGap]

/-! ### One value -/

/-- What is read as a value stands behind the blanks. -/
theorem valueAt_of_parseValue {steps depth : Nat} {cs r : List Char} {v : Json}
    (h : parseValue (steps + 1) depth cs = .ok (v, r)) :
    ValueAt steps depth (Scan.skipGap cs) v r := by
  rw [parseValue] at h
  -- One case for each character that a value can begin with: the words, a text, a negative
  -- number, a list, an object, and last the digits of a number without sign.
  split at h
  case h_1 => cases h
  case h_2 hcs =>
    obtain ⟨_, hword, heq⟩ := map_eq_ok_iff.1 h
    cases heq
    exact hcs ▸ .null hword
  case h_3 hcs =>
    obtain ⟨_, hword, heq⟩ := map_eq_ok_iff.1 h
    cases heq
    exact hcs ▸ .true hword
  case h_4 hcs =>
    obtain ⟨_, hword, heq⟩ := map_eq_ok_iff.1 h
    cases heq
    exact hcs ▸ .false hword
  case h_5 hcs =>
    obtain ⟨_, htext, heq⟩ := map_eq_ok_iff.1 h
    cases heq
    exact hcs ▸ .text htext
  case h_6 hcs =>
    obtain ⟨_, hnumber, heq⟩ := map_eq_ok_iff.1 h
    cases heq
    exact hcs ▸ .negative hnumber
  case h_7 hcs =>
    split at h
    · cases h
    rename_i hdepth
    split at h
    · cases h
    · rename_i hend
      cases h
      exact hcs ▸ .emptyList (by omega) hend
    · obtain ⟨_, hitems, heq⟩ := map_eq_ok_iff.1 h
      cases heq
      exact hcs ▸ .list (by omega) (items_skipGap _ _ _ ▸ hitems)
  case h_8 hcs =>
    split at h
    · cases h
    rename_i hdepth
    split at h
    · cases h
    · rename_i hend
      cases h
      exact hcs ▸ .emptyObject (by omega) hend
    · obtain ⟨_, hmembers, heq⟩ := map_eq_ok_iff.1 h
      cases heq
      exact hcs ▸ .object (by omega) (members_skipGap _ _ _ ▸ hmembers)
  case h_9 hcs =>
    split at h
    · rename_i hdigit
      obtain ⟨_, hnumber, heq⟩ := map_eq_ok_iff.1 h
      cases heq
      exact hcs ▸ .positive hdigit hnumber
    · cases h

/-- A value does not begin as the end of a list. -/
theorem ValueAt.exists_cons {steps depth : Nat} {cs r : List Char} {v : Json}
    (h : ValueAt steps depth cs v r) : ∃ c tail, cs = c :: tail ∧ c ≠ ']' := by
  cases h with
  | positive hc h => exact ⟨_, _, rfl, Number.ne_of_isDigit hc (by decide)⟩
  | _ => exact ⟨_, _, rfl, by decide⟩

/-- Items do not begin as the end of a list. -/
theorem exists_cons_of_items {steps depth : Nat} {cs r : List Char} {vs : List Json}
    (h : parseValue.items steps depth cs = .ok (vs, r)) :
    ∃ c tail, Scan.skipGap cs = c :: tail ∧ c ≠ ']' := by
  -- No value begins with a bracket that closes.
  have hfirst : ∀ {steps v rest}, parseValue steps depth cs = .ok (v, rest) →
      ∃ c tail, Scan.skipGap cs = c :: tail ∧ c ≠ ']' := by
    intro steps v rest hvalue
    cases steps with
    | zero => cases hvalue
    | succ steps => exact (valueAt_of_parseValue hvalue).exists_cons
  cases steps with
  | zero => cases h
  | succ steps =>
    cases items_eq_ok_iff.1 h with
    | last hvalue hend => exact hfirst hvalue
    | more hvalue hcomma hmore => exact hfirst hvalue

/-- Members begin with the quote of a name. -/
theorem exists_quote_of_members {steps depth : Nat} {cs r : List Char}
    {ms : List (String × Json)} (h : parseValue.members steps depth cs = .ok (ms, r)) :
    ∃ tail, Scan.skipGap cs = '"' :: tail := by
  cases steps with
  | zero => cases h
  | succ steps =>
    cases members_eq_ok_iff.1 h with
    | last hname hvalue hend =>
      obtain ⟨quoted, _, hquote, _⟩ := hname
      exact ⟨quoted, hquote⟩
    | more hname hvalue hcomma hmore =>
      obtain ⟨quoted, _, hquote, _⟩ := hname
      exact ⟨quoted, hquote⟩

/-- What stands behind the blanks is read as a value. -/
theorem parseValue_of_valueAt {steps depth : Nat} {cs r : List Char} {v : Json}
    (h : ValueAt steps depth (Scan.skipGap cs) v r) :
    parseValue (steps + 1) depth cs = .ok (v, r) := by
  rw [parseValue]
  generalize Scan.skipGap cs = front at h
  cases h with
  | null h => exact map_eq_ok_iff.2 ⟨_, h, rfl⟩
  | true h => exact map_eq_ok_iff.2 ⟨_, h, rfl⟩
  | false h => exact map_eq_ok_iff.2 ⟨_, h, rfl⟩
  | text h => exact map_eq_ok_iff.2 ⟨_, h, rfl⟩
  | negative h => exact map_eq_ok_iff.2 ⟨_, h, rfl⟩
  | positive hc h =>
    split
    case h_1 heq => cases heq
    case h_9 heq =>
      cases heq
      rw [if_pos hc]
      exact map_eq_ok_iff.2 ⟨_, h, rfl⟩
    -- None of the other values begins with a digit.
    all_goals
      rename_i heq
      cases heq
      exact absurd hc (by decide)
  | emptyList hdepth h =>
    simp only [h]
    exact if_neg (by omega)
  | list hdepth h =>
    -- The first item shows that the list does not end at once.
    obtain ⟨c, tail, hcs, hc⟩ := exists_cons_of_items h
    rw [← items_skipGap, hcs] at h
    simp only [hcs]
    refine (if_neg (by omega)).trans ?_
    split
    · rename_i heq
      cases heq
    · rename_i heq
      exact absurd (List.cons.inj heq).1 hc
    · exact map_eq_ok_iff.2 ⟨_, h, rfl⟩
  | emptyObject hdepth h =>
    simp only [h]
    exact if_neg (by omega)
  | object hdepth h =>
    -- Members begin with a quotation mark, so that the object does not end at once.
    obtain ⟨tail, hcs⟩ := exists_quote_of_members h
    rw [← members_skipGap, hcs] at h
    simp only [hcs]
    refine (if_neg (by omega)).trans ?_
    exact map_eq_ok_iff.2 ⟨_, h, rfl⟩

/-- A value is read if and only if it stands behind the blanks. -/
theorem parseValue_eq_ok_iff {steps depth : Nat} {cs r : List Char} {v : Json} :
    parseValue (steps + 1) depth cs = .ok (v, r) ↔
      ValueAt steps depth (Scan.skipGap cs) v r :=
  ⟨valueAt_of_parseValue, parseValue_of_valueAt⟩

/-- A value that stands somewhere is canonical, if the values inside it are. -/
theorem ValueAt.canonical {steps depth : Nat} {cs r : List Char} {v : Json}
    (h : ValueAt steps (depth + 1) cs v r)
    (hitems : ∀ {depth cs vs r}, parseValue.items steps (depth + 1) cs = .ok (vs, r) →
      ∀ v ∈ vs, Canonical depth v)
    (hmembers : ∀ {depth cs ms r}, parseValue.members steps (depth + 1) cs = .ok (ms, r) →
      ∀ m ∈ ms, Canonical depth m.2) : Canonical depth v := by
  cases h with
  | null => exact .null
  | true => exact .bool _
  | false => exact .bool _
  | text => exact .text _
  | negative h => exact .number (Scan.readsNumber_number _ _ _ h).1
  | positive _ h => exact .number (Scan.readsNumber_number _ _ _ h).1
  -- A list or an object takes one step of the depth that is left for its values.
  | emptyList hdepth =>
    obtain ⟨depth, rfl⟩ := Nat.exists_eq_add_one.2 (Nat.lt_of_succ_lt_succ hdepth)
    exact .list nofun
  | list hdepth h =>
    obtain ⟨depth, rfl⟩ := Nat.exists_eq_add_one.2 (Nat.lt_of_succ_lt_succ hdepth)
    exact .list (hitems h)
  | emptyObject hdepth =>
    obtain ⟨depth, rfl⟩ := Nat.exists_eq_add_one.2 (Nat.lt_of_succ_lt_succ hdepth)
    exact .object List.Pairwise.nil nofun
  | object hdepth h =>
    obtain ⟨depth, rfl⟩ := Nat.exists_eq_add_one.2 (Nat.lt_of_succ_lt_succ hdepth)
    -- Of several members of one name the last one is kept.
    obtain ⟨ms, hms, hsorted, hsubset⟩ := ofMembers_eq _
    exact hms ▸ .object hsorted fun m hm => hmembers h m (hsubset m hm)

/-- Values, items and members are canonical, by induction on the steps that they share. -/
theorem canonical_of_parseValue (steps : Nat) :
    (∀ {depth cs v r}, parseValue steps (depth + 1) cs = .ok (v, r) → Canonical depth v) ∧
    (∀ {depth cs vs r}, parseValue.items steps (depth + 1) cs = .ok (vs, r) →
      ∀ v ∈ vs, Canonical depth v) ∧
    (∀ {depth cs ms r}, parseValue.members steps (depth + 1) cs = .ok (ms, r) →
      ∀ m ∈ ms, Canonical depth m.2) := by
  -- Values, items and members are read by each other, each with a step less, so that the three
  -- are shown at once.
  induction steps with
  -- Without steps nothing is read.
  | zero => exact ⟨nofun, nofun, nofun⟩
  | succ steps ih =>
    obtain ⟨ihValue, ihItems, ihMembers⟩ := ih
    refine ⟨?_, ?_, ?_⟩
    · intro depth cs v r h
      exact (parseValue_eq_ok_iff.1 h).canonical ihItems ihMembers
    · intro depth cs vs r h v hv
      cases items_eq_ok_iff.1 h with
      | last hvalue hend =>
        rw [List.mem_singleton.1 hv]
        exact ihValue hvalue
      | more hvalue hcomma hmore =>
        cases List.mem_cons.1 hv with
        | inl hfirst => rw [hfirst]; exact ihValue hvalue
        | inr hlater => exact ihItems hmore v hlater
    · intro depth cs ms r h m hm
      cases members_eq_ok_iff.1 h with
      | last hname hvalue hend =>
        rw [List.mem_singleton.1 hm]
        exact ihValue hvalue
      | more hname hvalue hcomma hmore =>
        cases List.mem_cons.1 hm with
        | inl hfirst => rw [hfirst]; exact ihValue hvalue
        | inr hlater => exact ihMembers hmore m hlater

/-- What is left behind a document is blank. -/
theorem finish_eq_ok_iff {α : Type} {x : Scanned α} {a : α} :
    finish x = .ok a ↔ ∃ r, x = .ok (a, r) ∧ Scan.skipGap r = [] := by
  unfold finish
  split
  · simp
  · rename_i v rest
    simp only [Except.ok.injEq, Prod.mk.injEq]
    constructor
    · intro h
      split at h
      · rename_i hempty
        exact ⟨rest, ⟨Except.ok.inj h, rfl⟩, List.isEmpty_iff.1 hempty⟩
      · cases h
    · rintro ⟨r, ⟨rfl, rfl⟩, hr⟩
      rw [hr]
      rfl

/-- Every value that a text is read as is canonical. -/
theorem canonical_of_parse {s : String} {v : Json} (h : parse s = .ok v) :
    Canonical (depthLimit - 1) v := by
  obtain ⟨r, hread, _⟩ := finish_eq_ok_iff.1 h
  exact (canonical_of_parseValue _).1 hread

end Ballroom.Json
