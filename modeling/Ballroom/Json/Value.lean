import Ballroom.Number.Shortest
import Ballroom.Text.Utf8

/-! # JSON values and their written forms

A JSON value, whose objects keep their members in the byte order of the keys, and its two
written forms: the compact one, on a single line without blanks, and the indented one. -/

namespace Ballroom

/-- A number: a whole number of at most 64 bits, with or without sign, or a
floating-point one. -/
inductive Json.Number where
  | whole (n : Int)
  | floating (x : Number.Binary64)
  deriving DecidableEq

/-- A JSON value. -/
inductive Json where
  | null
  | bool (b : Bool)
  | number (n : Json.Number)
  | text (s : String)
  | list (items : List Json)
  | object (members : List (String × Json))

namespace Json

/-- The members of an object: each key once, in byte order. -/
abbrev Members := List (String × Json)

/-- The value of a key. -/
def Members.get? (key : String) : Members → Option Json
  | [] => none
  | (k, v) :: rest => if k = key then some v else Members.get? key rest

/-- Sets the value of a key, in its place by byte order. -/
def Members.insert (key : String) (value : Json) : Members → Members
  | [] => [(key, value)]
  | (k, v) :: rest =>
    if k = key then (key, value) :: rest
    else match Text.compareBytes key k with
      | .lt => (key, value) :: (k, v) :: rest
      | _ => (k, v) :: Members.insert key value rest

/-- The object with the given members, a later one replacing an earlier one. -/
def ofMembers (members : List (String × Json)) : Json :=
  .object (members.foldl (fun ms (k, v) => Members.insert k v ms) [])

/-- A whole number as a value. -/
def ofInt (n : Int) : Json := .number (.whole n)

/-- A member that was inserted is found. -/
@[simp] theorem Members.get?_insert_self (key : String) (value : Json) (ms : Members) :
    Members.get? key (Members.insert key value ms) = some value := by
  induction ms with
  | nil => simp [Members.insert, Members.get?]
  | cons m ms ih =>
    obtain ⟨k, v⟩ := m
    unfold Members.insert
    split
    · simp [Members.get?]
    · rename_i hk
      split <;> simp [Members.get?, hk, ih]

/-- Inserting a member leaves those of other names alone. -/
theorem Members.get?_insert_of_ne {key other : String} (value : Json) (ms : Members)
    (h : other ≠ key) :
    Members.get? other (Members.insert key value ms) = Members.get? other ms := by
  induction ms with
  | nil => simp [Members.insert, Members.get?, h.symm]
  | cons m ms ih =>
    obtain ⟨k, v⟩ := m
    unfold Members.insert
    split
    · subst_vars; simp [Members.get?, h.symm]
    · split <;> simp [Members.get?, h.symm, ih]

/-- The digits of a control character behind the mark of an escape. -/
def escapeDigits (n : Nat) : List Char := (Nat.toDigits 16 n).leftpad 4 '0'

/-- A character between quotes: quotes, backslashes and control characters are escaped. -/
def escape (c : Char) : List Char :=
  if c = '"' then ['\\', '"']
  else if c = '\\' then ['\\', '\\']
  else if c = '\x08' then ['\\', 'b']
  else if c = '\x0c' then ['\\', 'f']
  else if c = '\n' then ['\\', 'n']
  else if c = '\r' then ['\\', 'r']
  else if c = '\t' then ['\\', 't']
  else if c.toNat < 0x20 then '\\' :: 'u' :: escapeDigits c.toNat
  else [c]

/-- A text in quotes. -/
def quote (s : String) : String :=
  String.ofList ('"' :: s.toList.flatMap escape ++ ['"'])

/-- The text of a number. -/
def Number.text : Json.Number → String
  | .whole n => toString n
  | .floating x => Number.Shortest.text x

mutual

/-- The value on one line. -/
def compact : Json → String
  | .null => "null"
  | .bool b => if b then "true" else "false"
  | .number n => n.text
  | .text s => quote s
  | .list items => "[" ++ compactItems items ++ "]"
  | .object members => "\x7b" ++ compactMembers members ++ "\x7d"

/-- Values with commas between them. -/
def compactItems : List Json → String
  | [] => ""
  | [v] => compact v
  | v :: rest => compact v ++ "," ++ compactItems rest

/-- Members with commas between them. -/
def compactMembers : List (String × Json) → String
  | [] => ""
  | [(k, v)] => quote k ++ ":" ++ compact v
  | (k, v) :: rest => quote k ++ ":" ++ compact v ++ "," ++ compactMembers rest

end

/-- A line break and the blanks of a line at a depth. -/
def newline (depth : Nat) : String := String.ofList ('\n' :: List.replicate (2 * depth) ' ')

mutual

/-- The value over several lines, two blanks to a level; what is empty stays closed. -/
def indented (depth : Nat) : Json → String
  | .null => "null"
  | .bool b => if b then "true" else "false"
  | .number n => n.text
  | .text s => quote s
  | .list [] => "[]"
  | .list (v :: rest) =>
    "[" ++ indentedItems (depth + 1) (v :: rest) ++ newline depth ++ "]"
  | .object [] => "\x7b\x7d"
  | .object (m :: rest) =>
    "\x7b" ++ indentedMembers (depth + 1) (m :: rest) ++ newline depth ++ "\x7d"

/-- Values, each on a line of its own. -/
def indentedItems (depth : Nat) : List Json → String
  | [] => ""
  | [v] => newline depth ++ indented depth v
  | v :: rest => newline depth ++ indented depth v ++ "," ++ indentedItems depth rest

/-- Members, each on a line of its own. -/
def indentedMembers (depth : Nat) : List (String × Json) → String
  | [] => ""
  | [(k, v)] => newline depth ++ quote k ++ ": " ++ indented depth v
  | (k, v) :: rest =>
    newline depth ++ quote k ++ ": " ++ indented depth v ++ "," ++ indentedMembers depth rest

end

/-- The value over several lines. -/
def pretty (v : Json) : String := indented 0 v

end Json

end Ballroom
