import Ballroom.Json.Shape

/-! # Types with a document form

A type whose values are kept as JSON documents says what the documents look like and how
values and documents correspond. -/

namespace Ballroom.Json

/-- The document form of a type. -/
class Document (α : Type) where
  /-- What the documents look like. -/
  shape : Shape
  /-- The document of a value. -/
  toJson : α → Json
  /-- The value of a document in its full form. -/
  ofJson? : Json → Option α

namespace Document

/-- Reads a text as the document of a value. -/
def read {α : Type} [Document α] (s : String) : Except Fault α :=
  match (shape α).read s with
  | .error fault => .error fault
  | .ok v => match ofJson? v with
    | some x => .ok x
    | none => .error .mismatch

/-- The document form of a type of names. -/
@[reducible] def ofNames {α : Type} [DecidableEq α] (all : List α) (name : α → String) :
    Document α where
  shape := .choice (all.map fun x => (name x, none))
  toJson x := .text (name x)
  ofJson? v := match v with
    | .text s => all.find? fun x => name x == s
    | _ => none

/-- A member of an object. -/
def field? (v : Json) (name : String) : Option Json :=
  match v with
  | .object ms => Members.get? name ms
  | _ => none

/-- A member of an object as a value. -/
def member? (α : Type) [Document α] (v : Json) (name : String) : Option α :=
  (field? v name).bind ofJson?

instance : Document String where
  shape := .text
  toJson := .text
  ofJson? v := match v with
    | .text s => some s
    | _ => none

instance : Document Bool where
  shape := .flag
  toJson := .bool
  ofJson? v := match v with
    | .bool b => some b
    | _ => none

instance : Document Nat where
  shape := .unsigned
  toJson n := ofInt n
  ofJson? v := match v with
    | .number (.whole n) => if 0 ≤ n then some n.toNat else none
    | _ => none

instance : Document Int64 where
  shape := .signed
  toJson n := ofInt n.toInt
  ofJson? v := match v with
    | .number (.whole n) => some (Int64.ofInt n)
    | _ => none

instance {α : Type} [Document α] : Document (List α) where
  shape := .list (shape α)
  toJson xs := .list (xs.map toJson)
  ofJson? v := match v with
    | .list vs => vs.mapM ofJson?
    | _ => none

instance {α : Type} [Document α] : Document (Option α) where
  shape := .optional (shape α)
  toJson x := match x with
    | some x => toJson x
    | none => .null
  ofJson? v := match v with
    | .null => some none
    | v => (ofJson? v).map some

end Document

end Ballroom.Json
