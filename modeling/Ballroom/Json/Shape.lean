import Ballroom.Json.Parser

/-! # Documents of a fixed shape

A shape says what a document has to look like: which fields a record has, which of them
may be left out, which names a choice offers.  Reading against a shape goes from left to
right and stops at the first thing that is wrong, be it in the notation or in the
content; what it returns is the document in its full form, with every field present.

A record may also be given as the list of its fields in order; members that the shape
does not know are skipped; and a name may be given as an object whose single member is
that name. -/

namespace Ballroom.Json

/-- The form of a document. -/
inductive Shape where
  /-- Any text. -/
  | text
  /-- True or false. -/
  | flag
  /-- A whole number of 32 bits without sign. -/
  | unsigned
  /-- A whole number of 64 bits with sign. -/
  | signed
  /-- A list of documents of one shape. -/
  | list (item : Shape)
  /-- A document or null. -/
  | optional (inner : Shape)
  /-- Named fields: each with its shape, the value it has when an object lacks it, and
  whether a list may end before it as well. -/
  | record (fields : List (String × Shape × Option Json × Bool))
  /-- One of several names, each with the shape of its content, if it has one. -/
  | choice (variants : List (String × Option Shape))

namespace Shape

/-- A field that has to be there. -/
def required (name : String) (shape : Shape) : String × Shape × Option Json × Bool :=
  (name, shape, none, false)

/-- A field with a value for when it is left out. -/
def defaulted (name : String) (shape : Shape) (value : Json) :
    String × Shape × Option Json × Bool :=
  (name, shape, some value, true)

/-- A field that an object may lack, which then counts as null. -/
def nullable (name : String) (shape : Shape) : String × Shape × Option Json × Bool :=
  (name, .optional shape, some .null, false)

/-- Why a value of another sort than the one wanted is refused: it may be no JSON. -/
def refuse (cs : List Char) : Fault :=
  let fault {α : Type} (r : Except Fault α) : Fault := match r with
    | .error e => e
    | .ok _ => .mismatch
  match Scan.skipGap cs with
  | [] => .unfinished
  | 'n' :: rest => fault (Scan.word "ull".toList rest)
  | 't' :: rest => fault (Scan.word "rue".toList rest)
  | 'f' :: rest => fault (Scan.word "alse".toList rest)
  | '"' :: rest => fault (Scan.text rest)
  | '-' :: rest => fault (Scan.number true rest)
  | '[' :: _ => .mismatch
  | '\x7b' :: _ => .mismatch
  | c :: rest => if c.isDigit then fault (Scan.number false (c :: rest)) else .malformed

/-- Reads a whole number between two bounds. -/
def readWhole (low high : Int) (cs : List Char) : Scanned Json :=
  let check (r : Scanned Number) : Scanned Json := match r with
    | .error e => .error e
    | .ok (.whole n, rest) =>
      if low ≤ n ∧ n ≤ high then .ok (ofInt n, rest) else .error .mismatch
    | .ok (.floating _, _) => .error .mismatch
  match Scan.skipGap cs with
  | '-' :: rest => check (Scan.number true rest)
  | c :: rest =>
    if c.isDigit then check (Scan.number false (c :: rest)) else .error (refuse (c :: rest))
  | [] => .error .unfinished

/-- Reads a text. -/
def readText (cs : List Char) : Scanned String :=
  match Scan.skipGap cs with
  | '"' :: rest => Scan.text rest
  | rest => .error (refuse rest)

/-- Reads a truth value. -/
def readFlag (cs : List Char) : Scanned Json :=
  match Scan.skipGap cs with
  | 't' :: rest => (Scan.word "rue".toList rest).map (.bool true, ·)
  | 'f' :: rest => (Scan.word "alse".toList rest).map (.bool false, ·)
  | rest => .error (refuse rest)

/-- Reads null. -/
def readNull (cs : List Char) : Except Fault (List Char) :=
  match Scan.skipGap cs with
  | 'n' :: rest => Scan.word "ull".toList rest
  | rest => .error (refuse rest)

/-- Goes to the next item of a list, if there is one; `first` tells the start of the list. -/
def nextItem (first : Bool) (cs : List Char) : Except Fault (Option (List Char)) :=
  match Scan.skipGap cs with
  | [] => .error .unfinished
  | ']' :: _ => .ok none
  | c :: rest =>
    if first then .ok (some (c :: rest))
    else if c ≠ ',' then .error .malformed
    else match Scan.skipGap rest with
      | [] => .error .unfinished
      | ']' :: _ => .error .malformed
      | rest => .ok (some rest)

/-- Ends a list, in which nothing may be left. -/
def endList (cs : List Char) : Except Fault (List Char) :=
  match Scan.skipGap cs with
  | [] => .error .unfinished
  | ']' :: rest => .ok rest
  | _ => .error .malformed

/-- Goes to the next key of an object, behind its opening quote, if there is one. -/
def nextKey (first : Bool) (cs : List Char) : Except Fault (Option (List Char)) :=
  match Scan.skipGap cs with
  | [] => .error .unfinished
  | '\x7d' :: _ => .ok none
  | c :: rest =>
    if first then (if c = '"' then .ok (some rest) else .error .malformed)
    else if c ≠ ',' then .error .malformed
    else match Scan.skipGap rest with
      | [] => .error .unfinished
      | '"' :: rest => .ok (some rest)
      | _ => .error .malformed

/-- Reads the colon behind a key. -/
def colon (cs : List Char) : Except Fault (List Char) :=
  match Scan.skipGap cs with
  | [] => .error .unfinished
  | ':' :: rest => .ok rest
  | _ => .error .malformed

/-- Reads the name in an object that stands for a choice.  Names are texts: what starts
with no quote is not looked at any further. -/
def readVariant (cs : List Char) : Scanned String :=
  match Scan.skipGap cs with
  | [] => .error .unfinished
  | '"' :: rest => Scan.text rest
  | _ => .error .malformed

/-- Reads a document of a shape.  Every step takes a character or goes into a smaller
shape; `steps` bounds them. -/
def scan : Nat → Shape → List Char → Except Fault (Json × List Char)
  | 0, _, _ => .error .unfinished
  | steps + 1, shape, cs =>
    match shape with
    | .text => (readText cs).map fun (s, rest) => (.text s, rest)
    | .flag => readFlag cs
    | .unsigned => readWhole 0 Number.maxUInt32 cs
    | .signed => readWhole Int64.minValue.toInt Int64.maxValue.toInt cs
    | .list item =>
      match Scan.skipGap cs with
      | '[' :: rest => do
        let (vs, rest) ← items steps item true rest
        let rest ← endList rest
        .ok (.list vs, rest)
      | rest => .error (refuse rest)
    | .optional inner =>
      match Scan.skipGap cs with
      | 'n' :: rest => (Scan.word "ull".toList rest).map (.null, ·)
      | rest => scan steps inner rest
    | .record fields =>
      match Scan.skipGap cs with
      | '[' :: rest => do
        let (ms, rest) ← positional steps fields true rest
        let rest ← endList rest
        .ok (ofMembers ms, rest)
      | '\x7b' :: rest => do
        let (ms, rest) ← named steps fields [] true rest
        match Scan.skipGap rest with
        | '\x7d' :: rest => .ok (ofMembers ms, rest)
        | _ => .error .unfinished
      | rest => .error (refuse rest)
    | .choice variants =>
      match Scan.skipGap cs with
      | [] => .error .unfinished
      | '"' :: rest => do
        let (name, rest) ← Scan.text rest
        match variants.lookup name with
        | some none => .ok (.text name, rest)
        | _ => .error .mismatch
      | '\x7b' :: rest => do
        let (name, rest) ← readVariant rest
        match variants.lookup name with
        | none => .error .mismatch
        | some content =>
          let rest ← colon rest
          let (v, rest) ← match content with
            | none => (readNull rest).map (Json.text name, ·)
            | some inner =>
              (scan steps inner rest).map fun (v, rest) => (Json.object [(name, v)], rest)
          match Scan.skipGap rest with
          | [] => .error .unfinished
          | '\x7d' :: rest => .ok (v, rest)
          | _ => .error .malformed
      | _ => .error .malformed
where
  /-- Reads the items of a list, up to its end but not over it. -/
  items : Nat → Shape → Bool → List Char → Scanned (List Json)
    | 0, _, _, _ => .error .unfinished
    | steps + 1, item, first, cs =>
      match nextItem first cs with
      | .error e => .error e
      | .ok none => .ok ([], cs)
      | .ok (some rest) =>
        match scan steps item rest with
        | .error e => .error e
        | .ok (v, rest) => (items steps item false rest).map fun (vs, rest) => (v :: vs, rest)
  /-- Reads the fields of a record that is given as a list. -/
  positional : Nat → List (String × Shape × Option Json × Bool) → Bool → List Char →
      Scanned (List (String × Json))
    | 0, _, _, _ => .error .unfinished
    | _ + 1, [], _, cs => .ok ([], cs)
    | steps + 1, (name, shape, default?, short) :: fields, first, cs =>
      match nextItem first cs with
      | .error e => .error e
      | .ok none =>
        match default?, short with
        | some v, true =>
          (positional steps fields first cs).map fun (ms, rest) => ((name, v) :: ms, rest)
        | _, _ => .error .mismatch
      | .ok (some rest) =>
        match scan steps shape rest with
        | .error e => .error e
        | .ok (v, rest) =>
          (positional steps fields false rest).map fun (ms, rest) => ((name, v) :: ms, rest)
  /-- Reads the members of a record that is given as an object, `found` holding those that
  were read before. -/
  named : Nat → List (String × Shape × Option Json × Bool) → List (String × Json) → Bool →
      List Char → Scanned (List (String × Json))
    | 0, _, _, _, _ => .error .unfinished
    | steps + 1, fields, found, first, cs =>
      match nextKey first cs with
      | .error e => .error e
      | .ok none =>
        -- What is missing counts only at the end of the object.
        let absent := fields.filter fun field => (found.lookup field.1).isNone
        if absent.any fun field => field.2.2.1.isNone then .error .mismatch
        else .ok (found ++ absent.filterMap fun field => field.2.2.1.map (field.1, ·), cs)
      | .ok (some rest) =>
        match Scan.text rest with
        | .error e => .error e
        | .ok (key, rest) =>
          match fields.lookup key with
          | none =>
            -- An unknown member has to be JSON, and that is all.
            match colon rest with
            | .error e => .error e
            | .ok rest =>
              match Scan.skipValue (2 * rest.length + 2) rest with
              | .error e => .error e
              | .ok rest => named steps fields found false rest
          | some (shape, _) =>
            -- A repeated member is refused before its value is looked at.
            if (found.lookup key).isSome then .error .mismatch
            else match colon rest with
              | .error e => .error e
              | .ok rest =>
                match scan steps shape rest with
                | .error e => .error e
                | .ok (v, rest) => named steps fields ((key, v) :: found) false rest

/-- Reads a text as one document of the shape. -/
def read (shape : Shape) (s : String) : Except Fault Json :=
  let cs := s.toList
  finish (scan (2 * cs.length + 16) shape cs)

end Shape

end Ballroom.Json
