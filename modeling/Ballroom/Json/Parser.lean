import Ballroom.Json.Scan

/-! # Reading a JSON document

`Json.parse` reads a whole text as one value.  Lists and objects may nest less than 128
deep, the last of several members of one name counts, and only blanks may follow. -/

namespace Ballroom.Json

/-- Lists and objects nest less deep than this. -/
def depthLimit : Nat := 128

/-- Reads a value.  Every step takes a character, so the number of characters bounds the
`steps`; `depth` counts down with each list or object that is entered. -/
def parseValue : Nat → Nat → List Char → Scanned Json
  | 0, _, _ => .error .unfinished
  | steps + 1, depth, cs =>
    match Scan.skipGap cs with
    | [] => .error .unfinished
    | 'n' :: rest => (Scan.word "ull".toList rest).map (.null, ·)
    | 't' :: rest => (Scan.word "rue".toList rest).map (.bool true, ·)
    | 'f' :: rest => (Scan.word "alse".toList rest).map (.bool false, ·)
    | '"' :: rest => (Scan.text rest).map fun (s, rest) => (.text s, rest)
    | '-' :: rest => (Scan.number true rest).map fun (n, rest) => (.number n, rest)
    | '[' :: rest =>
      if depth ≤ 1 then .error .malformed
      else match Scan.skipGap rest with
        | [] => .error .unfinished
        | ']' :: rest => .ok (.list [], rest)
        | rest => (items steps (depth - 1) rest).map fun (vs, rest) => (.list vs, rest)
    | '\x7b' :: rest =>
      if depth ≤ 1 then .error .malformed
      else match Scan.skipGap rest with
        | [] => .error .unfinished
        | '\x7d' :: rest => .ok (.object [], rest)
        | rest => (members steps (depth - 1) rest).map fun (ms, rest) => (ofMembers ms, rest)
    | c :: rest =>
      if c.isDigit then (Scan.number false (c :: rest)).map fun (n, rest) => (.number n, rest)
      else .error .malformed
where
  /-- Reads the items of a list up to its end. -/
  items : Nat → Nat → List Char → Scanned (List Json)
    | 0, _, _ => .error .unfinished
    | steps + 1, depth, cs =>
      match parseValue steps depth cs with
      | .error e => .error e
      | .ok (v, rest) =>
        match Scan.skipGap rest with
        | [] => .error .unfinished
        | ',' :: rest => (items steps depth rest).map fun (vs, rest) => (v :: vs, rest)
        | ']' :: rest => .ok ([v], rest)
        | _ => .error .malformed
  /-- Reads the members of an object up to its end. -/
  members : Nat → Nat → List Char → Scanned (List (String × Json))
    | 0, _, _ => .error .unfinished
    | steps + 1, depth, cs =>
      match Scan.skipGap cs with
      | [] => .error .unfinished
      | '"' :: rest =>
        match Scan.text rest with
        | .error e => .error e
        | .ok (k, rest) =>
          match Scan.skipGap rest with
          | [] => .error .unfinished
          | ':' :: rest =>
            match parseValue steps depth rest with
            | .error e => .error e
            | .ok (v, rest) =>
              match Scan.skipGap rest with
              | [] => .error .unfinished
              | ',' :: rest =>
                (members steps depth rest).map fun (ms, rest) => ((k, v) :: ms, rest)
              | '\x7d' :: rest => .ok ([(k, v)], rest)
              | _ => .error .malformed
          | _ => .error .malformed
      | _ => .error .malformed

/-- Ends a document: only blanks may be left. -/
def finish {α : Type} : Scanned α → Except Fault α
  | .error e => .error e
  | .ok (v, rest) => if (Scan.skipGap rest).isEmpty then .ok v else .error .malformed

/-- Reads a text as one value. -/
def parse (s : String) : Except Fault Json :=
  let cs := s.toList
  finish (parseValue (2 * cs.length + 2) depthLimit cs)

end Ballroom.Json
