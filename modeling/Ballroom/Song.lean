import Ballroom.Tag
import Ballroom.Number.Decimal

/-! # Songs

A song is what is known of one audio file: a value for some of the tags, the index the
library has given it, and whether it lasts for the session only.  The tags of a song are
a function, so that two songs are equal as soon as they agree on every tag; one lemma per
operation says what the operation does to that function. -/

namespace Ballroom

/-- The value of a tag. -/
inductive TagValue where
  | text (s : String)
  | number (n : Int64)
  | words (ws : List String)
  deriving DecidableEq, Repr

namespace TagValue

/-- The value as one text. -/
def toText : TagValue → String
  | text s => s
  | number n => toString n.toInt
  | words ws => " ".intercalate ws

/-- The text, if the value is one. -/
def text? : TagValue → Option String
  | text s => some s
  | _ => none

/-- The number, if the value is one. -/
def number? : TagValue → Option Int64
  | number n => some n
  | _ => none

/-- The words, if the value is a list of them. -/
def words? : TagValue → Option (List String)
  | words ws => some ws
  | _ => none

end TagValue

/-- A record number is between 1 and this. -/
def maxRecordNumber : Nat := Number.maxUInt32

/-- What is known of one audio file. -/
structure Song where
  /-- The value of each tag that is set. -/
  value? : Tag → Option TagValue
  /-- The index within a library. -/
  index? : Option Int := none
  /-- Whether the song lasts for the session only and is never written. -/
  temporary : Bool := false

namespace Song

/-- The song of which nothing is known. -/
def empty : Song where value? := fun _ => none

/-- A song is its tags, its index and whether it is temporary. -/
@[ext] theorem ext {a b : Song} (hv : ∀ tag, a.value? tag = b.value? tag)
    (hi : a.index? = b.index?) (ht : a.temporary = b.temporary) : a = b := by
  cases a; cases b
  simp only [mk.injEq]
  exact ⟨funext hv, hi, ht⟩

/-- Songs are compared tag by tag. -/
instance : DecidableEq Song := fun a b =>
  decidable_of_iff
    ((∀ tag ∈ Tag.all, a.value? tag = b.value? tag) ∧ a.index? = b.index? ∧
      a.temporary = b.temporary)
    ⟨fun ⟨hv, hi, ht⟩ => ext (fun tag => hv tag tag.mem_all) hi ht,
      fun h => by subst h; exact ⟨fun _ _ => rfl, rfl, rfl⟩⟩

/-- Sets the value of a tag. -/
def set (song : Song) (tag : Tag) (value : TagValue) : Song :=
  { song with value? := fun t => if t = tag then some value else song.value? t }

/-- Takes a tag away. -/
def remove (song : Song) (tag : Tag) : Song :=
  { song with value? := fun t => if t = tag then none else song.value? t }

/-- Whether a tag is set. -/
def has (song : Song) (tag : Tag) : Bool := (song.value? tag).isSome

/-- The text of a tag, if it holds one. -/
def text? (song : Song) (tag : Tag) : Option String := (song.value? tag).bind TagValue.text?

/-- The number of a tag, if it holds one. -/
def number? (song : Song) (tag : Tag) : Option Int64 := (song.value? tag).bind TagValue.number?

/-- The words of a tag, if it holds some. -/
def words? (song : Song) (tag : Tag) : Option (List String) :=
  (song.value? tag).bind TagValue.words?

/-- The tags that are set and their values, in record order. -/
def entries (song : Song) : List (Tag × TagValue) :=
  Tag.all.filterMap fun tag => (song.value? tag).map (tag, ·)

/-- The path of the audio file, by which a song is known. -/
def path? (song : Song) : Option String := song.text? .file

/-- The number of the song's record, if it has a valid one. -/
def recordNumber? (song : Song) : Option Nat :=
  (song.number? .recordNumber).bind fun n =>
    if 0 < n.toInt ∧ n.toInt ≤ maxRecordNumber then some n.toInt.toNat else none

/-- Sets the number of the song's record. -/
def setRecordNumber (song : Song) (n : Nat) : Song :=
  song.set .recordNumber (.number (Int64.ofInt n))

/-- Gives the song its index within a library. -/
def withIndex (song : Song) (index : Int) : Song := { song with index? := some index }

/-- A tag that was set has its value, and the others keep theirs. -/
@[simp] theorem value?_set (song : Song) (tag t : Tag) (value : TagValue) :
    (song.set tag value).value? t = if t = tag then some value else song.value? t := rfl

@[simp] theorem value?_withIndex (song : Song) (index : Int) :
    (song.withIndex index).value? = song.value? := rfl

end Song

end Ballroom
