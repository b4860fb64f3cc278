import ItemFlow.Json.Basic
import ItemFlow.Text.Digits

/-!
# Paths into values

A path names a place inside a value: segments between points and brackets, so that `a.b[0].c` and
`a.b.0.c` are the same path. A segment is a key of an object or, when it reads as a number, an index
into a list. Reading a place never fails but may find nothing; storing at a place makes what is
missing on the way.
-/

namespace ItemFlow

namespace Path

/-- The characters that separate segments. -/
def isSeparator (c : Char) : Bool := c == '.' || c == '[' || c == ']'

/-- The segments of a path that follow the characters of a segment begun, which is held in
reverse. -/
def segmentsFrom (begun : List Char) : List Char → List String
  | [] => if begun.isEmpty then [] else [String.ofList begun.reverse]
  | c :: rest =>
    if isSeparator c then
      if begun.isEmpty then segmentsFrom [] rest
      else String.ofList begun.reverse :: segmentsFrom [] rest
    else segmentsFrom (c :: begun) rest

/-- The segments of a path; empty ones do not count. -/
def segments (path : String) : List String := segmentsFrom [] path.toList

example : segments "a.b[0].c" = ["a", "b", "0", "c"] := by decide

/-- The index that a segment reads as: digits, perhaps after a plus sign, below `2 ^ 64`. -/
def index? (segment : String) : Option Nat := Text.word64? segment.toList

end Path

namespace Fields

variable {α : Type}

/-- Changes the value under a key, or adds the key at the end with the image of a default. -/
def update (key : String) (f : α → α) (default : α) : List (String × α) → List (String × α)
  | [] => [(key, f default)]
  | (k, v) :: rest =>
    if k = key then (k, f v) :: rest else (k, v) :: update key f default rest

end Fields

namespace Json

/-- The part of a value that one segment leads to. -/
def child? (segment : String) : Json → Option Json
  | .obj fields => Fields.get? segment fields
  | .arr l => (Path.index? segment).bind (l[·]?)
  | _ => none

/-- The part of a value that a list of segments leads to. -/
def at? : List String → Json → Option Json
  | [], v => some v
  | segment :: rest, v => (v.child? segment).bind (at? rest)

/-- Changes the part of a value that one segment leads to. A part that is missing starts as null: a
new key, or a new last element for an index past the end. A value that has no such parts is replaced
by an object with this one. -/
def updateChild (segment : String) (f : Json → Json) : Json → Json
  | .obj fields => .obj (Fields.update segment f .null fields)
  | .arr l =>
    match Path.index? segment with
    | some i => if i < l.length then .arr (l.modify i f) else .arr (l ++ [f .null])
    | none => .obj [(segment, f .null)]
  | _ => .obj [(segment, f .null)]

/-- Stores a value at the end of a list of segments. -/
def store (value : Json) : List String → Json → Json
  | [], _ => value
  | segment :: rest, v => v.updateChild segment (store value rest)

end Json

end ItemFlow
