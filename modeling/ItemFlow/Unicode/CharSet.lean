/-!
# Sets of characters

A `CharSet` is a set of Unicode scalar values, held as ranges of code points in increasing order
with a gap between any two. Membership is a binary search; complement, union, intersection and the
two differences are computed on the ranges. A range may run on across the surrogates, or two ranges
may end beside them: the members are the same, but the complements differ.
-/

namespace ItemFlow

/-- A set of characters, as increasing ranges of code points, both ends included. -/
structure CharSet where
  /-- The ranges, in increasing order and with a gap between any two. -/
  ranges : Array (Nat × Nat)
deriving DecidableEq, Repr, Inhabited

namespace CharSet

/-- The set without members. -/
def empty : CharSet := ⟨#[]⟩

/-- Joins ranges that touch or overlap, for ranges whose lower ends increase. -/
def merge : List (Nat × Nat) → List (Nat × Nat)
  | [] => []
  | r :: rest => go r rest
where
  /-- Grows the range in hand as long as the next one touches it. -/
  go (cur : Nat × Nat) : List (Nat × Nat) → List (Nat × Nat)
    | [] => [cur]
    | next :: rest =>
      if next.1 ≤ cur.2 + 1 then go (cur.1, max cur.2 next.2) rest else cur :: go next rest

/-- The set of all code points in some of the ranges; a range with its ends in the wrong order has
none. -/
def ofRanges (l : List (Nat × Nat)) : CharSet :=
  ⟨(merge ((l.filter fun r => r.1 ≤ r.2).mergeSort fun a b => a.1 ≤ b.1)).toArray⟩

/-- The characters from `lo` to `hi`. -/
def range (lo hi : Char) : CharSet := ofRanges [(lo.toNat, hi.toNat)]

/-- The set with one member. -/
def singleton (c : Char) : CharSet := ⟨#[(c.toNat, c.toNat)]⟩

/-- The characters of a list. -/
def ofList (l : List Char) : CharSet := ofRanges (l.map fun c => (c.toNat, c.toNat))

/-- Whether a code point lies in one of the ranges from index `lo` to before index `hi`. -/
def searchIn (ranges : Array (Nat × Nat)) (n lo hi : Nat) : Bool :=
  if lo < hi then
    let mid := (lo + hi) / 2
    match ranges[mid]? with
    | none => false
    | some (a, b) =>
      if n < a then searchIn ranges n lo mid
      else if b < n then searchIn ranges n (mid + 1) hi
      else true
  else false
termination_by hi - lo

/-- Whether a code point is a member. -/
def hasCode (s : CharSet) (n : Nat) : Bool := searchIn s.ranges n 0 s.ranges.size

/-- Whether a character is a member. -/
def contains (s : CharSet) (c : Char) : Bool := s.hasCode c.toNat

/-- Whether every member is below U+0080. -/
def isAscii (s : CharSet) : Bool := s.ranges.all fun r => r.2 < 0x80

/-- The members of either set. -/
def union (s t : CharSet) : CharSet := ofRanges (s.ranges.toList ++ t.ranges.toList)

/-! ## Neighbours

The code points from U+D800 to U+DFFF are surrogates and no characters, so U+E000 is the character
after U+D7FF. -/

/-- The code point of the next character. -/
def next (n : Nat) : Nat := if n == 0xd7ff then 0xe000 else n + 1

/-- The code point of the character before. -/
def prev (n : Nat) : Nat := if n == 0xe000 then 0xd7ff else n - 1

/-- The code point of the last character. -/
def last : Nat := 0x10ffff

/-! ## Operations -/

/-- The range between two code points, given in either order. -/
def between (m n : Nat) : Nat × Nat := (min m n, max m n)

/-- The gaps between increasing ranges and after the last of them. Where the surrogates alone keep
two ranges apart, the gap has no character of its own and holds the two beside it. -/
def gaps : List (Nat × Nat) → List (Nat × Nat)
  | [] => []
  | [a] => if a.2 < last then [(next a.2, last)] else []
  | a :: b :: rest => between (next a.2) (prev b.1) :: gaps (b :: rest)

/-- The ranges before, between and after increasing ranges. -/
def outside : List (Nat × Nat) → List (Nat × Nat)
  | [] => [(0, last)]
  | a :: rest => (if 0 < a.1 then [(0, prev a.1)] else []) ++ gaps (a :: rest)

example : outside [(0x41, 0xd7ff), (0xe000, 0xf8ff)] =
    [(0, 0x40), (0xd7ff, 0xe000), (0xf900, last)] := by decide

example : outside [(0x41, 0xf8ff)] = [(0, 0x40), (0xf900, last)] := by decide

/-- The characters that are no members. -/
def compl (s : CharSet) : CharSet := ofRanges (outside s.ranges.toList)

/-- What increasing ranges have in common. -/
def overlap : List (Nat × Nat) → List (Nat × Nat) → List (Nat × Nat)
  | [], _ => []
  | _ :: _, [] => []
  | a :: s, b :: t =>
    let rest := if a.2 < b.2 then overlap s (b :: t) else overlap (a :: s) t
    if max a.1 b.1 ≤ min a.2 b.2 then (max a.1 b.1, min a.2 b.2) :: rest else rest
termination_by s t => s.length + t.length

/-- What is left of increasing ranges without others. -/
def remainder : List (Nat × Nat) → List (Nat × Nat) → List (Nat × Nat)
  | [], _ => []
  | s@(_ :: _), [] => s
  | a :: s, b :: t =>
    if b.2 < a.1 then remainder (a :: s) t
    else if a.2 < b.1 then a :: remainder s (b :: t)
    else
      let below := if a.1 < b.1 then [(a.1, prev b.1)] else []
      below ++
        if b.2 < a.2 then remainder ((next b.2, a.2) :: s) t else remainder s (b :: t)
termination_by s t => s.length + t.length

/-- The members of both sets. -/
def inter (s t : CharSet) : CharSet := ofRanges (overlap s.ranges.toList t.ranges.toList)

/-- The members of the first set that are not in the second. -/
def diff (s t : CharSet) : CharSet := ofRanges (remainder s.ranges.toList t.ranges.toList)

/-- The members of exactly one of the sets. -/
def symmDiff (s t : CharSet) : CharSet := (s.union t).diff (s.inter t)

/-- Every character. -/
def all : CharSet := ⟨#[(0, last)]⟩

/-- The value of a hexadecimal digit. -/
def hexDigit? (c : Char) : Option Nat :=
  if '0' ≤ c ∧ c ≤ '9' then some (c.toNat - '0'.toNat)
  else if 'a' ≤ c ∧ c ≤ 'f' then some (c.toNat - 'a'.toNat + 10)
  else if 'A' ≤ c ∧ c ≤ 'F' then some (c.toNat - 'A'.toNat + 10)
  else none

/-- The number that hexadecimal digits spell; other characters count as nothing. -/
def readHex (l : List Char) : Nat :=
  l.foldl (fun n c => match hexDigit? c with | some d => 16 * n + d | none => n) 0

/-- The words of a text, as separated by blanks and line ends. -/
def words (s : String) : List (List Char) :=
  (s.toList.splitBy fun a b => a.isWhitespace == b.isWhitespace).filter fun w =>
    !w.any Char.isWhitespace

/-- The ranges that a table's text lists: words `start-end` or `code`, in hexadecimal. -/
def tableRanges (table : String) : List (Nat × Nat) :=
  (words table).map fun w =>
    let lo := w.takeWhile (· != '-')
    let hi := (w.dropWhile (· != '-')).drop 1
    (readHex lo, if hi.isEmpty then readHex lo else readHex hi)

/-- The set that a table's text lists. -/
def ofTable (table : String) : CharSet := ofRanges (tableRanges table)

end CharSet

end ItemFlow
