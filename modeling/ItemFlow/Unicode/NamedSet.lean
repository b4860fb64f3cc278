import ItemFlow.Unicode.CharSet

/-!
# Named sets of characters

The Unicode standard names sets of characters, each by a short and a long name, and compares names
loosely: case, blanks, hyphens and underscores do not count, nor does a leading `is`. `NamedSet` is
one such set with its table; the tables are in the modules beside this one.
-/

namespace ItemFlow

/-- A set of characters with the names that the standard gives it and the text of its table. -/
structure NamedSet where
  /-- The names, each of which stands for the set. -/
  names : List String
  /-- The table of ranges, as `CharSet.ofTable` reads it. -/
  table : String

namespace NamedSet

/-- Whether the name starts with `is`, in any case. -/
def startsWithIs : List Char → Bool
  | i :: s :: _ => i.toLower == 'i' && s.toLower == 's'
  | _ => false

/-- The form in which names are compared: lower case, without blanks, hyphens, underscores and
characters outside ASCII, and without a leading `is`. The one name `isc` keeps it. -/
def looseName (name : List Char) : List Char :=
  let bare := if startsWithIs name then name.drop 2 else name
  let counts (c : Char) : Bool := c != ' ' && c != '_' && c != '-' && c.toNat < 0x80
  let kept := (bare.filter counts).map Char.toLower
  if startsWithIs name && kept == ['c'] then ['i', 's', 'c'] else kept

/-- Whether the set has a name, loosely compared. -/
def hasName (s : NamedSet) (name : List Char) : Bool :=
  s.names.any fun n => looseName n.toList == looseName name

/-- The set itself. -/
def chars (s : NamedSet) : CharSet := CharSet.ofTable s.table

/-- The first set of a list that has a name, loosely compared. -/
def find? (sets : List NamedSet) (name : List Char) : Option NamedSet :=
  sets.find? fun s => s.hasName name

end NamedSet

end ItemFlow
