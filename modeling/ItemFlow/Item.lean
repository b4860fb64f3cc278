import ItemFlow.Json.Printer
import ItemFlow.Path

/-!
# Items

An item is one record that flows through a pipe: named fields in order, each a JSON value. Nested
values are reached by paths.
-/

namespace ItemFlow

/-- A record of named fields in order. -/
structure Item where
  /-- The fields. -/
  fields : List (String × Json)
deriving Inhabited, Repr

namespace Item

/-- The item without fields. -/
def empty : Item := ⟨[]⟩

/-- The key under which a value that is no object becomes an item. -/
def contentKey : String := "content"

/-- The item of a value: the fields of an object, or any other value under `contentKey`. -/
def ofJson : Json → Item
  | .obj fields => ⟨fields⟩
  | v => ⟨[(contentKey, v)]⟩

/-- The item as an object. -/
def toJson (item : Item) : Json := .obj item.fields

/-- The text of the item. -/
def render (item : Item) : String := item.toJson.render

/-- The value at a path; a path without segments leads nowhere. -/
def lookup (item : Item) (path : String) : Option Json :=
  match Path.segments path with
  | [] => none
  | segment :: rest => (Fields.get? segment item.fields).bind (Json.at? rest)

/-- The value at a path, or a default. -/
def getD (item : Item) (path : String) (default : Json) : Json := (item.lookup path).getD default

/-- Whether there is a value at a path. -/
def contains (item : Item) (path : String) : Bool := (item.lookup path).isSome

/-- Stores a value at a path; a path without segments changes nothing. -/
def set (item : Item) (path : String) (value : Json) : Item :=
  match Path.segments path with
  | [] => item
  | segment :: rest => ⟨Fields.update segment (Json.store value rest) .null item.fields⟩

/-- The value of a field, with the item without that field. -/
def remove (item : Item) (key : String) : Option Json × Item :=
  (Fields.get? key item.fields, ⟨Fields.erase key item.fields⟩)

/-- The number of fields. -/
def size (item : Item) : Nat := item.fields.length

/-- Equality that ignores the order of keys. -/
def same (a b : Item) : Bool := a.toJson.same b.toJson

end Item

end ItemFlow
