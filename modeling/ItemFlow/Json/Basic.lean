import ItemFlow.Decimal.Shortest

/-!
# JSON values

The values that items are made of. Objects keep the order in which their keys were added, numbers
are 64-bit integers or finite binary numbers, and the two kinds of number are never equal. This
module holds the type, the operations on fields and the equality that ignores the order of keys.
-/

namespace ItemFlow

/-- A JSON number: an integer that a signed or an unsigned 64-bit word can hold, or a finite binary
number. -/
inductive Json.Number where
  /-- An integer. -/
  | int (value : Int) (fits : -0x8000000000000000 ≤ value ∧ value < 0x10000000000000000)
  /-- A binary number. -/
  | float (value : Binary64)
deriving DecidableEq, Repr

/-- A JSON value. -/
inductive Json where
  /-- The null value. -/
  | null
  /-- A truth value. -/
  | bool (value : Bool)
  /-- A number. -/
  | num (value : Json.Number)
  /-- A text. -/
  | str (value : String)
  /-- A list of values. -/
  | arr (elements : List Json)
  /-- Fields in the order of their keys, each key once. -/
  | obj (fields : List (String × Json))
deriving Inhabited, Repr

/-! ## Fields -/

namespace Fields

variable {α : Type}

/-- The value under a key. -/
def get? (key : String) (fields : List (String × α)) : Option α := fields.lookup key

/-- Stores a value under a key: in the key's place if it is present, else at the end. -/
def insert (key : String) (value : α) : List (String × α) → List (String × α)
  | [] => [(key, value)]
  | (k, v) :: rest => if k = key then (k, value) :: rest else (k, v) :: insert key value rest

/-- Removes a key; the others keep their order. -/
def erase (key : String) (fields : List (String × α)) : List (String × α) :=
  fields.filter fun f => f.1 != key

/-- The fields with values added in order, a repeated key keeping its first place and taking its
last value. -/
def insertAll (fields added : List (String × α)) : List (String × α) :=
  added.foldl (fun acc f => insert f.1 f.2 acc) fields

/-- No key occurs twice. -/
def Distinct (fields : List (String × α)) : Prop := (fields.map (·.1)).Nodup

end Fields

namespace Json

/-! ## Numbers -/

namespace Number

/-- The integer as a number, if a 64-bit word can hold it. -/
def ofInt? (n : Int) : Option Number :=
  if h : -0x8000000000000000 ≤ n ∧ n < 0x10000000000000000 then some (.int n h) else none

/-- Whether the number is zero. -/
def isZero : Number → Bool
  | .int n _ => n == 0
  | .float x => x.isZero

/-- Numeric equality within a kind; an integer is no binary number. -/
def same : Number → Number → Bool
  | .int m _, .int n _ => m == n
  | .float x, .float y => x.same y
  | _, _ => false

end Number

/-- The number one. -/
def one : Json := .num (.int 1 (by decide))

/-- The number zero. -/
def zero : Json := .num (.int 0 (by decide))

/-! ## Values -/

/-- Whether the value is an object. -/
def isObject : Json → Bool
  | .obj _ => true
  | _ => false

/-- Whether the value has parts that a path can lead to. -/
def isContainer : Json → Bool
  | .obj _ | .arr _ => true
  | _ => false

/-- The value of a field, if the value is an object that has it. -/
def field? (key : String) : Json → Option Json
  | .obj fields => Fields.get? key fields
  | _ => none

/-- The text, if the value is one. -/
def text? : Json → Option String
  | .str s => some s
  | _ => none

mutual

/-- Equality that ignores the order of keys. -/
def same : Json → Json → Bool
  | .null, .null => true
  | .bool a, .bool b => a == b
  | .num a, .num b => a.same b
  | .str a, .str b => a == b
  | .arr a, .arr b => sameElements a b
  | .obj a, .obj b => a.length == b.length && sameFields a b
  | _, _ => false

/-- Equality of lists, element by element. -/
def sameElements : List Json → List Json → Bool
  | [], [] => true
  | a :: as, b :: bs => same a b && sameElements as bs
  | _, _ => false

/-- Whether every field of the first list has an equal value in the second. -/
def sameFields : List (String × Json) → List (String × Json) → Bool
  | [], _ => true
  | (k, a) :: rest, fields =>
    (match Fields.get? k fields with
      | some b => same a b
      | none => false) && sameFields rest fields

end

end Json

end ItemFlow
