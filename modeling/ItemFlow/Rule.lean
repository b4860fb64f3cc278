import ItemFlow.Intake
import ItemFlow.Pattern.Replacement
import ItemFlow.PatternCache

/-!
# Rules

A rule replaces what a pattern matches in one field of an item. Rules are compiled from plain
records. They are grouped by field, the groups in the order in which the fields first occur; within
a group each rule works on what the one before it left.
-/

namespace ItemFlow

/-- A compiled rule. -/
structure Rule where
  /-- The path of the field. -/
  field : String
  /-- What is replaced. -/
  pattern : Pattern
  /-- What takes its place, in the form that `Pattern.replace` reads. -/
  replacement : String
  /-- Whether all matches are replaced, or only the first. -/
  all : Bool
deriving Repr

namespace Rule

/-! ## Compiling -/

/-- The name of the parameter that declares rules. -/
def parameter : String := "RULE"

/-- A field of a rule's record as a word; it is empty if it is missing. -/
def word (rule : Json) (key : String) : String := ((rule.field? key).map Json.toWord).getD ""

/-- Whether a field of a rule's record is set. -/
def isSet (rule : Json) (key : String) : Bool := (rule.field? key).any Json.isTruthy

/-- The flags that a rule's record sets. -/
def flags (rule : Json) : Pattern.Flags where
  ignoreCase := isSet rule "casematch"
  multiLine := isSet rule "multilinematch"
  dotAll := isSet rule "singlelinematch"

/-- A computation on the patterns of a stage that may fail. What it kept before it failed stays
kept. -/
abbrev Compile := ExceptT Error (StateM PatternCache)

/-- The pattern of a text and flags. It is kept if `keep` is set. -/
def pattern? (keep : Bool) (source : String) (flags : Pattern.Flags) :
    StateM PatternCache (Except Pattern.Fault Pattern) :=
  fun cache => if keep then cache.compile source flags else (cache.fetch source flags, cache)

/-- The rule that a record declares. Its index and field are named in errors. -/
def compile (module : String) (keep : Bool) (index : Nat) (rule : Json) : Compile Rule := do
  let field := word rule "field"
  let source := word rule "match"
  match ← pattern? keep source (flags rule) with
  | .ok pattern =>
    return ⟨field, pattern, Pattern.braced (word rule "replace"), isSet rule "globalmatch"⟩
  | .error _ => throw (.pattern module index field source)

/-- Compiles the rules of a list of declarations that are the same for all items, and keeps their
patterns. The first index is `index`. -/
def prime (module : String) (index : Nat) : List Conf → Compile Unit
  | [] => pure ()
  | c :: rest => do
    if c.isStatic then
      let location := Conf.indexLocation parameter index
      let value ← ((c.resolveWith .empty module location).run []).1
      let _ ← compile module true index value
    prime module (index + 1) rest

/-- The rules of a list of records, the first of which has the given index. -/
def convertFrom (module : String) (index : Nat) : List Json → Compile (List Rule)
  | [] => pure []
  | rule :: rest => do
    let r ← compile module false index rule
    let rs ← convertFrom module (index + 1) rest
    return r :: rs

/-- The rules of the pieces of a binding. Their patterns are not kept. -/
def convert (module : String) (pieces : Pieces) : Compile (List Rule) :=
  convertFrom module 0 pieces.toList

/-! ## Applying -/

/-- Applies a rule to a word. The empty word stays as it is. -/
def substitute (word : String) (rule : Rule) : String :=
  if word.isEmpty then word else rule.pattern.replace rule.all rule.replacement word

/-- Adds a rule to the group of its field, at the end. -/
def addToGroup (rule : Rule) : List (String × List Rule) → List (String × List Rule)
  | [] => [(rule.field, [rule])]
  | (field, group) :: rest =>
    if field = rule.field then (field, group ++ [rule]) :: rest
    else (field, group) :: addToGroup rule rest

/-- Rules grouped by field, in the order in which the fields first occur. -/
def groups (rules : List Rule) : List (String × List Rule) :=
  rules.foldl (fun groups rule => addToGroup rule groups) []

/-- The word that a field of an item holds. A field that is absent or holds nothing of note is
empty. -/
def fieldWord (item : Item) (field : String) : String :=
  match item.lookup field with
  | none | some .null | some (.bool false) | some (.arr []) | some (.obj []) => ""
  | some (.num n) => if n.isZero then "" else (Json.num n).toWord
  | some v => v.toWord

/-- Applies the rules of one field to an item. -/
def applyGroup (item : Item) (group : String × List Rule) : Item :=
  item.set group.1 (.str (group.2.foldl substitute (fieldWord item group.1)))

/-- Applies rules to an item. -/
def apply (rules : List Rule) (item : Item) : Item := (groups rules).foldl applyGroup item

/-- Applies the rules of one field to a word, with a suspension before each. -/
def substituteDeferred (word : String) : List Rule → Deferred String
  | [] => .done word
  | rule :: rest => .suspend (substituteDeferred (substitute word rule) rest)

/-- Applies groups of rules to an item, with suspensions. -/
def applyGroupsDeferred (item : Item) : List (String × List Rule) → Deferred Item
  | [] => .done item
  | (field, group) :: rest =>
    (substituteDeferred (fieldWord item field) group).bind fun word =>
      applyGroupsDeferred (item.set field (.str word)) rest

/-- Applies rules to an item, with suspensions. -/
def applyDeferred (rules : List Rule) (item : Item) : Deferred Item :=
  applyGroupsDeferred item (groups rules)

end Rule

end ItemFlow
