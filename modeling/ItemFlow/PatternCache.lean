import ItemFlow.Pattern

/-!
# Compiled patterns that are kept

A stage keeps the patterns that are the same for all items, so that they are compiled once. The
patterns that change from item to item are looked up but not kept. Every entry is what compiling its
text with its flags gives.
-/

namespace ItemFlow

/-- Compiled patterns by text and flags. -/
structure PatternCache where
  /-- The patterns kept, the latest first. -/
  entries : List ((String × Pattern.Flags) × Pattern)
  /-- Each is what its text and flags compile to. -/
  compiled : ∀ e ∈ entries, Pattern.compile e.1.1 e.1.2 = .ok e.2

namespace PatternCache

/-- No patterns. -/
def empty : PatternCache := ⟨[], fun _ h => nomatch h⟩

instance : Inhabited PatternCache := ⟨empty⟩

/-- The number of patterns kept. -/
def size (c : PatternCache) : Nat := c.entries.length

/-- The pattern kept for a text and flags. -/
def get? (c : PatternCache) (source : String) (flags : Pattern.Flags) : Option Pattern :=
  c.entries.lookup (source, flags)

/-- The pattern of a text and flags, kept or compiled anew. -/
def fetch (c : PatternCache) (source : String) (flags : Pattern.Flags) :
    Except Pattern.Fault Pattern :=
  match c.get? source flags with
  | some p => .ok p
  | none => Pattern.compile source flags

/-- Keeps the pattern that a text and flags compile to. -/
def keep (c : PatternCache) (source : String) (flags : Pattern.Flags) (p : Pattern)
    (h : Pattern.compile source flags = .ok p) : PatternCache where
  entries := ((source, flags), p) :: c.entries
  compiled e he := by
    rcases List.mem_cons.1 he with rfl | he
    · exact h
    · exact c.compiled e he

/-- The pattern of a text and flags, which is kept from now on if there is one. -/
def compile (c : PatternCache) (source : String) (flags : Pattern.Flags) :
    Except Pattern.Fault Pattern × PatternCache :=
  match c.get? source flags with
  | some p => (.ok p, c)
  | none =>
    match h : Pattern.compile source flags with
    | .ok p => (.ok p, c.keep source flags p h)
    | .error e => (.error e, c)

end PatternCache

end ItemFlow
