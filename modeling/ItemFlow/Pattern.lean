import ItemFlow.Pattern.Matcher
import ItemFlow.Pattern.Parser

/-!
# Patterns

A pattern is a compiled regular expression: a program and the names of its groups. It finds matches
in texts; a search never backs up, so its cost is bounded by the product of the sizes of program and
text. Matches found in a row do not overlap, and an empty one does not touch the one before it.

The size of programs is not limited. A text that spells a pattern compiles however large the program
gets, such as that of `\w{1000}`, where a matcher with a budget of memory refuses what exceeds it.
-/

namespace ItemFlow

/-- What a rule says about its pattern beside the pattern's own text. -/
structure Pattern.Flags where
  /-- Letter case does not count. -/
  ignoreCase : Bool := false
  /-- Line anchors match at every line. -/
  multiLine : Bool := false
  /-- The dot matches line ends too. -/
  dotAll : Bool := false
deriving DecidableEq, Repr, Inhabited

/-- A compiled regular expression. -/
structure Pattern where
  /-- Its text. -/
  source : String
  /-- Its instructions. -/
  program : Array Pattern.Inst
  /-- The number of its groups, the whole match included. -/
  groups : Nat
  /-- The names of groups, with their numbers. -/
  names : List (String × Nat)
deriving Repr

namespace Pattern

/-- The mode that flags start a pattern in. -/
def Flags.mode (f : Flags) : Mode :=
  { ignoreCase := f.ignoreCase, multiLine := f.multiLine, dotAll := f.dotAll }

/-- The pattern that a text spells, however large its program is. -/
def compile (source : String) (flags : Flags) : Except Fault Pattern := do
  let (ast, groups, names) ← parse source
  let (e, _) ← ast.elaborate flags.mode
  return ⟨source, e.program, groups + 1, names⟩

/-- The first match of a text that starts at `pos` or later. -/
def findFrom? (p : Pattern) (text : Array Char) (pos : Nat) : Option Match :=
  (search p.program ⟨0, Array.replicate (2 * p.groups) none⟩ text pos [] none).bind Match.ofSlots?

/-- The match after one that stops at `pos`: not an empty one in the same place. -/
def findAfter? (p : Pattern) (text : Array Char) (pos : Nat) : Option Match :=
  match p.findFrom? text pos with
  | none => none
  | some m =>
    if m.start = pos ∧ m.stop = pos then
      if pos < text.size then p.findFrom? text (pos + 1) else none
    else some m

/-- All matches after one that stops at `pos`. -/
def findAllAfter (p : Pattern) (text : Array Char) (pos : Nat) : List Match :=
  match p.findAfter? text pos with
  | none => []
  | some m =>
    if pos < m.stop ∧ m.stop ≤ text.size then m :: p.findAllAfter text m.stop else []
termination_by text.size - pos

/-- The first match of a text. -/
def find? (p : Pattern) (text : Array Char) : Option Match := p.findFrom? text 0

/-- All matches of a text, from left to right. -/
def findAll (p : Pattern) (text : Array Char) : List Match :=
  match p.find? text with
  | none => []
  | some m => m :: p.findAllAfter text m.stop

/-- Where a match of a text starts and stops, counted in bytes of its UTF-8 form. -/
def Match.byteRange (m : Match) (text : Array Char) : Nat × Nat :=
  let size := fun (cs : Array Char) => cs.foldl (fun n c => n + c.utf8Size) 0
  let start := size (text.extract 0 m.start)
  (start, start + size (text.extract m.start m.stop))

end Pattern

end ItemFlow
