import ItemFlow.Pattern.Program

/-!
# Running patterns

All ways to match are followed at once, character by character, as threads in order of preference.
Of two threads at the same instruction only the preferred one goes on, so a place costs at most one
thread per instruction. The match that is found starts furthest left, and among those it is the
preferred one.
-/

namespace ItemFlow.Pattern

/-- One way to match so far: the address of its next instruction, and the places that it keeps. -/
structure Thread where
  /-- The address of the next instruction. -/
  pc : Nat
  /-- The places kept, by slot. -/
  slots : Array (Option Nat)
deriving Inhabited, Repr

/-- A place in a text: how many characters precede it, and the characters on either side. -/
structure Place where
  /-- The number of characters before. -/
  pos : Nat
  /-- The character before. -/
  before : Option Char
  /-- The character after. -/
  after : Option Char

/-- A place of a text. -/
def Place.ofText (text : Array Char) (pos : Nat) : Place :=
  ⟨pos, if pos = 0 then none else text[pos - 1]?, text[pos]?⟩

/-- The threads that an instruction without a character leads to. -/
def Thread.follow (place : Place) (t : Thread) : Inst → List Thread
  | .look cond => if cond.holds place.before place.after then [{ t with pc := t.pc + 1 }] else []
  | .save slot => [⟨t.pc + 1, t.slots.setIfInBounds slot (some place.pos)⟩]
  | .split first second => [{ t with pc := first }, { t with pc := second }]
  | .jump target => [{ t with pc := target }]
  | .set _ | .accept => []

/-- Whether a thread stops at an instruction until there is a character for it. -/
def Inst.waits : Inst → Bool
  | .set _ | .accept => true
  | _ => false

/-- Marking an address that is not marked leaves fewer of them. -/
theorem count_false_set {seen : Array Bool} {i : Nat} (h : i < seen.size) (hi : seen[i] = false) :
    (seen.set i true).count false < seen.count false := by
  have hpos : 0 < seen.count false := Array.count_pos_iff.2 (hi ▸ Array.getElem_mem h)
  rw [Array.count_set, hi]
  show seen.count false - 1 + 0 < seen.count false
  omega

/-- Follows threads at one place up to the instructions that wait, in order of preference. An
address is taken by the first thread to reach it. -/
def settle (program : Array Inst) (place : Place) (seen : Array Bool) (work ready : List Thread) :
    List Thread :=
  match work with
  | [] => ready.reverse
  | t :: rest =>
    if h : t.pc < seen.size then
      if hs : seen[t.pc] = false then
        match program[t.pc]? with
        | none => settle program place (seen.set t.pc true) rest ready
        | some inst =>
          if inst.waits then settle program place (seen.set t.pc true) rest (t :: ready)
          else settle program place (seen.set t.pc true) (t.follow place inst ++ rest) ready
      else settle program place seen rest ready
    else settle program place seen rest ready
termination_by (seen.count false, work.length)
decreasing_by
  · exact Prod.Lex.left _ _ (count_false_set h hs)
  · exact Prod.Lex.left _ _ (count_false_set h hs)
  · exact Prod.Lex.left _ _ (count_false_set h hs)
  · exact Prod.Lex.right _ (Nat.lt_succ_self _)
  · exact Prod.Lex.right _ (Nat.lt_succ_self _)

/-- Whether a thread has come to the end of the program. -/
def Thread.accepts (program : Array Inst) (t : Thread) : Bool :=
  match program[t.pc]? with
  | some .accept => true
  | _ => false

/-- The thread after a character, if its instruction takes it. -/
def Thread.advance? (program : Array Inst) (c : Char) (t : Thread) : Option Thread :=
  match program[t.pc]? with
  | some (.set chars) => if chars.contains c then some { t with pc := t.pc + 1 } else none
  | _ => none

/-- The places kept by the preferred match of a text from `pos` on, given the threads that come
before a fresh start and the best match so far. -/
def search (program : Array Inst) (fresh : Thread) (text : Array Char) (pos : Nat)
    (threads : List Thread) (best : Option (Array (Option Nat))) :
    Option (Array (Option Nat)) :=
  let work := if best.isNone then threads ++ [fresh] else threads
  let ready :=
    settle program (.ofText text pos) (Array.replicate program.size false) work []
  let alive := ready.takeWhile fun t => !t.accepts program
  let best := ((ready.find? (·.accepts program)).map Thread.slots).or best
  if h : pos < text.size then
    if alive.isEmpty && best.isSome then best
    else search program fresh text (pos + 1) (alive.filterMap (·.advance? program text[pos])) best
  else best
termination_by text.size - pos

/-- A match: where it starts and stops, and the same for the groups that took part. -/
structure Match where
  /-- Where it starts. -/
  start : Nat
  /-- Where it stops. -/
  stop : Nat
  /-- The groups by number; group 0 is the match itself. -/
  groups : Array (Option (Nat × Nat))
deriving DecidableEq, Repr

/-- The places of a group, if it took part. -/
def Match.group? (m : Match) (i : Nat) : Option (Nat × Nat) := (m.groups[i]?).join

/-- The pair of places that two neighbouring slots hold. -/
def pairAt (slots : Array (Option Nat)) (i : Nat) : Option (Nat × Nat) :=
  match slots[2 * i]?, slots[2 * i + 1]? with
  | some (some a), some (some b) => some (a, b)
  | _, _ => none

/-- The match that kept places describe. -/
def Match.ofSlots? (slots : Array (Option Nat)) : Option Match :=
  (pairAt slots 0).map fun (a, b) =>
    ⟨a, b, ((List.range (slots.size / 2)).map (pairAt slots)).toArray⟩

end ItemFlow.Pattern
