import ItemFlow.Pattern.Expr

/-!
# Programs of patterns

A pattern runs as a program: a list of instructions, each with the ones that may follow it. Where
two may follow, the first is preferred. `Expr.code` lays out the instructions of an expression from
a given address on; control leaves them at the address after the last.
-/

namespace ItemFlow.Pattern

/-- One instruction. All but `split`, `jump` and `accept` are followed by the next one. -/
inductive Inst where
  /-- Takes one character of a set. -/
  | set (chars : CharSet)
  /-- Goes on only where a condition holds. -/
  | look (cond : Look)
  /-- Keeps the place in a slot. -/
  | save (slot : Nat)
  /-- Goes on at either of two addresses, the first preferred. -/
  | split (first second : Nat)
  /-- Goes on at another address. -/
  | jump (target : Nat)
  /-- Ends a match. -/
  | accept
deriving Repr, Inhabited

/-- A choice between going on and leaving; the first is preferred if `greedy` is set. -/
def Inst.choice (greedy : Bool) (go leave : Nat) : Inst :=
  if greedy then .split go leave else .split leave go

/-- The number of instructions of a repetition of a part of the given size. -/
def timesSize (min : Nat) (max : Option Nat) (part : Nat) : Nat :=
  match max with
  | none => if min = 0 then part + 2 else min * part + 1
  | some n => min * part + (n - min) * (part + 1)

mutual

/-- The number of instructions of an expression. -/
def Expr.size : Expr → Nat
  | .empty => 0
  | .set _ | .look _ => 1
  | .capture _ part => part.size + 2
  | .seq parts => Expr.sizeSeq parts
  | .alt parts => Expr.sizeAlt parts
  | .times min max _ part => timesSize min max part.size

/-- The number of instructions of several expressions in a row. -/
def Expr.sizeSeq : List Expr → Nat
  | [] => 0
  | a :: rest => a.size + Expr.sizeSeq rest

/-- The number of instructions of alternatives: two more for each that has another after it. -/
def Expr.sizeAlt : List Expr → Nat
  | [] => 0
  | [a] => a.size
  | a :: rest => a.size + 2 + Expr.sizeAlt rest

end

mutual

/-- The instructions of an expression from an address on. A part that may repeat without end is laid
out once: it comes first, and the choice to repeat it comes after it, so that a part that matches
the empty text is tried before it is left. -/
def Expr.code (base : Nat) : Expr → List Inst
  | .empty => []
  | .set chars => [.set chars]
  | .look cond => [.look cond]
  | .capture i part => .save (2 * i) :: part.code (base + 1) ++ [.save (2 * i + 1)]
  | .seq parts => Expr.codeSeq base parts
  | .alt parts => Expr.codeAlt base (base + Expr.sizeAlt parts) parts
  | .times min max greedy part =>
    let n := part.size
    let copies := (List.range min).flatMap fun i => part.code (base + i * n)
    match max with
    | none =>
      if min = 0 then
        let again := Inst.choice greedy (base + 1) (base + n + 2)
        again :: part.code (base + 1) ++ [again]
      else copies ++ [Inst.choice greedy (base + (min - 1) * n) (base + min * n + 1)]
    | some most =>
      let start := base + min * n
      let stop := start + (most - min) * (n + 1)
      copies ++ (List.range (most - min)).flatMap fun i =>
        let here := start + i * (n + 1)
        Inst.choice greedy (here + 1) stop :: part.code (here + 1)

/-- The instructions of several expressions in a row. -/
def Expr.codeSeq (base : Nat) : List Expr → List Inst
  | [] => []
  | a :: rest => a.code base ++ Expr.codeSeq (base + a.size) rest

/-- The instructions of alternatives, all of which leave to `stop`. -/
def Expr.codeAlt (base stop : Nat) : List Expr → List Inst
  | [] => []
  | [a] => a.code base
  | a :: rest =>
    .split (base + 1) (base + a.size + 2) :: a.code (base + 1) ++
      .jump stop :: Expr.codeAlt (base + a.size + 2) stop rest

end

/-- The program of a whole pattern: its match is kept as group 0. -/
def Expr.program (e : Expr) : Array Inst := ((Expr.capture 0 e).code 0 ++ [Inst.accept]).toArray

end ItemFlow.Pattern
