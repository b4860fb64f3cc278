import ItemFlow.Pattern.Class

/-!
# What patterns mean

An `Expr` is a pattern whose flags have been worked into its parts: sets of characters, conditions
on a place, captures, sequences, preferred alternatives and repetitions. `Ast.elaborate` makes it
from the written form. A flag holds from where it is set to the end of its group, across the bars
of alternatives.
-/

namespace ItemFlow.Pattern

/-- A condition on the characters on either side of a place. -/
inductive Look where
  /-- No character before. -/
  | textStart
  /-- No character after. -/
  | textEnd
  /-- A line feed or nothing before. -/
  | lineStart
  /-- A line feed or nothing after. -/
  | lineEnd
  /-- A line end of one or two characters, or nothing, before. -/
  | lineStartCrlf
  /-- A line end of one or two characters, or nothing, after. -/
  | lineEndCrlf
  /-- A word character on exactly one side. -/
  | boundary (unicode : Bool)
  /-- Word characters on both sides or on neither. -/
  | notBoundary (unicode : Bool)
  /-- A word character after and none before. -/
  | wordStart (unicode : Bool)
  /-- A word character before and none after. -/
  | wordEnd (unicode : Bool)
  /-- No word character before. -/
  | wordStartHalf (unicode : Bool)
  /-- No word character after. -/
  | wordEndHalf (unicode : Bool)
deriving DecidableEq, Repr

/-- Whether the character that may stand beside a place is one of a word. -/
def besideWord (unicode : Bool) : Option Char → Bool
  | none => false
  | some c => (Shorthand.chars { unicode := unicode } .word).contains c

/-- Whether the condition holds between two characters, either of which may be missing. -/
def Look.holds (before after : Option Char) : Look → Bool
  | .textStart => before.isNone
  | .textEnd => after.isNone
  | .lineStart => before.all (· == '\n')
  | .lineEnd => after.all (· == '\n')
  | .lineStartCrlf => before.all (· == '\n') || (before == some '\r' && after != some '\n')
  | .lineEndCrlf => after.all (· == '\r') || (after == some '\n' && before != some '\r')
  | .boundary u => besideWord u before != besideWord u after
  | .notBoundary u => besideWord u before == besideWord u after
  | .wordStart u => !besideWord u before && besideWord u after
  | .wordEnd u => besideWord u before && !besideWord u after
  | .wordStartHalf u => !besideWord u before
  | .wordEndHalf u => !besideWord u after

/-- What a pattern matches. -/
inductive Expr where
  /-- The empty text. -/
  | empty
  /-- One character of a set. -/
  | set (chars : CharSet)
  /-- The empty text at a place with a condition. -/
  | look (cond : Look)
  /-- A part whose match is kept under a number. -/
  | capture (index : Nat) (part : Expr)
  /-- Parts in a row. -/
  | seq (parts : List Expr)
  /-- One of several parts, the earlier ones preferred. -/
  | alt (parts : List Expr)
  /-- A part repeated from `min` to `max` times, more preferred if `greedy` is set. -/
  | times (min : Nat) (max : Option Nat) (greedy : Bool) (part : Expr)
deriving Inhabited, Repr

mutual

/-- Whether nothing but the empty text can match, as far as the form of the pattern shows. -/
def Expr.onlyEmpty : Expr → Bool
  | .empty | .look _ => true
  | .set _ => false
  | .capture _ part => part.onlyEmpty
  | .seq parts | .alt parts => Expr.allOnlyEmpty parts
  | .times _ max _ part => part.onlyEmpty || max == some 0

/-- The same for each of several parts. -/
def Expr.allOnlyEmpty : List Expr → Bool
  | [] => true
  | a :: rest => a.onlyEmpty && Expr.allOnlyEmpty rest

end

/-- A repetition. A part that only matches the empty text gains nothing from a second time. -/
def Expr.ofTimes (min : Nat) (max : Option Nat) (greedy : Bool) (part : Expr) : Expr :=
  let (min, max) :=
    if part.onlyEmpty then (Nat.min min 1, some ((max.map (Nat.min · 1)).getD 1)) else (min, max)
  if max == some 0 then .empty
  else if min == 1 && max == some 1 then part
  else .times min max greedy part

/-- The condition that an anchor stands for. -/
def Anchor.look (m : Mode) : Anchor → Look
  | .lineStart => if !m.multiLine then .textStart else if m.crlf then .lineStartCrlf else .lineStart
  | .lineEnd => if !m.multiLine then .textEnd else if m.crlf then .lineEndCrlf else .lineEnd
  | .textStart => .textStart
  | .textEnd => .textEnd
  | .boundary => .boundary m.unicode
  | .notBoundary => .notBoundary m.unicode
  | .wordStart => .wordStart m.unicode
  | .wordEnd => .wordEnd m.unicode
  | .wordStartHalf => .wordStartHalf m.unicode
  | .wordEndHalf => .wordEndHalf m.unicode

/-- The characters that a literal stands for. Without Unicode a byte beyond ASCII is no
character. -/
def Literal.chars (m : Mode) (lit : Literal) : Except Fault CharSet :=
  if !m.unicode && lit.asByte && 0x80 ≤ lit.char.toNat then .error .invalidText
  else .ok (m.fold (.singleton lit.char))

mutual

/-- What a pattern means in a mode, and the mode after it. -/
def Ast.elaborate (m : Mode) : Ast → Except Fault (Expr × Mode)
  | .empty => .ok (.empty, m)
  | .flags changes => .ok (.empty, m.changeAll changes)
  | .literal lit => do return (.set (← lit.chars m), m)
  | .dot => do return (.set (← dotChars m), m)
  | .anchor a => .ok (.look (a.look m), m)
  | .shorthand cls negated => do return (.set (← m.negate negated (cls.chars m)), m)
  | .property query negated => do return (.set (← query.chars m negated), m)
  | .bracket negated body => do
    return (.set (← m.negate negated (m.fold (← body.chars m))), m)
  | .times min max greedy part => do
    let (e, m) ← part.elaborate m
    return (.ofTimes min max (greedy != m.swapGreed) e, m)
  | .group index changes part => do
    let (e, _) ← part.elaborate (m.changeAll changes)
    match index with
    | some i => return (.capture i e, m)
    | none => return (e, m)
  | .alt parts => do
    let (l, m) ← Ast.elaborateAll m parts
    return (.alt l, m)
  | .concat parts => do
    let (l, m) ← Ast.elaborateAll m parts
    return (.seq l, m)

/-- What several patterns mean, each in the mode after the one before it. -/
def Ast.elaborateAll (m : Mode) : List Ast → Except Fault (List Expr × Mode)
  | [] => .ok ([], m)
  | a :: rest => do
    let (e, m) ← a.elaborate m
    let (l, m) ← Ast.elaborateAll m rest
    return (e :: l, m)

end

end ItemFlow.Pattern
