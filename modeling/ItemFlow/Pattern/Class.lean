import ItemFlow.Pattern.Ast
import ItemFlow.Unicode.Age
import ItemFlow.Unicode.CaseFold
import ItemFlow.Unicode.Property
import ItemFlow.Unicode.Script
import ItemFlow.Unicode.Segmentation

/-!
# Classes of characters

Which characters a class of a pattern has, under the flags in force. Letter case is evened out
before a class is negated, so that `[^a]` without case leaves out both `a` and `A`.
-/

namespace ItemFlow.Pattern

/-- The flags in force at a place of a pattern. -/
structure Mode where
  /-- Letter case does not count. -/
  ignoreCase : Bool := false
  /-- Line anchors match at every line. -/
  multiLine : Bool := false
  /-- The dot matches line ends too. -/
  dotAll : Bool := false
  /-- Repetitions are lazy unless marked. -/
  swapGreed : Bool := false
  /-- Classes and case are those of Unicode. -/
  unicode : Bool := true
  /-- A carriage return and a line feed end a line, together or alone. -/
  crlf : Bool := false
deriving DecidableEq, Repr

namespace Mode

/-- The mode after one flag is set or cleared. -/
def change (m : Mode) (f : FlagChange) : Mode :=
  match f.flag with
  | .ignoreCase => { m with ignoreCase := f.on }
  | .multiLine => { m with multiLine := f.on }
  | .dotAll => { m with dotAll := f.on }
  | .swapGreed => { m with swapGreed := f.on }
  | .unicode => { m with unicode := f.on }
  | .crlf => { m with crlf := f.on }
  | .verbose => m

/-- The mode after several changes. -/
def changeAll (m : Mode) (l : List FlagChange) : Mode := l.foldl change m

/-- The set with the other cases of its members, where letter case does not count. -/
def fold (m : Mode) (s : CharSet) : CharSet :=
  if m.ignoreCase then (if m.unicode then CaseFold.close s else CaseFold.closeAscii s) else s

/-- The complement if `negated` is set. Without Unicode a set must stay within ASCII, since beyond
it bytes are no characters. -/
def negate (m : Mode) (negated : Bool) (s : CharSet) : Except Fault CharSet :=
  let s := if negated then s.compl else s
  if m.unicode || s.isAscii then .ok s else .error .invalidText

end Mode

/-- The decimal digits of ASCII. -/
def asciiDigits : CharSet := .ofTable "30-39"

/-- The white space of ASCII. -/
def asciiSpaces : CharSet := .ofTable "9-d 20"

/-- The word characters of ASCII. -/
def asciiWord : CharSet := .ofTable "30-39 41-5a 5f 61-7a"

/-- The characters of a class with a letter. -/
def Shorthand.chars (m : Mode) (cls : Shorthand) : CharSet :=
  if m.unicode then
    match cls with
    | .digit => Property.digits
    | .space => Property.spaces
    | .word => Property.wordChars
  else
    match cls with
    | .digit => asciiDigits
    | .space => asciiSpaces
    | .word => asciiWord

/-- The characters of a named class of ASCII characters. -/
def AsciiClass.chars : AsciiClass → CharSet
  | .alnum => .ofTable "30-39 41-5a 61-7a"
  | .alpha => .ofTable "41-5a 61-7a"
  | .ascii => .ofTable "0-7f"
  | .blank => .ofTable "9 20"
  | .cntrl => .ofTable "0-1f 7f"
  | .digit => asciiDigits
  | .graph => .ofTable "21-7e"
  | .lower => .ofTable "61-7a"
  | .print => .ofTable "20-7e"
  | .punct => .ofTable "21-2f 3a-40 5b-60 7b-7e"
  | .space => asciiSpaces
  | .upper => .ofTable "41-5a"
  | .word => asciiWord
  | .xdigit => .ofTable "30-39 41-46 61-66"

/-- The characters that a query asks for, if it names a property that there is. A single name is
first that of a binary property, then of a category, then of a script; three short names that stand
for a category too are always categories. -/
def PropertyQuery.chars? : PropertyQuery → Option CharSet
  | .name text =>
    let loose := NamedSet.looseName text
    let category := ["cf", "sc", "lc"].any fun n => n.toList == loose
    let binary := if category then none else Property.find? text
    (binary.or (Category.find? text)).or (Script.find? text)
  | .value property text =>
    let loose := String.ofList (NamedSet.looseName property)
    if loose == "gc" || loose == "generalcategory" then Category.find? text
    else if loose == "sc" || loose == "script" then Script.find? text
    else if loose == "scx" || loose == "scriptextensions" then Script.findExtension? text
    else if loose == "age" then Age.find? text
    else if loose == "gcb" || loose == "graphemeclusterbreak" then Segmentation.findGrapheme? text
    else if loose == "wb" || loose == "wordbreak" then Segmentation.findWord? text
    else if loose == "sb" || loose == "sentencebreak" then Segmentation.findSentence? text
    else none

/-- The characters with a property, or without it. -/
def PropertyQuery.chars (m : Mode) (negated : Bool) (q : PropertyQuery) : Except Fault CharSet :=
  if m.unicode then
    match q.chars? with
    | some s => m.negate negated (m.fold s)
    | none => .error .propertyUnknown
  else .error .unicodeNeeded

/-- The character that a literal of a class stands for. Without Unicode it must be one of ASCII. -/
def Literal.inClass (m : Mode) (lit : Literal) : Except Fault Char :=
  if m.unicode || lit.char.toNat < 0x80 then .ok lit.char
  else if lit.asByte then .error .invalidText
  else .error .unicodeNeeded

/-- Two classes combined. -/
def SetOp.apply : SetOp → CharSet → CharSet → CharSet
  | .inter => CharSet.inter
  | .diff => CharSet.diff
  | .symmDiff => CharSet.symmDiff

mutual

/-- The characters of what stands in a bracketed class. -/
def SetExpr.chars (m : Mode) : SetExpr → Except Fault CharSet
  | .empty => .ok .empty
  | .range lo hi => do return .range (← lo.inClass m) (← hi.inClass m)
  | .shorthand cls negated => m.negate negated (cls.chars m)
  | .ascii cls negated => m.negate negated (m.fold cls.chars)
  | .property query negated => query.chars m negated
  | .bracket negated body => do m.negate negated (m.fold (← body.chars m))
  | .union parts => SetExpr.charsAll m parts
  | .op kind left right => do
    let l ← left.chars m
    let r ← right.chars m
    return kind.apply (m.fold l) (m.fold r)

/-- The characters of any of several parts. -/
def SetExpr.charsAll (m : Mode) : List SetExpr → Except Fault CharSet
  | [] => .ok .empty
  | a :: rest => do return (← a.chars m).union (← SetExpr.charsAll m rest)

end

/-- The characters that a dot matches. -/
def dotChars (m : Mode) : Except Fault CharSet :=
  if !m.unicode then .error .invalidText
  else if m.dotAll then .ok .all
  else if m.crlf then .ok (CharSet.ofList ['\r', '\n']).compl
  else .ok (CharSet.singleton '\n').compl

end ItemFlow.Pattern
