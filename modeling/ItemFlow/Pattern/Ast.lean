/-!
# The form of a pattern

A pattern as it is written: literals, classes, anchors, groups, repetitions and inline flags. What a
part means depends on the flags in force where it stands, so flags are part of the tree.
-/

namespace ItemFlow.Pattern

/-- Why a text is no pattern. How large its program would be is not among the reasons. -/
inductive Fault where
  /-- A group without its closing parenthesis. -/
  | groupUnclosed
  /-- A closing parenthesis without its group. -/
  | groupUnopened
  /-- A group name that is empty, unfinished or has a character that names cannot have. -/
  | groupName
  /-- A group name that another group has. -/
  | groupNameTaken
  /-- A group that would look around without matching. -/
  | lookAround
  /-- A flag that there is not. -/
  | flagUnknown
  /-- A flag or its negation given twice. -/
  | flagRepeated
  /-- A negation without a flag, or flags without an end. -/
  | flagUnfinished
  /-- A repetition with nothing to repeat. -/
  | repetitionMissing
  /-- A counted repetition without its closing brace. -/
  | repetitionUnclosed
  /-- A count that is missing or too large. -/
  | repetitionCount
  /-- A repetition whose greatest count is below its least. -/
  | repetitionRange
  /-- An escape that the pattern's end cuts off. -/
  | escapeUnfinished
  /-- An escape that there is not. -/
  | escapeUnknown
  /-- A reference to what a group matched. -/
  | backReference
  /-- A character code that is malformed or no character. -/
  | characterCode
  /-- A word boundary that there is not. -/
  | boundaryUnknown
  /-- A class without its closing bracket. -/
  | classUnclosed
  /-- A range whose ends are in the wrong order or no characters. -/
  | classRange
  /-- An escape that cannot stand in a class. -/
  | classEscape
  /-- A property of characters that there is not. -/
  | propertyUnknown
  /-- A part that nests too deep. -/
  | nesting
  /-- A part that needs the Unicode flag. -/
  | unicodeNeeded
  /-- A part that would match bytes that are no text. -/
  | invalidText
deriving DecidableEq, Repr

/-- A flag that a pattern can set or clear for a part of itself. -/
inductive Flag where
  /-- Letter case does not count. -/
  | ignoreCase
  /-- Line anchors match at every line. -/
  | multiLine
  /-- The dot matches line ends too. -/
  | dotAll
  /-- Repetitions are lazy unless marked. -/
  | swapGreed
  /-- Classes and case are those of Unicode. -/
  | unicode
  /-- A carriage return and a line feed end a line, together or alone. -/
  | crlf
  /-- Blanks and comments in the pattern do not count. -/
  | verbose
deriving DecidableEq, Repr

/-- Setting or clearing a flag. -/
structure FlagChange where
  /-- The flag. -/
  flag : Flag
  /-- Whether it is set. -/
  on : Bool
deriving DecidableEq, Repr

/-- A class with a letter of its own. -/
inductive Shorthand where
  /-- Decimal digits. -/
  | digit
  /-- White space. -/
  | space
  /-- Word characters. -/
  | word
deriving DecidableEq, Repr

/-- A class of ASCII characters with a name between `[:` and `:]`. -/
inductive AsciiClass where
  | alnum | alpha | ascii | blank | cntrl | digit | graph | lower | print | punct | space | upper
  | word | xdigit
deriving DecidableEq, Repr

/-- A question for characters with a property. -/
inductive PropertyQuery where
  /-- A property, category or script by its name. -/
  | name (name : List Char)
  /-- A value of a property. -/
  | value (property value : List Char)
deriving DecidableEq, Repr

/-- A character of the pattern that stands for itself. -/
structure Literal where
  /-- The character. -/
  char : Char
  /-- Whether it is spelled as a byte, by two hexadecimal digits. -/
  asByte : Bool := false
deriving DecidableEq, Repr

/-- An operation on two classes. -/
inductive SetOp where
  /-- Members of both. -/
  | inter
  /-- Members of the first that are not in the second. -/
  | diff
  /-- Members of exactly one. -/
  | symmDiff
deriving DecidableEq, Repr

/-- What stands in a bracketed class. -/
inductive SetExpr where
  /-- Nothing. -/
  | empty
  /-- The characters between two, which may be the same. -/
  | range (lo hi : Literal)
  /-- A class with a letter. -/
  | shorthand (cls : Shorthand) (negated : Bool)
  /-- A named class of ASCII characters. -/
  | ascii (cls : AsciiClass) (negated : Bool)
  /-- The characters with a property. -/
  | property (query : PropertyQuery) (negated : Bool)
  /-- A class in brackets of its own. -/
  | bracket (negated : Bool) (body : SetExpr)
  /-- The members of any of several classes. -/
  | union (parts : List SetExpr)
  /-- Two classes combined. -/
  | op (op : SetOp) (left right : SetExpr)
deriving Inhabited, Repr

/-- A condition on a place in the text. -/
inductive Anchor where
  /-- Where a line starts. -/
  | lineStart
  /-- Where a line ends. -/
  | lineEnd
  /-- Where the text starts. -/
  | textStart
  /-- Where the text ends. -/
  | textEnd
  /-- Between a word character and another. -/
  | boundary
  /-- Where there is no boundary. -/
  | notBoundary
  /-- Where a word starts. -/
  | wordStart
  /-- Where a word ends. -/
  | wordEnd
  /-- Where no word character stands before. -/
  | wordStartHalf
  /-- Where no word character stands after. -/
  | wordEndHalf
deriving DecidableEq, Repr

/-- A pattern as it is written. -/
inductive Ast where
  /-- Nothing. -/
  | empty
  /-- A change of flags for what follows in the same group. -/
  | flags (changes : List FlagChange)
  /-- One character. -/
  | literal (lit : Literal)
  /-- Any character, as far as the flags allow. -/
  | dot
  /-- A condition on the place. -/
  | anchor (a : Anchor)
  /-- A class with a letter. -/
  | shorthand (cls : Shorthand) (negated : Bool)
  /-- The characters with a property. -/
  | property (query : PropertyQuery) (negated : Bool)
  /-- A class in brackets. -/
  | bracket (negated : Bool) (body : SetExpr)
  /-- A part repeated from `min` to `max` times. -/
  | times (min : Nat) (max : Option Nat) (greedy : Bool) (part : Ast)
  /-- A group: its number if it captures, the flags that hold in it, and its content. -/
  | group (index : Option Nat) (changes : List FlagChange) (part : Ast)
  /-- One of several parts, the earlier ones preferred. -/
  | alt (parts : List Ast)
  /-- Several parts in a row. -/
  | concat (parts : List Ast)
deriving Inhabited, Repr

/-- How deep the parts of a pattern may nest. -/
def nestLimit : Nat := 250

mutual

/-- How deep a class nests. -/
def SetExpr.depth : SetExpr → Nat
  | .bracket _ body => 1 + body.depth
  | .union parts => 1 + SetExpr.depthAll parts
  | .op _ l r => 1 + max l.depth r.depth
  | _ => 0

/-- How deep the deepest of several classes nests. -/
def SetExpr.depthAll : List SetExpr → Nat
  | [] => 0
  | a :: rest => max a.depth (SetExpr.depthAll rest)

end

mutual

/-- How deep a pattern nests. -/
def Ast.depth : Ast → Nat
  | .bracket _ body => 1 + body.depth
  | .times _ _ _ part => 1 + part.depth
  | .group _ _ part => 1 + part.depth
  | .alt parts => 1 + Ast.depthAll parts
  | .concat parts => 1 + Ast.depthAll parts
  | _ => 0

/-- How deep the deepest of several patterns nests. -/
def Ast.depthAll : List Ast → Nat
  | [] => 0
  | a :: rest => max a.depth (Ast.depthAll rest)

end

/-- Parts in a row, as one pattern. -/
def Ast.ofConcat : List Ast → Ast
  | [] => .empty
  | [a] => a
  | l => .concat l

/-- Alternatives, as one pattern. -/
def Ast.ofAlt : List Ast → Ast
  | [a] => a
  | l => .alt l

/-- Parts of a class, as one class. -/
def SetExpr.ofUnion : List SetExpr → SetExpr
  | [] => .empty
  | [a] => a
  | l => .union l

end ItemFlow.Pattern
