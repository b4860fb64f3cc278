import ItemFlow.Pattern.Ast
import ItemFlow.Text.Blank
import ItemFlow.Unicode.Latest

/-!
# Reading patterns

`Pattern.parse` turns a text into its tree or says what is wrong with it. A reader is a function
from a cursor to a result and the cursor after it; the loops go on only while the text ahead of the
cursor gets shorter.
-/

namespace ItemFlow.Pattern

/-- Where reading stands: the text ahead, whether blanks and comments count, and the groups so
far. -/
structure Cursor where
  /-- The text ahead. -/
  rest : List Char
  /-- Whether blanks and comments are passed over. -/
  verbose : Bool := false
  /-- The number of capturing groups opened. -/
  groups : Nat := 0
  /-- The names given to groups, with their numbers. -/
  names : List (String × Nat) := []
deriving Repr

/-- The text after blanks and comments; a comment runs from `#` to the end of its line. -/
def dropFiller (inComment : Bool) : List Char → List Char
  | [] => []
  | c :: rest =>
    if inComment then dropFiller (c != '\n') rest
    else if c == '#' then dropFiller true rest
    else if Text.isBlank c then dropFiller false rest
    else c :: rest

/-- The characters at the front that satisfy `p`, and the text after them; blanks and comments
between them are left out if `verbose` is set. -/
def spanSpaced (verbose : Bool) (p : Char → Bool) (inComment : Bool) :
    List Char → List Char × List Char
  | [] => ([], [])
  | c :: rest =>
    if inComment then spanSpaced verbose p (c != '\n') rest
    else if verbose && c == '#' then spanSpaced verbose p true rest
    else if verbose && Text.isBlank c then spanSpaced verbose p false rest
    else if p c then
      let (taken, left) := spanSpaced verbose p false rest
      (c :: taken, left)
    else ([], c :: rest)

namespace Cursor

/-- Passes over blanks and comments where they do not count. -/
def skip (c : Cursor) : Cursor :=
  if c.verbose then { c with rest := dropFiller false c.rest } else c

/-- Passes over one character. -/
def bump (c : Cursor) : Cursor := { c with rest := c.rest.tail }

/-- Passes over one character and what does not count after it. -/
def bumpSkip (c : Cursor) : Cursor := c.bump.skip

/-- Takes the characters at the front that satisfy `p`. -/
def takeWhile (c : Cursor) (p : Char → Bool) : List Char × Cursor :=
  let (taken, left) := spanSpaced c.verbose p false c.rest
  (taken, { c with rest := left })

/-- Passes over white space, whether it counts or not. -/
def skipBlanks (c : Cursor) : Cursor :=
  { c with rest := c.rest.dropWhile Text.isBlank }

end Cursor

/-! ## Counts and codes -/

/-- The value of digits. -/
def countOf (l : List Char) : Nat := l.foldl (fun n c => 10 * n + (c.toNat - '0'.toNat)) 0

/-- A count, with white space around it; `none` if there are no digits. -/
def count (c : Cursor) : Except Fault (Option Nat × Cursor) :=
  let (ds, c) := c.skipBlanks.takeWhile Char.isDigit
  let c := c.skipBlanks.skip
  if ds.isEmpty then .ok (none, c)
  else if countOf ds < 0x100000000 then .ok (some (countOf ds), c)
  else .error .repetitionCount

/-- Whether a character is a hexadecimal digit of either case. -/
def isHex (c : Char) : Bool := (CharSet.hexDigit? c).isSome

/-- The character with the code that hexadecimal digits spell. -/
def charOfHex (digits : List Char) : Except Fault Char :=
  let n := CharSet.readHex digits
  if !digits.isEmpty && n.isValidChar then .ok (Char.ofNat n) else .error .characterCode

/-- A number of hexadecimal digits. -/
def hexDigits : Nat → Cursor → Except Fault (List Char × Cursor)
  | 0, c => .ok ([], c)
  | n + 1, c =>
    match c.rest with
    | [] => .error .escapeUnfinished
    | d :: _ =>
      if isHex d then do
        let (ds, c') ← hexDigits n c.bumpSkip
        return (d :: ds, c')
      else .error .characterCode

/-- A character by its code, after the letter that says how many digits there are: that many, or any
number between braces. -/
def charCode (digits : Nat) (c : Cursor) : Except Fault (Literal × Cursor) :=
  match c.rest with
  | [] => .error .escapeUnfinished
  | '\x7b' :: _ => do
    let (ds, c) := c.bumpSkip.takeWhile (· != '\x7d')
    if c.rest.isEmpty then throw .escapeUnfinished
    if !ds.all isHex then throw .characterCode
    return (⟨← charOfHex ds, false⟩, c.bumpSkip)
  | _ => do
    let (ds, c) ← hexDigits digits c
    return (⟨← charOfHex ds, digits == 2⟩, c)

/-! ## Escapes -/

/-- The characters with a meaning of their own in a pattern. -/
def isMeta (c : Char) : Bool := "\\.+*?()|[]\x7b\x7d^$#&-~".toList.contains c

/-- Whether a backslash before a character makes it stand for itself. -/
def isEscapable (c : Char) : Bool :=
  isMeta c || (c.toNat < 0x80 && !c.isAlphanum && c != '<' && c != '>')

/-- What stands before the first place where `p` holds of the text ahead, and what is there. -/
def splitAtFirst (p : List Char → Bool) : List Char → Option (List Char × List Char)
  | [] => none
  | c :: rest =>
    if p (c :: rest) then some ([], c :: rest)
    else (splitAtFirst p rest).map fun (a, b) => (c :: a, b)

/-- The question that the text between braces asks, and whether for its opposite: a name, or a
property and its value after a colon, an equals sign or, for the opposite, `!=`. -/
def queryOf (text : List Char) : PropertyQuery × Bool :=
  match splitAtFirst (fun l => l.take 2 == ['!', '=']) text with
  | some (a, b) => (.value a (b.drop 2), true)
  | none =>
    match splitAtFirst (fun l => l.head? == some ':') text with
    | some (a, b) => (.value a (b.drop 1), false)
    | none =>
      match splitAtFirst (fun l => l.head? == some '=') text with
      | some (a, b) => (.value a (b.drop 1), false)
      | none => (.name text, false)

/-- A property and whether its opposite is meant, after the letter before it. A capital letter and
`!=` each turn the question round. -/
def property (capital : Bool) (c : Cursor) : Except Fault ((PropertyQuery × Bool) × Cursor) :=
  match c.rest with
  | [] => .error .escapeUnfinished
  | '\x7b' :: _ =>
    let (text, c) := c.bumpSkip.takeWhile (· != '\x7d')
    if c.rest.isEmpty then .error .escapeUnfinished
    else
      let (query, opposite) := queryOf text
      .ok ((query, capital != opposite), c.bump)
  | '\\' :: _ => .error .propertyUnknown
  | x :: _ => .ok ((.name [x], capital), c.bumpSkip)

/-- Whether a character can stand in the name of a word boundary. -/
def isBoundaryChar (c : Char) : Bool := c.isAlpha || c == '-'

/-- The word boundary that a name between braces gives. -/
def boundaryOf (name : List Char) : Except Fault Anchor :=
  if name == "start".toList then .ok .wordStart
  else if name == "end".toList then .ok .wordEnd
  else if name == "start-half".toList then .ok .wordStartHalf
  else if name == "end-half".toList then .ok .wordEndHalf
  else .error .boundaryUnknown

/-- A word boundary after its letter: a plain one, or one with a name between braces. Braces that
hold no name are left for a counted repetition. -/
def boundary (c : Cursor) : Except Fault (Anchor × Cursor) :=
  match c.rest with
  | '\x7b' :: _ =>
    let inside := c.bumpSkip
    match inside.rest with
    | [] => .error .boundaryUnknown
    | x :: _ =>
      if isBoundaryChar x then do
        let (name, after) := inside.takeWhile isBoundaryChar
        if after.rest.head? != some '\x7d' then throw .boundaryUnknown
        return (← boundaryOf name, after.bump)
      else .ok (.boundary, c)
  | _ => .ok (.boundary, c)

/-- The class that a letter stands for. -/
def shorthandOf? (c : Char) : Option (Shorthand × Bool) :=
  match c with
  | 'd' => some (.digit, false)
  | 'D' => some (.digit, true)
  | 's' => some (.space, false)
  | 'S' => some (.space, true)
  | 'w' => some (.word, false)
  | 'W' => some (.word, true)
  | _ => none

/-- The character that an escaped letter stands for. -/
def controlOf? (c : Char) : Option Char :=
  match c with
  | 'a' => some '\x07'
  | 'f' => some '\x0c'
  | 't' => some '\t'
  | 'n' => some '\n'
  | 'r' => some '\r'
  | 'v' => some '\x0b'
  | _ => none

/-- The anchor that an escaped character stands for, word boundaries apart. -/
def anchorOf? (c : Char) : Option Anchor :=
  match c with
  | 'A' => some .textStart
  | 'z' => some .textEnd
  | 'B' => some .notBoundary
  | '<' => some .wordStart
  | '>' => some .wordEnd
  | _ => none

/-- The number of digits of a character code, by the letter before it. -/
def codeDigits? (c : Char) : Option Nat :=
  match c with
  | 'x' => some 2
  | 'u' => some 4
  | 'U' => some 8
  | _ => none

/-- An escape, from its backslash. -/
def escape (c : Cursor) : Except Fault (Ast × Cursor) :=
  let c := c.bump
  match c.rest with
  | [] => .error .escapeUnfinished
  | x :: _ =>
    if x.isDigit then .error .backReference
    else match codeDigits? x with
    | some n => do
      let (lit, c) ← charCode n c.bumpSkip
      return (.literal lit, c)
    | none =>
      if x = 'p' ∨ x = 'P' then do
        let ((query, negated), c) ← property (x == 'P') c.bumpSkip
        return (.property query negated, c)
      else match shorthandOf? x with
      | some (cls, negated) => .ok (.shorthand cls negated, c.bump)
      | none =>
        if isEscapable x then .ok (.literal ⟨x, false⟩, c.bump)
        else match controlOf? x, anchorOf? x with
        | some y, _ => .ok (.literal ⟨y, false⟩, c.bump)
        | none, some a => .ok (.anchor a, c.bump)
        | none, none =>
          if x = 'b' then do
            let (a, c) ← boundary c.bump
            return (.anchor a, c)
          else .error .escapeUnknown

/-! ## Classes -/

/-- The ASCII class with a name. -/
def asciiClassOf? (name : List Char) : Option AsciiClass :=
  ([("alnum", .alnum), ("alpha", .alpha), ("ascii", .ascii), ("blank", .blank), ("cntrl", .cntrl),
    ("digit", .digit), ("graph", .graph), ("lower", .lower), ("print", .print), ("punct", .punct),
    ("space", .space), ("upper", .upper), ("word", .word), ("xdigit", .xdigit)]
    : List (String × AsciiClass)).lookup (String.ofList name)

/-- A named class of ASCII characters from its opening bracket, if one stands there. -/
def asciiClass? (c : Cursor) : Option (SetExpr × Cursor) :=
  match c.rest with
  | '[' :: ':' :: rest =>
    let (negated, rest) := match rest with
      | '^' :: r => (true, r)
      | r => (false, r)
    let name := rest.takeWhile (· != ':')
    match rest.dropWhile (· != ':') with
    | ':' :: ']' :: after =>
      (asciiClassOf? name).map fun cls => (.ascii cls negated, { c with rest := after })
    | _ => none
  | _ => none

/-- What stands at one place of a class: an escape, or any character for itself. -/
def classAtom (c : Cursor) : Except Fault (Ast × Cursor) :=
  match c.rest with
  | [] => .error .classUnclosed
  | '\\' :: _ => escape c
  | x :: _ => .ok (.literal ⟨x, false⟩, c.bump)

/-- An escape as a member of a class, if it is one of characters. -/
def memberOf : Ast → Except Fault SetExpr
  | .literal lit => .ok (.range lit lit)
  | .shorthand cls negated => .ok (.shorthand cls negated)
  | .property query negated => .ok (.property query negated)
  | _ => .error .classEscape

/-- An end of a range, which is one character. -/
def endOf : Ast → Except Fault Literal
  | .literal lit => .ok lit
  | _ => .error .classRange

/-- The character after a hyphen that decides whether it makes a range: the next one, or in verbose
patterns the next after white space, one `#` and white space again. A comment is so looked into. -/
def afterHyphen? (c : Cursor) : Option Char :=
  if c.verbose then
    match c.skipBlanks.rest with
    | '#' :: rest => (rest.dropWhile Text.isBlank).head?
    | rest => rest.head?
  else c.rest.head?

/-- A member of a class, or a range of them. A hyphen before the closing bracket or before another
hyphen makes no range. -/
def classRange (c : Cursor) : Except Fault (SetExpr × Cursor) := do
  let (first, c) ← classAtom c
  let c := c.skip
  match c.rest with
  | [] => throw .classUnclosed
  | '-' :: _ =>
    let decisive := afterHyphen? c.bump
    if decisive == some ']' || decisive == some '-' then return (← memberOf first, c)
    let c := c.bumpSkip
    let (second, c) ← classAtom c
    let lo ← endOf first
    let hi ← endOf second
    if hi.char.toNat < lo.char.toNat then throw .classRange
    return (.range lo hi, c)
  | _ => return (← memberOf first, c)

/-- The operation between classes that two characters stand for. -/
def setOpOf? : List Char → Option SetOp
  | '&' :: '&' :: _ => some .inter
  | '-' :: '-' :: _ => some .diff
  | '~' :: '~' :: _ => some .symmDiff
  | _ => none

/-- The hyphens at the front of a class, as its members. -/
def hyphens (c : Cursor) : List Char → Nat → Nat × Cursor
  | [], n => (n, c)
  | _ :: fuel, n =>
    match c.rest with
    | '-' :: _ => hyphens c.bumpSkip fuel (n + 1)
    | _ => (n, c)

/-- The front of a bracketed class from its opening bracket: whether it is negated, and the
characters that stand for themselves only there. -/
def classOpen (c : Cursor) : Except Fault ((Bool × List SetExpr) × Cursor) := do
  let c := c.bumpSkip
  let (negated, c) := match c.rest with
    | '^' :: _ => (true, c.bumpSkip)
    | _ => (false, c)
  let (n, c) := hyphens c c.rest 0
  let dash : SetExpr := .range ⟨'-', false⟩ ⟨'-', false⟩
  let (members, c) := match n, c.rest with
    | 0, ']' :: _ => ([SetExpr.range ⟨']', false⟩ ⟨']', false⟩], c.bumpSkip)
    | n, _ => (List.replicate n dash, c)
  if c.rest.isEmpty then throw .classUnclosed
  return ((negated, members), c)

/-- The class that its parts so far make with the operation before them, if there is one. -/
def closeSet (left : Option (SetOp × SetExpr)) (members : List SetExpr) : SetExpr :=
  let right := SetExpr.ofUnion members.reverse
  match left with
  | none => right
  | some (op, l) => .op op l right

/-- The body of a bracketed class up to and with its closing bracket. The members read since the
last operation are held in reverse; `budget` bounds the nesting. -/
def classBody (budget : Nat) (c : Cursor) (left : Option (SetOp × SetExpr))
    (members : List SetExpr) : Except Fault (SetExpr × Cursor) :=
  let ahead := c.skip
  match ahead.rest with
  | [] => .error .classUnclosed
  | ']' :: _ => .ok (closeSet left members, ahead.bump)
  | x :: _ =>
    let next : Except Fault ((Option (SetOp × SetExpr) × List SetExpr) × Cursor) :=
      if x = '[' then
        match asciiClass? ahead with
        | some (cls, after) => .ok ((left, cls :: members), after)
        | none =>
          match budget with
          | 0 => .error .nesting
          | budget + 1 => do
            let ((negated, front), inside) ← classOpen ahead
            let (body, after) ← classBody budget inside none front.reverse
            return ((left, .bracket negated body :: members), after)
      else match setOpOf? ahead.rest with
        | some op => .ok ((some (op, closeSet left members), []), ahead.bump.bump)
        | none => do
          let (member, after) ← classRange ahead
          return ((left, member :: members), after)
    match next with
    | .error e => .error e
    | .ok ((left, members), after) =>
      if after.rest.length < c.rest.length then classBody budget after left members
      else .error .classUnclosed
termination_by (budget, c.rest.length)

/-- A bracketed class from its opening bracket. -/
def classExpr (c : Cursor) : Except Fault (Ast × Cursor) := do
  let ((negated, front), inside) ← classOpen c
  let (body, after) ← classBody nestLimit inside none front.reverse
  return (.bracket negated body, after)

/-! ## Groups -/

/-- The flag with a letter. -/
def flagOf? (c : Char) : Option Flag :=
  match c with
  | 'i' => some .ignoreCase
  | 'm' => some .multiLine
  | 's' => some .dotAll
  | 'U' => some .swapGreed
  | 'u' => some .unicode
  | 'R' => some .crlf
  | 'x' => some .verbose
  | _ => none

/-- Flags up to a colon or a closing parenthesis, which is left ahead. After a hyphen they are
cleared; a flag is given once at most, and so is the hyphen. -/
def flagsFrom (on : Bool) (changes : List FlagChange) :
    List Char → Except Fault (List FlagChange × List Char)
  | [] => .error .flagUnfinished
  | c :: rest =>
    if c = ':' ∨ c = ')' then .ok (changes.reverse, c :: rest)
    else if c = '-' then
      if !on then .error .flagRepeated
      else match rest with
        | ':' :: _ | ')' :: _ => .error .flagUnfinished
        | _ => flagsFrom false changes rest
    else match flagOf? c with
      | none => .error .flagUnknown
      | some f =>
        if changes.any (·.flag == f) then .error .flagRepeated
        else flagsFrom on (⟨f, on⟩ :: changes) rest

/-- Whether a character can stand in the name of a group. -/
def isNameChar (first : Bool) (c : Char) : Bool :=
  c == '_' || Latest.isAlphabetic c ||
    (!first && (c == '.' || c == '[' || c == ']' || Latest.numeric.contains c))

/-- A group's name up to and with the angle bracket that ends it. -/
def groupName (c : Cursor) : Except Fault (String × Cursor) :=
  let name := c.rest.takeWhile (· != '>')
  match name, c.rest.dropWhile (· != '>') with
  | first :: others, '>' :: after =>
    let text := String.ofList name
    if !(isNameChar true first && others.all (isNameChar false)) then .error .groupName
    else if (c.names.lookup text).isSome then .error .groupNameTaken
    else .ok (text, { c with rest := after })
  | _, _ => .error .groupName

/-- What an opening parenthesis starts: a group, or a change of flags that is complete with its
closing parenthesis. -/
inductive Opening where
  /-- A group with its number, if it captures, and its flags. -/
  | group (index : Option Nat) (changes : List FlagChange)
  /-- A change of flags. -/
  | flags (changes : List FlagChange)

/-- The front of a group that captures, with or without a name. -/
def openCapture (named : Bool) (c : Cursor) : Except Fault (Opening × Cursor) := do
  let index := c.groups + 1
  let c := { c with groups := index }
  if named then
    let (name, c) ← groupName c
    return (.group (some index) [], { c with names := c.names ++ [(name, index)] })
  else return (.group (some index) [], c)

/-- The front of a group from its opening parenthesis. -/
def openGroup (c : Cursor) : Except Fault (Opening × Cursor) :=
  let c := c.bumpSkip
  match c.rest with
  | '?' :: '=' :: _ | '?' :: '!' :: _ | '?' :: '<' :: '=' :: _ | '?' :: '<' :: '!' :: _ =>
    .error .lookAround
  | '?' :: 'P' :: '<' :: rest => openCapture true { c with rest := rest }
  | '?' :: '<' :: rest => openCapture true { c with rest := rest }
  | '?' :: rest => do
    if rest.isEmpty then throw .groupUnclosed
    let (changes, after) ← flagsFrom true [] rest
    match after with
    | ')' :: after =>
      if changes.isEmpty then throw .repetitionMissing
      return (.flags changes, { c with rest := after })
    | _ => return (.group none changes, { c with rest := after.tail })
  | _ => openCapture false c

/-- What a change of flags makes of the flag for blanks and comments. -/
def verboseAfter (verbose : Bool) (changes : List FlagChange) : Bool :=
  match changes.find? (·.flag == .verbose) with
  | some change => change.on
  | none => verbose

/-! ## Repetitions -/

/-- The part that a repetition repeats: the last one, unless it is a change of flags. -/
def repeated : List Ast → Except Fault (Ast × List Ast)
  | [] => .error .repetitionMissing
  | .empty :: _ => .error .repetitionMissing
  | .flags _ :: _ => .error .repetitionMissing
  | a :: rest => .ok (a, rest)

/-- A question mark that makes a repetition lazy, if one stands ahead. -/
def lazyMark (c : Cursor) : Bool × Cursor :=
  match c.rest with
  | '?' :: _ => (false, c.bump)
  | _ => (true, c)

/-- The bounds of a counted repetition from its opening brace. -/
def bounds (c : Cursor) : Except Fault ((Nat × Option Nat) × Cursor) := do
  let c := c.bumpSkip
  if c.rest.isEmpty then throw .repetitionUnclosed
  let (least, c) ← count c
  match c.rest with
  | ',' :: _ =>
    let c := c.bumpSkip
    match c.rest with
    | [] => throw .repetitionUnclosed
    | '\x7d' :: _ =>
      match least with
      | none => throw .repetitionCount
      | some n => return ((n, none), c)
    | _ =>
      let (greatest, c) ← count c
      match least, greatest with
      | some m, some n => return ((m, some n), c)
      | _, _ => throw .repetitionCount
  | _ =>
    match least with
    | none => throw .repetitionCount
    | some n => return ((n, some n), c)

/-- A counted repetition of a part, from its opening brace. -/
def counted (part : Ast) (c : Cursor) : Except Fault (Ast × Cursor) := do
  let ((least, greatest), c) ← bounds c
  if c.rest.head? != some '\x7d' then throw .repetitionUnclosed
  let (greedy, c) := lazyMark c.bumpSkip
  if greatest.any (· < least) then throw .repetitionRange
  return (.times least greatest greedy part, c)

/-- The bounds of a repetition that is one character. -/
def marked? (c : Char) : Option (Nat × Option Nat) :=
  match c with
  | '?' => some (0, some 1)
  | '*' => some (0, none)
  | '+' => some (1, none)
  | _ => none

/-! ## Patterns -/

/-- A part that is no group, class or repetition. -/
def primitive (x : Char) (c : Cursor) : Except Fault (Ast × Cursor) :=
  match x with
  | '\\' => escape c
  | '.' => .ok (.dot, c.bump)
  | '^' => .ok (.anchor .lineStart, c.bump)
  | '$' => .ok (.anchor .lineEnd, c.bump)
  | x => .ok (.literal ⟨x, false⟩, c.bump)

/-- A pattern up to a closing parenthesis, which is left ahead, or to the end of the text. The
alternatives before the last bar and the parts read since are held in reverse; `budget` bounds the
nesting of groups. -/
def patternFrom (budget : Nat) (c : Cursor) (alts parts : List Ast) : Except Fault (Ast × Cursor) :=
  let ahead := c.skip
  let finish : Except Fault (Ast × Cursor) :=
    .ok (Ast.ofAlt (Ast.ofConcat parts.reverse :: alts).reverse, ahead)
  match ahead.rest with
  | [] => finish
  | ')' :: _ => finish
  | x :: _ =>
    let next : Except Fault ((List Ast × List Ast) × Cursor) :=
      if x = '|' then .ok ((Ast.ofConcat parts.reverse :: alts, []), ahead.bump)
      else if x = '(' then do
        let (opening, inside) ← openGroup ahead
        match opening with
        | .flags changes =>
          return ((alts, .flags changes :: parts),
            { inside with verbose := verboseAfter inside.verbose changes })
        | .group index changes =>
          match budget with
          | 0 => throw .nesting
          | budget + 1 =>
            let inside := { inside with verbose := verboseAfter inside.verbose changes }
            let (body, after) ← patternFrom budget inside [] []
            if after.rest.isEmpty then throw .groupUnclosed
            return ((alts, .group index changes body :: parts),
              { after.bump with verbose := ahead.verbose })
      else if x = '[' then do
        let (cls, after) ← classExpr ahead
        return ((alts, cls :: parts), after)
      else if x = '\x7b' then do
        let (part, others) ← repeated parts
        let (rep, after) ← counted part ahead
        return ((alts, rep :: others), after)
      else match marked? x with
        | some (least, greatest) => do
          let (part, others) ← repeated parts
          let (greedy, after) := lazyMark ahead.bump
          return ((alts, .times least greatest greedy part :: others), after)
        | none => do
          let (part, after) ← primitive x ahead
          return ((alts, part :: parts), after)
    match next with
    | .error e => .error e
    | .ok ((alts, parts), after) =>
      if after.rest.length < c.rest.length then patternFrom budget after alts parts
      else .error .groupUnclosed
termination_by (budget, c.rest.length)

/-- The tree of a pattern, the number of its capturing groups and their names. -/
def parse (text : String) : Except Fault (Ast × Nat × List (String × Nat)) := do
  let (ast, after) ← patternFrom nestLimit { rest := text.toList } [] []
  if !after.rest.isEmpty then throw .groupUnopened
  if nestLimit < ast.depth then throw .nesting
  return (ast, after.groups, after.names)

end ItemFlow.Pattern
