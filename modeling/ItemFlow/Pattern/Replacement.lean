import ItemFlow.Pattern
import ItemFlow.Text.Digits

/-!
# Replacement texts

What takes the place of a match may refer to the match's groups. Users write `$` and a number;
`braced` turns that into the form that `expand` reads, in which a dollar sign always starts a
reference or is doubled.
-/

namespace ItemFlow.Pattern

/-! ## The users' form -/

/-- The form with braces of a text of the users' form: a dollar sign and the digits after it become
a reference in braces, and any other dollar sign is doubled. `digits` holds what follows a dollar
sign so far, in reverse, if the last characters are one and digits after it. -/
def bracedFrom (digits : Option (List Char)) : List Char → List Char
  | [] => closeReference digits
  | c :: rest =>
    match digits with
    | some ds =>
      if c.isDigit then bracedFrom (some (c :: ds)) rest
      else if c = '$' then closeReference digits ++ bracedFrom (some []) rest
      else closeReference digits ++ c :: bracedFrom none rest
    | none => if c = '$' then bracedFrom (some []) rest else c :: bracedFrom none rest
where
  /-- A dollar sign and the digits after it, in the form with braces. -/
  closeReference : Option (List Char) → List Char
    | none => []
    | some [] => ['$', '$']
    | some ds => '$' :: '\x7b' :: ds.reverse ++ ['\x7d']

/-- A replacement text of the users' form in the form that `expand` reads. -/
def braced (text : String) : String := String.ofList (bracedFrom none text.toList)

/-! ## Expansion -/

/-- A reference to a group. -/
inductive GroupRef where
  /-- By number. -/
  | number (n : Nat)
  /-- By name. -/
  | name (name : List Char)
deriving DecidableEq, Repr

/-- The reference that a text makes: a number if it reads as one. -/
def GroupRef.ofText (l : List Char) : GroupRef :=
  match Text.word64? l with
  | some n => .number n
  | none => .name l

/-- Whether a character can stand in a reference without braces. -/
def isRefChar (c : Char) : Bool := c.isAlphanum || c == '_'

/-- A piece of a replacement text. -/
inductive ReplacementPiece where
  /-- A character that stands for itself. -/
  | char (c : Char)
  /-- What a group matched. -/
  | ref (r : GroupRef)
deriving DecidableEq, Repr

/-- The pieces of a replacement text. Two dollar signs are one that stands for itself; a dollar sign
before a name in braces, or before letters, digits and underscores, is a reference; any other
stands for itself. -/
def piecesOf : List Char → List ReplacementPiece
  | [] => []
  | '$' :: '$' :: rest => .char '$' :: piecesOf rest
  | '$' :: '\x7b' :: rest =>
    let name := rest.takeWhile (· != '\x7d')
    match _h : rest.dropWhile (· != '\x7d') with
    | [] => .char '$' :: piecesOf ('\x7b' :: rest)
    | _ :: after => .ref (.ofText name) :: piecesOf after
  | '$' :: rest =>
    let name := rest.takeWhile isRefChar
    if name.isEmpty then .char '$' :: piecesOf rest
    else .ref (.ofText name) :: piecesOf (rest.dropWhile isRefChar)
  | c :: rest => .char c :: piecesOf rest
termination_by l => l.length
decreasing_by
  · simp only [List.length_cons]; omega
  · simp only [List.length_cons]; omega
  · have := (List.dropWhile_suffix (l := rest) (· != '\x7d')).length_le
    rw [_h] at this
    simp only [List.length_cons] at this ⊢
    omega
  · simp only [List.length_cons]; omega
  · have := (List.dropWhile_suffix (l := rest) isRefChar).length_le
    simp only [List.length_cons] at this ⊢
    omega
  · simp only [List.length_cons]; omega

/-- What a group of a match has of the text; nothing if it did not take part. -/
def Match.groupText (m : Match) (text : Array Char) (i : Nat) : List Char :=
  match m.group? i with
  | some (a, b) => (text.extract a b).toList
  | none => []

/-- What a reference stands for in a match of a text. A name that no group has stands for
nothing. -/
def GroupRef.resolve (names : List (String × Nat)) (m : Match) (text : Array Char) :
    GroupRef → List Char
  | .number n => m.groupText text n
  | .name word =>
    match names.lookup (String.ofList word) with
    | some n => m.groupText text n
    | none => []

/-- The text that takes the place of a match. -/
def expand (names : List (String × Nat)) (m : Match) (text : Array Char)
    (pieces : List ReplacementPiece) : List Char :=
  pieces.flatMap fun
    | .char c => [c]
    | .ref r => r.resolve names m text

/-- The text from `pos` on with each of the matches replaced. -/
def replaceFrom (replace : Match → List Char) (text : Array Char) (pos : Nat) :
    List Match → List Char
  | [] => (text.extract pos text.size).toList
  | m :: rest =>
    (text.extract pos m.start).toList ++ replace m ++ replaceFrom replace text m.stop rest

/-- The text with all matches, or only the first, replaced by what a replacement text gives. -/
def replace (p : Pattern) (all : Bool) (replacement text : String) : String :=
  let cs := text.toList.toArray
  let found := if all then p.findAll cs else (p.find? cs).toList
  let pieces := piecesOf replacement.toList
  String.ofList (replaceFrom (fun m => expand p.names m cs pieces) cs 0 found)

end ItemFlow.Pattern
