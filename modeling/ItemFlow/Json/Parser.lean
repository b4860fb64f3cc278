import ItemFlow.Json.Basic

/-!
# Reading JSON text

`Json.parse` reads one value and nothing after it. The grammar is strict: no comments, no commas
before a closing bracket, no leading zeros, no control characters or lone surrogates in strings.
Lists and objects nest at most 127 deep. A text that ends inside a value is told apart from one
that is wrong where it is read.

Each reader returns the rest of its text with a proof of how long that rest can be, so that the
readers end because their text gets shorter.
-/

namespace ItemFlow.Json

/-- Why a text is no JSON value. -/
inductive Malformed where
  /-- The text ends inside a value. -/
  | eof
  /-- The text is wrong at the place that was read. -/
  | syntaxError
deriving DecidableEq, Repr

namespace Parser

/-- A rest of at most `n` characters. -/
abbrev Rest (n : Nat) := { r : List Char // r.length ≤ n }

/-- A rest shorter than `n` characters. -/
abbrev Shorter (n : Nat) := { r : List Char // r.length < n }

/-- The blanks that JSON allows between its tokens. -/
def isBlank (c : Char) : Bool := c == ' ' || c == '\t' || c == '\n' || c == '\r'

/-- The first character that is no blank, and the text after it. -/
def next? : (s : List Char) → Option (Char × Shorter s.length)
  | [] => none
  | c :: s =>
    if isBlank c then (next? s).map fun (d, r) => (d, ⟨r.1, Nat.lt_succ_of_lt r.2⟩)
    else some (c, ⟨s, Nat.lt_succ_self _⟩)

/-- The text after the characters of a word. -/
def word : List Char → (s : List Char) → Except Malformed (Rest s.length)
  | [], s => .ok ⟨s, Nat.le_refl _⟩
  | _ :: _, [] => .error .eof
  | w :: ws, c :: s =>
    if c = w then (word ws s).map fun r => ⟨r.1, Nat.le_succ_of_le r.2⟩ else .error .syntaxError

/-! ## Numbers -/

/-- The value of a decimal digit. -/
def digitValue (c : Char) : Nat := c.toNat - '0'.toNat

/-- Appends digits to a significand as long as it fits 64 bits; returns it with the digits left. -/
def gather (significand : Nat) : List Char → Nat × List Char
  | [] => (significand, [])
  | c :: rest =>
    let next := 10 * significand + digitValue c
    if next < 0x10000000000000000 then gather next rest else (significand, c :: rest)

/-- The binary number `10 ^ k` rounds to. -/
def powerOfTen (k : Nat) : Option Binary64 := Binary64.ofNat? (Nat.pow 10 k)

/-- A number scaled by a power of ten: rounded after the one product or quotient, with steps of 308
below that for exponents that small. `none` when it gets too large. -/
def scale (x : Binary64) (exponent : Int) : Option Binary64 :=
  if exponent.natAbs ≤ 308 then do
    let p ← powerOfTen exponent.natAbs
    if 0 ≤ exponent then x.mul? p else x.div? p
  else if x.isZero then some x
  else if h : 0 ≤ exponent then none
  else do
    let p ← powerOfTen 308
    scale (← x.div? p) (exponent + 308)
termination_by exponent.natAbs
decreasing_by omega

/-- The digits at the front of a text. -/
def digits (s : List Char) : List Char := s.takeWhile Char.isDigit

/-- The text after the digits at its front. -/
def afterDigits (s : List Char) : Rest s.length :=
  ⟨s.dropWhile Char.isDigit, (List.dropWhile_suffix Char.isDigit).length_le⟩

/-- An exponent beyond the range of a 32-bit word. -/
def hugeExponent : Nat := 0x80000000

/-- The value of digits. -/
def natOfDigits (l : List Char) : Nat := l.foldl (fun n c => 10 * n + digitValue c) 0

/-- A binary number from its sign, its significand and its power of ten. -/
def float (negative : Bool) (significand : Nat) (exponent : Int) : Except Malformed Number :=
  match (Binary64.ofNat? significand).bind (scale · exponent) with
  | some x => .ok (.float (if negative then x.neg else x))
  | none => .error .syntaxError

/-- The exponent of a number, after its letter: whether it is negative, and its digits. -/
def exponent (s : List Char) : Except Malformed ((Bool × List Char) × Rest s.length) :=
  let signed : Bool × Rest s.length := match s with
    | '+' :: r => (false, ⟨r, Nat.le_succ _⟩)
    | '-' :: r => (true, ⟨r, Nat.le_succ _⟩)
    | r => (false, ⟨r, Nat.le_refl _⟩)
  let (negative, ⟨r, h⟩) := signed
  if r.isEmpty then .error .eof
  else if r.head?.any Char.isDigit then
    let rest := afterDigits r
    .ok ((negative, digits r), ⟨rest.1, Nat.le_trans rest.2 h⟩)
  else .error .syntaxError

/-- The number that ends with an exponent, which follows here after its letter. -/
def withExponent (negative : Bool) (significand : Nat) (start : Int) (s : List Char) :
    Except Malformed (Number × Rest s.length) := do
  let ((down, ds), rest) ← exponent s
  let e := natOfDigits ds
  if hugeExponent ≤ e then
    if significand ≠ 0 ∧ !down then throw .syntaxError
    return (.float (.zero negative), rest)
  let n ← float negative significand (if down then start - e else start + e)
  return (n, rest)

/-- The number that ends with a fraction and perhaps an exponent; the fraction follows here after
its point. -/
def withFraction (negative : Bool) (significand : Nat) (start : Int) (s : List Char) :
    Except Malformed (Number × Rest s.length) := do
  let ds := digits s
  let ⟨rest, h⟩ := afterDigits s
  if ds.isEmpty then throw (if rest.isEmpty then .eof else .syntaxError)
  let (significand, left) := gather significand ds
  let start := start - (ds.length - left.length : Nat)
  match rest, h with
  | 'e' :: r, h | 'E' :: r, h => do
    let (n, r') ← withExponent negative significand start r
    return (n, ⟨r'.1, by have := r'.2; simp only [List.length_cons] at h; omega⟩)
  | r, h => return (← float negative significand start, ⟨r, h⟩)

/-- A number after its sign. -/
def number (negative : Bool) (s : List Char) : Except Malformed (Number × Shorter s.length) :=
  match s with
  | [] => .error .eof
  | c :: tail =>
    if c.isDigit then do
      if c = '0' ∧ (tail.head?.any Char.isDigit) then throw .syntaxError
      let ⟨rest, h⟩ := afterDigits tail
      let (significand, left) := gather 0 (c :: digits tail)
      match rest, h with
      | '.' :: r, h => do
        let (n, r') ← withFraction negative significand left.length r
        return (n, ⟨r'.1, by have := r'.2; simp only [List.length_cons] at h ⊢; omega⟩)
      | 'e' :: r, h | 'E' :: r, h => do
        let (n, r') ← withExponent negative significand left.length r
        return (n, ⟨r'.1, by have := r'.2; simp only [List.length_cons] at h ⊢; omega⟩)
      | r, h => do
        let whole : Int := if negative then -(significand : Int) else significand
        let n ← match left.isEmpty && !(negative && significand == 0), Number.ofInt? whole with
          | true, some n => pure n
          | _, _ => float negative significand left.length
        return (n, ⟨r, by simp only [List.length_cons]; omega⟩)
    else .error .syntaxError

/-! ## Strings -/

/-- The value of a hexadecimal digit of either case. -/
def hexValue? (c : Char) : Option Nat :=
  if c.isDigit then some (digitValue c)
  else if 'a' ≤ c ∧ c ≤ 'f' then some (c.toNat - 'a'.toNat + 10)
  else if 'A' ≤ c ∧ c ≤ 'F' then some (c.toNat - 'A'.toNat + 10)
  else none

/-- The number that four hexadecimal digits spell. The text counts as ended when fewer than four
bytes are left. -/
def hexFour (s : List Char) : Except Malformed (Nat × Rest s.length) :=
  if (s.take 4).foldl (fun n c => n + c.utf8Size) 0 < 4 then .error .eof
  else match s with
    | a :: b :: c :: d :: rest =>
      match hexValue? a, hexValue? b, hexValue? c, hexValue? d with
      | some a, some b, some c, some d =>
        .ok (((16 * a + b) * 16 + c) * 16 + d, ⟨rest, by simp only [List.length_cons]; omega⟩)
      | _, _, _, _ => .error .syntaxError
    | _ => .error .syntaxError

/-- The character that an escape `\u` stands for, after that letter. Characters beyond 16 bits are
two such escapes, a high surrogate and a low one. -/
def unicodeEscape (s : List Char) : Except Malformed (Char × Rest s.length) := do
  let (high, ⟨rest, h⟩) ← hexFour s
  if 0xdc00 ≤ high ∧ high ≤ 0xdfff then throw .syntaxError
  if high < 0xd800 ∨ 0xdbff < high then return (Char.ofNat high, ⟨rest, h⟩)
  match rest, h with
  | [], _ => throw .eof
  | '\\' :: [], _ => throw .eof
  | '\\' :: 'u' :: r, h => do
    let (low, r') ← hexFour r
    if low < 0xdc00 ∨ 0xdfff < low then throw .syntaxError
    return (Char.ofNat (0x10000 + (high - 0xd800) * 0x400 + (low - 0xdc00)),
      ⟨r'.1, by have := r'.2; simp only [List.length_cons] at h; omega⟩)
  | _, _ => throw .syntaxError

/-- The character that a backslash and a letter stand for, if no code follows the letter. -/
def escaped? (c : Char) : Option Char :=
  if c = '"' ∨ c = '\\' ∨ c = '/' then some c
  else if c = 'b' then some '\x08'
  else if c = 'f' then some '\x0c'
  else if c = 'n' then some '\n'
  else if c = 'r' then some '\r'
  else if c = 't' then some '\t'
  else none

/-- The rest of a string after its characters read so far, which are held in reverse. -/
def stringFrom (n : Nat) (read s : List Char) (h : s.length ≤ n) :
    Except Malformed (String × Rest n) :=
  match hs : s with
  | [] => .error .eof
  | c :: rest =>
    have hr : rest.length ≤ n := by simp only [List.length_cons] at h; omega
    if c = '"' then .ok (String.ofList read.reverse, ⟨rest, hr⟩)
    else if c = '\\' then
      match hrest : rest with
      | [] => .error .eof
      | e :: after =>
        have ha : after.length ≤ n := by simp only [List.length_cons] at hr; omega
        if e = 'u' then
          match unicodeEscape after with
          | .error e => .error e
          | .ok (u, ⟨left, hl⟩) => stringFrom n (u :: read) left (Nat.le_trans hl ha)
        else match escaped? e with
          | some u => stringFrom n (u :: read) after ha
          | none => .error .syntaxError
    else if c.toNat < 0x20 then .error .syntaxError
    else stringFrom n (c :: read) rest hr
termination_by s.length
decreasing_by
  all_goals
    simp only [List.length_cons]
    omega

/-- A string after its opening quote. -/
def string (s : List Char) : Except Malformed (String × Rest s.length) :=
  stringFrom s.length [] s (Nat.le_refl _)

/-! ## Values -/

/-- How deep lists and objects may nest, plus one. -/
def nestingLimit : Nat := 128

mutual

/-- A value, with blanks before it. Lists and objects open only while `budget` exceeds one. -/
def value (budget : Nat) (s : List Char) : Except Malformed (Json × Shorter s.length) :=
  match next? s with
  | none => .error .eof
  | some (c, ⟨r, h⟩) =>
    if c = 'n' then do
      let rest ← word "ull".toList r
      return (.null, ⟨rest.1, Nat.lt_of_le_of_lt rest.2 h⟩)
    else if c = 't' then do
      let rest ← word "rue".toList r
      return (.bool true, ⟨rest.1, Nat.lt_of_le_of_lt rest.2 h⟩)
    else if c = 'f' then do
      let rest ← word "alse".toList r
      return (.bool false, ⟨rest.1, Nat.lt_of_le_of_lt rest.2 h⟩)
    else if c = '-' then do
      let (n, rest) ← number true r
      return (.num n, ⟨rest.1, Nat.lt_trans rest.2 h⟩)
    else if c.isDigit then do
      let (n, rest) ← number false (c :: r)
      return (.num n, ⟨rest.1, Nat.lt_of_lt_of_le rest.2 h⟩)
    else if c = '"' then do
      let (text, rest) ← string r
      return (.str text, ⟨rest.1, Nat.lt_of_le_of_lt rest.2 h⟩)
    else if c = '[' then do
      if budget ≤ 1 then throw .syntaxError
      if let some (']', after) := next? r then
        return (.arr [], ⟨after.1, Nat.lt_trans after.2 h⟩)
      let (l, rest) ← elements (budget - 1) r.length [] r (Nat.le_refl _)
      return (.arr l, ⟨rest.1, Nat.lt_trans rest.2 h⟩)
    else if c = '\x7b' then do
      if budget ≤ 1 then throw .syntaxError
      if let some ('\x7d', after) := next? r then
        return (.obj [], ⟨after.1, Nat.lt_trans after.2 h⟩)
      let (fields, rest) ← members (budget - 1) r.length [] r (Nat.le_refl _)
      return (.obj fields, ⟨rest.1, Nat.lt_trans rest.2 h⟩)
    else .error .syntaxError
termination_by (s.length, 0)
decreasing_by
  all_goals exact Prod.Lex.left _ _ h

/-- The elements of a list from one that must be there, up to the closing bracket; `read` holds
those before it in reverse. -/
def elements (budget n : Nat) (read : List Json) (s : List Char) (hs : s.length ≤ n) :
    Except Malformed (List Json × Shorter n) :=
  match value budget s with
  | .error e => .error e
  | .ok (v, ⟨rest, h⟩) =>
    match next? rest with
    | none => .error .eof
    | some (c, ⟨r, h'⟩) =>
      have hr : r.length < s.length := Nat.lt_trans h' h
      if c = ']' then .ok ((v :: read).reverse, ⟨r, by omega⟩)
      else if c = ',' ∧ (next? r).map (·.1) ≠ some ']' then
        elements budget n (v :: read) r (by omega)
      else .error .syntaxError
termination_by (s.length, 1)
decreasing_by
  · exact Prod.Lex.right _ (by omega)
  · exact Prod.Lex.left _ _ hr

/-- The fields of an object from one that must be there, up to the closing brace; `read` holds those
before it. -/
def members (budget n : Nat) (read : List (String × Json)) (s : List Char) (hs : s.length ≤ n) :
    Except Malformed (List (String × Json) × Shorter n) :=
  match next? s with
  | none => .error .eof
  | some (quote, ⟨r₁, h₁⟩) =>
    if quote ≠ '"' then .error .syntaxError
    else match string r₁ with
    | .error e => .error e
    | .ok (key, ⟨r₂, h₂⟩) =>
      match next? r₂ with
      | none => .error .eof
      | some (colon, ⟨r₃, h₃⟩) =>
        have hv : r₃.length < s.length := by omega
        if colon ≠ ':' then .error .syntaxError
        else match value budget r₃ with
        | .error e => .error e
        | .ok (v, ⟨r₄, h₄⟩) =>
          let fields := Fields.insert key v read
          match next? r₄ with
          | none => .error .eof
          | some (c, ⟨r, h₅⟩) =>
            have hr : r.length < s.length := by omega
            if c = '\x7d' then .ok (fields, ⟨r, by omega⟩)
            else if c = ',' then
              members budget n fields r (by omega)
            else .error .syntaxError
termination_by (s.length, 1)
decreasing_by
  · exact Prod.Lex.left _ _ hv
  · exact Prod.Lex.left _ _ hr

end

end Parser

/-- The value that a text spells, with nothing but blanks around it. -/
def parseChars (s : List Char) : Except Malformed Json := do
  let (v, rest) ← Parser.value Parser.nestingLimit s
  if (Parser.next? rest.1).isNone then return v else throw .syntaxError

/-- The value that a text spells, with nothing but blanks around it. -/
def parse (s : String) : Except Malformed Json := parseChars s.toList

end ItemFlow.Json
