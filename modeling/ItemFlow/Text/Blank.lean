/-!
# White space and lines

White space is the set of 25 characters that Unicode gives that property. A line ends at a line
feed, and a carriage return just before it belongs to the line end.
-/

namespace ItemFlow.Text

/-- Whether a character is white space. -/
def isBlank (c : Char) : Bool :=
  let n := c.toNat
  (9 ≤ n && n ≤ 13) || n == 0x20 || n == 0x85 || n == 0xa0 || n == 0x1680 ||
    (0x2000 ≤ n && n ≤ 0x200a) || n == 0x2028 || n == 0x2029 || n == 0x202f || n == 0x205f ||
    n == 0x3000

/-- A text without the white space at either end. -/
def trim (l : List Char) : List Char :=
  ((l.dropWhile isBlank).reverse.dropWhile isBlank).reverse

/-- A line without the carriage return that belongs to its end. -/
def dropReturn (l : List Char) : List Char :=
  match l.reverse with
  | '\r' :: rest => rest.reverse
  | _ => l

/-- The lines of a text that follow the characters of a line begun, which is held in reverse. Text
after the last line feed is a line only if there is some, and keeps a carriage return at its end. -/
def linesFrom (begun : List Char) : List Char → List (List Char)
  | [] => if begun.isEmpty then [] else [begun.reverse]
  | '\n' :: rest => dropReturn begun.reverse :: linesFrom [] rest
  | c :: rest => linesFrom (c :: begun) rest

/-- The lines of a text. -/
def lines (l : List Char) : List (List Char) := linesFrom [] l

example : lines "a\r\n\nb\r".toList = [['a'], [], ['b', '\r']] := by decide

end ItemFlow.Text
