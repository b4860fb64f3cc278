import ItemFlow.Error
import ItemFlow.Item
import ItemFlow.Text.Blank

/-!
# Items as lines of text

A text of items has one JSON value per line; blank lines do not count. Writing items gives one line
per item without a line end after the last.
-/

namespace ItemFlow.JsonLines

/-- Whether a line has nothing but white space. -/
def isBlankLine (line : List Char) : Bool := line.all Text.isBlank

/-- The item that a line spells. -/
def readLine (line : List Char) : Except Error Item :=
  match Json.parseChars line with
  | .ok v => .ok (Item.ofJson v)
  | .error e => .error (.json (.malformed e))

/-- The items of a text, or the error of the first line that spells none. -/
def read (text : String) : Except Error (List Item) :=
  ((Text.lines text.toList).filter fun line => !isBlankLine line).mapM readLine

/-- The text of items. -/
def render (items : List Item) : String := "\n".intercalate (items.map Item.render)

end ItemFlow.JsonLines
