/-!
# Numbers written in digits
-/

namespace ItemFlow.Text

/-- The value of decimal digits. -/
def natOfDigits (l : List Char) : Nat :=
  l.foldl (fun n c => 10 * n + (c.toNat - '0'.toNat)) 0

/-- The number of an unsigned 64-bit word that a text spells: digits, perhaps after a plus sign. -/
def word64? (l : List Char) : Option Nat :=
  let digits := match l with
    | '+' :: rest => rest
    | l => l
  if !digits.isEmpty && digits.all Char.isDigit && natOfDigits digits < 0x10000000000000000 then
    some (natOfDigits digits)
  else none

end ItemFlow.Text
