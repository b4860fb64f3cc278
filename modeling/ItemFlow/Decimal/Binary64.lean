/-!
# Finite 64-bit binary numbers

`Binary64` holds the finite numbers of the 64-bit binary format, each in its one normal form, and
rounds exact ratios into it: to nearest, a tie to the even significand. Everything is exact
arithmetic on `Nat` and `Int`; a ratio beyond the largest finite number has no image.
-/

namespace ItemFlow

/-- A finite number of the 64-bit binary format: `± significand · 2 ^ exponent`. The significand
fills its 53 bits unless the exponent is the least one, so a magnitude has one spelling. -/
structure Binary64 where
  /-- Whether the sign bit is set; zero has both signs. -/
  negative : Bool
  /-- The integer significand. -/
  significand : Nat
  /-- The power of two that scales it. -/
  exponent : Int
  normal : significand < 0x20000000000000 ∧ -1074 ≤ exponent ∧ exponent ≤ 971 ∧
    (exponent = -1074 ∨ 0x10000000000000 ≤ significand)
deriving DecidableEq, Repr

/-- The quotient `num / den` rounded to an integer, a half going to the even neighbour. -/
def divHalfEven (num den : Nat) : Nat :=
  let q := num / den
  let r := num % den
  if 2 * r < den then q
  else if den < 2 * r then q + 1
  else if q % 2 = 0 then q else q + 1

namespace Binary64

/-- Zero with the given sign. -/
def zero (negative : Bool) : Binary64 := ⟨negative, 0, -1074, by decide⟩

/-- The number with these parts, if they are in normal form. -/
def ofParts? (negative : Bool) (significand : Nat) (exponent : Int) : Option Binary64 :=
  if h : significand < 0x20000000000000 ∧ -1074 ≤ exponent ∧ exponent ≤ 971 ∧
      (exponent = -1074 ∨ 0x10000000000000 ≤ significand) then
    some ⟨negative, significand, exponent, h⟩
  else none

/-- Whether the number is zero, of either sign. -/
def isZero (x : Binary64) : Bool := x.significand == 0

/-- The number with the other sign. -/
def neg (x : Binary64) : Binary64 := { x with negative := !x.negative }

/-- Numeric equality: the two zeros are equal. -/
def same (x y : Binary64) : Bool := x == y || (x.isZero && y.isZero)

/-- The magnitude as a ratio of natural numbers. -/
def ratio (x : Binary64) : Nat × Nat :=
  (x.significand * Nat.pow 2 x.exponent.toNat, Nat.pow 2 (-x.exponent).toNat)

/-- The ratio `num / den` divided by `2 ^ e`. -/
def scaleDown (num den : Nat) (e : Int) : Nat × Nat :=
  (num * Nat.pow 2 (-e).toNat, den * Nat.pow 2 e.toNat)

/-- The power of two by which `num / den` is scaled to a significand of 53 bits, or the least
exponent where that many bits are not to be had. -/
def scaleOf (num den : Nat) : Int :=
  let guess : Int := (num.log2 : Int) - den.log2 - 52
  let (n, d) := scaleDown num den guess
  max (-1074) (if n / d < 0x10000000000000 then guess - 1 else guess)

/-- The number nearest to `± num / den`, a tie going to the even significand. `none` when the
magnitude rounds past the largest finite number. -/
def ofRatio? (negative : Bool) (num den : Nat) : Option Binary64 :=
  if num = 0 then some (zero negative)
  else
    let e := scaleOf num den
    let (n, d) := scaleDown num den e
    let m := divHalfEven n d
    if m = 0x20000000000000 then ofParts? negative 0x10000000000000 (e + 1)
    else ofParts? negative m e

/-- The number nearest to a natural number. -/
def ofNat? (n : Nat) : Option Binary64 := ofRatio? false n 1

/-- The number nearest to `± digits · 10 ^ exponent`. Exponents that decide the answer alone are
settled before any power is taken. -/
def ofDecimal? (negative : Bool) (digits : Nat) (exponent : Int) : Option Binary64 :=
  if digits = 0 then some (zero negative)
  else
    let lead : Int := (digits.log2 : Int) / 4 + exponent
    if 400 < lead then none
    else if exponent + digits.log2 < -400 then some (zero negative)
    else ofRatio? negative (digits * Nat.pow 10 exponent.toNat) (Nat.pow 10 (-exponent).toNat)

/-- The rounded product. -/
def mul? (x y : Binary64) : Option Binary64 :=
  ofRatio? (x.negative != y.negative) (x.ratio.1 * y.ratio.1) (x.ratio.2 * y.ratio.2)

/-- The rounded quotient, for a divisor that is not zero. -/
def div? (x y : Binary64) : Option Binary64 :=
  ofRatio? (x.negative != y.negative) (x.ratio.1 * y.ratio.2) (x.ratio.2 * y.ratio.1)

example : ofDecimal? false 1 (-1) = ofParts? false 0x1999999999999a (-56) := by decide

end Binary64

end ItemFlow
