import ItemFlow.Decimal.Binary64

/-!
# Shortest decimal text

`Binary64.shortest` finds the decimal with the fewest digits that reads back as a given number, the
nearest one when several have that many digits. `Layout` says how such a decimal is written: which
magnitudes are positional and how an exponent looks.
-/

namespace ItemFlow

/-- A decimal magnitude `digits · 10 ^ exponent`. -/
structure Decimal where
  /-- The digits, as one number. -/
  digits : Nat
  /-- The power of ten that scales them. -/
  exponent : Int
deriving DecidableEq, Repr

/-- The decimal digits of a number, most significant first. -/
def digitsOf (n : Nat) : List Char := Nat.toDigits 10 n

namespace Decimal

/-- The ratio of natural numbers that the decimal stands for. -/
def ratio (d : Decimal) : Nat × Nat :=
  (d.digits * Nat.pow 10 d.exponent.toNat, Nat.pow 10 (-d.exponent).toNat)

/-- The same magnitude without zeros at the end of its digits. -/
def strip (d : Decimal) : Decimal :=
  go (digitsOf d.digits).length d
where
  /-- Drops at most the given number of zeros. -/
  go : Nat → Decimal → Decimal
    | 0, d => d
    | n + 1, d =>
      if d.digits ≠ 0 ∧ d.digits % 10 = 0 then go n ⟨d.digits / 10, d.exponent + 1⟩ else d

end Decimal

/-- How a decimal is laid out in text. -/
structure Decimal.Layout where
  /-- The least power of ten of a leading digit that is written positionally. -/
  positionalFrom : Int
  /-- The least power of ten, above that, of a leading digit that is written with an exponent. -/
  scientificFrom : Option Int
  /-- What separates the digits from the exponent. -/
  mark : String
  /-- What stands before an exponent that is not negative. -/
  plus : String

namespace Decimal

/-- The digits with a point after the first `n` of them, zeros filling either side; a whole number
ends in `.0`. -/
def point (digits : List Char) (n : Int) : String :=
  if n ≤ 0 then
    "0." ++ String.ofList (List.replicate (-n).toNat '0' ++ digits)
  else
    let whole := digits.take n.toNat ++ List.replicate (n.toNat - digits.length) '0'
    let part := digits.drop n.toNat
    String.ofList whole ++ "." ++ (if part.isEmpty then "0" else String.ofList part)

/-- The text of a decimal under a layout. -/
def render (l : Layout) (d : Decimal) : String :=
  let digits := digitsOf d.digits
  let lead : Int := d.exponent + digits.length - 1
  let scientific := l.scientificFrom.any (· ≤ lead)
  if d.digits = 0 then "0.0"
  else if l.positionalFrom ≤ lead ∧ !scientific then point digits (lead + 1)
  else
    let mantissa := match digits with
      | [] => ""
      | [c] => String.ofList [c]
      | c :: rest => String.ofList (c :: '.' :: rest)
    let sign := if lead < 0 then "-" else l.plus
    mantissa ++ l.mark ++ sign ++ String.ofList (digitsOf lead.natAbs)

end Decimal

namespace Binary64

/-- The power of ten just above a positive ratio: `10 ^ (k - 1) ≤ num / den < 10 ^ k`. -/
def decade (num den : Nat) : Int :=
  if den ≤ num then (digitsOf (num / den)).length
  else
    let guess := (digitsOf (den / num)).length
    if den ≤ num * Nat.pow 10 (guess - 1) then 2 - (guess : Int) else 1 - (guess : Int)

/-- Whether a ratio rounds to `x`: it lies between the points half way to the neighbours, and these
belong to `x` when its significand is even. -/
def covers (x : Binary64) (num den : Nat) : Bool :=
  -- in units of a quarter of the last place, so that both borders are whole
  let (n, d) := scaleDown (4 * num) den x.exponent
  let belowGap := if x.significand = 0x10000000000000 ∧ x.exponent ≠ -1074 then 1 else 2
  let low := (4 * x.significand - belowGap) * d
  let high := (4 * x.significand + 2) * d
  if x.significand % 2 = 0 then low ≤ n && n ≤ high else low < n && n < high

/-- The distance between two ratios, as a ratio over the product of the denominators. -/
def distance (a b : Nat × Nat) : Nat :=
  let l := a.1 * b.2
  let r := b.1 * a.2
  if l ≤ r then r - l else l - r

/-- The decimals of `count` digits next below and above `x` that read back as `x`, the nearer one
first and of two equally near the even one. -/
def nearestWith (x : Binary64) (count : Nat) : Option Decimal :=
  let (num, den) := x.ratio
  let step : Int := decade num den - count
  let below := num * Nat.pow 10 (-step).toNat / (den * Nat.pow 10 step.toNat)
  let lower : Decimal := ⟨below, step⟩
  let upper : Decimal := ⟨below + 1, step⟩
  let fits (d : Decimal) : Bool := x.covers d.ratio.1 d.ratio.2
  match fits lower, fits upper with
  | true, true =>
    let l := distance lower.ratio (num, den)
    let u := distance upper.ratio (num, den)
    some (if l < u ∨ (l = u ∧ below % 2 = 0) then lower else upper)
  | true, false => some lower
  | false, true => some upper
  | false, false => none

/-- The magnitude with the fewest digits that reads back as `x`; seventeen always suffice. -/
def shortest (x : Binary64) : Decimal :=
  if x.isZero then ⟨0, 0⟩
  else match (List.range' 1 17).findSome? x.nearestWith with
    | some d => d.strip
    | none => ⟨x.ratio.1, 0⟩

/-- The text of a number: a sign if its sign bit is set, then its shortest decimal. -/
def render (l : Decimal.Layout) (x : Binary64) : String :=
  (if x.negative then "-" else "") ++ x.shortest.render l

end Binary64

end ItemFlow
