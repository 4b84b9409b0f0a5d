import SiteClient.Decimal.Binary
/-!
# The shortest decimal of a double

The doubles partition the reals: each double stands for the interval of reals that round to it, ends
included exactly when its mantissa is even. `Decimal.shortest` finds a decimal in that interval with
as few digits as possible, and of the two neighbours on that grid the nearer one.

For a number of digits `n` the candidates are the two neighbours of the value on the grid of
`n`-digit decimals: if any point of the grid lies in the interval, so does one of these two.
Seventeen digits always suffice. All comparisons are between natural numbers.
-/

namespace SiteClient

/-- The number `digits · 10 ^ exponent`. -/
structure Decimal where
  digits : Nat
  exponent : Int
  deriving DecidableEq, Repr

namespace Decimal

/-- The same number without zeros at the end of its digits. -/
def normalize (d : Decimal) : Decimal :=
  if h : d.digits ≠ 0 ∧ d.digits % 10 = 0 then
    normalize ⟨d.digits / 10, d.exponent + 1⟩
  else d
termination_by d.digits
decreasing_by exact Nat.div_lt_self (Nat.pos_of_ne_zero h.1) (by decide)

/-- A positive number and the two ends of its rounding interval, over one denominator. -/
structure Interval where
  low : Nat
  value : Nat
  high : Nat
  denominator : Nat
  closed : Bool

/-- The rounding interval of `mantissa · 2 ^ exponent`. Below a power of two the doubles stand twice
as close, so there the lower half is narrower. -/
def Interval.ofBinary (b : Binary) : Interval :=
  let scale := b.exponent - 2
  let up := 1 <<< scale.toNat
  let narrow := b.mantissa = Binary.leadingBit ∧ b.exponent ≠ -1074
  { low := (4 * b.mantissa - if narrow then 1 else 2) * up
    value := 4 * b.mantissa * up
    high := (4 * b.mantissa + 2) * up
    denominator := 1 <<< (-scale).toNat
    closed := b.mantissa % 2 = 0 }

/-- The exponent of the leading digit of `num / den`: the greatest `k` with `10 ^ k ≤ num / den`. -/
def leadingExponent (num den : Nat) : Int :=
  if den ≤ num then ((Nat.toDigits 10 (num / den)).length : Int) - 1
  else -(((List.range 400).find? fun j ↦ den ≤ num * Nat.pow 10 j).getD 400 : Nat)

/-- The decimal with last digit at `10 ^ place` that is nearest to the value, if it or the
neighbour on the other side of the value lies in the interval; of two at the same distance the even
one. -/
def Interval.candidate? (i : Interval) (place : Int) : Option Nat :=
  let num := i.value * Nat.pow 10 (-place).toNat
  let den := i.denominator * Nat.pow 10 place.toNat
  let inside (n : Nat) : Bool :=
    let point := n * den
    let low := i.low * Nat.pow 10 (-place).toNat
    let high := i.high * Nat.pow 10 (-place).toNat
    if i.closed then low ≤ point && point ≤ high else low < point && point < high
  let below := num / den
  let above := if num % den = 0 then below else below + 1
  match inside below, inside above with
  | true, true =>
    let left := num - below * den
    let right := above * den - num
    some (if left < right || (left == right && below % 2 == 0) then below else above)
  | true, false => some below
  | false, true => some above
  | false, false => none

/-- The shortest decimal that rounds to the magnitude of `b`. -/
def shortest (b : Binary) : Decimal :=
  if b.mantissa = 0 then ⟨0, 0⟩
  else
    let i := Interval.ofBinary b
    let lead := leadingExponent i.value i.denominator
    let found := (List.range 17).findSome? fun (n : Nat) ↦
      let place := lead - n
      (i.candidate? place).map fun digits ↦ (⟨digits, place⟩ : Decimal)
    normalize (found.getD ⟨0, 0⟩)

end Decimal
end SiteClient
