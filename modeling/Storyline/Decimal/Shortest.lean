import Storyline.Decimal.Binary

set_option autoImplicit false

/-!
The shortest decimal that reads back. A positive binary number stands for all reals that round to it; the ends of that
interval belong to it exactly when the mantissa is even. For one, two, … digits the two neighbours of the number on that
decimal grid are tried, and the first grid with a neighbour inside the interval gives the digits. Of two neighbours the
nearer is taken, and the upper one when both are equally near.
-/

namespace Storyline.Decimal

structure Digits where
  digits : Nat
  exponent : Int
deriving DecidableEq, Repr

def Binary.decade (number : Binary) : Int :=
  let shift := (-number.exponent).toNat
  let scaled := (power 2 number.exponent)
  ((Nat.toDigits 10 (number.mantissa * scaled.1 * Nat.pow 10 shift / scaled.2)).length : Int) - shift

/-- One decimal grid beside the binary one: `candidate * 10 ^ exponent` and `quarters * 2 ^ (binary - 2)` become
comparable naturals after multiplication with `decimal` and `binary`. -/
structure Grid where
  decimal : Nat
  binary : Nat

def Binary.grid (number : Binary) (exponent : Int) : Grid :=
  let ten := power 10 exponent
  let two := power 2 (number.exponent - 2)
  ⟨ten.1 * two.2, two.1 * ten.2⟩

def Binary.covers (number : Binary) (grid : Grid) (candidate : Nat) : Bool :=
  let point := candidate * grid.decimal
  let low := (4 * number.mantissa - if number.narrowBelow then 1 else 2) * grid.binary
  let high := (4 * number.mantissa + 2) * grid.binary
  if number.mantissa % 2 = 0 then decide (low ≤ point ∧ point ≤ high) else decide (low < point ∧ point < high)

def Binary.onGrid (number : Binary) (exponent : Int) : Option Nat :=
  let grid := number.grid exponent
  let lower := 4 * number.mantissa * grid.binary / grid.decimal
  match number.covers grid lower, number.covers grid (lower + 1) with
  | true, true =>
    if 8 * number.mantissa * grid.binary < (2 * lower + 1) * grid.decimal then some lower else some (lower + 1)
  | true, false => some lower
  | false, true => some (lower + 1)
  | false, false => none

def Digits.trimmed : Nat → Digits → Digits
  | 0, d => d
  | fuel + 1, d => if d.digits ≠ 0 ∧ d.digits % 10 = 0 then trimmed fuel ⟨d.digits / 10, d.exponent + 1⟩ else d

/-- Seventeen digits tell any two double precision numbers apart, so the search always ends on some grid. -/
def Binary.shortest (number : Binary) : Digits :=
  let decade := number.decade
  let found := (List.range' 1 17).findSome? fun (count : Nat) =>
    (number.onGrid (decade - count)).map fun digits => Digits.trimmed 17 ⟨digits, decade - count⟩
  found.getD ⟨0, 0⟩

end Storyline.Decimal
