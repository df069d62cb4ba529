set_option autoImplicit false

/-!
Binary floating point numbers taken apart exactly. A finite number is a sign and `mantissa * 2 ^ exponent`, and
`narrowBelow` says that its lower neighbour is only half as far away as its upper one.
-/

namespace Storyline.Decimal

structure Binary where
  mantissa : Nat
  exponent : Int
  narrowBelow : Bool
deriving DecidableEq, Repr

inductive Decoded where
  | nan
  | infinite (negative : Bool)
  | zero (negative : Bool)
  | finite (negative : Bool) (number : Binary)
deriving DecidableEq, Repr

structure FloatFormat where
  fractionBits : Nat
  exponentBits : Nat

def FloatFormat.double : FloatFormat := ⟨52, 11⟩

def FloatFormat.single : FloatFormat := ⟨23, 8⟩

def FloatFormat.bias (format : FloatFormat) : Nat := Nat.pow 2 (format.exponentBits - 1) - 1

/-- Exponent of the smallest unit, which the subnormal numbers share with the first normal binade. -/
def FloatFormat.lowest (format : FloatFormat) : Int := 1 - (format.bias : Int) - format.fractionBits

def FloatFormat.decode (format : FloatFormat) (bits : Nat) : Decoded :=
  let fraction := bits % Nat.pow 2 format.fractionBits
  let field := bits / Nat.pow 2 format.fractionBits % Nat.pow 2 format.exponentBits
  let negative := decide (Nat.pow 2 (format.fractionBits + format.exponentBits) ≤ bits)
  if field = Nat.pow 2 format.exponentBits - 1 then
    if fraction = 0 then .infinite negative else .nan
  else if field = 0 then
    if fraction = 0 then .zero negative else .finite negative ⟨fraction, format.lowest, false⟩
  else
    .finite negative ⟨Nat.pow 2 format.fractionBits + fraction, format.lowest + (field - 1),
      decide (fraction = 0) && decide (1 < field)⟩

def ofFloat (x : Float) : Decoded := FloatFormat.double.decode x.toBits.toNat

def ofFloat32 (x : Float32) : Decoded := FloatFormat.single.decode x.toBits.toNat

def power (base : Nat) (exponent : Int) : Nat × Nat :=
  if 0 ≤ exponent then (Nat.pow base exponent.toNat, 1) else (1, Nat.pow base (-exponent).toNat)

end Storyline.Decimal
