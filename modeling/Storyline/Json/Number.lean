import Storyline.Json.Value

set_option autoImplicit false

/-!
Reading number literals. Integers that fit 64 bits are kept exactly; `-0` is a float. Any other literal is a significand of
at most 64 bits and a decimal exponent: integer digits beyond the significand only raise the exponent, fraction digits
beyond it are dropped. The value is the significand scaled by one rounded multiplication or division with a power of ten.
-/

namespace Storyline.Json.Number

def largest : Nat := UInt64.size - 1

structure Parts where
  significand : Nat := 0
  exponent : Int := 0
  full : Bool := false

def digitValue (c : Char) : Nat := c.toNat - '0'.toNat

def Parts.integerDigit (parts : Parts) (c : Char) : Parts :=
  let longer := 10 * parts.significand + digitValue c
  if parts.full ∨ largest < longer then ⟨parts.significand, parts.exponent + 1, true⟩
  else ⟨longer, parts.exponent, false⟩

def Parts.fractionDigit (parts : Parts) (c : Char) : Parts :=
  let longer := 10 * parts.significand + digitValue c
  if parts.full ∨ largest < longer then ⟨parts.significand, parts.exponent, true⟩
  else ⟨longer, parts.exponent - 1, false⟩

def tenTo (exponent : Nat) : Float := Float.ofScientific 1 false exponent

def scale (significand : Nat) (exponent : Int) : Option Float :=
  let start := significand.toUInt64.toFloat
  if 0 ≤ exponent then
    if significand = 0 then some start
    else if 308 < exponent then none
    else
      let value := start * tenTo exponent.toNat
      if value.isInf then none else some value
  else if -308 ≤ exponent then some (start / tenTo (-exponent).toNat)
  else if -616 ≤ exponent then some (start / tenTo 308 / tenTo (-exponent - 308).toNat)
  else some 0

structure Literal where
  negative : Bool
  integer : List Char
  fraction : Option (List Char)
  exponent : Option Int

def exponentValue (digits : List Char) : Nat := digits.foldl (fun value c => 10 * value + digitValue c) 0

def readExponent (chars : List Char) : Option (Option Int) :=
  match chars with
  | [] => some none
  | mark :: rest =>
    if mark = 'e' ∨ mark = 'E' then
      let negative := rest.head? = some '-'
      let digits := if rest.head? = some '-' ∨ rest.head? = some '+' then rest.drop 1 else rest
      if digits ≠ [] ∧ digits.all Char.isDigit then
        let value : Int := exponentValue digits
        some (some (if negative then -value else value))
      else none
    else none

def cut (chars : List Char) : Option Literal :=
  let negative := chars.head? = some '-'
  let body := if negative then chars.drop 1 else chars
  let integer := body.takeWhile Char.isDigit
  let rest := body.dropWhile Char.isDigit
  if integer = [] ∨ (integer.head? = some '0' ∧ 1 < integer.length) then none
  else match rest with
    | '.' :: rest =>
      let fraction := rest.takeWhile Char.isDigit
      if fraction = [] then none
      else (readExponent (rest.dropWhile Char.isDigit)).map fun exponent =>
        ⟨negative, integer, some fraction, exponent⟩
    | rest => (readExponent rest).map fun exponent => ⟨negative, integer, none, exponent⟩

def Literal.value (literal : Literal) : Json :=
  let whole := literal.integer.foldl Parts.integerDigit {}
  let signed (x : Float) : Json := .float (if literal.negative then -x else x)
  let scaled (parts : Parts) (exponent : Int) : Json :=
    match scale parts.significand (parts.exponent + exponent) with
    | none => .unreadable
    | some x => signed x
  match literal.fraction, literal.exponent with
  | none, none =>
    if whole.full then scaled whole 0
    else if literal.negative then
      if whole.significand = 0 ∨ 0x8000000000000000 < whole.significand then signed whole.significand.toUInt64.toFloat
      else .integer (-(whole.significand : Int))
    else .integer whole.significand
  | none, some exponent => scaled whole exponent
  | some fraction, exponent =>
    scaled (fraction.foldl Parts.fractionDigit { whole with full := false }) (exponent.getD 0)

def read (chars : List Char) : Option Json := (cut chars).map Literal.value

end Storyline.Json.Number
