import Storyline.Decimal.Shortest

set_option autoImplicit false

/-!
Texts of numbers. `plain` never writes an exponent and no point without a fraction; `literal` always shows that the number
is not an integer, and changes to an exponent for very large and very small numbers; `whole` rounds to an integer.
-/

namespace Storyline.Decimal

def digitText (n : Nat) : String := String.ofList (Nat.toDigits 10 n)

def zeros (count : Nat) : String := String.ofList (List.replicate count '0')

def Digits.positional (d : Digits) : String :=
  let text := digitText d.digits
  if 0 ≤ d.exponent then text ++ zeros d.exponent.toNat
  else
    let places := (-d.exponent).toNat
    if places < text.length then
      String.ofList (text.toList.take (text.length - places)) ++ "." ++
        String.ofList (text.toList.drop (text.length - places))
    else "0." ++ zeros (places - text.length) ++ text

def Digits.scientific (d : Digits) : String :=
  let text := digitText d.digits
  let exponent := d.exponent + ((text.length : Int) - 1)
  let point := if text.length = 1 then "" else "."
  String.ofList (text.toList.take 1) ++ point ++ String.ofList (text.toList.drop 1) ++ "e" ++ toString exponent

def signed (negative : Bool) (text : String) : String := if negative then "-" ++ text else text

def Decoded.plain : Decoded → String
  | .nan => "NaN"
  | .infinite negative => signed negative "inf"
  | .zero negative => signed negative "0"
  | .finite negative number => signed negative number.shortest.positional

def Digits.literal (d : Digits) : String :=
  let decade := d.exponent + (digitText d.digits).length
  if -3 ≤ decade ∧ decade ≤ 16 then
    if 0 ≤ d.exponent then d.positional ++ ".0" else d.positional
  else d.scientific

def Decoded.literal : Decoded → String
  | .nan => "NaN"
  | .infinite negative => signed negative "inf"
  | .zero negative => signed negative "0.0"
  | .finite negative number => signed negative number.shortest.literal

def roundHalfEven (numerator denominator : Nat) : Nat :=
  let quotient := numerator / denominator
  let rest := 2 * (numerator % denominator)
  if rest < denominator then quotient
  else if denominator < rest then quotient + 1
  else quotient + quotient % 2

def Decoded.whole : Decoded → String
  | .nan => "NaN"
  | .infinite negative => signed negative "inf"
  | .zero negative => signed negative "0"
  | .finite negative number =>
    let scale := power 2 number.exponent
    signed negative (digitText (roundHalfEven (number.mantissa * scale.1) scale.2))

end Storyline.Decimal

namespace Storyline

def numberText (x : Float) : String := (Decimal.ofFloat x).plain

def drawText (x : Float32) : String := (Decimal.ofFloat32 x).plain

def weightText (x : Float32) : String := (Decimal.ofFloat32 x).literal

end Storyline
