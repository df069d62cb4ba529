set_option autoImplicit false

/-!
Numbers of one precision as numbers of another. Widening loses nothing; narrowing takes the nearest number.
-/

namespace Storyline.Decimal

open Float.Model (UnpackedFloat Format)

def fit (format : Format) : UnpackedFloat → UnpackedFloat
  | .finite sign mantissa exponent _ => .round format sign mantissa exponent
  | other => other

def widen (x : Float32) : Float := ⟨.pack (fit .binary64 x.toModel.unpack)⟩

def narrow (x : Float) : Float32 := ⟨.pack (fit .binary32 x.toModel.unpack)⟩

end Storyline.Decimal
