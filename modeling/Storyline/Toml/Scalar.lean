import Storyline.Json.Value

set_option autoImplicit false

/-!
Unquoted scalars of a settings file: truth values, integers in four bases, floats, dates and times. A date or time becomes
a table with one field that no setting has: it stands in the file, but nothing takes one.
-/

namespace Storyline.Toml

def isScalarChar (c : Char) : Bool := c.isAlphanum || c = '+' || c = '-' || c = '_' || c = '.' || c = ':'

def digitsFrom (isDigit : Char → Bool) : Bool → List Char → Option (List Char)
  | afterDigit, [] => if afterDigit then some [] else none
  | afterDigit, c :: rest =>
    if isDigit c then (digitsFrom isDigit true rest).map (c :: ·)
    else if c = '_' && afterDigit then digitsFrom isDigit false rest
    else none

def digits? (isDigit : Char → Bool) (chars : List Char) : Option (List Char) := digitsFrom isDigit false chars

def digitValue (c : Char) : Nat :=
  if c.isDigit then c.toNat - '0'.toNat
  else if c.isLower then c.toNat - 'a'.toNat + 10
  else c.toNat - 'A'.toNat + 10

def isDigitOf (base : Nat) (c : Char) : Bool := c.isAlphanum && decide (digitValue c < base)

def naturalOf (base : Nat) (digits : List Char) : Nat := digits.foldl (fun value c => base * value + digitValue c) 0

def decimal? (chars : List Char) : Option (List Char) :=
  match chars with
  | '0' :: _ :: _ => none
  | chars => digits? Char.isDigit chars

def unsigned (chars : List Char) : List Char :=
  match chars with
  | '+' :: rest => rest
  | '-' :: rest => rest
  | chars => chars

def bounded? (value : Int) : Option Json :=
  if -0x8000000000000000 ≤ value ∧ value < 0x8000000000000000 then some (.integer value) else none

def based? (base : Nat) (chars : List Char) : Option Json :=
  (digits? (isDigitOf base) chars).bind fun digits => bounded? (naturalOf base digits)

def integer? (chars : List Char) : Option Json :=
  match chars with
  | '0' :: 'x' :: rest => based? 16 rest
  | '0' :: 'o' :: rest => based? 8 rest
  | '0' :: 'b' :: rest => based? 2 rest
  | chars =>
    (decimal? (unsigned chars)).bind fun digits =>
      let value : Int := naturalOf 10 digits
      bounded? (if chars.head? = some '-' then -value else value)

def isExponentMark (c : Char) : Bool := c = 'e' || c = 'E'

def exponent? (chars : List Char) : Option Int :=
  match chars with
  | [] => some 0
  | _ :: rest =>
    (digits? Char.isDigit (unsigned rest)).map fun digits =>
      let value : Int := naturalOf 10 digits
      if rest.head? = some '-' then -value else value

def nearest (significand : Nat) (exponent : Int) : Float :=
  let magnitude := (Nat.toDigits 10 significand).length + exponent
  if significand = 0 ∨ magnitude < -330 then 0
  else if 310 < magnitude then 1 / 0
  else Float.ofScientific significand (exponent < 0) exponent.natAbs

/-- A float has a fraction, an exponent or both. One that is too large cannot be read, unless it is negative. -/
def float? (chars : List Char) : Option Json :=
  let negative := chars.head? = some '-'
  let body := unsigned chars
  match body with
  | ['i', 'n', 'f'] => some (.float (if negative then -(1 / 0) else 1 / 0))
  | ['n', 'a', 'n'] => some (.float (0 / 0))
  | _ =>
    let whole := body.takeWhile fun c => c ≠ '.' && !isExponentMark c
    (decimal? whole).bind fun integer =>
      let scaled? : Option Float :=
        match body.drop whole.length with
        | '.' :: rest =>
          (digits? Char.isDigit (rest.takeWhile fun c => !isExponentMark c)).bind fun fraction =>
            (exponent? (rest.dropWhile fun c => !isExponentMark c)).map fun exponent =>
              nearest (naturalOf 10 (integer ++ fraction)) (exponent - fraction.length)
        | [] => none
        | rest => (exponent? rest).map fun exponent => nearest (naturalOf 10 integer) exponent
      scaled?.bind fun value =>
        if negative then some (.float (-value)) else if value.isInf then none else some (.float value)

/-! ### Dates and times -/

def field? (count low high : Nat) (chars : List Char) : Option (Nat × List Char) :=
  let digits := chars.take count
  let value := naturalOf 10 digits
  if digits.length = count ∧ digits.all Char.isDigit ∧ low ≤ value ∧ value ≤ high then some (value, chars.drop count)
  else none

def after? (mark : Char) (chars : List Char) : Option (List Char) :=
  match chars with
  | c :: rest => if c = mark then some rest else none
  | [] => none

def isLeap (year : Nat) : Bool := year % 4 = 0 && (year % 100 ≠ 0 || year % 400 = 0)

def daysIn (year month : Nat) : Nat :=
  if month = 2 then (if isLeap year then 29 else 28)
  else if month = 4 ∨ month = 6 ∨ month = 9 ∨ month = 11 then 30
  else 31

def date? (chars : List Char) : Option (List Char) := do
  let (year, rest) ← field? 4 0 9999 chars
  let (month, rest) ← (after? '-' rest).bind (field? 2 1 12)
  let (_, rest) ← (after? '-' rest).bind (field? 2 1 (daysIn year month))
  return rest

def fractionOfSecond? (chars : List Char) : Option (List Char) :=
  match chars with
  | '.' :: rest => if rest.head?.any Char.isDigit then some (rest.dropWhile Char.isDigit) else none
  | chars => some chars

def time? (chars : List Char) : Option (List Char) := do
  let (_, rest) ← field? 2 0 23 chars
  let (_, rest) ← (after? ':' rest).bind (field? 2 0 59)
  let (_, rest) ← (after? ':' rest).bind (field? 2 0 60)
  fractionOfSecond? rest

def isOffset (chars : List Char) : Bool :=
  match chars with
  | [] => true
  | ['Z'] => true
  | ['z'] => true
  | sign :: rest =>
    (sign = '+' || sign = '-') &&
      match (field? 2 0 23 rest).bind fun hour => (after? ':' hour.2).bind (field? 2 0 59) with
      | some (_, []) => true
      | _ => false

def isDelimiter (c : Char) : Bool := c = 'T' || c = 't' || c = ' '

def isDateTime (chars : List Char) : Bool :=
  match date? chars with
  | some [] => true
  | some (delimiter :: rest) =>
    isDelimiter delimiter && match time? rest with
      | some offset => isOffset offset
      | none => false
  | none => time? chars = some []

def scalar? (chars : List Char) : Option Json :=
  match String.ofList chars with
  | "true" => some (.bool true)
  | "false" => some (.bool false)
  | text =>
    if isDateTime chars then some (.object [("date", .text text)]) else (float? chars).or (integer? chars)

end Storyline.Toml
