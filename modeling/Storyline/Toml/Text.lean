import Storyline.Toml.Scalar

set_option autoImplicit false

/-!
Quoted texts of a settings file: with escapes between double quotes, as they stand between single ones, and both also over
several lines between triple quotes.
-/

namespace Storyline.Toml

def isPlain (c : Char) : Bool := c = '\t' || (decide (0x20 ≤ c.toNat) && c.toNat ≠ 0x7f)

def isSpace (c : Char) : Bool := c = ' ' || c = '\t'

def newline? (chars : List Char) : Option (List Char) :=
  match chars with
  | '\n' :: rest => some rest
  | '\r' :: '\n' :: rest => some rest
  | _ => none

def coded? (count : Nat) (chars : List Char) : Option (Char × List Char) :=
  let digits := chars.take count
  let code := naturalOf 16 digits
  if digits.length = count ∧ digits.all (isDigitOf 16) ∧ code.isValidChar then some (Char.ofNat code, chars.drop count)
  else none

def escape? (chars : List Char) : Option (Char × List Char) :=
  match chars with
  | 'b' :: rest => some ('\x08', rest)
  | 't' :: rest => some ('\t', rest)
  | 'n' :: rest => some ('\n', rest)
  | 'f' :: rest => some ('\x0c', rest)
  | 'r' :: rest => some ('\r', rest)
  | '"' :: rest => some ('"', rest)
  | '\\' :: rest => some ('\\', rest)
  | 'u' :: rest => coded? 4 rest
  | 'U' :: rest => coded? 8 rest
  | _ => none

def basic (fuel : Nat) (done : List Char) (chars : List Char) : Option (String × List Char) :=
  match fuel, chars with
  | fuel + 1, c :: rest =>
    if c = '"' then some (String.ofList done.reverse, rest)
    else if c = '\\' then (escape? rest).bind fun escaped => basic fuel (escaped.1 :: done) escaped.2
    else if isPlain c then basic fuel (c :: done) rest
    else none
  | _, _ => none

def literal (done : List Char) : List Char → Option (String × List Char)
  | [] => none
  | c :: rest =>
    if c = '\'' then some (String.ofList done.reverse, rest)
    else if isPlain c then literal (c :: done) rest
    else none

def dropBlank : Nat → List Char → List Char
  | 0, chars => chars
  | fuel + 1, chars =>
    match newline? (chars.dropWhile isSpace) with
    | some rest => dropBlank fuel rest
    | none => chars.dropWhile isSpace

def continuation? (chars : List Char) : Option (List Char) :=
  (newline? (chars.dropWhile isSpace)).map fun rest => dropBlank (rest.length + 1) rest

/-- Text up to three closing quotes; up to two more quotes before them belong to the text. -/
def block (quote : Char) (escapes : Bool) (fuel : Nat) (done : List Char) (chars : List Char) :
    Option (String × List Char) :=
  match fuel, chars with
  | fuel + 1, c :: rest =>
    if c = quote then
      let quotes := min 5 (chars.takeWhile fun c => c = quote).length
      if 3 ≤ quotes then
        some (String.ofList (List.replicate (quotes - 3) quote ++ done).reverse, chars.drop quotes)
      else block quote escapes fuel (c :: done) rest
    else if c = '\\' && escapes then
      match continuation? rest with
      | some rest => block quote escapes fuel done rest
      | none => (escape? rest).bind fun escaped => block quote escapes fuel (escaped.1 :: done) escaped.2
    else match newline? chars with
      | some rest => block quote escapes fuel ('\n' :: done) rest
      | none => if isPlain c then block quote escapes fuel (c :: done) rest else none
  | _, _ => none

def lines (quote : Char) (escapes : Bool) (chars : List Char) : Option (String × List Char) :=
  let body := (newline? chars).getD chars
  block quote escapes (body.length + 1) [] body

def text? (chars : List Char) : Option (String × List Char) :=
  match chars with
  | '"' :: '"' :: '"' :: rest => lines '"' true rest
  | '\'' :: '\'' :: '\'' :: rest => lines '\'' false rest
  | '"' :: rest => basic (rest.length + 1) [] rest
  | '\'' :: rest => literal [] rest
  | _ => none

/-! ### Keys -/

def isBare (c : Char) : Bool := c.isAlphanum || c = '_' || c = '-'

def keyPart? (chars : List Char) : Option (String × List Char) :=
  match chars with
  | '"' :: rest => basic (rest.length + 1) [] rest
  | '\'' :: rest => literal [] rest
  | chars =>
    let bare := chars.takeWhile isBare
    if bare.isEmpty then none else some (String.ofList bare, chars.dropWhile isBare)

def depthLimit : Nat := 79

def key? (parts : Nat) (chars : List Char) : Option (List String × List Char) :=
  match parts with
  | 0 => none
  | parts + 1 =>
    (keyPart? (chars.dropWhile isSpace)).bind fun first =>
      match first.2.dropWhile isSpace with
      | '.' :: rest => (key? parts rest).map fun others => (first.1 :: others.1, others.2)
      | rest => some ([first.1], rest)

end Storyline.Toml
