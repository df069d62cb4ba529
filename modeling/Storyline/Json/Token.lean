import Storyline.Json.Number

set_option autoImplicit false

/-!
Lexemes of JSON text, found by one pass over the characters. The state between two characters says what is being read:
nothing, a number, a word or a text.
-/

namespace Storyline.Json

inductive Token where
  | openArray
  | closeArray
  | openObject
  | closeObject
  | comma
  | colon
  | scalar (value : Json)
  | text (value : Option String)

namespace Token

inductive Escape where
  | plain
  | backslash
  | unit (left value : Nat)

structure Quoted where
  chars : List Char := []
  readable : Bool := true
  pending : Option Nat := none
  escape : Escape := .plain

def Quoted.push (q : Quoted) (c : Char) : Quoted :=
  { q with chars := c :: q.chars, readable := q.readable && q.pending.isNone, pending := none, escape := .plain }

def Quoted.pushUnit (q : Quoted) (unit : Nat) : Quoted :=
  if 0xD800 ≤ unit ∧ unit < 0xDC00 then
    { q with readable := q.readable && q.pending.isNone, pending := some unit, escape := .plain }
  else if 0xDC00 ≤ unit ∧ unit < 0xE000 then
    match q.pending with
    | none => { q with readable := false, escape := .plain }
    | some high =>
      { q with
        chars := Char.ofNat (0x10000 + (high - 0xD800) * 0x400 + (unit - 0xDC00)) :: q.chars
        pending := none
        escape := .plain }
  else q.push (Char.ofNat unit)

def Quoted.value (q : Quoted) : Option String :=
  if q.readable && q.pending.isNone then some (String.ofList q.chars.reverse) else none

def hexValue? (c : Char) : Option Nat :=
  if '0' ≤ c ∧ c ≤ '9' then some (c.toNat - '0'.toNat)
  else if 'a' ≤ c ∧ c ≤ 'f' then some (c.toNat - 'a'.toNat + 10)
  else if 'A' ≤ c ∧ c ≤ 'F' then some (c.toNat - 'A'.toNat + 10)
  else none

def escaped? : Char → Option Char
  | '"' => some '"'
  | '\\' => some '\\'
  | '/' => some '/'
  | 'b' => some '\x08'
  | 'f' => some '\x0c'
  | 'n' => some '\n'
  | 'r' => some '\r'
  | 't' => some '\t'
  | _ => none

inductive Mode where
  | between
  | number (chars : List Char)
  | word (chars : List Char)
  | quoted (text : Quoted)

structure Lexer where
  tokens : List Token := []
  mode : Mode := .between

def punctuation? : Char → Option Token
  | '[' => some .openArray
  | ']' => some .closeArray
  | '{' => some .openObject
  | '}' => some .closeObject
  | ',' => some .comma
  | ':' => some .colon
  | _ => none

def isBlank (c : Char) : Bool := c = ' ' || c = '\t' || c = '\n' || c = '\r'

def isNumeric (c : Char) : Bool := c.isDigit || c = '-' || c = '+' || c = '.' || c = 'e' || c = 'E'

def word? (chars : List Char) : Option Json :=
  match String.ofList chars with
  | "true" => some (.bool true)
  | "false" => some (.bool false)
  | "null" => some .null
  | _ => none

def start (tokens : List Token) (c : Char) : Option Lexer :=
  if isBlank c then some ⟨tokens, .between⟩
  else if c = '"' then some ⟨tokens, .quoted {}⟩
  else if c.isDigit || c = '-' then some ⟨tokens, .number [c]⟩
  else if c.isLower then some ⟨tokens, .word [c]⟩
  else (punctuation? c).map fun token => ⟨token :: tokens, .between⟩

def flush (lexer : Lexer) : Option (List Token) :=
  match lexer.mode with
  | .between => some lexer.tokens
  | .number chars => (Number.read chars.reverse).map fun value => .scalar value :: lexer.tokens
  | .word chars => (word? chars.reverse).map fun value => .scalar value :: lexer.tokens
  | .quoted _ => none

def quote (tokens : List Token) (q : Quoted) (c : Char) : Option Lexer :=
  match q.escape with
  | .plain =>
    if c = '"' then some ⟨.text q.value :: tokens, .between⟩
    else if c = '\\' then some ⟨tokens, .quoted { q with escape := .backslash }⟩
    else if c.toNat < 0x20 then none
    else some ⟨tokens, .quoted (q.push c)⟩
  | .backslash =>
    if c = 'u' then some ⟨tokens, .quoted { q with escape := .unit 4 0 }⟩
    else (escaped? c).map fun c => ⟨tokens, .quoted (q.push c)⟩
  | .unit left value =>
    (hexValue? c).map fun digit =>
      let value := 16 * value + digit
      if left ≤ 1 then ⟨tokens, .quoted (q.pushUnit value)⟩
      else ⟨tokens, .quoted { q with escape := .unit (left - 1) value }⟩

def step (lexer : Lexer) (c : Char) : Option Lexer :=
  match lexer.mode with
  | .quoted q => quote lexer.tokens q c
  | .number chars =>
    if isNumeric c then some ⟨lexer.tokens, .number (c :: chars)⟩
    else (flush lexer).bind fun tokens => start tokens c
  | .word chars =>
    if c.isLower then some ⟨lexer.tokens, .word (c :: chars)⟩
    else (flush lexer).bind fun tokens => start tokens c
  | .between => start lexer.tokens c

def scan (text : String) : Option (List Token) :=
  (text.toList.foldlM step {}).bind fun lexer => (flush lexer).map List.reverse

end Token

end Storyline.Json
