import Storyline.Text.Hidden

set_option autoImplicit false

/-!
Texts between double quotes, with everything that could be misread written as an escape.
-/

namespace Storyline.Text

def codeEscape (c : Char) : String := "\\u\x7b" ++ String.ofList (Nat.toDigits 16 c.toNat) ++ "\x7d"

def escape (c : Char) : String :=
  if c = '"' then "\\\""
  else if c = '\\' then "\\\\"
  else if c = '\n' then "\\n"
  else if c = '\r' then "\\r"
  else if c = '\t' then "\\t"
  else if c = '\x00' then "\\0"
  else if hidden.contains c then codeEscape c
  else c.toString

def quoted (text : String) : String := "\"" ++ String.join (text.toList.map escape) ++ "\""

end Storyline.Text
