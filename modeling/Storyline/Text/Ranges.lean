set_option autoImplicit false

/-!
Sets of characters given by ranges of code points. Large ones are written as the lengths of the runs, in turn outside and
inside the set, from the first code point on.
-/

namespace Storyline.Text

abbrev Ranges := List (Nat × Nat)

def Ranges.contains (ranges : Ranges) (c : Char) : Bool :=
  ranges.any fun range => range.1 ≤ c.toNat && c.toNat ≤ range.2

def Ranges.ofRuns (start : Nat) : List Nat → Ranges
  | outside :: inside :: runs =>
    (start + outside, start + outside + inside - 1) :: ofRuns (start + outside + inside) runs
  | _ => []

end Storyline.Text
