set_option autoImplicit false

/-!
Which indices of which scripts have been played, kept per script as ranges. Recording an index extends a range where it can,
so that ranges made by recording alone stay sorted, apart and never touching.
-/

namespace Storyline

structure IndexRange where
  start : Nat
  stop : Nat
deriving DecidableEq, Repr

namespace IndexRange

def single (index : Nat) : IndexRange := ⟨index, index⟩

def contains (range : IndexRange) (index : Nat) : Bool := decide (range.start ≤ index) && decide (index ≤ range.stop)

def count (range : IndexRange) : Nat := range.stop + 1 - range.start

end IndexRange

namespace Ranges

/-- Bisection: the first place in `low ≤ place < low + size` where `before` no longer holds, for a list on which `before`
holds first and then not. On any other list the answer is where the bisection ends. -/
def bisect (ranges : List IndexRange) (before : IndexRange → Bool) (size low : Nat) : Nat :=
  if size ≤ 1 then
    if size = 0 then low
    else match ranges[low]? with
      | some range => if before range then low + 1 else low
      | none => low
  else
    let half := size / 2
    match ranges[low + half]? with
    | some range => bisect ranges before (size - half) (if before range then low + half else low)
    | none => low
termination_by size
decreasing_by omega

def partitionPoint (ranges : List IndexRange) (before : IndexRange → Bool) : Nat :=
  bisect ranges before ranges.length 0

def add (ranges : List IndexRange) (index : Nat) : List IndexRange :=
  let place := partitionPoint ranges fun range => decide (range.stop + 1 < index)
  match ranges[place]? with
  | none => ranges ++ [IndexRange.single index]
  | some range =>
    if range.contains index then ranges
    else if range.stop + 1 = index then
      match ranges[place + 1]? with
      | some next =>
        if next.start = index + 1 then (ranges.set place ⟨range.start, next.stop⟩).eraseIdx (place + 1)
        else ranges.set place ⟨range.start, index⟩
      | none => ranges.set place ⟨range.start, index⟩
    else if index + 1 = range.start then ranges.set place ⟨index, range.stop⟩
    else ranges.insertIdx place (IndexRange.single index)

def contains (ranges : List IndexRange) (index : Nat) : Bool :=
  match ranges[partitionPoint ranges fun range => decide (range.stop < index)]? with
  | some range => range.contains index
  | none => false

def count : List IndexRange → Nat
  | [] => 0
  | range :: rest => range.count + count rest

end Ranges

structure Played where
  scripts : List (String × List IndexRange) := []
deriving DecidableEq, Repr

namespace Played

def ranges (played : Played) (script : String) : List IndexRange :=
  ((played.scripts.find? fun entry => entry.1 = script).map Prod.snd).getD []

def put (script : String) (ranges : List IndexRange) :
    List (String × List IndexRange) → List (String × List IndexRange)
  | [] => [(script, ranges)]
  | entry :: entries =>
    if script < entry.1 then (script, ranges) :: entry :: entries
    else if script = entry.1 then (script, ranges) :: entries
    else entry :: put script ranges entries

def add (played : Played) (script : String) (index : Nat) : Played :=
  ⟨put script (Ranges.add (played.ranges script) index) played.scripts⟩

def contains (played : Played) (script : String) (index : Nat) : Bool := Ranges.contains (played.ranges script) index

def count (played : Played) (script : String) : Nat := Ranges.count (played.ranges script)

end Played

end Storyline
