import Storyline.Error

set_option autoImplicit false

/-!
Early ends of work. Two layers can end it: the full layer gives it up, the completion layer asks it to finish at once at its
end state. Full cancellation goes before a completion request, and either goes before the end of the work itself.
-/

namespace Storyline

inductive Interrupt where
  | aborted
  | completed
deriving DecidableEq, Repr

def Interrupt.of? (aborted completing : Bool) : Option Interrupt :=
  if aborted then some .aborted else if completing then some .completed else none

inductive Ending where
  | finished
  | released
deriving DecidableEq, Repr

def Ending.of? (what : String) (interrupt : Option Interrupt) (done : Bool) : Option (Except Error Ending) :=
  match interrupt with
  | some .aborted => some (.error (.cancelled what))
  | some .completed => some (.ok .released)
  | none => if done then some (.ok .finished) else none

inductive Layer where
  | full
  | completion
deriving DecidableEq, Repr

structure Source where
  held : Bool := true
  raised : Bool := false
  due : Option Nat := none
deriving DecidableEq, Repr

namespace Source

def raise (source : Source) : Source := if source.held then { source with raised := true } else source

def drop (source : Source) : Source := { source with held := false }

def settle (source : Source) (time : Nat) : Source :=
  if source.due.any fun due => decide (due ≤ time) then { source with raised := true, due := none } else source

end Source

/-- Both layers on one line of time, and which of them are watched. A raise that falls due takes effect as soon as nothing
else goes on, so work that ends at that very time ends by itself, and what follows it without a wait sees no raise either. -/
structure Timeline where
  now : Nat := 0
  full : Source := {}
  completion : Source := {}
  watchesFull : Bool := true
  watchesCompletion : Bool := true
deriving DecidableEq, Repr

namespace Timeline

def source (line : Timeline) : Layer → Source
  | .full => line.full
  | .completion => line.completion

def update (line : Timeline) (change : Source → Source) : Layer → Timeline
  | .full => { line with full := change line.full }
  | .completion => { line with completion := change line.completion }

def settle (line : Timeline) (time : Nat) : Timeline :=
  { line with full := line.full.settle time, completion := line.completion.settle time }

def raise (line : Timeline) (layer : Layer) : Timeline := line.update Source.raise layer

def drop (line : Timeline) (layer : Layer) : Timeline := line.update Source.drop layer

def raiseAfter (line : Timeline) (layer : Layer) (millis : Nat) : Timeline :=
  if (line.source layer).held then
    (line.update (fun source => { source with held := false, due := some (line.now + millis) }) layer).settle line.now
  else line

def aborted (line : Timeline) : Bool := line.watchesFull && line.full.raised

def completing (line : Timeline) : Bool := line.watchesCompletion && line.completion.raised

def interrupt (line : Timeline) : Option Interrupt := Interrupt.of? line.aborted line.completing

def raises (line : Timeline) : List Nat :=
  ((if line.watchesFull then line.full.due.toList else [])
    ++ (if line.watchesCompletion then line.completion.due.toList else [])).map (max line.now)

/-- First time at which a wait of `millis` is over. A raise at the very end comes too late. -/
def endOf (line : Timeline) (millis : Nat) : Nat :=
  ((line.raises.filter fun time => decide (time < line.now + millis)).min?).getD (line.now + millis)

def pass (line : Timeline) (millis : Nat) : Timeline :=
  let time := line.endOf millis
  { line.settle (if time < line.now + millis then time else time - 1) with now := time }

def await (line : Timeline) (millis : Nat) : Option Interrupt × Timeline :=
  if line.interrupt.isSome ∨ millis = 0 then (line.interrupt, line)
  else ((line.pass millis).interrupt, line.pass millis)

def run (line : Timeline) (what : String) (millis : Nat) : Except Error Ending × Timeline :=
  let (interrupt, line) := line.await millis
  ((Ending.of? what interrupt true).getD (.ok .finished), line)

def ensureAlive (line : Timeline) (what : String) : Except Error Unit :=
  if line.aborted then .error (.cancelled what) else .ok ()

end Timeline

end Storyline
