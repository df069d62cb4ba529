import Storyline.Playlist

set_option autoImplicit false

/-!
Navigation: which index is played after a played one. Leaving a block (`leave`) depends on the playlist alone. Entering one
(`enter`) may look at the variables, draw random numbers and turn the visit flag of an `await` or `transition`.
-/

namespace Storyline

structure Trail where
  raised : List Nat := []
  draws : Draws
  failures : List ExprError := []

namespace Trail

def isRaised (trail : Trail) (host : Nat) : Bool := trail.raised.contains host

def raise (trail : Trail) (host : Nat) : Trail := { trail with raised := host :: trail.raised }

def lower (trail : Trail) (host : Nat) : Trail := { trail with raised := trail.raised.filter fun other => other ≠ host }

def draw (trail : Trail) : Float32 × Trail := (trail.draws.next.1, { trail with draws := trail.draws.next.2 })

def condition (trail : Trail) (lookup : String → Option Value) (expr : Expr) : Bool × Trail :=
  match expr.holds lookup with
  | .ok value => (value, trail)
  | .error failure => (false, { trail with failures := failure :: trail.failures })

def passesGuard (trail : Trail) (lookup : String → Option Value) (command : Command) : Bool × Trail :=
  match command.guard with
  | none => (true, trail)
  | some guard => trail.condition lookup guard

end Trail

namespace Playlist

/-- End of a chain of branches of which `last` ends one member. Every further member ends later, so the length of the list
bounds their number. -/
def chainEndFrom (p : Playlist) (indent : Nat) : Nat → Nat → Nat
  | 0, last => last
  | members + 1, last =>
    match p.command? (last + 1) with
    | some next =>
      if next.indent = indent && next.kind.continues then
        let last := p.exitIndex (last + 1) indent
        match next.kind with
        | .endBranch => last
        | _ => chainEndFrom p indent members last
      else last
    | none => last

def chainEnd (p : Playlist) (member : Nat) : Nat :=
  p.chainEndFrom (p.indentAt member) p.length (p.exitIndex member (p.indentAt member))

/-- Index after `played`, which lies in a block whose host has indentation `indent - 1`. At the top level that is the next
one; inside a block the host decides, and a host that is left asks the one around it. -/
def leave (p : Playlist) : Nat → Nat → Except StructuralError Nat
  | 0, played => .ok (played + 1)
  | indent + 1, played =>
    match p.hostAt played indent with
    | .error fault => .error fault
    | .ok host =>
      match p.kind? host with
      | some (.random _) => leave p indent (p.exitIndex host indent)
      | some (.delay _) => .error (.deferredNavigation (p.spotAt played))
      | some kind =>
        if p.exits played indent then
          match kind with
          | .branch _ | .elseBranch _ | .otherwise => leave p indent (p.chainEnd host)
          | .loop _ | .await | .transition _ => .ok host
          | _ => leave p indent played
        else .ok (played + 1)
      | none => .error (.hostNotFound (p.spotAt played))

def skip (p : Playlist) (index indent : Nat) : Except StructuralError Nat := p.leave indent (p.exitIndex index indent)

def nextMember (p : Playlist) (member : Nat) : Except StructuralError Nat :=
  let indent := p.indentAt member
  let last := p.exitIndex member indent
  match p.command? (last + 1) with
  | some next => if next.indent = indent && next.kind.continues then .ok (last + 1) else p.leave indent last
  | none => p.leave indent last

structure Pick where
  best : Option Nat := none
  score : Float32 := -1

def weightAt (weights : List Float32) (position : Nat) : Float32 := weights.getD position 1

def consider (p : Playlist) (lookup : String → Option Value) (weights : List Float32)
    (state : Pick × Trail) (child : Nat × Nat) : Pick × Trail :=
  match p.command? child.1 with
  | none => state
  | some command =>
    match state.2.passesGuard lookup command with
    | (false, trail) => (state.1, trail)
    | (true, trail) =>
      let drawn := trail.draw
      let score := drawn.1 * weightAt weights child.2
      (if state.1.score < score then ⟨some child.1, score⟩ else state.1, drawn.2)

/-- The child of a random block that is played: the first with the greatest weighted draw among those whose guard holds. -/
def pick (p : Playlist) (lookup : String → Option Value) (weights : List Float32) (host : Nat) (trail : Trail) :
    Option Nat × Trail :=
  let result := (p.children host).zipIdx.foldl (p.consider lookup weights) ({}, trail)
  (result.1.best, result.2)

def enter (p : Playlist) (lookup : String → Option Value) (host : Nat) (trail : Trail) :
    Except StructuralError Nat × Trail :=
  let indent := p.indentAt host
  match p.kind? host with
  | some (.branch condition) | some (.elseBranch condition) =>
    match trail.condition lookup condition with
    | (true, trail) => (.ok (host + 1), trail)
    | (false, trail) => (p.nextMember host, trail)
  | some (.loop condition) =>
    match trail.condition lookup condition with
    | (true, trail) => (.ok (host + 1), trail)
    | (false, trail) => (p.skip host indent, trail)
  | some (.random weights) =>
    match p.pick lookup weights host trail with
    | (some child, trail) => (.ok child, trail)
    | (none, trail) => (p.skip host indent, trail)
  | some (.delay _) => (p.skip host indent, trail)
  | some .await | some (.transition _) =>
    if trail.isRaised host then (p.skip host indent, trail.lower host) else (.ok (host + 1), trail.raise host)
  | _ => (.ok (host + 1), trail)

def move (p : Playlist) (lookup : String → Option Value) (index : Nat) (trail : Trail) :
    Except StructuralError Nat × Trail :=
  if p.length ≤ index then (.ok (index + 1), trail)
  else if p.enters index then p.enter lookup index trail
  else (p.leave (p.indentAt index) index, trail)

/-- Index after the command at `index`, whose guard may have failed: a host is then passed over with its block. -/
def advance (p : Playlist) (lookup : String → Option Value) (index : Nat) (passed : Bool) (trail : Trail) :
    Except StructuralError Nat × Trail :=
  if p.isHost index && !passed then (p.skip index (p.indentAt index), trail) else p.move lookup index trail

end Playlist

end Storyline
