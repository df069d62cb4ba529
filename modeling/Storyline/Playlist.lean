import Storyline.Command

set_option autoImplicit false

/-!
Playlists: the commands of one script in a flat list. Nesting is in the indentation alone. A nested command belongs to the
nearest command before it that is exactly one level shallower.
-/

namespace Storyline

structure Playlist where
  script : String
  commands : Array Command

namespace Playlist

def length (p : Playlist) : Nat := p.commands.size

def command? (p : Playlist) (index : Nat) : Option Command := p.commands[index]?

def kind? (p : Playlist) (index : Nat) : Option Kind := (p.command? index).map Command.kind

def indentAt (p : Playlist) (index : Nat) : Nat := ((p.command? index).map Command.indent).getD 0

def isHost (p : Playlist) (index : Nat) : Bool := ((p.command? index).map Command.isHost).getD false

def spotAt (p : Playlist) (index : Nat) : Spot := ((p.command? index).map Command.spot).getD {}

def enters (p : Playlist) (index : Nat) : Bool :=
  match p.command? index, p.command? (index + 1) with
  | some host, some next => host.isHost && decide (host.indent < next.indent)
  | _, _ => false

/-- Whether the command at `index` is the last of a block whose host has indentation `indent`. The last command of all ends
a block only if it is nested. -/
def exits (p : Playlist) (index indent : Nat) : Bool :=
  match p.command? (index + 1) with
  | some next => decide (next.indent ≤ indent)
  | none => decide (0 < p.indentAt index)

def exitIndex (p : Playlist) (index indent : Nat) : Nat :=
  ((List.range' index (p.length - index)).find? fun i => p.exits i indent).getD (p.length - 1)

def shallower? (p : Playlist) (indent : Nat) : Nat → Option Nat
  | 0 => none
  | bound + 1 => if p.indentAt bound ≤ indent then some bound else shallower? p indent bound

def hostAt? (p : Playlist) (index indent : Nat) : Option Nat :=
  (p.shallower? indent (min index p.length)).filter fun host => p.indentAt host = indent && p.isHost host

def hostAt (p : Playlist) (index indent : Nat) : Except StructuralError Nat :=
  match p.hostAt? index indent with
  | some host => .ok host
  | none => .error (.hostNotFound (p.spotAt index))

def hostOf (p : Playlist) (index : Nat) : Except StructuralError Nat :=
  match p.indentAt index with
  | 0 => .error (.hostNotFound (p.spotAt index))
  | indent + 1 => p.hostAt index indent

def bodyEnd (p : Playlist) (host : Nat) : Nat :=
  if p.enters host then p.exitIndex (host + 1) (p.indentAt host) else host

def children (p : Playlist) (host : Nat) : List Nat :=
  (List.range' (host + 1) (p.bodyEnd host - host)).filter fun i => p.indentAt i = p.indentAt host + 1

/-! ### Validation -/

/-- A continuation stands after a member of its chain: an `if` or `else if`, or an `else` before the end. -/
def misplaced (p : Playlist) (index : Nat) (command : Command) : Bool :=
  match p.shallower? command.indent index with
  | none => true
  | some before =>
    match p.command? before with
    | none => true
    | some opener =>
      !(opener.indent = command.indent && match opener.kind, command.kind with
        | .branch _, _ => true
        | .elseBranch _, _ => true
        | .otherwise, .endBranch => true
        | _, _ => false)

def pairError? (p : Playlist) (index : Nat) : Option StructuralError :=
  match p.command? index, p.command? (index + 1) with
  | some before, some after =>
    if before.indent + 1 < after.indent then some (.indentJump after.spot before.indent after.indent)
    else if before.indent < after.indent ∧ ¬before.isHost then some (.notAHost before.spot)
    else if after.kind.continues ∧ p.misplaced (index + 1) after then some (.orphanBranch after.spot)
    else none
  | _, _ => none

def bodyError? (p : Playlist) (index : Nat) : Option StructuralError :=
  match p.command? index with
  | some command =>
    if command.kind.requiresBody ∧ ¬p.enters index then some (.emptyBlock command.spot) else none
  | none => none

def fault? (p : Playlist) : Option StructuralError :=
  match p.command? 0 with
  | none => none
  | some first =>
    if first.indent ≠ 0 then some (.indentedStart first.spot)
    else ((List.range (p.length - 1)).findSome? p.pairError?).or
      (((List.range p.length).findSome? p.bodyError?).or
        (if first.kind.continues then some (.orphanBranch first.spot) else none))

def build (script : String) (commands : List Command) : Except StructuralError Playlist :=
  let p : Playlist := ⟨script, commands.toArray⟩
  match p.fault? with
  | some fault => .error fault
  | none => .ok p

/-! ### Looking up places -/

def indexByLine? (p : Playlist) (line inline : UInt32) : Option Nat :=
  p.commands.findIdx? fun command => command.spot.line = line && command.spot.inline = inline

def indexOf? (p : Playlist) (spot : Spot) : Option Nat :=
  if spot.script = p.script then p.indexByLine? spot.line spot.inline else none

def indexFromLine? (p : Playlist) (line : UInt32) : Option Nat :=
  p.commands.findIdx? fun command => decide (line ≤ command.spot.line)

def indexOfLabel? (p : Playlist) (label : String) : Option Nat :=
  p.commands.findIdx? fun command => command.kind.label? = some label

def deferredWithin? (p : Playlist) : Nat → Nat → Option Nat
  | 0, _ => none
  | levels + 1, index =>
    match p.hostOf index with
    | .error _ => none
    | .ok host =>
      if ((p.kind? host).map Kind.isDelay).getD false then some host else deferredWithin? p levels host

/-- Nearest delay block around a command. Every host is one level up, so the indentation bounds the search. -/
def deferredHost? (p : Playlist) (index : Nat) : Option Nat := p.deferredWithin? (p.indentAt index) index

/-- The caret may rest anywhere but inside a delay block. -/
def ensureNavigable (p : Playlist) (index : Nat) : Except StructuralError Unit :=
  match p.deferredHost? index with
  | some _ => .error (.deferredNavigation (p.spotAt index))
  | none => .ok ()

def extract (p : Playlist) (host : Nat) : Except StructuralError Playlist :=
  build p.script
    (((p.commands.toList.drop (host + 1)).take (p.bodyEnd host - host)).map fun command =>
      command.dedent (p.indentAt host + 1))

end Playlist

end Storyline
