import Storyline.Random
import Storyline.Variables

set_option autoImplicit false

/-!
Commands of a script. The kind of a command says what it does when it runs (`Kind.effects`) and whether it opens a block of
nested commands (`Kind.isHost`). Applications add kinds of their own as named lists of effects.
-/

namespace Storyline

inductive Lane where
  | main
  | transient
deriving DecidableEq, Repr

def Lane.name : Lane → String
  | .main => "main"
  | .transient => "transient"

structure TextLine where
  author : Option String := none
  text : String
  revealMillis : UInt64 := 0
  waitInput : Bool := true
deriving DecidableEq, Repr

structure Target where
  script : Option String := none
  label : Option String := none
deriving DecidableEq, Repr

def Target.text : Target → String
  | ⟨some script, some label⟩ => script ++ "." ++ label
  | ⟨some script, none⟩ => script
  | ⟨none, some label⟩ => "." ++ label
  | ⟨none, none⟩ => "."

structure View where
  script : String
  index : Nat
  lane : Lane
  spot : Spot
  execution : Nat
  instant : Bool
  completing : Bool

inductive Effect where
  | assign (name : String) (op : AssignOp) (value : Expr)
  | say (line : TextLine)
  | askInput
  | rest (millis : UInt64)
  | sleep (what : String) (millis : UInt64)
  | pause (millis : UInt64)
  | jump (target : Target)
  | call (target : Target)
  | goBack
  | halt
  | schedule (millis : UInt64)
  | barrier
  | awaitOthers
  | completeOthers
  | waitOthers
  | transition (millis : UInt64)
  | capture
  | cover
  | blend (millis : UInt64) (fresh : Bool)
  | note (line : View → String)
  | setSkip (enabled : Bool) (report : Bool → String)
  | setAuto (enabled : Bool)
  | setWaiting (waiting : Bool)
  | fail (cause : Spot → Error)

/-- A kind of command that an application adds. Of what a player can be asked to do it has the effects above: it cannot start
playback, load, reset or travel. Nor has it a say in where its block leads, which is played like a group and may be empty. -/
structure Custom where
  name : String
  effects : List Effect
  host : Bool := false

inductive Kind where
  | set (name : String) (op : AssignOp) (value : Expr)
  | print (line : TextLine)
  | wait (millis : UInt64)
  | waitInput
  | label (name : String)
  | goto (target : Target)
  | gosub (target : Target)
  | ret
  | stop
  | branch (condition : Expr)
  | elseBranch (condition : Expr)
  | otherwise
  | endBranch
  | loop (condition : Expr)
  | random (weights : List Float32)
  | group
  | delay (millis : UInt64)
  | await
  | transition (millis : UInt64)
  | custom (command : Custom)

namespace Kind

def name : Kind → String
  | .set .. => "set"
  | .print _ => "print"
  | .wait _ => "wait"
  | .waitInput => "wait_input"
  | .label _ => "label"
  | .goto _ => "goto"
  | .gosub _ => "gosub"
  | .ret => "return"
  | .stop => "stop"
  | .branch _ => "if"
  | .elseBranch _ => "else_if"
  | .otherwise => "else"
  | .endBranch => "end_if"
  | .loop _ => "while"
  | .random _ => "random"
  | .group => "group"
  | .delay _ => "delay"
  | .await => "await"
  | .transition _ => "transition"
  | .custom command => command.name

def isHost : Kind → Bool
  | .branch _ | .elseBranch _ | .otherwise | .loop _ | .random _ | .group | .delay _ | .await | .transition _ => true
  | .custom command => command.host
  | _ => false

def requiresBody : Kind → Bool
  | .branch _ | .elseBranch _ | .otherwise | .loop _ | .random _ | .group | .delay _ => true
  | _ => false

def continues : Kind → Bool
  | .elseBranch _ | .otherwise | .endBranch => true
  | _ => false

def returns : Kind → Bool
  | .await | .transition _ => true
  | _ => false

def label? : Kind → Option String
  | .label name => some name
  | _ => none

def isDelay : Kind → Bool
  | .delay _ => true
  | _ => false

def effects : Kind → List Effect
  | .set name op value => [.assign name op value]
  | .print line => .say line :: if line.waitInput then [.askInput] else []
  | .wait millis => [.rest millis]
  | .waitInput => [.askInput]
  | .goto target => [.jump target]
  | .gosub target => [.call target]
  | .ret => [.goBack]
  | .stop => [.halt]
  | .delay millis => [.schedule millis]
  | .await => [.barrier]
  | .transition millis => [.transition millis]
  | .custom command => command.effects
  | .label _ | .branch _ | .elseBranch _ | .otherwise | .endBranch | .loop _ | .random _ | .group => []

end Kind

structure Command where
  indent : Nat
  spot : Spot
  guard : Option Expr := none
  wait : Bool := true
  kind : Kind

namespace Command

def name (command : Command) : String := command.kind.name

def isHost (command : Command) : Bool := command.kind.isHost

def dedent (command : Command) (levels : Nat) : Command := { command with indent := command.indent - levels }

end Command

end Storyline
