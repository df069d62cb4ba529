import Storyline.Text.Lowercase

set_option autoImplicit false

/-!
Playback modes: skipping, auto-play and the input wait. Skipping excludes the other two; turning it on may need that the
upcoming command was played before.
-/

namespace Storyline

inductive SkipMode where
  | everything
  | readOnly
deriving DecidableEq, Repr

namespace SkipMode

def name : SkipMode → String
  | .everything => "everything"
  | .readOnly => "read_only"

def ofName? (name : String) : Option SkipMode := [everything, readOnly].find? fun mode => mode.name = name

def ofInput (input : String) : Except String SkipMode :=
  match (Text.lowercase input).map (fun c => if c = '-' then '_' else c) with
  | "everything" | "all" => .ok .everything
  | "read_only" | "readonly" => .ok .readOnly
  | _ => .error ("unknown skip mode: " ++ input ++ ". Expected one of: everything, read-only")

end SkipMode

structure ModeChange where
  skip : Option Bool := none
  autoPlay : Option Bool := none
  waiting : Option Bool := none
deriving DecidableEq, Repr

def ModeChange.isEmpty (change : ModeChange) : Bool :=
  change.skip.isNone && change.autoPlay.isNone && change.waiting.isNone

structure Mode where
  skipMode : SkipMode := .readOnly
  skip : Bool := false
  autoPlay : Bool := false
  waiting : Bool := false
deriving DecidableEq, Repr

namespace Mode

def permits (mode : Mode) (visited : Bool) : Bool :=
  match mode.skipMode with
  | .everything => true
  | .readOnly => visited

def turned (before after : Bool) : Option Bool := if before = after then none else some after

def forceSkip (mode : Mode) : ModeChange × Mode :=
  (⟨turned mode.skip true, turned mode.autoPlay false, turned mode.waiting false⟩,
    { mode with skip := true, autoPlay := false, waiting := false })

def enableSkip (mode : Mode) (visited : Bool) : Option (ModeChange × Mode) :=
  if mode.permits visited then some mode.forceSkip else none

def disableSkip (mode : Mode) : ModeChange × Mode :=
  ({ skip := turned mode.skip false }, { mode with skip := false })

def setAutoPlay (mode : Mode) (enabled : Bool) : ModeChange × Mode :=
  ({ skip := if enabled then turned mode.skip false else none, autoPlay := turned mode.autoPlay enabled },
    { mode with skip := mode.skip && !enabled, autoPlay := enabled })

def setWaiting (mode : Mode) (waiting : Bool) : ModeChange × Mode :=
  if waiting && mode.skip then ({}, mode)
  else ({ waiting := turned mode.waiting waiting }, { mode with waiting := waiting })

def clear (mode : Mode) : Mode := { skipMode := mode.skipMode }

end Mode

end Storyline
