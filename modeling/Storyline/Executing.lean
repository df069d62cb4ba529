import Storyline.Command

set_option autoImplicit false

/-!
Commands in flight, and the rendezvous that completes them. A command that itself waits for a rendezvous is parked, so that
the rendezvous does not wait for it.
-/

namespace Storyline

structure Executing.Entry where
  id : Nat
  spot : Spot
  lane : Lane
deriving DecidableEq, Repr

structure Executing where
  nextId : Nat := 0
  entries : List Executing.Entry := []
  parked : List Nat := []
deriving DecidableEq, Repr

namespace Executing

def register (executing : Executing) (spot : Spot) (lane : Lane) : Nat × Executing :=
  (executing.nextId,
    { executing with
      nextId := executing.nextId + 1
      entries := executing.entries ++ [⟨executing.nextId, spot, lane⟩] })

def unregister (executing : Executing) (id : Nat) : Executing :=
  { executing with
    entries := executing.entries.filter fun entry => entry.id ≠ id
    parked := executing.parked.filter fun parked => parked ≠ id }

def inFlight (executing : Executing) (id : Nat) : Bool := executing.entries.any fun entry => entry.id = id

def park (executing : Executing) (id : Nat) : Executing :=
  if executing.inFlight id && !executing.parked.contains id then { executing with parked := id :: executing.parked }
  else executing

def unpark (executing : Executing) (id : Nat) : Executing :=
  { executing with parked := executing.parked.filter fun parked => parked ≠ id }

def count (executing : Executing) : Nat := executing.entries.length

/-- Whether every entry but the excepted one is finished or parked. -/
def drained (executing : Executing) (except : Option Nat) : Bool :=
  executing.entries.all fun entry => except = some entry.id || executing.parked.contains entry.id

theorem drained_none_iff (executing : Executing) :
    executing.drained none = true ↔ ∀ entry ∈ executing.entries, entry.id ∈ executing.parked := by
  simp [drained]

theorem drained_park (executing : Executing) (id : Nat) (drained : executing.drained none = true) :
    (executing.park id).drained none = true := by
  rw [drained_none_iff] at drained ⊢
  unfold park
  split
  · exact fun entry listed => List.mem_cons_of_mem id (drained entry listed)
  · exact drained

end Executing

structure Rendezvous (α : Type) where
  inProgress : Bool := false
  callbacks : List α := []
  generation : Nat := 0
deriving DecidableEq, Repr

/-- One caller leads a rendezvous; those who come while it is in progress wait for its end. -/
inductive Role where
  | leader
  | follower (generation : Nat)
deriving DecidableEq, Repr

namespace Rendezvous

variable {α : Type}

def enter (rendezvous : Rendezvous α) (callback : Option α) : Role × Rendezvous α :=
  let callbacks := rendezvous.callbacks ++ callback.toList
  if rendezvous.inProgress then (.follower rendezvous.generation, { rendezvous with callbacks := callbacks })
  else (.leader, { rendezvous with inProgress := true, callbacks := callbacks })

def pop (rendezvous : Rendezvous α) : Option α × Rendezvous α :=
  match rendezvous.callbacks with
  | callback :: callbacks => (some callback, { rendezvous with callbacks := callbacks })
  | [] => (none, { generation := rendezvous.generation + 1 })

def conclude (rendezvous : Rendezvous α) : List α × Rendezvous α :=
  (rendezvous.callbacks, { rendezvous with callbacks := [] }.pop.2)

def signal (rendezvous : Rendezvous α) : Nat := rendezvous.generation

/-- Whether a layer has been raised: it is once a rendezvous starts in its generation. -/
def raised (rendezvous : Rendezvous α) (signal : Nat) : Bool :=
  decide (signal < rendezvous.generation) || (signal = rendezvous.generation && rendezvous.inProgress)

end Rendezvous

end Storyline
