import Storyline.Save

set_option autoImplicit false

/-!
The history that rolling back goes through: a bounded list of snapshots, newest last. The oldest makes room when the list is
full, and ids grow with every snapshot ever kept.
-/

namespace Storyline

structure History where
  capacity : Nat
  snapshots : List Snapshot := []
  nextId : Nat := 0

namespace History

def ofCapacity (capacity : Nat) : History := { capacity := max capacity 1 }

def push (history : History) (snapshot : Snapshot) : History :=
  let kept := if history.capacity ≤ history.snapshots.length then history.snapshots.drop 1 else history.snapshots
  { history with snapshots := kept ++ [{ snapshot with id := history.nextId }], nextId := history.nextId + 1 }

def permitLast : List Snapshot → List Snapshot
  | [] => []
  | [newest] => [{ newest with permitted := true }]
  | snapshot :: rest => snapshot :: permitLast rest

def permit (history : History) : History := { history with snapshots := permitLast history.snapshots }

def find? (history : History) (test : Spot → Bool) : Option Snapshot :=
  history.snapshots.reverse.find? fun snapshot => snapshot.permitted && test snapshot.spot

def restore (history : History) (snapshot : Snapshot) : History :=
  { history with snapshots := history.snapshots.filter fun kept => kept.id ≤ snapshot.id }

def clear (history : History) : History := { history with snapshots := [] }

end History

end Storyline
