import Storyline.Player.Step

set_option autoImplicit false

/-!
A player with all its activities in time. They run one at a time, each until it has to wait; an activity that is started or
woken goes to the end of a queue. An activity that goes through very many waits that are over at once lets all others go
first. The clock stands still as long as an activity can go on, and then jumps to the next deadline.

One activity is in front: the request that is being made. It goes on when no other activity can.
-/

namespace Storyline

structure Thread where
  id : Nat
  activity : Activity
  report : Reply → Player → Option String
  since : Nat := 0

structure World where
  player : Player
  threads : List Thread := []
  queue : List Nat := []
  postponed : List Nat := []
  nextThread : Nat := 0
  turns : Nat := 0
  front : Option Activity := none

namespace World

def thread? (world : World) (id : Nat) : Option Thread := world.threads.find? fun thread => thread.id = id

def spawn (world : World) (activity : Activity) (report : Reply → Player → Option String) : World :=
  { world with
    threads := world.threads ++ [{ id := world.nextThread, activity := activity, report := report }]
    queue := world.queue ++ [world.nextThread]
    nextThread := world.nextThread + 1 }

def wake (world : World) (ids : List Nat) : World :=
  { world with queue := world.queue ++ ids.filter fun id => !world.queue.contains id }

def pass (giver : Option Nat) (world : World) (notice : Notice) : World :=
  match notice with
  | .spawned activity => world.spawn activity fun _ _ => none
  | notice =>
    let hearing := world.threads.filter fun thread => some thread.id ≠ giver && thread.activity.hears notice
    world.wake (hearing.map Thread.id)

def deliver (world : World) (giver : Option Nat) : World :=
  let notices := world.player.outbox.reverse
  notices.foldl (pass giver) { world with player := { world.player with outbox := [] } }

def setsDeadline (before after : Activity) : Bool := after.deadline?.isSome && before.deadline? ≠ after.deadline?

def step? (world : World) (id : Nat) : Option World :=
  (world.thread? id).bind fun thread =>
    (thread.activity.step? world.player).map fun moved =>
      match moved with
      | (.finished reply, player) =>
        let noted := match thread.report reply player with
          | some text => player.note text
          | none => player
        let rest := world.threads.filter fun other => other.id ≠ id
        { world with player := noted, threads := rest }.deliver none
      | (activity, player) =>
        let since := if setsDeadline thread.activity activity then world.turns else thread.since
        let threads := world.threads.map fun other =>
          if other.id = id then { thread with activity := activity, since := since } else other
        { world with player := player, threads := threads, turns := world.turns + 1 }.deliver (some id)

def stepFront? (world : World) : Option World :=
  world.front.bind fun activity =>
    (activity.step? world.player).map fun moved =>
      { world with player := moved.2, front := some moved.1, turns := world.turns + 1 }.deliver none

def reply? (world : World) : Option Reply :=
  match world.front with
  | some (.finished reply) => some reply
  | _ => none

def stamina : Nat := 128

/-- How many waits a thread has come through when its turn begins. One that waits for the time has yet to see that it is
over. -/
def wakings (world : World) (id : Nat) : Nat :=
  match world.thread? id with
  | some thread => if thread.activity.isWaiting && !thread.activity.isTimed then 1 else 0
  | none => 0

def runFront : Nat → Nat → World → World
  | 0, _, world => world
  | fuel + 1, left, world =>
    match world.stepFront? with
    | none => world
    | some next =>
      if world.front.any Activity.isTimed then
        match left with
        | 0 => world
        | left + 1 => runFront fuel left next
      else runFront fuel left next

def settle : Nat → Option (Nat × Nat) → World → World
  | 0, _, world => world
  | fuel + 1, some (id, passed), world =>
    match world.step? id with
    | none => settle fuel none world
    | some next =>
      if (world.thread? id).any fun thread => thread.activity.isTimed then
        if passed < stamina then settle fuel (some (id, passed + 1)) next
        else settle fuel none { world with postponed := world.postponed ++ [id] }
      else settle fuel (some (id, passed)) next
  | fuel + 1, none, world =>
    match world.queue, world.postponed with
    | [], [] => world
    | [], ids => settle fuel none { world with queue := ids, postponed := [] }
    | id :: queue, _ => settle fuel (some (id, world.wakings id)) { world with queue := queue }

def deadline? (world : World) : Option Nat :=
  let others := world.threads.filterMap fun thread => thread.activity.deadline?
  (others ++ (world.front.bind Activity.deadline?).toList).min?

def due (world : World) (time : Nat) : List Nat :=
  let late := world.threads.filter fun thread => thread.activity.deadline?.any fun deadline => decide (deadline ≤ time)
  let key (thread : Thread) : Nat × Nat := (thread.activity.deadline?.getD 0, thread.since)
  (late.mergeSort fun a b => (key a).1 < (key b).1 ∨ ((key a).1 = (key b).1 ∧ (key a).2 ≤ (key b).2)).map Thread.id

def jumpTo (world : World) (time : Nat) : World :=
  { world with player := { world.player with clock := time } }.wake (world.due time)

def serve : Nat → Nat → World → World
  | 0, _, world => world
  | fuel + 1, limit, world =>
    let world := runFront (fuel + 1) stamina world
    match world.reply? with
    | some _ => world
    | none =>
      if limit ≤ world.player.clock then world
      else if world.queue.isEmpty && world.stepFront?.isNone then
        serve fuel limit (world.jumpTo (min limit (world.deadline?.getD limit)))
      else serve fuel limit (settle (fuel + 1) none world)

def ask (fuel patience : Nat) (world : World) (request : Request) : Option Reply × World :=
  let served := serve fuel (world.player.clock + patience) { world with front := some (.asked request) }
  (served.reply?, settle fuel none { served with front := none })

def perform (world : World) (request : Request) : Option Reply × World :=
  let (activity, player) := world.player.ask request
  (match activity with | .finished reply => some reply | _ => none, { world with player := player }.deliver none)

def background (fuel : Nat) (world : World) (request : Request) (report : Reply → Player → String) : World :=
  settle fuel none (world.spawn (.asked request) fun reply player => some (report reply player))

end World

end Storyline
