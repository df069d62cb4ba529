import Mathlib.Data.List.Perm.Subperm
import Storyline.Player.World
import Storyline.Proofs.Footprint

set_option autoImplicit false

/-!
All ways in which the activities of a world can interleave. Any activity may make the next move, requests may come at any
time, and the clock may be set at will; the order that `settle` and `serve` keep is one of them.
-/

namespace Storyline

-- In the middle of a command, where it does not wait. A command that nobody awaits is not there before it begins.
def Activity.isBusy : Activity → Bool
  | .running execution .nobody => execution.begun && execution.wait.isNone
  | .running execution _ => execution.wait.isNone
  | _ => false

def Activity.isOver : Activity → Bool
  | .finished _ => true
  | _ => false

namespace World

variable (world : World)

def activities (world : World) : List Activity := world.threads.map Thread.activity ++ world.front.toList

inductive Move where
  | thread (id : Nat)
  | front
  -- a request is made in front, in place of the one that was there
  | ask (request : Request)
  | leave
  | background (request : Request) (report : Reply → Player → Option String)
  | pass (time : Nat)
  | arrange (queue postponed : List Nat)

def move (world : World) : Move → World
  | .thread id => (world.step? id).getD world
  | .front => world.stepFront?.getD world
  | .ask request => { world with front := some (.asked request) }
  | .leave => { world with front := none }
  | .background request report => world.spawn (.asked request) report
  | .pass time => world.jumpTo time
  | .arrange queue postponed => { world with queue := queue, postponed := postponed }

def after (world : World) (moves : List Move) : World := moves.foldl move world

def mover? (world : World) : Move → Option Activity
  | .thread id => (world.thread? id).map Thread.activity
  | .front => world.front
  | _ => none

-- Nobody is interrupted in the middle of a command.
def Allows (world : World) : Move → Prop
  | .thread id => (∀ thread ∈ world.threads, thread.id ≠ id → thread.activity.isBusy = false) ∧
      ∀ activity ∈ world.front, activity.isBusy = false
  | .front => ∀ thread ∈ world.threads, thread.activity.isBusy = false
  | _ => ∀ activity ∈ world.activities, activity.isBusy = false

def Orderly (world : World) : List Move → Prop
  | [] => True
  | move :: moves => world.Allows move ∧ (world.move move).Orderly moves

-- Requests are made one after another, each when the one before is over.
def Awaits (world : World) : Move → Prop
  | .ask _ | .leave => ∀ activity ∈ world.front, activity.isOver = true
  | .background .. => False
  | _ => True

def Awaited (world : World) : List Move → Prop
  | [] => True
  | move :: moves => world.Awaits move ∧ (world.move move).Awaited moves

instance (world : World) : (move : Move) → Decidable (world.Awaits move)
  | .ask _ | .leave => inferInstanceAs (Decidable (∀ activity ∈ world.front, activity.isOver = true))
  | .background .. => .isFalse id
  | .thread _ | .front | .pass _ | .arrange .. => .isTrue trivial

instance decidableAwaited (world : World) : (moves : List Move) → Decidable (world.Awaited moves)
  | [] => .isTrue trivial
  | move :: moves =>
      have := decidableAwaited (world.move move) moves
      inferInstanceAs (Decidable (world.Awaits move ∧ (world.move move).Awaited moves))

instance (world : World) : (move : Move) → Decidable (world.Allows move)
  | .thread id => inferInstanceAs (Decidable ((∀ thread ∈ world.threads, thread.id ≠ id → thread.activity.isBusy = false) ∧
      ∀ activity ∈ world.front, activity.isBusy = false))
  | .front => inferInstanceAs (Decidable (∀ thread ∈ world.threads, thread.activity.isBusy = false))
  | .ask _ | .leave | .background .. | .pass _ | .arrange .. =>
      inferInstanceAs (Decidable (∀ activity ∈ world.activities, activity.isBusy = false))

instance decidableOrderly (world : World) : (moves : List Move) → Decidable (world.Orderly moves)
  | [] => .isTrue trivial
  | move :: moves =>
      have := decidableOrderly (world.move move) moves
      inferInstanceAs (Decidable (world.Allows move ∧ (world.move move).Orderly moves))

theorem after_nil : world.after [] = world := rfl

theorem after_cons (move : Move) (moves : List Move) :
    world.after (move :: moves) = (world.move move).after moves := rfl

theorem after_append (first second : List Move) :
    world.after (first ++ second) = (world.after first).after second := List.foldl_append

/-! ### The running program is one of them -/

section Program

variable (world : World)

theorem after_thread (id : Nat) (next : World) (step : world.step? id = some next) :
    world.after [.thread id] = next := by
  simp [after, move, step]

theorem after_front (next : World) (step : world.stepFront? = some next) : world.after [.front] = next := by
  simp [after, move, step]

theorem after_then (move : Move) (next : World) (first : world.after [move] = next) (last : World)
    (rest : ∃ moves, last = next.after moves) : ∃ moves, last = world.after moves := by
  obtain ⟨moves, rfl⟩ := rest
  exact ⟨move :: moves, by rw [← first]; rfl⟩

theorem run_front_after (fuel left : Nat) : ∃ moves, runFront fuel left world = world.after moves := by
  induction fuel generalizing left world with
  | zero => exact ⟨[], rfl⟩
  | succ fuel ih =>
      unfold runFront
      cases step : world.stepFront? with
      | none => exact ⟨[], rfl⟩
      | some next =>
          have first := after_front world next step
          by_cases timed : world.front.any Activity.isTimed = true
          · cases left with
            | zero => exact ⟨[], by simp [timed, after_nil]⟩
            | succ left =>
                simp only [timed, if_true]
                exact after_then world _ next first _ (ih next left)
          · simp only [timed]
            exact after_then world _ next first _ (ih next left)

theorem settle_after (fuel : Nat) (turn : Option (Nat × Nat)) : ∃ moves, settle fuel turn world = world.after moves := by
  induction fuel generalizing turn world with
  | zero => exact ⟨[], by cases turn <;> rfl⟩
  | succ fuel ih =>
      cases turn with
      | some turn =>
          obtain ⟨id, passed⟩ := turn
          simp only [settle]
          cases step : world.step? id with
          | none => exact ih world none
          | some next =>
              have first := after_thread world id next step
              by_cases timed : (world.thread? id).any (fun thread => thread.activity.isTimed) = true
              · by_cases tired : passed < stamina
                · simp only [timed, tired, if_true]
                  exact after_then world _ next first _ (ih next _)
                · simp only [timed, tired, if_true, if_false]
                  exact after_then world (.arrange world.queue (world.postponed ++ [id])) _ rfl _ (ih _ none)
              · simp only [timed]
                exact after_then world _ next first _ (ih next _)
      | none =>
          simp only [settle]
          split
          · exact ⟨[], rfl⟩
          · exact after_then world (.arrange world.postponed []) _ rfl _ (ih _ none)
          · next id queue _ => exact after_then world (.arrange queue world.postponed) _ rfl _ (ih _ _)

theorem serve_after (fuel limit : Nat) : ∃ moves, serve fuel limit world = world.after moves := by
  induction fuel generalizing world with
  | zero => exact ⟨[], rfl⟩
  | succ fuel ih =>
      obtain ⟨first, front⟩ := run_front_after world (fuel + 1) stamina
      have rest (next : World) (moves : List Move) (then_ : next = (runFront (fuel + 1) stamina world).after moves) :
          ∃ moves, serve fuel limit next = world.after moves := by
        obtain ⟨last, served⟩ := ih next
        exact ⟨first ++ (moves ++ last), by rw [served, then_, front, after_append, after_append]⟩
      rw [serve]
      split
      · exact ⟨first, front⟩
      · split_ifs
        · exact ⟨first, front⟩
        · exact rest _ [.pass _] rfl
        · obtain ⟨moves, settled⟩ := settle_after (runFront (fuel + 1) stamina world) (fuel + 1) none
          exact rest _ moves settled

theorem ask_after (fuel patience : Nat) (request : Request) :
    ∃ moves, (world.ask fuel patience request).2 = world.after moves := by
  obtain ⟨first, served⟩ := serve_after { world with front := some (.asked request) } fuel (world.player.clock + patience)
  obtain ⟨last, settled⟩ := settle_after
    { serve fuel (world.player.clock + patience) { world with front := some (.asked request) } with front := none } fuel none
  refine ⟨.ask request :: first ++ .leave :: last, ?_⟩
  simp only [World.ask, settled]
  rw [after_append, after_cons, after_cons, show world.move (.ask request) = { world with front := some (.asked request) }
    from rfl, ← served]
  rfl

end Program

/-! ### What a move can do -/

-- Threads have numbers of their own, and everything told has been passed on.
structure Numbered (world : World) : Prop where
  distinct : (world.threads.map Thread.id).Nodup
  below : ∀ thread ∈ world.threads, thread.id < world.nextThread
  told : world.player.outbox = []

theorem numbered_new (player : Player) (told : player.outbox = []) : Numbered { player := player } :=
  ⟨List.nodup_nil, fun _ member => (List.not_mem_nil member).elim, told⟩

inductive Comes (world : World) (move : Move) (next : World) : Prop where
  -- only the clock changes, and requests may come
  | stays (clock : Nat) (requests : List Request) (player : next.player = { world.player with clock := clock })
      (activities : next.activities.Subperm (requests.map Activity.asked ++ world.activities))
      (kept : world.Awaits move → ∀ other ∈ world.activities, other.isOver = false → other ∈ next.activities)
      (idle : ∀ activity, world.mover? move = some activity → activity.step? world.player = none)
  | moves (activity successor : Activity) (others : List Activity) (player : Player) (stage : List (Nat × String))
      (mover : world.mover? move = some activity) (there : world.activities.Perm (activity :: others))
      (alone : world.Allows move → ∀ other ∈ others, other.isBusy = false)
      (step : activity.step? world.player = some (successor, player))
      (told : next.player = { player with outbox := [], stage := stage })
      (activities : next.activities.Subperm (successor :: (others ++ player.spawns)))
      (kept : ∀ other ∈ successor :: (others ++ player.spawns), other.isOver = false → other ∈ next.activities)

theorem asked_or_before {world next : World} {requests : List Request}
    (activities : next.activities.Subperm (requests.map Activity.asked ++ world.activities)) {activity : Activity}
    (member : activity ∈ next.activities) : (∃ request, activity = .asked request) ∨ activity ∈ world.activities := by
  rcases List.mem_append.mp (activities.subset member) with asked | old
  · obtain ⟨request, _, same⟩ := List.mem_map.mp asked
    exact .inl ⟨request, same.symm⟩
  · exact .inr old

theorem count_stays {world next : World} {requests : List Request}
    (activities : next.activities.Subperm (requests.map Activity.asked ++ world.activities)) (counts : Activity → Bool)
    (idle : ∀ request, counts (.asked request) = false) : next.activities.countP counts ≤ world.activities.countP counts := by
  have requested : (requests.map Activity.asked).countP counts = 0 := by
    refine List.countP_eq_zero.mpr fun activity member => ?_
    obtain ⟨request, _, rfl⟩ := List.mem_map.mp member
    exact Bool.eq_false_iff.mp (idle request)
  have fewer := activities.countP_le counts
  rwa [List.countP_append, requested, Nat.zero_add] at fewer

theorem spawn_numbered (numbered : world.Numbered) (activity : Activity)
    (report : Reply → Player → Option String) : (world.spawn activity report).Numbered := by
  refine ⟨?_, ?_, numbered.told⟩
  · have fresh : world.nextThread ∉ world.threads.map Thread.id := by
      intro member
      obtain ⟨thread, there, same⟩ := List.mem_map.mp member
      exact Nat.lt_irrefl _ (same ▸ numbered.below thread there)
    simp only [spawn, List.map_append, List.map_cons, List.map_nil]
    exact List.nodup_append.mpr ⟨numbered.distinct, by simp, by
      rintro id member _ (_ | ⟨_, ⟨⟩⟩) rfl
      exact fresh member⟩
  · intro thread member
    rcases List.mem_append.mp member with old | new
    · exact Nat.lt_succ_of_lt (numbered.below thread old)
    · obtain rfl := List.mem_singleton.mp new
      exact Nat.lt_succ_self _

theorem pass_spec (giver : Option Nat) (world : World) (notice : Notice) :
    (pass giver world notice).player = world.player ∧ (pass giver world notice).front = world.front ∧
      (pass giver world notice).threads.map Thread.activity =
        world.threads.map Thread.activity ++ notice.spawned?.toList ∧
      (world.Numbered → (pass giver world notice).Numbered) := by
  cases notice with
  | spawned activity => exact ⟨rfl, rfl, by simp [pass, spawn, Notice.spawned?], fun numbered => spawn_numbered _ numbered _ _⟩
  | _ => exact ⟨rfl, rfl, (List.append_nil _).symm, fun numbered => ⟨numbered.distinct, numbered.below, numbered.told⟩⟩

theorem fold_pass_spec (giver : Option Nat) (notices : List Notice) (world : World) :
    (notices.foldl (pass giver) world).player = world.player ∧ (notices.foldl (pass giver) world).front = world.front ∧
      (notices.foldl (pass giver) world).threads.map Thread.activity =
        world.threads.map Thread.activity ++ notices.filterMap Notice.spawned? ∧
      (world.Numbered → (notices.foldl (pass giver) world).Numbered) := by
  induction notices generalizing world with
  | nil => exact ⟨rfl, rfl, (List.append_nil _).symm, id⟩
  | cons notice notices ih =>
      obtain ⟨player, front, threads, numbered⟩ := pass_spec giver world notice
      obtain ⟨players, fronts, more, stays⟩ := ih (pass giver world notice)
      refine ⟨players.trans player, fronts.trans front, ?_, fun before => stays (numbered before)⟩
      rw [List.foldl_cons, more, threads, List.append_assoc]
      cases spawned : notice.spawned? <;> simp [spawned]

theorem deliver_spec (giver : Option Nat) :
    (world.deliver giver).player = { world.player with outbox := [] } ∧ (world.deliver giver).front = world.front ∧
      (world.deliver giver).threads.map Thread.activity = world.threads.map Thread.activity ++ world.player.spawns :=
  have spec := fold_pass_spec giver world.player.outbox.reverse { world with player := { world.player with outbox := [] } }
  ⟨spec.1, spec.2.1, spec.2.2.1⟩

theorem deliver_numbered (giver : Option Nat) (distinct : (world.threads.map Thread.id).Nodup)
    (below : ∀ thread ∈ world.threads, thread.id < world.nextThread) : (world.deliver giver).Numbered :=
  (fold_pass_spec giver world.player.outbox.reverse
    { world with player := { world.player with outbox := [] } }).2.2.2 ⟨distinct, below, rfl⟩

-- The threads around one of them.
structure Around (world : World) (id : Nat) (thread : Thread) (left right : List Thread) : Prop where
  threads : world.threads = left ++ thread :: right
  here : thread.id = id
  left : ∀ other ∈ left, other.id ≠ id
  right : ∀ other ∈ right, other.id ≠ id

theorem thread_around (distinct : (world.threads.map Thread.id).Nodup) (id : Nat) (thread : Thread)
    (found : world.thread? id = some thread) : ∃ left right, Around world id thread left right := by
  obtain ⟨same, left, right, threads, before⟩ := List.find?_eq_some_iff_append.mp found
  have here : thread.id = id := by simpa using same
  refine ⟨left, right, threads, here, by simpa using before, fun other member equal => ?_⟩
  rw [threads, List.map_append, List.map_cons] at distinct
  have fresh := (List.nodup_cons.mp (List.nodup_append.mp distinct).2.1).1
  exact fresh (List.mem_map.mpr ⟨other, member, equal.trans here.symm⟩)

theorem perm_spawns (threads front spawns : List Activity) :
    (threads ++ spawns ++ front).Perm (threads ++ front ++ spawns) := by
  rw [List.append_assoc, List.append_assoc]
  exact List.Perm.append_left _ List.perm_append_comm

section Around

variable {world : World} {id : Nat} {thread : Thread} {left right : List Thread} (around : Around world id thread left right)
include around

theorem around_filter : world.threads.filter (fun other => other.id ≠ id) = left ++ right := by
  have kept (others : List Thread) (apart : ∀ other ∈ others, other.id ≠ id) :
      others.filter (fun other => other.id ≠ id) = others := List.filter_eq_self.mpr (by simpa using apart)
  rw [around.threads, List.filter_append, List.filter_cons_of_neg (by simp [around.here]), kept left around.left,
    kept right around.right]

theorem around_map (new : Thread) :
    world.threads.map (fun other => if other.id = id then new else other) = left ++ new :: right := by
  have kept (others : List Thread) (apart : ∀ other ∈ others, other.id ≠ id) :
      others.map (fun other => if other.id = id then new else other) = others := by
    conv_rhs => rw [← List.map_id others]
    exact List.map_congr_left fun other member => if_neg (apart other member)
  rw [around.threads, List.map_append, List.map_cons, if_pos around.here, kept left around.left, kept right around.right]

theorem around_activities : world.activities.Perm
    (thread.activity :: ((left ++ right).map Thread.activity ++ world.front.toList)) := by
  rw [activities, around.threads, List.map_append, List.map_cons, List.map_append]
  exact (List.perm_middle.append_right _).trans (by rw [List.cons_append])

end Around

section Step

variable {world : World} {id : Nat} {thread : Thread} {left right : List Thread} (around : Around world id thread left right)
include around

theorem around_alone (allowed : world.Allows (.thread id)) :
    ∀ other ∈ (left ++ right).map Thread.activity ++ world.front.toList, other.isBusy = false := by
  intro other member
  rcases List.mem_append.mp member with inThreads | inFront
  · obtain ⟨neighbour, there, rfl⟩ := List.mem_map.mp inThreads
    rcases List.mem_append.mp there with first | last
    · exact allowed.1 neighbour (around.threads ▸ List.mem_append_left _ first) (around.left neighbour first)
    · exact allowed.1 neighbour (around.threads ▸ List.mem_append_right _ (List.mem_cons_of_mem _ last))
        (around.right neighbour last)
  · exact allowed.2 other (Option.mem_toList.mp inFront)

theorem finish_comes (numbered : world.Numbered) (found : world.thread? id = some thread) (reply : Reply) (player : Player)
    (stage : List (Nat × String)) (step : thread.activity.step? world.player = some (.finished reply, player)) :
    let next := { world with player := { player with stage := stage }, threads := left ++ right }.deliver none
    Comes world (.thread id) next ∧ next.Numbered := by
  intro next
  obtain ⟨told, front, threads⟩ :=
    deliver_spec { world with player := { player with stage := stage }, threads := left ++ right } none
  have distinct := numbered.distinct
  have below := numbered.below
  rw [around.threads] at distinct below
  refine ⟨.moves thread.activity (.finished reply) _ player stage (by simp [mover?, found]) (around_activities around)
    (around_alone around) step told ?_ ?_, deliver_numbered _ _ ?_ fun other member => below other ?_⟩
  · rw [activities, front, threads]
    refine List.Subperm.trans (List.Perm.subperm ?_) (List.sublist_cons_self _ _).subperm
    exact perm_spawns _ _ _
  · intro other member going
    rw [activities, front, threads]
    rcases List.mem_cons.mp member with rfl | rest
    · cases going
    · exact (perm_spawns _ _ _).mem_iff.mpr rest
  · simp only [List.map_append, List.map_cons] at distinct ⊢
    exact distinct.sublist (List.Sublist.append_left (List.sublist_cons_self _ _) _)
  · rcases List.mem_append.mp member with first | last
    · exact List.mem_append_left _ first
    · exact List.mem_append_right _ (List.mem_cons_of_mem _ last)

theorem go_comes (numbered : world.Numbered) (found : world.thread? id = some thread) (new : Thread) (player : Player)
    (turns : Nat) (same : new.id = thread.id)
    (step : thread.activity.step? world.player = some (new.activity, player)) :
    let next := { world with player := player, threads := left ++ new :: right, turns := turns }.deliver (some id)
    Comes world (.thread id) next ∧ next.Numbered := by
  intro next
  obtain ⟨told, front, threads⟩ :=
    deliver_spec { world with player := player, threads := left ++ new :: right, turns := turns } (some id)
  have perm : next.activities.Perm
      (new.activity :: ((left ++ right).map Thread.activity ++ world.front.toList ++ player.spawns)) := by
    rw [activities, front, threads]
    simp only [List.map_append, List.map_cons]
    refine ((List.perm_middle.append_right _).append_right _).trans ?_
    rw [List.cons_append, List.cons_append, ← List.map_append]
    exact (perm_spawns _ _ _).cons _
  have distinct := numbered.distinct
  have below := numbered.below
  rw [around.threads] at distinct below
  refine ⟨.moves thread.activity new.activity _ player player.stage (by simp [mover?, found]) (around_activities around)
    (around_alone around) step told perm.subperm fun other member _ => perm.mem_iff.mpr member,
    deliver_numbered _ _ ?_ fun other member => ?_⟩
  · simpa [same] using distinct
  · rcases List.mem_append.mp member with first | last
    · exact below other (List.mem_append_left _ first)
    · rcases List.mem_cons.mp last with rfl | last
      · rw [same]
        exact below thread (List.mem_append_right _ List.mem_cons_self)
      · exact below other (List.mem_append_right _ (List.mem_cons_of_mem _ last))

end Step

theorem thread_comes (numbered : world.Numbered) (id : Nat) (next : World)
    (moved : world.step? id = some next) : Comes world (.thread id) next ∧ next.Numbered := by
  obtain ⟨thread, found, moved⟩ := Option.bind_eq_some_iff.mp moved
  obtain ⟨⟨successor, player⟩, step, moved⟩ := Option.map_eq_some_iff.mp moved
  obtain ⟨left, right, around⟩ := thread_around world numbered.distinct id thread found
  cases successor with
  | finished reply =>
      cases noted : thread.report reply player with
      | none =>
          simp only [noted, around_filter around] at moved
          exact moved ▸ finish_comes around numbered found reply player player.stage step
      | some text =>
          simp only [noted, around_filter around] at moved
          exact moved ▸ finish_comes around numbered found reply player _ step
  | _ =>
      simp only [around_map around] at moved
      exact moved ▸ go_comes around numbered found _ player _ rfl step

theorem front_comes (numbered : world.Numbered) (next : World) (moved : world.stepFront? = some next) :
    Comes world .front next ∧ next.Numbered := by
  obtain ⟨activity, front, moved⟩ := Option.bind_eq_some_iff.mp moved
  obtain ⟨⟨successor, player⟩, step, rfl⟩ := Option.map_eq_some_iff.mp moved
  have spec := deliver_spec { world with player := player, front := some successor, turns := world.turns + 1 } none
  have perm : (deliver { world with player := player, front := some successor, turns := world.turns + 1 } none).activities.Perm
      (successor :: (world.threads.map Thread.activity ++ player.spawns)) := by
    rw [activities, spec.2.1, spec.2.2]
    exact List.perm_append_singleton _ _
  refine ⟨.moves activity successor (world.threads.map Thread.activity) player player.stage front ?_ ?_ step spec.1
    perm.subperm fun other member _ => perm.mem_iff.mpr member, ?_⟩
  · rw [activities, front]
    exact List.perm_append_singleton _ _
  · rintro allowed other member
    obtain ⟨thread, there, rfl⟩ := List.mem_map.mp member
    exact allowed thread there
  · exact deliver_numbered _ _ numbered.distinct numbered.below

theorem thread_acts {world : World} {id : Nat} {thread : Thread} (found : world.thread? id = some thread)
    {successor : Activity} {player : Player} (step : thread.activity.step? world.player = some (successor, player)) :
    ∃ stage, (world.move (.thread id)).player = { player with outbox := [], stage := stage } ∧
      ((∀ reply, thread.report reply player = none) → stage = player.stage) := by
  simp only [move, step?, found, step, Option.bind_some, Option.map_some, Option.getD_some]
  cases successor with
  | finished reply =>
      rw [(deliver_spec _ none).1]
      cases noted : thread.report reply player with
      | none => exact ⟨player.stage, rfl, fun _ => rfl⟩
      | some text => exact ⟨_, rfl, fun quiet => by cases noted.symm.trans (quiet reply)⟩
  | _ => exact ⟨player.stage, (deliver_spec _ (some id)).1, fun _ => rfl⟩

theorem move_acts (move : Move) (activity : Activity) (moved : Activity × Player)
    (mover : world.mover? move = some activity) (step : activity.step? world.player = some moved) :
    ∃ stage, (world.move move).player = { moved.2 with outbox := [], stage := stage } := by
  cases move with
  | thread id =>
      obtain ⟨thread, found, rfl⟩ := Option.map_eq_some_iff.mp mover
      obtain ⟨stage, acts, _⟩ := thread_acts found step
      exact ⟨stage, acts⟩
  | front =>
      simp only [mover?] at mover
      simp only [World.move, stepFront?, mover, step, Option.bind_some, Option.map_some, Option.getD_some]
      exact ⟨moved.2.stage, (deliver_spec _ none).1⟩
  | _ => cases mover

theorem move_comes (numbered : world.Numbered) (move : Move) :
    Comes world move (world.move move) ∧ (world.move move).Numbered := by
  have still (idle : ∀ activity, world.mover? move = some activity → activity.step? world.player = none) :
      Comes world move world :=
    .stays world.player.clock [] rfl (List.Subperm.refl _) (fun _ _ member _ => member) idle
  -- whoever is in front is over, and makes room
  have others (front : Option Activity) (gone : ∀ activity ∈ world.front, activity.isOver = true) (other : Activity)
      (member : other ∈ world.activities) (going : other.isOver = false) :
      other ∈ world.threads.map Thread.activity ++ front.toList := by
    rcases List.mem_append.mp member with thread | infront
    · exact List.mem_append_left _ thread
    · rw [gone other (Option.mem_toList.mp infront)] at going
      cases going
  cases move with
  | thread id =>
      cases moved : world.step? id with
      | none =>
          have idle (activity : Activity) (mover : world.mover? (.thread id) = some activity) :
              activity.step? world.player = none := by
            obtain ⟨thread, found, rfl⟩ := Option.map_eq_some_iff.mp mover
            simpa [World.step?, found] using moved
          simpa [World.move, moved] using And.intro (still idle) numbered
      | some next => simpa [World.move, moved] using thread_comes world numbered id next moved
  | front =>
      cases moved : world.stepFront? with
      | none =>
          have idle (activity : Activity) (mover : world.front = some activity) : activity.step? world.player = none := by
            simpa [stepFront?, mover] using moved
          simpa [World.move, moved] using And.intro (still idle) numbered
      | some next => simpa [World.move, moved] using front_comes world numbered next moved
  | ask request =>
      refine ⟨.stays world.player.clock [request] rfl ?_ (others (some (.asked request))) (fun _ mover => by cases mover),
        numbered.distinct, numbered.below, numbered.told⟩
      refine (List.perm_append_singleton _ _).subperm.trans ?_
      exact ((List.sublist_append_left _ _).cons_cons _).subperm
  | leave =>
      refine ⟨.stays world.player.clock [] rfl ?_ (others none) (fun _ mover => by cases mover), numbered.distinct,
        numbered.below, numbered.told⟩
      exact ((List.Sublist.append_left (List.nil_sublist _) _)).subperm
  | background request report =>
      refine ⟨.stays world.player.clock [request] rfl ?_ nofun (fun _ mover => by cases mover),
        spawn_numbered world numbered _ _⟩
      rw [activities]
      simp only [World.move, spawn, List.map_append, List.map_cons, List.map_nil]
      refine List.Perm.subperm ?_
      exact (List.perm_append_singleton _ _).append_right _
  | pass time =>
      exact ⟨.stays time [] rfl (List.Subperm.refl _) (fun _ _ member _ => member) (fun _ mover => by cases mover),
        numbered.distinct, numbered.below, numbered.told⟩
  | arrange queue postponed =>
      exact ⟨.stays world.player.clock [] rfl (List.Subperm.refl _) (fun _ _ member _ => member)
        (fun _ mover => by cases mover), numbered.distinct, numbered.below, numbered.told⟩

/-! ### From moves to runs -/

-- What holds at the start and is kept by every move holds after every run; a move may use that it was allowed.
theorem after_orderly (holds : World → Prop)
    (kept : ∀ world move, world.Numbered → holds world → world.Allows move → holds (world.move move)) (world : World)
    (numbered : world.Numbered) (start : holds world) (moves : List Move) (orderly : world.Orderly moves) :
    (world.after moves).Numbered ∧ holds (world.after moves) := by
  induction moves generalizing world with
  | nil => exact ⟨numbered, start⟩
  | cons move moves ih =>
      exact ih _ (move_comes world numbered move).2 (kept world move numbered start orderly.1) orderly.2

-- What every step does to the player, every run does, if the clock, the stage and what is told do not matter.
theorem after_relates (holds : Player → Player → Prop)
    (trans : ∀ {one two three : Player}, holds one two → holds two three → holds one three)
    (aside : ∀ (player : Player) clock outbox stage,
      holds player { player with clock := clock, outbox := outbox, stage := stage })
    (each : ∀ {activity : Activity} {player : Player} {moved : Activity × Player},
      activity.step? player = some moved → holds player moved.2)
    (numbered : world.Numbered) (moves : List Move) : holds world.player (world.after moves).player := by
  induction moves generalizing world with
  | nil => exact aside world.player _ _ _
  | cons move moves ih =>
      obtain ⟨comes, next⟩ := move_comes world numbered move
      refine trans ?_ (ih _ next)
      cases comes with
      | stays clock _ player => exact player ▸ aside world.player clock _ _
      | moves _ _ _ player stage _ _ _ step told => exact told ▸ trans (each step) (aside player _ _ stage)

theorem after_numbered (numbered : world.Numbered) (moves : List Move) : (world.after moves).Numbered := by
  induction moves generalizing world with
  | nil => exact numbered
  | cons move moves ih => exact ih _ (move_comes world numbered move).2

end World

end Storyline
