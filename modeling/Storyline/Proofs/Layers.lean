import Storyline.Proofs.Rollback

set_option autoImplicit false

/-!
Layers and threads. Whatever is under way belongs to a layer that was there when it started, and a layer that was given up
stays given up. A thread stays as it is while others move, and keeps what each of its own steps keeps.
-/

namespace Storyline

namespace World

variable (world : World)

/-! ### Layers -/

-- Whatever is under way belongs to layers that were there when it started.
structure Layered (world : World) : Prop where
  runs : ∀ activity ∈ world.activities, ∀ run, activity.plays? = some run → run.full ≤ world.player.abandoned
  tokens : ∀ execution ∈ world.executions, execution.token.full ≤ world.player.abandoned ∧
    execution.token.completion ≤ world.player.rendezvous.generation

section Layered

variable {world next : World} {activity successor : Activity} {others : List Activity} {player : Player}

theorem runs_moves (layered : world.Layered) (told : world.player.outbox = [])
    (there : world.activities.Perm (activity :: others)) (step : activity.step? world.player = some (successor, player))
    (activities : next.activities.Subperm (successor :: (others ++ player.spawns))) (other : Activity)
    (member : other ∈ next.activities) (run : Run) (plays : other.plays? = some run) : run.full ≤ player.abandoned := by
  have spares := activity.step_spares world.player _ step
  have before (one : Activity) (there_ : one ∈ activity :: others) (own : Run) (played : one.plays? = some own) :
      own.full ≤ player.abandoned :=
    Nat.le_trans (layered.runs one (there.mem_iff.mpr there_) own played) spares.abandons
  rcases List.mem_cons.mp (activities.subset member) with rfl | member
  · obtain ⟨own, played, _, same⟩ := step_plays step run plays
    exact same ▸ before activity List.mem_cons_self own played
  · rcases List.mem_append.mp member with old | spawned
    · exact before other (List.mem_cons_of_mem _ old) run plays
    · have nothing : world.player.scheduled = [] := by
        rw [Player.scheduled, told]
        rfl
      rcases spares.layered run (mem_scheduled player other spawned run plays) with old | below
      · rw [nothing] at old
        cases old
      · exact below

theorem layers_moves (layered : world.Layered) (step : activity.step? world.player = some (successor, player))
    (execution : Execution) (arises : Arises world others player execution) :
    execution.token.full ≤ player.abandoned ∧ execution.token.completion ≤ player.rendezvous.generation := by
  have spares := activity.step_spares world.player _ step
  have before (old : Execution) (under : old ∈ world.executions) :
      old.token.full ≤ player.abandoned ∧ old.token.completion ≤ player.rendezvous.generation :=
    ⟨Nat.le_trans (layered.tokens old under).1 spares.abandons, Nat.le_trans (layered.tokens old under).2 spares.ages⟩
  cases arises with
  | held _ _ _ under => exact before execution under
  | goes old under same _ =>
      rw [(Execution.origin_same same).2.2.2]
      exact before old under
  | starts _ _ _ new => exact ⟨new.full, new.completion⟩

end Layered

theorem move_layered (numbered : world.Numbered) (layered : world.Layered) (move : Move) :
    (world.move move).Layered := by
  cases (move_comes world numbered move).1 with
  | stays clock requests player activities =>
      refine ⟨fun activity member run plays => ?_, fun execution under => ?_⟩
      · rw [player]
        rcases asked_or_before activities member with ⟨request, rfl⟩ | old
        · cases plays
        · exact layered.runs activity old run plays
      · rw [player]
        exact layered.tokens execution (executions_stay activities execution under)
  | moves activity successor others player stage _ there _ step told activities =>
      refine ⟨fun other member run plays => ?_, fun execution under => ?_⟩
      · rw [told]
        exact runs_moves layered numbered.told there step activities other member run plays
      · rw [told]
        exact layers_moves layered step execution (executions_arise numbered.told there step activities execution under)

theorem layered_after (numbered : world.Numbered) (layered : world.Layered) (moves : List Move) :
    (world.after moves).Layered := by
  induction moves generalizing world with
  | nil => exact layered
  | cons move moves ih => exact ih _ (move_comes world numbered move).2 (move_layered world numbered layered move)

-- A player that was stopped plays again only under a new generation, and what was given up stays given up.
structure Recovers (before after : Player) : Prop where
  rises : Rises before after
  abandoned : before.abandoned ≤ after.abandoned

theorem recovers_after (numbered : world.Numbered) (moves : List Move) :
    Recovers world.player (world.after moves).player :=
  world.after_relates Recovers
    (fun first second => ⟨first.rises.trans second.rises, Nat.le_trans first.abandoned second.abandoned⟩)
    (fun _ _ _ _ => ⟨⟨Nat.le_refl _, .inl⟩, Nat.le_refl _⟩)
    (fun step => ⟨(Activity.step_spares _ _ _ step).rises, (Activity.step_spares _ _ _ step).abandons⟩) numbered moves

/-! ### Threads -/

theorem fold_pass_find (giver : Option Nat) (notices : List Notice) (world : World) (id : Nat) (old : id < world.nextThread) :
    (notices.foldl (pass giver) world).thread? id = world.thread? id ∧
      world.nextThread ≤ (notices.foldl (pass giver) world).nextThread := by
  induction notices generalizing world with
  | nil => exact ⟨rfl, Nat.le_refl _⟩
  | cons notice notices ih =>
      have passed : (pass giver world notice).thread? id = world.thread? id ∧
          world.nextThread ≤ (pass giver world notice).nextThread := by
        cases notice with
        | spawned activity =>
            refine ⟨?_, Nat.le_succ _⟩
            have other : world.nextThread ≠ id := Nat.ne_of_gt old
            simp [pass, spawn, thread?, List.find?_append, other]
        | _ => exact ⟨rfl, Nat.le_refl _⟩
      obtain ⟨same, grows⟩ := ih (pass giver world notice) (Nat.lt_of_lt_of_le old passed.2)
      exact ⟨same.trans passed.1, Nat.le_trans passed.2 grows⟩

theorem deliver_find (giver : Option Nat) (id : Nat) (old : id < world.nextThread) :
    (world.deliver giver).thread? id = world.thread? id ∧ world.nextThread ≤ (world.deliver giver).nextThread :=
  fold_pass_find giver world.player.outbox.reverse { world with player := { world.player with outbox := [] } } id old

theorem find_without (threads : List Thread) (mover id : Nat) :
    (threads.filter fun other => other.id ≠ mover).find? (fun thread => thread.id = id) =
      if id = mover then none else threads.find? fun thread => thread.id = id := by
  rw [List.find?_filter]
  split
  · next same =>
      subst same
      exact List.find?_eq_none.mpr (by simp)
  · next other =>
      congr
      funext thread
      by_cases here : thread.id = id
      · simp [here, other]
      · simp [here]

theorem find_replaced (threads : List Thread) (new : Thread) (id : Nat) :
    (threads.map fun other => if other.id = new.id then new else other).find? (fun thread => thread.id = id) =
      if id = new.id then (threads.find? fun thread => thread.id = id).map (fun _ => new)
      else threads.find? fun thread => thread.id = id := by
  induction threads with
  | nil => simp
  | cons thread threads ih =>
      rw [List.map_cons, List.find?_cons, List.find?_cons, ih]
      by_cases own : thread.id = new.id
      · by_cases here : id = new.id
        · simp [own, here]
        · simp [own, here, Ne.symm here]
      · by_cases here : id = new.id
        · simp [own, here]
        · simp [own, here]

theorem step_keeps (mover id : Nat) (old : id < world.nextThread) (next : World)
    (stepped : world.step? mover = some next) :
    world.nextThread ≤ next.nextThread ∧ (id ≠ mover → next.thread? id = world.thread? id) := by
  obtain ⟨thread, found, stepped⟩ := Option.bind_eq_some_iff.mp stepped
  obtain ⟨⟨successor, player⟩, _, stepped⟩ := Option.map_eq_some_iff.mp stepped
  have here : thread.id = mover := by simpa using List.find?_some found
  subst here
  have ends (player : Player)
      (moved : { world with
        player := player
        threads := world.threads.filter fun other => other.id ≠ thread.id }.deliver none = next) :
      world.nextThread ≤ next.nextThread ∧ (id ≠ thread.id → next.thread? id = world.thread? id) := by
    obtain ⟨kept, grows⟩ := deliver_find
      { world with player := player, threads := world.threads.filter fun other => other.id ≠ thread.id } none id old
    rw [moved] at kept grows
    refine ⟨grows, fun other => ?_⟩
    rw [kept, thread?, find_without, if_neg other]
    rfl
  have goes (since : Nat)
      (moved : { world with
        player := player
        threads := world.threads.map fun (other : Thread) =>
          if other.id = thread.id then { thread with activity := successor, since := since } else other
        turns := world.turns + 1 }.deliver (some thread.id) = next) :
      world.nextThread ≤ next.nextThread ∧ (id ≠ thread.id → next.thread? id = world.thread? id) := by
    obtain ⟨kept, grows⟩ := deliver_find { world with
      player := player
      threads := world.threads.map fun (other : Thread) =>
        if other.id = thread.id then { thread with activity := successor, since := since } else other
      turns := world.turns + 1 } (some thread.id) id old
    rw [moved] at kept grows
    refine ⟨grows, fun other => ?_⟩
    have placed := find_replaced world.threads { thread with activity := successor, since := since } id
    rw [kept, thread?, placed, if_neg other]
    rfl
  cases successor with
  | finished reply => exact ends _ stepped
  | _ => exact goes _ stepped

theorem thread_stays (move : Move) (id : Nat) (old : id < world.nextThread) :
    world.nextThread ≤ (world.move move).nextThread ∧
      ((world.move move).thread? id = world.thread? id ∨
        move = .thread id ∧
          ∃ thread moved, world.thread? id = some thread ∧ thread.activity.step? world.player = some moved) := by
  cases move with
  | thread mover =>
      rw [World.move]
      cases stepped : world.step? mover with
      | none => exact ⟨Nat.le_refl _, .inl rfl⟩
      | some next =>
          obtain ⟨grows, kept⟩ := step_keeps world mover id old next stepped
          refine ⟨grows, ?_⟩
          by_cases own : id = mover
          · subst own
            obtain ⟨thread, found, stepped⟩ := Option.bind_eq_some_iff.mp stepped
            obtain ⟨moved, step, _⟩ := Option.map_eq_some_iff.mp stepped
            exact .inr ⟨rfl, thread, moved, found, step⟩
          · exact .inl (kept own)
  | front =>
      rw [World.move]
      cases stepped : world.stepFront? with
      | none => exact ⟨Nat.le_refl _, .inl rfl⟩
      | some next =>
          obtain ⟨activity, _, stepped⟩ := Option.bind_eq_some_iff.mp stepped
          obtain ⟨⟨successor, player⟩, _, rfl⟩ := Option.map_eq_some_iff.mp stepped
          obtain ⟨same, grows⟩ := deliver_find
            { world with player := player, front := some successor, turns := world.turns + 1 } none id old
          exact ⟨grows, .inl same⟩
  | background request report =>
      refine ⟨Nat.le_succ _, .inl ?_⟩
      have other : world.nextThread ≠ id := Nat.ne_of_gt old
      simp [World.move, spawn, thread?, List.find?_append, other]
  | _ => exact ⟨Nat.le_refl _, .inl rfl⟩

theorem thread_over (id : Nat) (old : id < world.nextThread) (thread : Thread)
    (found : world.thread? id = some thread) (reply : Reply) (player : Player)
    (step : thread.activity.step? world.player = some (.finished reply, player)) :
    (world.move (.thread id)).thread? id = none := by
  have gone (player : Player) : ({ world with
      player := player
      threads := world.threads.filter fun other => other.id ≠ id }.deliver none).thread? id = none := by
    rw [(deliver_find
      { world with player := player, threads := world.threads.filter fun other => other.id ≠ id } none id old).1, thread?,
      find_without, if_pos rfl]
  simp only [World.move, step?, found, Option.bind_some, step, Option.map_some, Option.getD_some]
  exact gone _

theorem thread_moves_on (numbered : world.Numbered) {id : Nat} (old : id < world.nextThread) {thread : Thread}
    (found : world.thread? id = some thread) {successor : Activity} {player : Player}
    (step : thread.activity.step? world.player = some (successor, player)) :
    (world.move (.thread id)).mover? (.thread id) = if successor.isOver then none else some successor := by
  have mover : world.mover? (.thread id) = some thread.activity := congrArg (Option.map Thread.activity) found
  obtain ⟨_, goes⟩ := mover_steps numbered mover step
  cases over_ : successor.isOver with
  | false => exact goes over_
  | true =>
      cases successor with
      | finished reply => exact congrArg (Option.map Thread.activity) (thread_over world id old thread found reply player step)
      | _ => cases over_

theorem thread_after (holds : Activity → Prop) (full : Nat)
    (kept : ∀ activity player successor after, full ≤ player.abandoned → activity.step? player = some (successor, after) →
      successor.isOver = false → holds activity → holds successor)
    (world : World) (numbered : world.Numbered) (given : full ≤ world.player.abandoned) (id : Nat)
    (old : id < world.nextThread) (start : ∀ thread, world.thread? id = some thread → holds thread.activity)
    (moves : List Move) :
    id < (world.after moves).nextThread ∧ ∀ thread, (world.after moves).thread? id = some thread → holds thread.activity := by
  induction moves generalizing world with
  | nil => exact ⟨old, start⟩
  | cons move moves ih =>
      obtain ⟨grows, stays⟩ := thread_stays world move id old
      apply ih (world.move move) (move_comes world numbered move).2
      · exact Nat.le_trans given (recovers_after world numbered [move]).abandoned
      · exact Nat.lt_of_lt_of_le old grows
      · intro thread found
        rcases stays with same | ⟨rfl, before, ⟨successor, player⟩, there, step⟩
        · exact start thread (same ▸ found)
        · have now := thread_moves_on world numbered old there step
          rw [mover?, found, Option.map_some] at now
          split at now
          · cases now
          · next going =>
              rw [Option.some.inj now]
              exact kept before.activity world.player successor player given step (Bool.eq_false_iff.mpr going)
                (start before there)

end World

end Storyline
