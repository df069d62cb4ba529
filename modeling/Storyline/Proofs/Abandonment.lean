import Storyline.Proofs.Layers

set_option autoImplicit false

/-!
Giving up. A reset, a load and a rollback turn playback off and raise the full layer at once, before they wait for what is in
flight. Whatever there is at that moment belongs to the layers below: its main loops and playlists start no command any more,
and its commands that nobody awaits end without any effect if they have not begun.
-/

namespace Storyline

/-! ### What is left from before -/

-- What goes on by itself, and steers no later loop and plays nothing of a later layer.
structure Activity.Outdated (generation full : Nat) (activity : Activity) : Prop where
  minor : activity.isMinor = true
  loop : ∀ own, activity.pilot? = some (.loop own) → own ≤ generation
  run : ∀ run, activity.plays? = some run → run.full < full

theorem Activity.minor_loop (activity : Activity) (minor : activity.isMinor = true) (pilot : Pilot)
    (helm : activity.pilot? = some pilot) : ∃ generation, pilot = .loop generation := by
  cases pilot with
  | loop generation => exact ⟨generation, rfl⟩
  | trip trip =>
      cases activity with
      | steering own | advancing own =>
          obtain rfl := Option.some.inj helm
          cases minor
      | running execution caller =>
          cases caller with
          | pilot own epoch =>
              obtain rfl := Option.some.inj helm
              cases minor
          | _ => cases helm
      | awaitingInput own auto deadline => cases helm
      | _ => cases helm

theorem step_outdated (activity : Activity) (player : Player) (successor : Activity) (after : Player) (generation full : Nat)
    (step : activity.step? player = some (successor, after)) (outdated : activity.Outdated generation full) :
    successor.Outdated generation full := by
  have minor := (step_minor step outdated.minor).1
  refine ⟨minor, fun own helm => ?_, fun run plays => ?_⟩
  · cases step_hands step with
    | keeps _ _ pilot =>
        obtain ⟨before, was, same⟩ := Option.map_eq_some_iff.mp (pilot _ helm)
        obtain ⟨number, rfl⟩ := activity.minor_loop outdated.minor before was
        obtain rfl : number = own := same
        exact outdated.loop number was
    | leaves nobody =>
        rw [nobody] at helm
        cases helm
    | takes trip steers =>
        rw [steers] at minor
        cases minor
  · obtain ⟨own, played, _, same⟩ := step_plays step run plays
    exact same ▸ outdated.run own played

theorem execution_footprint_launches (execution : Execution) : execution.footprint.launches = false := by
  unfold Execution.footprint
  cases execution.next? with
  | none => rfl
  | some effect => cases effect <;> rfl

theorem outdated_launches (activity : Activity) (player : Player) (successor : Activity) (after : Player)
    (generation full : Nat) (step : activity.step? player = some (successor, after))
    (outdated : activity.Outdated generation full)
    (newer : player.playback.playing = true → generation < player.playback.generation) (given : full ≤ player.abandoned) :
    after.launches = player.launches := by
  have within := activity.step_within player _ step
  cases activity with
  | steering pilot =>
      obtain ⟨own, rfl⟩ := Activity.minor_loop _ outdated.minor pilot rfl
      by_contra launches
      have live := (loop_launches step own rfl launches).1
      simp only [Playback.isLive, Bool.and_eq_true, decide_eq_true_eq] at live
      have older := outdated.loop own rfl
      have later := newer live.1
      omega
  | transient run =>
      have older : player.isAbandoned run.full = true := decide_eq_true (Nat.lt_of_lt_of_le (outdated.run run rfl) given)
      have moved : player.stepRun run = (successor, after) := Option.some.inj step
      rw [Player.stepRun, older] at moved
      split at moved
      · obtain ⟨_, rfl⟩ := Prod.mk.inj moved
        rfl
      · obtain ⟨_, rfl⟩ := Prod.mk.inj moved
        rfl
  | running execution caller =>
      cases caller with
      | pilot pilot epoch => exact within.launches rfl
      | _ => exact within.launches (execution_footprint_launches execution)
  | asked request => cases outdated.minor
  | _ => exact within.launches rfl

theorem unbegun_step (execution : Execution) (player : Player) (unbegun : execution.origin = execution)
    (given : execution.token.full < player.abandoned) :
    (Activity.running execution .nobody).step? player = some (.finished .nothing,
      ({ player with executing := player.executing.unregister execution.id }.tell .executingChanged).publish
        (.commandExecuted execution.command.spot execution.command.name execution.lane)) := by
  have idle : execution.begun = false ∧ execution.wait = none := by
    rw [← unbegun]
    exact ⟨rfl, rfl⟩
  have abandoned : player.isAbandoned execution.token.full = true := decide_eq_true given
  simp [Activity.step?, Execution.step?, idle, abandoned, Player.finish, Player.resumeCaller, Error.isCancelled]

def Activity.detached? : Activity → Option Execution
  | .running execution .nobody => some execution
  | _ => none

theorem Activity.detached_running (activity : Activity) (execution : Execution) (flies : activity.detached? = some execution) :
    activity = .running execution .nobody := by
  cases activity with
  | running own caller =>
      cases caller with
      | nobody => rw [Option.some.inj flies]
      | _ => cases flies
  | _ => cases flies

def Execution.unbegun (execution : Execution) : Bool :=
  !execution.begun && execution.effects.isEmpty && execution.wait.isNone

theorem Execution.origin_of_unbegun (execution : Execution) (unbegun : execution.unbegun = true) :
    execution.origin = execution := by
  obtain ⟨id, loaded, index, command, lane, token, begun, effects, wait⟩ := execution
  simp only [Execution.unbegun, Bool.and_eq_true, Bool.not_eq_true', List.isEmpty_iff, Option.isNone_iff_eq_none] at unbegun
  obtain ⟨⟨rfl, rfl⟩, rfl⟩ := unbegun
  rfl

/-! ### Giving up -/

def Request.replaces : Request → Bool
  | .reset | .load _ => true
  | _ => false

namespace Player

variable (player : Player)

-- The full layer is raised only together with a wait for what is in flight.
def Raises (before : Player) (moved : Activity × Player) : Prop :=
  before.abandoned < moved.2.abandoned → ∃ replacement, moved.1 = .draining replacement

theorem raises_of_edits {facets : List Facet} {moved : Activity × Player} (edits : Edits facets player moved.2)
    (still : facets.all (· ≠ .layer) = true) : Raises player moved :=
  fun raised => absurd raised (Nat.not_lt.mpr (Nat.le_of_eq (edits.layer still)))

theorem roll_back_to_raises (spot : Spot) : Raises player (player.rollBackTo spot) := by
  rw [rollBackTo]
  split
  · exact fun _ => ⟨_, rfl⟩
  · split
    · exact fun _ => ⟨_, rfl⟩
    · exact fun raised => absurd raised (Nat.lt_irrefl _)

theorem rewind_to_index_raises (playlist : Playlist) (target : Nat) : Raises player (player.rewindToIndex playlist target) := by
  rw [rewindToIndex]
  split
  · have travels : Edits [.stop, .rendezvous] player (player.travel playlist.script target).2 :=
      .and_then (player.stop_edit.edits rfl) (complete_edits _ _ _) rfl
    exact raises_of_edits player travels rfl
  · split
    · exact fun raised => absurd raised (Nat.lt_irrefl _)
    · exact roll_back_to_raises player _

theorem ask_raises (request : Request) : Raises player (player.ask request) := by
  cases request with
  | reset => exact fun _ => ⟨_, rfl⟩
  | load save => exact fun _ => ⟨_, rfl⟩
  | rewindLine line =>
      simp only [ask, rewindToLine]
      split
      · exact fun raised => absurd raised (Nat.lt_irrefl _)
      · split
        · exact fun raised => absurd raised (Nat.lt_irrefl _)
        · exact rewind_to_index_raises player _ _
  | rewindSpot spot =>
      simp only [ask, rewindToSpot]
      split
      · exact roll_back_to_raises player spot
      · split
        · exact fun raised => absurd raised (Nat.lt_irrefl _)
        · exact rewind_to_index_raises player _ _
  | _ => exact raises_of_edits player (player.ask_edits _) rfl

end Player

theorem step_gives_up {activity : Activity} {player : Player} {moved : Activity × Player}
    (step : activity.step? player = some moved) (raised : player.abandoned < moved.2.abandoned) :
    ∃ request, activity = .asked request ∧ ∃ replacement, moved.1 = .draining replacement := by
  have edits := activity.step_edits player moved step
  have still (apart : activity.facets.all (· ≠ .layer) = true) : False := by
    rw [edits.layer apart] at raised
    exact Nat.lt_irrefl _ raised
  cases activity with
  | asked request =>
      obtain rfl := Option.some.inj step
      exact ⟨request, rfl, player.ask_raises request raised⟩
  | steering pilot => cases pilot <;> exact (still rfl).elim
  | running execution caller =>
      have own : execution.facets.all (· ≠ .layer) = true :=
        execution.facets_all _ (fun wait => by cases wait <;> rfl) fun effect _ => by cases effect <;> rfl
      refine (still ?_).elim
      rw [Activity.facets, List.all_append, own]
      cases caller <;> rfl
  | draining replacement =>
      refine (still ?_).elim
      cases replacement with
      | reset => rfl
      | load save _ => cases spot : save.spot <;> simp [Activity.facets, Replacement.facets, Save.facets, spot]
  | completing role sequel => cases sequel <;> exact (still rfl).elim
  | _ => exact (still rfl).elim

-- A detached command has been one before.
theorem step_detached {activity : Activity} {player : Player} {execution : Execution} {after : Player}
    (step : activity.step? player = some (.running execution .nobody, after)) :
    ∃ own, activity = .running own .nobody := by
  cases activity.step_becomes player _ step with
  | goes own => exact ⟨own, rfl⟩
  | rests _ _ rests => cases rests
  | holds _ _ _ _ _ _ idle => cases idle
  | listens _ _ _ _ again => cases again

namespace World

-- A reset or a load, or whatever else raises the full layer.
def GivesUp (world : World) (move : Move) : Prop :=
  (∃ request, world.mover? move = some (.asked request) ∧ request.replaces = true) ∨
    world.player.abandoned < (world.move move).player.abandoned

theorem gives_up {world : World} (numbered : world.Numbered) {move : Move} (gives : world.GivesUp move) :
    (∃ request, world.mover? move = some (.asked request)) ∧ world.player.abandoned < (world.move move).player.abandoned ∧
      (world.move move).player.playback.playing = false := by
  have raised : world.player.abandoned < (world.move move).player.abandoned := by
    rcases gives with ⟨request, asks, replaces⟩ | raised
    · obtain ⟨replacement, gives⟩ : ∃ replacement, world.player.ask request = world.player.giveUp replacement := by
        cases request with
        | reset => exact ⟨_, rfl⟩
        | load save => exact ⟨_, rfl⟩
        | _ => cases replaces
      obtain ⟨stage, given⟩ := world.move_acts move (.asked request) _ asks (congrArg some gives)
      rw [given]
      exact Nat.lt_of_lt_of_eq (Nat.lt_succ_self _) (world.player.give_up_abandons replacement).symm
    · exact raised
  cases (move_comes world numbered move).1 with
  | stays clock requests player =>
      rw [player] at raised
      exact absurd raised (Nat.lt_irrefl _)
  | moves activity successor others player stage mover _ _ step told =>
      rw [told] at raised ⊢
      obtain ⟨request, rfl, replacement, drains⟩ := step_gives_up step raised
      exact ⟨⟨request, mover⟩, raised, step_halted step replacement drains⟩

theorem thread_mem {world : World} (numbered : world.Numbered) {id : Nat} {thread : Thread}
    (there : world.thread? id = some thread) : id < world.nextThread ∧ thread.activity ∈ world.activities := by
  have member := List.mem_of_find?_eq_some there
  obtain rfl : thread.id = id := by simpa using List.find?_some there
  exact ⟨numbered.below thread member, List.mem_append_left _ (List.mem_map_of_mem member)⟩

/-! ### What detached commands report -/

-- Nobody hears of the end of a detached command.
def Mute (world : World) : Prop :=
  ∀ thread ∈ world.threads, ∀ execution, thread.activity = .running execution .nobody →
    ∀ reply player, thread.report reply player = none

theorem fold_pass_mute (giver : Option Nat) (notices : List Notice) (world : World) (mute : world.Mute) :
    (notices.foldl (pass giver) world).Mute := by
  induction notices generalizing world with
  | nil => exact mute
  | cons notice notices ih =>
      refine ih _ ?_
      cases notice with
      | spawned activity =>
          intro thread member
          rcases List.mem_append.mp member with old | new
          · exact mute thread old
          · obtain rfl := List.mem_singleton.mp new
            exact fun _ _ _ _ => rfl
      | _ => exact mute

theorem step_mute {world next : World} (mute : world.Mute) {id : Nat} (stepped : world.step? id = some next) : next.Mute := by
  obtain ⟨thread, found, stepped⟩ := Option.bind_eq_some_iff.mp stepped
  obtain ⟨⟨successor, player⟩, step, stepped⟩ := Option.map_eq_some_iff.mp stepped
  have gone (player : Player) :
      ({ world with player := player, threads := world.threads.filter fun other => other.id ≠ id }.deliver none).Mute :=
    fold_pass_mute _ _ _ fun other member => mute other (List.mem_filter.mp member).1
  have goes (since turns : Nat) : ({ world with
      player := player
      threads := world.threads.map fun (other : Thread) =>
        if other.id = id then { thread with activity := successor, since := since } else other
      turns := turns }.deliver (some id)).Mute := by
    refine fold_pass_mute _ _ _ fun new member execution detached => ?_
    obtain ⟨other, there, rfl⟩ := List.mem_map.mp member
    by_cases same : other.id = id
    · rw [if_pos same] at detached ⊢
      obtain rfl : successor = .running execution .nobody := detached
      obtain ⟨own, before⟩ := step_detached step
      exact mute thread (List.mem_of_find?_eq_some found) own before
    · rw [if_neg same] at detached ⊢
      exact mute other there execution detached
  cases successor with
  | finished reply => exact stepped ▸ gone _
  | _ => exact stepped ▸ goes _ _

theorem move_mute (world : World) (mute : world.Mute) (move : Move) : (world.move move).Mute := by
  cases move with
  | thread id =>
      rw [World.move]
      cases stepped : world.step? id with
      | none => exact mute
      | some next => exact step_mute mute stepped
  | front =>
      rw [World.move]
      cases stepped : world.stepFront? with
      | none => exact mute
      | some next =>
          obtain ⟨activity, _, stepped⟩ := Option.bind_eq_some_iff.mp stepped
          obtain ⟨moved, _, rfl⟩ := Option.map_eq_some_iff.mp stepped
          exact fold_pass_mute _ _ _ mute
  | background request report =>
      intro thread member execution detached
      rcases List.mem_append.mp member with old | new
      · exact mute thread old execution detached
      · obtain rfl := List.mem_singleton.mp new
        cases detached
  | _ => exact mute

theorem mute_after (world : World) (mute : world.Mute) (moves : List Move) : (world.after moves).Mute := by
  induction moves generalizing world with
  | nil => exact mute
  | cons move moves ih => exact ih _ (move_mute world mute move)

section GivenUp

variable {world : World} (numbered : world.Numbered) (led : world.Led) (layered : world.Layered) (mute : world.Mute)
  {move : Move} (gives : world.GivesUp move) {id : Nat} {thread : Thread} (there : world.thread? id = some thread)
include numbered gives there

include led layered in
theorem minor_starts_nothing (minor : thread.activity.isMinor = true) (later : List Move) :
    (((world.move move).after later).move (.thread id)).player.launches =
      ((world.move move).after later).player.launches := by
  obtain ⟨old, member⟩ := thread_mem numbered there
  obtain ⟨_, raised, off⟩ := gives_up numbered gives
  have given := (move_comes world numbered move).2
  have outdated : thread.activity.Outdated (world.move move).player.playback.generation
      (world.move move).player.abandoned := by
    refine ⟨minor, fun own helm => ?_, fun run plays => ?_⟩
    · exact Nat.le_trans (led.below _ member _ helm) (generation_after world numbered [move])
    · exact Nat.lt_of_le_of_lt (layered.runs _ member run plays) raised
  obtain ⟨_, kept⟩ := thread_after (fun activity => activity.Outdated _ _) 0
    (fun activity player successor after _ step _ => step_outdated activity player successor after _ _ step) world numbered
    (Nat.zero_le _) id old (fun other found => Option.some.inj (there.symm.trans found) ▸ outdated) (move :: later)
  have recovers := recovers_after (world.move move) given later
  have there_ := after_numbered (world.move move) given later
  cases (move_comes ((world.move move).after later) there_ (.thread id)).1 with
  | stays clock requests player =>
      rw [player]
      rfl
  | moves activity successor others player stage mover _ _ step told =>
      obtain ⟨now, found, rfl⟩ := Option.map_eq_some_iff.mp mover
      rw [told]
      refine outdated_launches _ _ successor player _ _ step (kept now found) (fun playing => ?_) recovers.abandoned
      rcases recovers.rises.loop playing with on | newer
      · rw [off] at on
        cases on
      · exact newer

include layered mute in
theorem unbegun_does_nothing (execution : Execution) (detached : thread.activity = .running execution .nobody)
    (unbegun : execution.origin = execution) (later : List Move) :
    ((world.move move).after later).thread? id = none ∨
      (((world.move move).after later).move (.thread id)).thread? id = none ∧
      (((world.move move).after later).move (.thread id)).player = { ((world.move move).after later).player with
        executing := ((world.move move).after later).player.executing.unregister execution.id
        events := .commandExecuted execution.command.spot execution.command.name execution.lane ::
          ((world.move move).after later).player.events } := by
  obtain ⟨old, member⟩ := thread_mem numbered there
  obtain ⟨⟨request, asks⟩, raised, _⟩ := gives_up numbered gives
  have given := (move_comes world numbered move).2
  have below : execution.token.full + 1 ≤ (world.move move).player.abandoned := by
    have known := layered.tokens execution ((mem_executions world execution).mpr ⟨_, member, by rw [detached]; rfl⟩)
    exact Nat.lt_of_le_of_lt known.1 raised
  obtain ⟨grows, stays⟩ := thread_stays world move id old
  -- the request is somebody else
  have same (other : Thread) (found : (world.move move).thread? id = some other) :
      other.activity = .running execution .nobody := by
    rcases stays with kept | ⟨own, _⟩
    · rw [kept, there] at found
      exact Option.some.inj found ▸ detached
    · rw [own, mover?, there, Option.map_some, detached] at asks
      cases asks
  obtain ⟨young, kept⟩ := thread_after (fun activity => activity = .running execution .nobody) (execution.token.full + 1)
    (fun activity player successor after upheld step going own => by
      rw [own, unbegun_step execution player unbegun upheld] at step
      obtain ⟨rfl, _⟩ := Prod.mk.inj (Option.some.inj step)
      cases going) (world.move move) given below id (Nat.lt_of_lt_of_le old grows) same later
  cases found : ((world.move move).after later).thread? id with
  | none => exact .inl rfl
  | some now =>
      have ends := unbegun_step execution ((world.move move).after later).player unbegun
        (Nat.le_trans below (recovers_after (world.move move) given later).abandoned)
      rw [← kept now found] at ends
      obtain ⟨stage, acts, quiet⟩ := thread_acts found ends
      have silent : ((world.move move).after later).Mute := mute_after _ (move_mute world mute move) later
      refine .inr ⟨thread_over _ id young now found _ _ ends, ?_⟩
      rw [acts, quiet fun reply => silent now (List.mem_of_find?_eq_some found) execution (kept now found) reply _]
      simp only [Player.publish, Player.tell, (after_numbered (world.move move) given later).told]

end GivenUp

-- However the activities of a player interleave: once the full layer has been raised, as every reset and load does, no main
-- loop, playlist beside the caret, detached command or listener that was there ever starts a command again. A command that
-- nobody awaits and that has not begun by then is announced as executed, and nothing else comes of it.
theorem given_up_starts_nothing (start : World) (numbered : start.Numbered) (nobody : start.activities = [])
    (earlier later : List Move) (move : Move) (gives : (start.after earlier).GivesUp move) (id : Nat) (thread : Thread)
    (there : (start.after earlier).thread? id = some thread) :
    let world := start.after (earlier ++ move :: later)
    (thread.activity.isMinor = true → (world.move (.thread id)).player.launches = world.player.launches) ∧
    ∀ execution, thread.activity = .running execution .nobody → execution.origin = execution →
      world.thread? id = none ∨
      (world.move (.thread id)).thread? id = none ∧
        (world.move (.thread id)).player = { world.player with
          executing := world.player.executing.unregister execution.id
          events := .commandExecuted execution.command.spot execution.command.name execution.lane :: world.player.events } := by
  intro world
  have begin_led : start.Led := ⟨by simp [nobody], by simp [holders, nobody]⟩
  have begin_layered : start.Layered := ⟨by simp [nobody], by simp [executions, nobody]⟩
  have begin_mute : start.Mute := by
    have idle : start.threads = [] := List.map_eq_nil_iff.mp (List.append_eq_nil_iff.mp nobody).1
    rw [Mute, idle]
    exact fun _ member => absurd member List.not_mem_nil
  have led : (start.after earlier).Led := led_after start numbered begin_led earlier
  have layered := layered_after start numbered begin_layered earlier
  have mute := mute_after start begin_mute earlier
  have between := after_numbered start numbered earlier
  have same : world = ((start.after earlier).move move).after later := after_append start earlier (move :: later)
  rw [same]
  exact ⟨fun minor => minor_starts_nothing between led layered gives there minor later,
    fun execution detached unbegun =>
      unbegun_does_nothing between layered mute gives there execution detached unbegun later⟩

-- A main loop in the middle of a pause, a delay block that is not due yet, and two commands that have only just been detached.
def scattered : World :=
  let world := stocked
    [⟨"road", [{ line := 0, command := "wait_input" },
      { line := 1, command := "delay", parameters := [("millis", .integer 50)] },
      { line := 2, indent := 1, command := "label", parameters := [("name", .text "a")] },
      { line := 3, wait := false, command := "set",
        parameters := [("var", .text "rain"), ("value", (Expr.literal (.bool true)).toJson)] },
      { line := 4, wait := false, command := "print", parameters := [("text", .text "It rains.")] },
      { line := 5, command := "wait", parameters := [("millis", .integer 100)] }, { line := 6, command := "stop" }]⟩]
  { world with player.presenter := { Presenter.silent with say := fun line _ => { opening := [line.text] } } }

def scatter : List Move :=
  List.flatten [[.ask (.play "road" none), .front], List.replicate 5 (.thread 0),
    [.ask (.input .continue), .front, .front, .front], List.replicate 12 (.thread 0)]

-- A reset gives up, and so does a rewind to where the input was awaited.
theorem scattered_given_up :
    let unhindered := scattered.after (scatter ++ [.pass 200])
    ((unhindered.after [.thread 1, .thread 1]).player.launches ≠ unhindered.player.launches ∧
      (unhindered.after [.thread 2, .thread 2]).player.store.size = 1 ∧
      (unhindered.after [.thread 3, .thread 3]).player.stage = [(200, "It rains.")]) ∧
    ∀ request ∈ [Request.reset, .rewindLine 0],
      let world := scattered.after (scatter ++ [.ask request] ++ [.front, .pass 200])
      (world.move (.thread 0)).player.launches = world.player.launches ∧
      (world.move (.thread 1)).player.launches = world.player.launches ∧
      (world.move (.thread 2)).player.store = world.player.store ∧
      (world.move (.thread 3)).player.stage = world.player.stage := by
  refine ⟨by decide +kernel, fun request asked => ?_⟩
  intro world
  have gives : (scattered.after (scatter ++ [.ask request])).GivesUp .front := by
    rcases List.mem_cons.mp asked with rfl | asked
    · exact .inl ⟨.reset, by rw [after_append]; rfl, rfl⟩
    · obtain rfl := List.mem_singleton.mp asked
      exact .inr (by decide +kernel)
  have given (id : Nat) (thread : Thread) (there : (scattered.after scatter).thread? id = some thread) :=
    given_up_starts_nothing scattered (numbered_new _ rfl) rfl (scatter ++ [.ask request]) [.pass 200] .front gives id thread
      (by rw [after_append]; exact there)
  have minor (id : Nat)
      (there : ((scattered.after scatter).thread? id).map (fun thread => thread.activity.isMinor) = some true) :
      (world.move (.thread id)).player.launches = world.player.launches := by
    obtain ⟨thread, found, goes⟩ := Option.map_eq_some_iff.mp there
    exact (given id thread found).1 goes
  have detached (id : Nat) (there : ((scattered.after scatter).thread? id).any
        (fun thread => (thread.activity.detached?).any fun execution => execution.unbegun) = true)
      (left : (world.thread? id).isSome = true) :
      (world.move (.thread id)).player.store = world.player.store ∧
        (world.move (.thread id)).player.stage = world.player.stage := by
    obtain ⟨thread, found, unbegun⟩ := (Option.any_eq_true _ _).mp there
    obtain ⟨execution, flies, unbegun⟩ := (Option.any_eq_true _ _).mp unbegun
    rcases (given id thread found).2 execution (thread.activity.detached_running execution flies)
      (execution.origin_of_unbegun unbegun) with gone | ⟨_, same⟩
    · have left : (world.thread? id).isSome = true := left
      rw [gone] at left
      cases left
    · rw [show (world.move (.thread id)).player = _ from same]
      exact ⟨rfl, rfl⟩
  have left : ∀ request ∈ [Request.reset, .rewindLine 0], ∀ id ∈ [2, 3],
      ((scattered.after (scatter ++ [.ask request] ++ [.front, .pass 200])).thread? id).isSome = true := by decide +kernel
  exact ⟨minor 0 (by decide +kernel), minor 1 (by decide +kernel),
    (detached 2 (by decide +kernel) (left request asked 2 (by decide))).1,
    (detached 3 (by decide +kernel) (left request asked 3 (by decide))).2⟩

end World

end Storyline
