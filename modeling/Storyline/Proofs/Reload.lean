import Mathlib.Data.List.Forall2
import Storyline.Proofs.Course
import Storyline.Proofs.EchoMoves

set_option autoImplicit false

/-!
Loading what was just saved. A stopped player that loads its own save differs from before only in its counters, if nothing
that a save leaves out was of any importance: the mask, hosts that wait for their return visit, and whether the guard of a
host held. From then on it plays as it would have without.
-/

namespace Storyline

namespace Player

-- The script and the place of the command that a main loop comes to, and whether its guard lets it run.
def comesTo? (player : Player) (generation : Nat) : Option (String × Nat × Bool) :=
  if player.playback.isLive generation && !player.playback.mode.waiting && !player.playback.executed then
    player.playback.loaded.bind fun loaded =>
      (loaded.playlist.command? player.playback.index).map fun command =>
        (loaded.playlist.script, player.playback.index, (player.passesGuard command).1)
  else none

theorem steer_loop_visits (player : Player) (generation : Nat) :
    (player.steerLoop generation).2.played =
        (player.comesTo? generation).elim player.played (fun visit => player.played.add visit.1 visit.2.1) ∧
      (player.steerLoop generation).2.launches =
        (if (player.comesTo? generation).any (fun visit => visit.2.2) then
          player.playback.spot?.toList.map fun spot => (spot, Lane.main) else []) ++ player.launches := by
  by_cases live : player.playback.isLive generation = true
  · by_cases waiting : player.playback.mode.waiting = true
    · simp [steerLoop, comesTo?, live, waiting]
    · have current : player.playback.generation = generation := by
        simpa using (Bool.and_eq_true_iff.mp live).2
      have visits : (player.steerLoop generation).2 = (player.visit generation).2 := by
        rw [steerLoop, if_pos live, if_neg waiting, after_visit_player]
      rw [visits]
      cases executed : player.playback.executed with
      | true => simp [visit, comesTo?, executed, current]
      | false =>
          cases here : player.playback.loaded with
          | none => simp [visit, comesTo?, executed, current, here]
          | some loaded =>
              cases found : loaded.playlist.command? player.playback.index with
              | none => simp [visit, comesTo?, executed, current, here, found]
              | some command =>
                  have spot : player.playback.spot? = some command.spot := by
                    simp [Playback.spot?, Playback.command?, here, found]
                  simpa [visit, comesTo?, executed, current, here, found, live, waiting, spot] using
                    run_command_visits player generation loaded command
  · simp [steerLoop, comesTo?, live]

theorem comes_to_later {player other : Player} (later : Later player other) (generation : Nat) :
    other.comesTo? generation = player.comesTo? generation := by
  have executed : other.playback.executed = player.playback.executed := by
    obtain ⟨stage, passed, ignores, rfl⟩ := later
    rfl
  have guards (command : Command) : (other.passesGuard command).1 = (player.passesGuard command).1 :=
    (guard_later later command).1
  simp only [comesTo?, live_later later, mode_later later, loaded_later later, index_later later, executed, guards]

end Player

namespace World

/-! ### Worlds that go on in the same way -/

def Alike (one other : Thread) : Prop := other.id = one.id ∧ other.activity = one.activity.later

structure Echo (world other : World) : Prop where
  player : Later world.player other.player
  threads : List.Forall₂ Alike world.threads other.threads
  numbers : other.nextThread = world.nextThread
  front : other.front = world.front.map Activity.later

theorem alike_find (id : Nat) {threads others : List Thread} (alike : List.Forall₂ Alike threads others) :
    Option.Rel Alike (threads.find? fun thread => thread.id = id) (others.find? fun thread => thread.id = id) := by
  induction alike with
  | nil => exact .none
  | @cons one other _ _ same _ ih =>
      by_cases here : one.id = id
      · simp only [List.find?_cons, same.1, here, decide_true]
        exact .some same
      · simpa only [List.find?_cons, same.1, here, decide_false] using ih

theorem alike_filter (id : Nat) {threads others : List Thread} (alike : List.Forall₂ Alike threads others) :
    List.Forall₂ Alike (threads.filter fun thread => thread.id ≠ id) (others.filter fun thread => thread.id ≠ id) := by
  induction alike with
  | nil => exact .nil
  | @cons one other _ _ same _ ih =>
      simp only [List.filter_cons, same.1]
      split
      · exact .cons same ih
      · exact ih

theorem alike_replace (id : Nat) (one other : Thread) (new : Alike one other) {threads others : List Thread}
    (alike : List.Forall₂ Alike threads others) :
    List.Forall₂ Alike (threads.map fun thread => if thread.id = id then one else thread)
      (others.map fun thread => if thread.id = id then other else thread) := by
  induction alike with
  | nil => exact .nil
  | @cons first second _ _ same _ ih =>
      refine .cons ?_ ih
      simp only [same.1]
      split
      · exact new
      · exact same

section Echo

variable {world other : World} (echo : Echo world other)
include echo

theorem spawn_echo (activity : Activity) (report more : Reply → Player → Option String) :
    Echo (world.spawn activity report) (other.spawn activity.later more) where
  player := echo.player
  threads := List.rel_append echo.threads (.cons ⟨echo.numbers, rfl⟩ .nil)
  numbers := congrArg Nat.succ echo.numbers
  front := echo.front

theorem wake_echo (ids more : List Nat) : Echo (world.wake ids) (other.wake more) :=
  ⟨echo.player, echo.threads, echo.numbers, echo.front⟩

theorem pass_echo (giver : Option Nat) (notice : Notice) : Echo (pass giver world notice) (pass giver other notice.later) := by
  cases notice with
  | spawned activity => exact spawn_echo echo activity _ _
  | _ => exact wake_echo echo _ _

theorem fold_pass_echo (giver : Option Nat) (notices : List Notice) :
    Echo (notices.foldl (pass giver) world) ((notices.map Notice.later).foldl (pass giver) other) := by
  induction notices generalizing world other with
  | nil => exact echo
  | cons notice notices ih => exact ih (pass_echo echo giver notice)

theorem deliver_echo (giver : Option Nat) : Echo (world.deliver giver) (other.deliver giver) := by
  obtain ⟨stage, passed, ignores, same⟩ := echo.player
  have told : other.player.outbox.reverse = world.player.outbox.reverse.map Notice.later := by
    rw [same, List.map_reverse]
    rfl
  have emptied : Echo { world with player := { world.player with outbox := [] } }
      { other with player := { other.player with outbox := [] } } :=
    ⟨⟨stage, passed, ignores, by rw [same]; rfl⟩, echo.threads, echo.numbers, echo.front⟩
  unfold deliver
  simp only [told]
  exact fold_pass_echo emptied giver world.player.outbox.reverse

theorem step_echo (id : Nat) : Option.Rel Echo (world.step? id) (other.step? id) := by
  have found := alike_find id echo.threads
  unfold step? thread?
  generalize world.threads.find? (fun thread => thread.id = id) = one at found
  generalize other.threads.find? (fun thread => thread.id = id) = two at found
  cases found with
  | none => exact .none
  | @some thread twin alike =>
      simp only [Option.bind_some, alike.2]
      refine rel_map (Activity.step_later echo.player thread.activity) ?_
      rintro ⟨successor, player⟩ ⟨_, more⟩ ⟨rfl, later⟩
      cases successor with
      | finished reply =>
          refine deliver_echo ?_ none
          refine ⟨?_, alike_filter id echo.threads, echo.numbers, echo.front⟩
          obtain ⟨stage, passed, ignores, rfl⟩ := later
          split <;> split <;> exact ⟨_, passed, ignores, rfl⟩
      | _ =>
          refine deliver_echo ?_ (some id)
          refine ⟨later, alike_replace id _ _ ?_ echo.threads, echo.numbers, echo.front⟩
          exact ⟨alike.1, rfl⟩

theorem step_front_echo : Option.Rel Echo world.stepFront? other.stepFront? := by
  unfold stepFront?
  rw [echo.front]
  cases world.front with
  | none => exact .none
  | some activity =>
      simp only [Option.map_some, Option.bind_some]
      refine rel_map (Activity.step_later echo.player activity) ?_
      rintro ⟨successor, player⟩ ⟨_, more⟩ ⟨rfl, later⟩
      refine deliver_echo ?_ none
      exact ⟨later, echo.threads, echo.numbers, rfl⟩

theorem move_echo (move : Move) : Echo (world.move move) (other.move move) := by
  have either {one two : Option World} (rel : Option.Rel Echo one two) : Echo (one.getD world) (two.getD other) := by
    cases rel with
    | none => exact echo
    | some echo => exact echo
  cases move with
  | thread id => exact either (step_echo echo id)
  | front => exact either (step_front_echo echo)
  | ask request => exact ⟨echo.player, echo.threads, echo.numbers, rfl⟩
  | leave => exact ⟨echo.player, echo.threads, echo.numbers, rfl⟩
  | background request report => exact spawn_echo echo (.asked request) report report
  | pass time =>
      obtain ⟨stage, passed, ignores, same⟩ := echo.player
      have passes : Echo { world with player := { world.player with clock := time } }
          { other with player := { other.player with clock := time } } :=
        ⟨⟨stage, passed, ignores, by rw [same]; rfl⟩, echo.threads, echo.numbers, echo.front⟩
      exact wake_echo passes _ _
  | arrange queue postponed => exact ⟨echo.player, echo.threads, echo.numbers, echo.front⟩

end Echo

/-! ### Visits -/

def visit? (world : World) (move : Move) : Option (String × Nat × Bool) :=
  match world.mover? move with
  | some (.steering (.loop generation)) => world.player.comesTo? generation
  | _ => none

def visits (world : World) : List Move → List (String × Nat × Bool)
  | [] => []
  | move :: moves => (world.visit? move).toList ++ (world.move move).visits moves

section Echo

variable {world other : World} (echo : Echo world other)
include echo

theorem mover_echo (move : Move) : other.mover? move = (world.mover? move).map Activity.later := by
  cases move with
  | thread id =>
      have found := alike_find id echo.threads
      simp only [mover?, thread?]
      generalize world.threads.find? (fun thread => thread.id = id) = one at found
      generalize other.threads.find? (fun thread => thread.id = id) = two at found
      cases found with
      | none => rfl
      | some alike => simp [alike.2]
  | front => exact echo.front
  | _ => rfl

theorem visit_echo (move : Move) : other.visit? move = world.visit? move := by
  have comes := Player.comes_to_later echo.player
  unfold visit?
  rw [mover_echo echo move]
  cases world.mover? move with
  | none => rfl
  | some activity =>
      cases activity with
      | steering pilot =>
          cases pilot with
          | loop generation => exact comes generation
          | trip trip => rfl
      | _ => rfl

theorem visits_echo (moves : List Move) :
    other.visits moves = world.visits moves ∧ (other.after moves).player.events = (world.after moves).player.events := by
  induction moves generalizing world other with
  | nil =>
      obtain ⟨stage, passed, ignores, same⟩ := echo.player
      exact ⟨rfl, by rw [after_nil, after_nil, same]; rfl⟩
  | cons move moves ih =>
      obtain ⟨rest, events⟩ := ih (move_echo echo move)
      exact ⟨by rw [visits, visits, visit_echo echo move, rest], events⟩

end Echo

end World

/-! ### What a save leaves out -/

theorem Mode.disable_skip_still (mode : Mode) (unskipped : mode.skip = false) : mode.disableSkip = ({}, mode) := by
  cases mode
  subst unskipped
  rfl

theorem Mode.set_waiting_still (mode : Mode) (unskipped : mode.skip = false) :
    mode.setWaiting mode.waiting = ({}, mode) := by
  obtain ⟨skipMode, skip, autoPlay, waiting⟩ := mode
  subst unskipped
  cases waiting <;> rfl

-- What a load makes of the things that a save leaves out is what they were.
structure Player.Recalled (player : Player) (loaded : Loaded) : Prop where
  outside : loaded.playlist.deferredHost? player.playback.index = none
  unmasked : player.playback.masked = false
  closed : ∀ flag ∈ player.raised, flag.1 ≠ loaded.handle
  passed : player.playback.executed = true →
    player.playback.guardPassed = true ∨ loaded.playlist.isHost player.playback.index = false

instance (player : Player) (loaded : Loaded) : Decidable (player.Recalled loaded) :=
  decidable_of_iff (loaded.playlist.deferredHost? player.playback.index = none ∧ player.playback.masked = false ∧
      (∀ flag ∈ player.raised, flag.1 ≠ loaded.handle) ∧ (player.playback.executed = true →
        player.playback.guardPassed = true ∨ loaded.playlist.isHost player.playback.index = false))
    ⟨fun all => ⟨all.1, all.2.1, all.2.2.1, all.2.2.2⟩,
      fun recalled => ⟨recalled.outside, recalled.unmasked, recalled.closed, recalled.passed⟩⟩

namespace Player

theorem Recalled.ignores {player : Player} {loaded : Loaded} (recalled : player.Recalled loaded)
    (here : player.playback.loaded = some loaded) : player.playback.Ignores true := by
  refine fun executed => (recalled.passed executed).imp Eq.symm fun plain held there => ?_
  obtain rfl : loaded = held := Option.some.inj (here.symm.trans there)
  exact plain

theorem clear_visits_closed (player : Player) (loaded : Loaded) (closed : ∀ flag ∈ player.raised, flag.1 ≠ loaded.handle) :
    player.clearVisits loaded = player := by
  have kept : player.otherFlags loaded = player.raised :=
    List.filter_eq_self.mpr fun flag member => decide_eq_true (closed flag member)
  rw [clearVisits, kept]

theorem adopt_own (player : Player)
    (unskipped : player.playback.mode.skip = false) (unmasked : player.playback.masked = false) (save : Save)
    (playing : save.playing = false) (waiting : save.waiting = player.playback.mode.waiting)
    (returns : save.returns = player.playback.returns) : player.adopt save = (.ok (), player.tell .stateChanged) := by
  have unchanged := player.playback.mode.disable_skip_still unskipped
  have awaited := player.playback.mode.set_waiting_still unskipped
  have same : ({ player.playback with returns := player.playback.returns, masked := false } : Playback) = player.playback := by
    rw [← unmasked]
  simp only [adopt, playing, waiting, returns, unchanged, awaited, same, Bool.false_and, Bool.false_eq_true, if_false]
  rfl

-- The caret was moved to where it is.
def putBack (player : Player) : Player := { player with playback := player.playback.later true }

theorem restore_save {player : Player} (anchored : player.Anchored) (stopped : player.playback.playing = false)
    (unskipped : player.playback.mode.skip = false) (loaded : Loaded) (here : player.playback.loaded = some loaded)
    (recalled : player.Recalled loaded) :
    player.restore player.playback.save = (.ok (), player.putBack.tell .stateChanged) := by
  obtain ⟨has, bound⟩ := anchored.2 loaded here
  have addressed := anchored.1.stored loaded (List.mem_of_find?_eq_some has)
  have found : loaded.playlist.command? player.playback.index = some (loaded.playlist.commands[player.playback.index]) :=
    Array.getElem?_eq_getElem bound
  have spot : player.playback.spot? = some (loaded.playlist.commands[player.playback.index]).spot := by
    rw [Playback.spot?, Playback.command?, here, Option.bind_some, found, Option.map_some]
  have named := addressed.named _ (Array.getElem_mem_toList bound)
  have placed : player.place (loaded.playlist.commands[player.playback.index]).spot =
      (.ok (loaded, player.playback.index), player) := by
    have required : player.library.require (loaded.playlist.commands[player.playback.index]).spot.script =
        .ok (loaded, player.library) := by
      rw [named, Library.require, has]
    have navigable : loaded.playlist.ensureNavigable player.playback.index = .ok () := by
      rw [Playlist.ensureNavigable, recalled.outside]
    simp only [place, required, addressed.index_of_spot _ _ found, navigable]
    rfl
  have caret : player.playback.setCaret loaded player.playback.index player.playback.executed =
      player.playback.later true := by
    rw [Playback.setCaret, Playback.later, here]
  have moved : (player.clearVisits loaded).moveCaret loaded player.playback.index player.playback.executed =
      player.putBack := by
    rw [clear_visits_closed player loaded recalled.closed, moveCaret, caret, putBack]
  unfold restore
  simp only [show player.playback.save.spot = player.playback.spot? from rfl, spot, placed,
    show player.playback.save.executed = player.playback.executed from rfl, moved]
  exact adopt_own player.putBack unskipped recalled.unmasked player.playback.save stopped rfl rfl

theorem restore_nothing (player : Player) (stopped : player.playback.playing = false)
    (nothing : player.playback.loaded = none) : ∃ restored, player.restore player.playback.save = (.ok (), restored) ∧
      restored.playback.playing = false ∧ restored.playback.loaded = none := by
  have spot : player.playback.save.spot = none := by
    simp [Playback.save, Playback.spot?, Playback.command?, nothing]
  have playing : player.playback.save.playing = false := stopped
  unfold restore
  simp only [spot, adopt, playing, Bool.false_and, Bool.false_eq_true, if_false]
  refine ⟨_, rfl, ?_, ?_⟩
  · exact congrArg Playback.playing (with_mode_playback _ _)
  · exact congrArg Playback.loaded (with_mode_playback _ _)

end Player

def Player.givenUp (player : Player) : Player := { player with abandoned := player.abandoned + 1 }

-- Commands, and playlists beside the caret that have more of them.
def Activity.inFlight : Activity → Bool
  | .running .. | .deferred .. | .transient _ => true
  | _ => false

theorem Activity.later_idle (activity : Activity) (idle : activity.inFlight = false) : activity.later = activity := by
  cases activity with
  | running execution caller => cases idle
  | deferred run deadline => cases idle
  | transient run => cases idle
  | _ => rfl

namespace World

-- Stopped without skipping, and nothing is in flight.
structure Resting (world : World) : Prop where
  stopped : world.player.playback.playing = false
  unskipped : world.player.playback.mode.skip = false
  drained : world.player.executing.drained none = true
  idle : ∀ activity ∈ world.activities, activity.inFlight = false

instance (world : World) : Decidable world.Resting :=
  decidable_of_iff (world.player.playback.playing = false ∧ world.player.playback.mode.skip = false ∧
      world.player.executing.drained none = true ∧ ∀ activity ∈ world.activities, activity.inFlight = false)
    ⟨fun all => ⟨all.1, all.2.1, all.2.2.1, all.2.2.2⟩,
      fun resting => ⟨resting.stopped, resting.unskipped, resting.drained, resting.idle⟩⟩

def resume (world : World) : World := world.after [.ask .resume, .front]

-- The player saves, and loads that at once.
def reload (world : World) : World := world.after [.ask (.load world.player.playback.save), .front, .front]

theorem fold_pass_quiet (giver : Option Nat) (notices : List Notice) (quiet : ∀ notice ∈ notices, notice.spawned? = none)
    (world : World) : ∃ queue, notices.foldl (pass giver) world = { world with queue := queue } := by
  induction notices generalizing world with
  | nil => exact ⟨world.queue, rfl⟩
  | cons notice notices ih =>
      have passed : ∃ queue, pass giver world notice = { world with queue := queue } := by
        cases notice with
        | spawned activity => cases quiet _ List.mem_cons_self
        | _ => exact ⟨_, rfl⟩
      obtain ⟨first, passed⟩ := passed
      rw [List.foldl_cons, passed]
      exact ih (fun other member => quiet other (List.mem_cons_of_mem _ member)) _

theorem deliver_quiet (world : World) (giver : Option Nat)
    (quiet : ∀ notice ∈ world.player.outbox, notice.spawned? = none) :
    ∃ queue, world.deliver giver = { world with player := { world.player with outbox := [] }, queue := queue } :=
  fold_pass_quiet giver world.player.outbox.reverse (fun notice member => quiet notice (List.mem_reverse.mp member)) _

theorem front_eq (world : World) {activity : Activity} (front : world.front = some activity) {moved : Activity × Player}
    (step : activity.step? world.player = some moved) :
    world.move .front =
      { world with player := moved.2, front := some moved.1, turns := world.turns + 1 }.deliver none := by
  simp [move, stepFront?, front, step]

section Reload

variable {world : World} (told : world.player.outbox = []) (resting : world.Resting)
include told resting

theorem give_up_nothing (save : Save) : ∃ queue, (world.move (.ask (.load save))).move .front =
    { world with
      player := world.player.givenUp
      front := some (.draining (.load save false))
      turns := world.turns + 1
      queue := queue } := by
  have stopped : world.player.stop = world.player := by
    unfold Player.stop Player.stopFor
    rw [if_neg (by rw [resting.stopped]; exact Bool.false_ne_true)]
  have step : (Activity.asked (.load save)).step? world.player =
      some (.draining (.load save false), world.player.abandon) := by
    rw [Activity.step?, Player.ask, Player.giveUp, stopped]
  have quiet : ∀ notice ∈ world.player.abandon.outbox, notice.spawned? = none := by
    simp [Player.abandon, Player.tell, told, Notice.spawned?]
  have emptied : ({ world.player.abandon with outbox := [] } : Player) = world.player.givenUp := by
    rw [← told]
    rfl
  rw [front_eq (world.move (.ask (.load save))) rfl step]
  obtain ⟨queue, delivered⟩ := deliver_quiet
    { world.move (.ask (.load save)) with
      player := world.player.abandon, front := some (.draining (.load save false)), turns := world.turns + 1 } none quiet
  rw [emptied] at delivered
  exact ⟨queue, delivered⟩

theorem reload_spec (restored : Player)
    (done : world.player.givenUp.restore world.player.playback.save = (.ok (), restored)) :
    ∃ queue, world.reload =
      { world with
        player := restored, front := some (.finished .done), turns := world.turns + 1 + 1, queue := queue }.deliver none := by
  obtain ⟨queue, moved⟩ := give_up_nothing told resting world.player.playback.save
  refine ⟨queue, ?_⟩
  have drained : world.player.givenUp.executing.drained none = true := resting.drained
  have step : (Activity.draining (.load world.player.playback.save false)).step? world.player.givenUp =
      some (.finished .done, restored) := by
    simp only [Activity.step?, Player.replace, done, drained, if_true, Bool.false_eq_true, if_false]
  rw [reload, after_cons, after_cons, moved, after_cons, after_nil]
  exact front_eq
    { world with
      player := world.player.givenUp
      front := some (.draining (.load world.player.playback.save false))
      turns := world.turns + 1
      queue := queue } rfl step

theorem reload_eq (anchored : world.player.Anchored) (loaded : Loaded) (here : world.player.playback.loaded = some loaded)
    (recalled : world.player.Recalled loaded) : ∃ queue turns, world.reload =
      { world with
        player := world.player.later world.player.stage true
        front := some (.finished .done)
        turns := turns
        queue := queue } := by
  have kept : world.player.givenUp.Anchored := anchored
  have still : world.player.givenUp.Recalled loaded :=
    ⟨recalled.outside, recalled.unmasked, recalled.closed, recalled.passed⟩
  obtain ⟨between, reloaded⟩ :=
    reload_spec told resting _ (Player.restore_save kept resting.stopped resting.unskipped loaded here still)
  have quiet : ∀ notice ∈ (world.player.givenUp.putBack.tell .stateChanged).outbox, notice.spawned? = none := by
    simp [Player.givenUp, Player.putBack, Player.tell, told, Notice.spawned?]
  have emptied : ({ world.player.givenUp.putBack.tell .stateChanged with outbox := [] } : Player) =
      world.player.later world.player.stage true := by
    simp [Player.givenUp, Player.putBack, Player.tell, Player.later, told]
  obtain ⟨queue, delivered⟩ := deliver_quiet
    { world with
      player := world.player.givenUp.putBack.tell .stateChanged
      front := some (.finished .done)
      turns := world.turns + 1 + 1
      queue := between } none quiet
  rw [emptied] at delivered
  exact ⟨queue, world.turns + 1 + 1, reloaded.trans delivered⟩

-- From a reload on, playback goes as it would have gone without.
theorem reload_echo (anchored : world.player.Anchored) (loaded : Loaded) (here : world.player.playback.loaded = some loaded)
    (recalled : world.player.Recalled loaded) : Echo world.resume world.reload.resume := by
  obtain ⟨queue, turns, reloaded⟩ := reload_eq told resting anchored loaded here recalled
  have threads : List.Forall₂ Alike world.threads world.threads := by
    refine List.forall₂_same.mpr fun thread member => ⟨rfl, (thread.activity.later_idle ?_).symm⟩
    exact resting.idle _ (List.mem_append_left _ (List.mem_map_of_mem member))
  have asked : Echo (world.move (.ask .resume)) (world.reload.move (.ask .resume)) := by
    rw [reloaded]
    exact ⟨⟨world.player.stage, true, recalled.ignores here, rfl⟩, threads, rfl, rfl⟩
  exact move_echo asked .front

theorem reload_nothing (nothing : world.player.playback.loaded = none) :
    world.reload.reply? = some .done ∧ world.reload.player.playback.playing = false ∧
      world.reload.player.playback.loaded = none := by
  obtain ⟨restored, done, stopped, empty⟩ := Player.restore_nothing world.player.givenUp resting.stopped nothing
  obtain ⟨queue, reloaded⟩ := reload_spec told resting restored done
  rw [reloaded]
  obtain ⟨player, front, _⟩ := deliver_spec
    { world with player := restored, front := some (.finished .done), turns := world.turns + 1 + 1, queue := queue } none
  exact ⟨by rw [reply?, front], by rw [player]; exact stopped, by rw [player]; exact empty⟩

end Reload

theorem resume_nothing (world : World) (stopped : world.player.playback.playing = false)
    (nothing : world.player.playback.loaded = none) : world.resume.player.playback.playing = false := by
  have spot : world.player.playback.spot? = none := by
    rw [Playback.spot?, Playback.command?, nothing]
    rfl
  have step : (Activity.asked .resume).step? world.player =
      some (.finished (.failed (.script (.empty (world.player.playback.script?.getD "")))), world.player) := by
    simp [Activity.step?, Player.ask, Player.start, stopped, spot, Player.answer]
  have moved := front_eq (world.move (.ask .resume)) rfl step
  rw [resume, after_cons, after_cons, after_nil, moved, (deliver_spec _ none).1]
  exact stopped

-- A run of a new player, up to where it rests. Its scripts are accepted ones with addresses, and none is put in by hand.
structure Halted (start : World) (past : List Move) : Prop where
  numbered : start.Numbered
  fresh : start.player.playback.loaded = none
  addressed : start.player.library.Addressed
  shelved : start.Shelved past
  resting : (start.after past).Resting

-- A stopped player that loads its own save resumes as it would have without: the main loop comes to the same commands and
-- runs the same ones, whatever moves follow. What a save leaves out must not matter: the caret is outside delay blocks,
-- nothing is masked, no host of the script waits for its return visit, and the caret is not at a host that was passed over.
theorem reload_then_resume_alike (start : World) (past : List Move) (halted : start.Halted past)
    (recalled : ∀ loaded ∈ (start.after past).player.playback.loaded, (start.after past).player.Recalled loaded) :
    let world := start.after past
    world.reload.reply? = some .done ∧
      world.reload.resume.player.playback.playing = world.resume.player.playback.playing ∧
      (world.resume.player.playback.playing = true → ∀ moves,
        world.reload.resume.visits moves = world.resume.visits moves ∧
          (world.reload.resume.after moves).player.events = (world.resume.after moves).player.events) := by
  intro world
  have resting : world.Resting := halted.resting
  have told : world.player.outbox = [] := (after_numbered start halted.numbered past).told
  have anchored : world.player.Anchored :=
    anchored_after start halted.numbered past halted.shelved ⟨halted.addressed, by rw [halted.fresh]; exact nofun⟩
  cases here : world.player.playback.loaded with
  | none =>
      obtain ⟨reply, stopped, nothing⟩ := reload_nothing told resting here
      have idle := resume_nothing world resting.stopped here
      exact ⟨reply, (resume_nothing _ stopped nothing).trans idle.symm, fun plays => nomatch idle.symm.trans plays⟩
  | some loaded =>
      have still := recalled loaded here
      obtain ⟨queue, turns, reloaded⟩ := reload_eq told resting anchored loaded here still
      have echo := reload_echo told resting anchored loaded here still
      refine ⟨by rw [reloaded]; rfl, ?_, fun _ moves => visits_echo echo moves⟩
      obtain ⟨stage, passed, ignores, same⟩ := echo.player
      rw [same]
      rfl

/-! ### Stops on the way -/

def stocked (scripts : List CompiledScript) : World where
  player :=
    { draws := ⟨fun _ => 0, 0⟩
      library :=
        { scripts := (scripts.filterMap fun compiled => (Registry.playlist [] compiled).toOption).zipIdx.map
            fun entry => ⟨entry.2, entry.1⟩
          nextHandle := scripts.length } }

theorem stocked_addressed (scripts : List CompiledScript)
    (distinct : ∀ loaded ∈ (stocked scripts).player.library.scripts,
      (loaded.playlist.commands.toList.map Command.spot).Nodup) : (stocked scripts).player.library.Addressed := by
  refine ⟨fun loaded member => ⟨?_, distinct loaded member⟩, nofun⟩
  obtain ⟨entry, indexed, rfl⟩ := List.mem_map.mp member
  obtain ⟨compiled, _, accepted⟩ := List.mem_filterMap.mp (List.fst_mem_of_mem_zipIdx indexed)
  refine ⟨[], compiled, ?_⟩
  cases made : Registry.playlist [] compiled with
  | error cause => rw [made] at accepted; cases accepted
  | ok playlist => rw [made] at accepted; exact congrArg Except.ok (Option.some.inj accepted)

theorem stocked_halted (scripts : List CompiledScript) (past : List Move)
    (distinct : ∀ loaded ∈ (stocked scripts).player.library.scripts,
      (loaded.playlist.commands.toList.map Command.spot).Nodup)
    (shelved : (stocked scripts).Shelved past) (resting : ((stocked scripts).after past).Resting) :
    (stocked scripts).Halted past :=
  ⟨numbered_new _ rfl, rfl, stocked_addressed scripts distinct, shelved, resting⟩

def road : World := stocked
  [⟨"road", [{ line := 0, command := "wait_input" },
      { line := 1, command := "goto", parameters := [("script", .text "wood")] }]⟩,
    ⟨"wood", [{ line := 0, command := "stop" }]⟩]

def setOut : List Move :=
  List.flatten [[.ask (.play "road" none), .front, .leave], List.replicate 24 (.thread 0), [.ask .stop, .front, .leave]]

def onward : List Move := List.flatten [[.ask (.input .continue), .front, .leave], List.replicate 12 (.thread 1)]

theorem reload_at_input_wait :
    road.Halted setOut ∧ (road.after setOut).player.playback.mode.waiting = true ∧
      (road.after setOut).reload.reply? = some .done ∧
      (road.after setOut).reload.resume.visits onward = [("road", 1, true), ("wood", 0, true)] := by
  have halted : road.Halted setOut := stocked_halted _ _ (by decide +kernel) (by decide +kernel) (by decide +kernel)
  have plays : (road.after setOut).resume.player.playback.playing = true := by decide +kernel
  have direct : (road.after setOut).resume.visits onward = [("road", 1, true), ("wood", 0, true)] := by decide +kernel
  obtain ⟨reply, _, alike⟩ := reload_then_resume_alike road setOut halted (by decide +kernel)
  exact ⟨halted, by decide +kernel, reply, (alike plays onward).1.trans direct⟩

-- A block that waits for the commands in flight asks for input inside, and playback stops before its return visit.
def awaiting : World := stocked
  [⟨"road", [{ line := 0, command := "await" }, { line := 1, indent := 1, command := "wait_input" },
    { line := 2, command := "stop" }]⟩]

-- The script ends with a group that its guard leaves out.
def passedOver : World := stocked
  [⟨"road", [{ line := 0, command := "group", guard := some (.literal (.bool false)) },
    { line := 1, indent := 1, command := "stop" }]⟩]

-- A transition is left by a jump, and playback stops under its mask.
def underMask : World := stocked
  [⟨"road", [{ line := 0, command := "transition" },
      { line := 1, indent := 1, command := "goto", parameters := [("script", .text "wood")] }]⟩,
    ⟨"wood", [{ line := 0, command := "wait_input" },
      { line := 1, command := "wait", parameters := [("millis", .integer 100)] }, { line := 2, command := "stop" }]⟩]

-- A call from a delay block returns into it, which ends playback.
def insideDelay : World := stocked
  [⟨"road", [{ line := 0, command := "delay", parameters := [("millis", .integer 0)] },
      { line := 1, indent := 1, command := "gosub", parameters := [("script", .text "wood")] },
      { line := 2, command := "wait_input" }, { line := 3, command := "stop" }]⟩,
    ⟨"wood", [{ line := 0, command := "return" }]⟩]

def strayInto : List Move :=
  List.flatten
    [[.ask (.play "road" none), .front, .leave], List.replicate 12 (.thread 0), List.replicate 8 (.thread 1),
      [.ask (.input .continue), .front, .leave], List.replicate 8 (.thread 0)]

-- Without any of the four conditions a load may change what is played, or be refused.
theorem reload_alters_playback :
    (awaiting.Halted setOut ∧
      (awaiting.after setOut).resume.visits onward = [("road", 0, true), ("road", 2, true)] ∧
      (awaiting.after setOut).reload.resume.visits onward = [("road", 0, true), ("road", 1, true)]) ∧
    (passedOver.Halted setOut ∧
      (passedOver.after setOut).resume.visits onward = [] ∧
      (passedOver.after setOut).reload.resume.visits onward = [("road", 1, true)]) ∧
    (underMask.Halted setOut ∧
      (underMask.after setOut).resume.visits onward = [("wood", 1, true), ("wood", 2, true)] ∧
      (underMask.after setOut).reload.resume.visits onward = [("wood", 1, true)]) ∧
    (insideDelay.Halted strayInto ∧
      (insideDelay.after strayInto).reload.reply? =
        some (.failed (.structural (.deferredNavigation ⟨"road", 1, 0⟩)))) := by
  refine ⟨⟨stocked_halted _ _ ?_ ?_ ?_, ?_, ?_⟩, ⟨stocked_halted _ _ ?_ ?_ ?_, ?_, ?_⟩,
    ⟨stocked_halted _ _ ?_ ?_ ?_, ?_, ?_⟩, stocked_halted _ _ ?_ ?_ ?_, ?_⟩
  all_goals decide +kernel

end World

end Storyline
