import Storyline.Proofs.Bystanders

set_option autoImplicit false

/-!
A passage of a main loop. With every input wait answered, a loop that plays takes the caret along the course that the ground
foresees, round by round.
-/

namespace Storyline

/-! ### Rounds of a main loop -/

-- The main loop goes on along the course, one visit at a time and only at the beginning of a round, or it is over.
theorem loop_sails (activity : Activity) (player : Player) (generation : Nat)
    (aboard : activity.Aboard (.loop generation) player.abandoned) (current : player.playback.generation = generation)
    (mild : player.presenter.Mild)
    (tame : activity.isSteering = true → ∀ loaded command, player.playback.loaded = some loaded →
      loaded.playlist.command? player.playback.index = some command → command.wait = true ∧ command.kind.isTame = true)
    (moved : Activity × Player) (step : activity.step? player = some moved) :
    moved.1.isOver = true ∨ ∃ expected, Sails (.loop generation) player expected moved ∧
      (expected = activity.destiny player ∨
        activity.isSteering = true ∧ player.playback.mode.waiting = false ∧ expected = player.ground.course) := by
  have stays : Sails (.loop generation) player (some player.ground) (.steering (.loop generation), player) := .on rfl rfl rfl
  cases activity with
  | steering pilot =>
      obtain rfl : pilot = .loop generation := aboard
      have went : player.steerLoop generation = moved := Option.some.inj step
      rw [Player.steerLoop] at went
      split at went
      · split at went
        · subst went
          exact .inr ⟨_, .on rfl rfl rfl, .inl rfl⟩
        · next released =>
            subst went
            exact .inr ⟨_, player.visit_sails (.loop generation) current (tame rfl), .inr ⟨rfl, by simpa using released, rfl⟩⟩
      · subst went
        exact .inl rfl
  | advancing _ | running _ _ =>
      exact .inr ⟨_, player.under_way_sails (.loop generation) current _ mild aboard rfl moved step, .inl rfl⟩
  | awaitingInput own auto deadline =>
      obtain rfl : generation = own := Pilot.loop.inj aboard
      have went : player.awaitInput? generation auto deadline = some moved := step
      refine .inr ⟨some player.ground, ?_, .inl rfl⟩
      unfold Player.awaitInput? at went
      split at went
      · exact Option.some.inj went ▸ stays
      · split at went
        · cases went
        · split at went
          · split at went
            · exact Option.some.inj went ▸ .on rfl rfl rfl
            · obtain rfl := Option.some.inj went
              obtain ⟨ground, frame⟩ := Player.reframe_of_frame ((player.set_waiting_edits false).frame rfl)
              exact .on rfl frame (congrArg some ground)
          · cases went
  | _ => exact aboard.elim

namespace World

-- Playback that is left alone, but that an input wait is answered.
def answers (world : World) : Move → Bool
  | .ask (.input .continue) => world.player.playback.mode.waiting
  | .ask _ | .background .. => false
  | _ => true

def answered (world : World) : List Move → Bool
  | [] => true
  | move :: moves => world.answers move && (world.move move).answered moves

-- Whether a move begins a round of the main loop.
def begins (world : World) (loop : Nat) : Move → Bool
  | .thread id => decide (id = loop) && (world.mover? (.thread loop)).any Activity.isSteering
  | _ => false

-- The player at the beginning of every round.
def rounds (world : World) (loop : Nat) : List Move → List Player
  | [] => []
  | move :: moves => (if world.begins loop move then [world.player] else []) ++ (world.move move).rounds loop moves

-- How many rounds visit a command; the others are spent on the input wait.
def visitRounds (rounds : List Player) : Nat := rounds.countP fun player => !player.playback.mode.waiting

-- So many visits were made in the rounds that are past.
structure Crossed (start : Ground) (past : List Player) (visits : Nat) : Prop where
  few : visits ≤ visitRounds past
  through : ∀ earlier < visits, ∃ player ∈ past, start.reach earlier = some player.ground

theorem Crossed.more {start : Ground} {past : List Player} {visits : Nat} (crossed : Crossed start past visits)
    (later : List Player) : Crossed start (past ++ later) visits := by
  refine ⟨?_, fun earlier less => ?_⟩
  · rw [visitRounds, List.countP_append]
    exact Nat.le_add_right_of_le crossed.few
  · obtain ⟨player, member, reached⟩ := crossed.through earlier less
    exact ⟨player, List.mem_append_left _ member, reached⟩

theorem Crossed.next {start : Ground} {past : List Player} {visits : Nat} (crossed : Crossed start past visits) (player : Player)
    (released : player.playback.mode.waiting = false) (here : start.reach visits = some player.ground) :
    Crossed start (past ++ [player]) (visits + 1) := by
  refine ⟨?_, fun earlier less => ?_⟩
  · rw [visitRounds, List.countP_append, List.countP_singleton, released]
    exact Nat.succ_le_succ crossed.few
  · rcases Nat.lt_succ_iff_lt_or_eq.mp less with before | rfl
    · exact (crossed.more [player]).through earlier before
    · exact ⟨player, List.mem_append_right _ List.mem_cons_self, here⟩

-- Everybody but one who moves leaves the ground alone.
structure Beside (newest : Nat) (own : Move) (world : World) : Prop where
  numbered : world.Numbered
  mild : world.player.presenter.Mild
  others : ∀ move activity, move ≠ own → world.mover? move = some activity → activity.isBystander newest = true

structure Passing (start : Ground) (newest loop : Nat) (past : List Player) (world : World) : Prop where
  beside : world.Beside newest (.thread loop)
  generation : world.player.playback.generation = newest + 1
  own : ∃ activity visits, world.mover? (.thread loop) = some activity ∧
    activity.Aboard (.loop (newest + 1)) world.player.abandoned ∧ activity.destiny world.player = start.reach visits ∧
      Crossed start past visits

theorem mover_after (world : World) (numbered : world.Numbered) (move : Move) (activity : Activity)
    (mover : world.mover? move = some activity) (successor : Activity) (player : Player)
    (step : activity.step? world.player = some (successor, player)) (now : Activity)
    (there : (world.move move).mover? move = some now) : now = successor := by
  cases move with
  | thread id =>
      obtain ⟨thread, found, rfl⟩ := Option.map_eq_some_iff.mp mover
      have old := (thread_mem numbered found).1
      rw [thread_moves_on world numbered old found step] at there
      split at there
      · cases there
      · exact (Option.some.inj there).symm
  | front =>
      rw [front_eq world mover step] at there
      exact (Option.some.inj ((deliver_spec _ none).2.1.symm.trans there)).symm
  | _ => cases mover

section Beside

variable {newest : Nat} {own : Move} {world : World} (beside : world.Beside newest own)
include beside

theorem beside_quiet : world.player.spawns = [] := by
  rw [Player.spawns, beside.numbered.told]
  rfl

theorem beside_step (move : Move) (activity : Activity) (mover : world.mover? move = some activity) (successor : Activity)
    (player : Player) (step : activity.step? world.player = some (successor, player)) (quiet : player.spawns = [])
    (presenter : player.presenter = world.player.presenter) (still : move ≠ own → successor.isBystander newest = true) :
    (world.move move).Beside newest own ∧ (world.move move).player.frame = player.frame ∧
      (move ≠ own → (world.move move).mover? own = world.mover? own) := by
  obtain ⟨⟨stage, told⟩, _⟩ := mover_steps beside.numbered mover step
  have frame : (world.move move).player.frame = player.frame := by
    rw [told]
    exact settled_frame player quiet stage
  have stays := others_stay world beside.numbered move activity mover successor player step quiet
  refine ⟨⟨(move_comes world beside.numbered move).2, ?_, fun other now different there => ?_⟩, frame,
    fun different => stays own (Ne.symm different)⟩
  · have same : (world.move move).player.presenter = world.player.presenter := (congrArg Frame.presenter frame).trans presenter
    rw [same]
    exact beside.mild
  · by_cases same : other = move
    · subst same
      rw [mover_after world beside.numbered other activity mover successor player step now there]
      exact still different
    · rw [stays other same] at there
      exact beside.others other now different there

theorem beside_bystander (move : Move) (different : move ≠ own)
    (dormant : ∀ generation ≤ newest, world.player.playback.isLive generation = false)
    (kind : move = .front ∨ ∃ id, move = .thread id) :
    (world.move move).Beside newest own ∧ Stills world.player (world.move move).player ∧
      (world.move move).mover? own = world.mover? own := by
  have idle (same : world.move move = world) : (world.move move).Beside newest own ∧
      Stills world.player (world.move move).player ∧ (world.move move).mover? own = world.mover? own := by
    rw [same]
    exact ⟨beside, .of_frame rfl, rfl⟩
  cases mover : world.mover? move with
  | none => exact idle (move_idle world move none mover (fun _ none => by cases none) kind)
  | some activity =>
      cases step : activity.step? world.player with
      | none => exact idle (move_idle world move (some activity) mover (fun _ same => Option.some.inj same ▸ step) kind)
      | some moved =>
          obtain ⟨successor, player⟩ := moved
          obtain ⟨bystander, stills⟩ := bystander_step newest activity world.player successor player
            (beside.others move activity different mover) dormant step
          have quiet : player.spawns = [] := (congrArg Frame.spawns stills.frame).trans (beside_quiet beside)
          obtain ⟨after, frame, stays⟩ := beside_step beside move activity mover successor player step quiet
            (congrArg Frame.presenter stills.frame) (fun _ => bystander)
          have playing : (world.move move).player.playback.playing = player.playback.playing := congrArg Frame.playing frame
          refine ⟨after, ⟨?_, fun on => stills.off (playing ▸ on)⟩, stays different⟩
          rw [frame, stills.frame, playing]

end Beside

section Passing

variable {start : Ground} {newest loop : Nat} {past : List Player} {world : World}
  (passing : Passing start newest loop past world)
include passing

theorem passing_dormant (generation : Nat) (older : generation ≤ newest) :
    world.player.playback.isLive generation = false := by
  have other : ¬world.player.playback.generation = generation := by
    rw [passing.generation]
    omega
  simp [Playback.isLive, other]

theorem passing_beside (next : World) (beside : next.Beside newest (.thread loop)) (stills : Stills world.player next.player)
    (stays : next.mover? (.thread loop) = world.mover? (.thread loop)) (later : List Player) :
    Passing start newest loop (past ++ later) next := by
  obtain ⟨activity, visits, mover, aboard, destiny, crossed⟩ := passing.own
  have abandoned : next.player.abandoned = world.player.abandoned := congrArg Frame.abandoned stills.frame
  refine ⟨beside, (congrArg Frame.generation stills.frame).trans passing.generation, activity, visits, stays.trans mover,
    abandoned ▸ aboard, (activity.destiny_ground stills.ground).trans destiny, crossed.more later⟩

theorem passing_own {script : String} (tame : start.Tame script)
    (within : world.begins loop (.thread loop) = true → world.player.ground.script? = some script) :
    (world.move (.thread loop)).mover? (.thread loop) = none ∨
      Passing start newest loop (past ++ if world.begins loop (.thread loop) then [world.player] else [])
        (world.move (.thread loop)) := by
  obtain ⟨activity, visits, mover, aboard, destiny, crossed⟩ := passing.own
  have beside := passing.beside
  have begins : world.begins loop (.thread loop) = activity.isSteering := by simp [World.begins, mover]
  cases step : activity.step? world.player with
  | none =>
      have same := move_idle world (.thread loop) (some activity) mover (fun _ own => Option.some.inj own ▸ step)
        (.inr ⟨loop, rfl⟩)
      rw [same]
      exact .inr (passing_beside passing world beside (.of_frame rfl) rfl _)
  | some moved =>
      obtain ⟨successor, player⟩ := moved
      have here (steers : activity.isSteering = true) : start.reach visits = some world.player.ground := by
        cases activity with
        | steering pilot => exact destiny.symm
        | _ => cases steers
      have sails := loop_sails activity world.player (newest + 1) aboard passing.generation beside.mild
        (fun steers => world.player.ground.tame_here (start.reach_tame tame visits _ (here steers))
          (within (begins.trans steers)))
        (successor, player) step
      have gone (over_ : successor.isOver = true) : (world.move (.thread loop)).mover? (.thread loop) = none := by
        obtain ⟨thread, found, rfl⟩ := Option.map_eq_some_iff.mp mover
        have now := thread_moves_on world beside.numbered (thread_mem beside.numbered found).1 found step
        rw [now, if_pos over_]
      rcases sails with over_ | ⟨expected, sails, either⟩
      · exact .inl (gone over_)
      · cases sails with
        | over_ over_ => exact .inl (gone over_)
        | on boarded frame bound =>
            right
            have quiet : player.spawns = [] := (congrArg Frame.spawns frame).trans (beside_quiet beside)
            obtain ⟨after, same, _⟩ := beside_step beside (.thread loop) activity mover successor player step quiet
              (congrArg Frame.presenter frame) (fun different => absurd rfl different)
            have going := successor.aboard_going _ _ boarded
            have now := (mover_steps beside.numbered mover step).2 going
            have ground : (world.move (.thread loop)).player.ground = player.ground := congrArg Frame.ground same
            have abandoned : (world.move (.thread loop)).player.abandoned = world.player.abandoned :=
              (congrArg Frame.abandoned same).trans (congrArg Frame.abandoned frame)
            have generation : (world.move (.thread loop)).player.playback.generation = newest + 1 :=
              (congrArg Frame.generation same).trans ((congrArg Frame.generation frame).trans passing.generation)
            have led := (successor.destiny_ground ground).trans bound
            rcases either with rfl | ⟨steers, released, rfl⟩
            · exact ⟨after, generation, successor, visits, now, abandoned ▸ boarded, led.trans destiny, crossed.more _⟩
            · refine ⟨after, generation, successor, visits + 1, now, abandoned ▸ boarded, ?_, ?_⟩
              · rw [led, Ground.reach, here steers]
                rfl
              · rw [begins, steers, if_pos rfl]
                exact crossed.next world.player released (here steers)

theorem passing_move {script : String} (tame : start.Tame script) (move : Move) (answers : world.answers move = true)
    (within : world.begins loop move = true → world.player.ground.script? = some script) :
    (world.move move).mover? (.thread loop) = none ∨
      Passing start newest loop (past ++ if world.begins loop move then [world.player] else []) (world.move move) := by
  have beside := passing.beside
  have dormant := passing_dormant passing
  have bystander (different : move ≠ .thread loop) (kind : move = .front ∨ ∃ id, move = .thread id) (later : List Player) :
      Passing start newest loop (past ++ later) (world.move move) := by
    obtain ⟨after, stills, stays⟩ := beside_bystander beside move different dormant kind
    exact passing_beside passing _ after stills stays later
  -- nobody makes a step, and the front is somebody harmless or nobody
  have numbered := (move_comes world beside.numbered move).2
  have still (player : Stills world.player (world.move move).player)
      (threads : ∀ id, (world.move move).mover? (.thread id) = world.mover? (.thread id))
      (front : ∀ activity, (world.move move).front = some activity → activity.isBystander newest = true) (later : List Player) :
      Passing start newest loop (past ++ later) (world.move move) := by
    have presenter : (world.move move).player.presenter = world.player.presenter := congrArg Frame.presenter player.frame
    refine passing_beside passing _ ⟨numbered, presenter ▸ beside.mild, fun other activity different there => ?_⟩ player
      (threads loop) later
    cases other with
    | thread id => exact beside.others (.thread id) activity different ((threads id).symm.trans there)
    | front => exact front activity there
    | _ => cases there
  have before (activity : Activity) (there : world.front = some activity) : activity.isBystander newest = true :=
    beside.others .front activity (by simp) there
  cases move with
  | thread id =>
      by_cases own : id = loop
      · subst own
        exact passing_own passing tame within
      · exact .inr (bystander (by simpa using own) (.inr ⟨id, rfl⟩) _)
  | front => exact .inr (bystander (by simp) (.inl rfl) _)
  | ask request =>
      refine .inr (still (.of_frame rfl) (fun _ => rfl) (fun activity there => ?_) _)
      obtain rfl := Option.some.inj there
      cases request with
      | input signal => rfl
      | _ => cases answers
  | leave => exact .inr (still (.of_frame rfl) (fun _ => rfl) (fun activity there => by cases there) _)
  | background request report => cases answers
  | pass time => exact .inr (still (.of_frame rfl) (fun _ => rfl) before _)
  | arrange queue postponed => exact .inr (still (.of_frame rfl) (fun _ => rfl) before _)

end Passing

theorem gone_after (world : World) (id : Nat) (old : id < world.nextThread) (gone : world.mover? (.thread id) = none)
    (moves : List Move) : (world.after moves).mover? (.thread id) = none := by
  induction moves generalizing world with
  | nil => exact gone
  | cons move moves ih =>
      obtain ⟨grows, stays⟩ := thread_stays world move id old
      refine ih (world.move move) (Nat.lt_of_lt_of_le old grows) ?_
      have nobody : world.thread? id = none := Option.map_eq_none_iff.mp gone
      rcases stays with same | ⟨_, thread, _, found, _⟩
      · rw [mover?, same, nobody]
        rfl
      · rw [nobody] at found
        cases found

-- A whole run of the loop: the rounds that belong to the course are all in the script.
theorem passing_after {start : Ground} {newest loop : Nat} {script : String} (tame : start.Tame script) (total : List Player)
    (within : ∀ player ∈ total, ∀ visits, start.reach visits = some player.ground → Crossed start total visits →
      player.ground.script? = some script)
    (moves : List Move) (past : List Player) (world : World) (passing : Passing start newest loop past world)
    (answered : world.answered moves = true) (rounds : past ++ world.rounds loop moves = total) :
    (world.after moves).mover? (.thread loop) = none ∨ Passing start newest loop total (world.after moves) := by
  induction moves generalizing past world with
  | nil =>
      right
      rw [← rounds, World.rounds, List.append_nil]
      exact passing
  | cons move moves ih =>
      obtain ⟨answers, later⟩ := Bool.and_eq_true_iff.mp answered
      obtain ⟨activity, visits, mover, _, destiny, crossed⟩ := passing.own
      have inside (begins : world.begins loop move = true) : world.player.ground.script? = some script := by
        have here : world.player ∈ total := by
          rw [← rounds, World.rounds, begins, if_pos rfl]
          simp
        have upTo : Crossed start total visits := rounds ▸ crossed.more _
        refine within world.player here visits ?_ upTo
        cases move with
        | thread id =>
            simp only [World.begins, mover, Option.any_some, Bool.and_eq_true] at begins
            cases activity with
            | steering pilot => exact destiny.symm
            | _ => cases begins.2
        | _ => cases begins
      rw [after_cons]
      rcases passing_move passing tame move answers inside with gone | goes
      · left
        obtain ⟨thread, found, _⟩ := Option.map_eq_some_iff.mp mover
        have old := (thread_mem passing.beside.numbered found).1
        exact gone_after _ loop (Nat.lt_of_lt_of_le old (thread_stays world move loop old).1) gone moves
      · refine ih _ (world.move move) goes later ?_
        rw [List.append_assoc]
        exact rounds

end World

end Storyline
