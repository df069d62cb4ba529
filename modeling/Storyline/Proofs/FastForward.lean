import Storyline.Proofs.Headway

set_option autoImplicit false

/-!
Fast-forward does what playback does. From a stopped player with nothing in flight, a trip to a place ahead in a tame script and
the main loop, with every input wait answered, come along the same course, so they agree on where they get to and on all that
the story depends on there. The trip gives up where the course leaves the script, which playback does not.
-/

namespace Storyline

theorem Player.set_waiting_off (player : Player) :
    (player.setWaiting false).playback.mode = { player.playback.mode with waiting := false } := by
  have never : (player.playback.mode.setWaiting false).1.waiting ≠ some true := by
    simp [Mode.setWaiting, Mode.turned]
  simp only [Player.setWaiting, if_neg never, Player.with_mode_playback]
  rfl

theorem Player.complete_calm (player : Player) (calm : player.Calm) (sequel : Sequel) :
    ∃ entered, player.complete none sequel = (.completing .leader sequel, entered) ∧ entered.executing.entries = [] := by
  have leads : (player.enterRendezvous none none).1 = .leader := by simp [enterRendezvous, Rendezvous.enter, calm.idle]
  have executing : (player.enterRendezvous none none).2.executing = player.executing := by
    simp [enterRendezvous, Rendezvous.enter, calm.idle, tell]
  refine ⟨(player.enterRendezvous none none).2, ?_, executing ▸ calm.entries⟩
  rw [← leads]
  rfl

theorem Player.leave_calm (player : Player) (entries : player.executing.entries = []) :
    ∃ left, player.leaveRendezvous? .leader none = some left ∧ left.Calm := by
  have drained : player.executing.drained none = true := by rw [Executing.drained, entries]; rfl
  have noted : Spares {} player (player.notes player.rendezvous.conclude.1) := (player.notes_edits _).spares rfl
  simp only [leaveRendezvous?, drained, if_true]
  refine ⟨_, rfl, ?_, rfl⟩
  simp only [unpark, tell, publish, (noted.executing rfl).1]
  exact entries

/-! ### Places ahead -/

-- The place that a request names in the script.
def Request.aims? (loaded : Loaded) : Request → Option Nat
  | .rewindLine line => loaded.playlist.indexFromLine? line
  | .rewindSpot spot => loaded.playlist.indexOf? spot
  | _ => none

theorem Request.aims_inside (request : Request) (loaded : Loaded) (target : Nat) (aims : request.aims? loaded = some target) :
    target < loaded.playlist.length := by
  cases request with
  | rewindLine line => exact (Array.findIdx?_eq_some_iff_getElem.mp aims).1
  | rewindSpot spot => exact loaded.playlist.index_of_lt spot target aims
  | _ => cases aims

theorem Player.ask_travels (player : Player) (request : Request) (loaded : Loaded) (target : Nat)
    (aims : request.aims? loaded = some target) (here : player.playback.loaded = some loaded)
    (ahead : player.playback.index < target) : player.ask request = player.travel loaded.playlist.script target := by
  cases request with
  | rewindLine line =>
      have found : loaded.playlist.indexFromLine? line = some target := aims
      simp only [ask, rewindToLine, here, found, rewindToIndex, if_pos ahead]
  | rewindSpot spot =>
      have found : loaded.playlist.indexOf? spot = some target := aims
      have named : loaded.playlist.script = spot.script := by
        by_contra other
        simp [Playlist.indexOf?, Ne.symm other] at found
      simp only [ask, rewindToSpot, here, Option.filter_some, named, decide_true, if_true, found, rewindToIndex, if_pos ahead]
  | _ => cases aims

theorem Playback.spot_inside (playback : Playback) (loaded : Loaded) (here : playback.loaded = some loaded)
    (inside : playback.index < loaded.playlist.length) : ∃ spot, playback.spot? = some spot := by
  obtain ⟨command, found⟩ : ∃ command, loaded.playlist.command? playback.index = some command :=
    ⟨_, Array.getElem?_eq_getElem inside⟩
  exact ⟨command.spot, by rw [spot?, command?, here, Option.bind_some, found, Option.map_some]⟩

namespace World

/-! ### Playback makes headway -/

theorem solo_answered (own : Move) (mine : own = .front ∨ ∃ id, own = .thread id) (moves : List Move) (solo : Solo own moves)
    (world : World) : world.answered moves = true := by
  induction moves generalizing world with
  | nil => rfl
  | cons move moves ih =>
      have later := ih (fun other member => solo other (List.mem_cons_of_mem _ member)) (world.move move)
      have first : world.answers move = true := by
        rcases solo move List.mem_cons_self with rfl | ⟨time, rfl⟩
        · rcases mine with rfl | ⟨id, rfl⟩ <;> rfl
        · rfl
      rw [answered, first, later]
      rfl

theorem solo_free (moves : List Move) (solo : Solo .front moves) : moves.all Move.isFree = true := by
  refine List.all_eq_true.mpr fun move member => ?_
  rcases solo move member with rfl | ⟨time, rfl⟩ <;> rfl

theorem answered_append (world : World) (first second : List Move) :
    world.answered (first ++ second) = (world.answered first && (world.after first).answered second) := by
  induction first generalizing world with
  | nil => rfl
  | cons move moves ih => rw [List.cons_append, answered, answered, ih, Bool.and_assoc, after_cons]

theorem rounds_append (world : World) (loop : Nat) (first second : List Move) :
    world.rounds loop (first ++ second) = world.rounds loop first ++ (world.after first).rounds loop second := by
  induction first generalizing world with
  | nil => rfl
  | cons move moves ih => rw [List.cons_append, rounds, rounds, ih, List.append_assoc, after_cons]

-- The main loop about to begin a round.
structure Cruising (newest loop : Nat) (world : World) : Prop where
  poised : world.Poised newest (.thread loop) (.loop (newest + 1))
  playing : world.player.playback.playing = true

section Cruising

variable {newest loop : Nat} {world : World} (cruising : world.Cruising newest loop)
include cruising

theorem answer_once (waiting : world.player.playback.mode.waiting = true) :
    let next := world.after [.ask (.input .continue), .front]
    next.Cruising newest loop ∧ next.player.ground = world.player.ground ∧ next.player.playback.mode =
      if world.player.playback.mode.skip then { world.player.playback.mode with skip := false }
      else { world.player.playback.mode with waiting := false } := by
  intro next
  obtain ⟨beside, mover, current, calm⟩ := cruising.poised
  generalize answers : (if world.player.playback.mode.skip then world.player.disableSkip else world.player.setWaiting false) =
    answered
  have step : (Activity.asked (.input .continue)).step? world.player = some (.finished .nothing, answered) := by
    rw [← answers]
    simp only [Activity.step?, Player.ask, Player.handle, waiting, if_true, Player.resumeAt]
    split <;> rfl
  have frame : answered.frame = world.player.frame := by
    rw [← answers]
    split
    · exact world.player.with_mode_frame _
    · exact (world.player.set_waiting_edits false).frame rfl
  have spares : Spares {} world.player answered := by
    rw [← answers]
    split
    · exact world.player.with_mode_spares _
    · exact (world.player.set_waiting_edits false).spares rfl
  have mode : answered.playback.mode = if world.player.playback.mode.skip then { world.player.playback.mode with skip := false }
      else { world.player.playback.mode with waiting := false } := by
    rw [← answers]
    split
    · rw [Player.disableSkip, Player.with_mode_playback]
      rfl
    · exact world.player.set_waiting_off
  have asked : (world.move (.ask (.input .continue))).Beside newest (.thread loop) := by
    refine ⟨(move_comes world beside.numbered _).2, beside.mild, fun other activity different there => ?_⟩
    cases other with
    | thread id => exact beside.others (.thread id) activity different there
    | front =>
        obtain rfl := Option.some.inj there
        rfl
    | _ => cases there
  have quiet : answered.spawns = [] := (congrArg Frame.spawns frame).trans (beside_quiet beside)
  obtain ⟨after, same, stays⟩ := beside_step asked .front _ rfl (.finished .nothing) answered step quiet
    (congrArg Frame.presenter frame) (fun _ => rfl)
  obtain ⟨⟨stage, told⟩, _⟩ := @mover_steps _ asked.numbered .front _ rfl _ _ step
  have still : next.player.frame = world.player.frame := same.trans frame
  have moved : next.player = { answered with outbox := [], stage := stage } := told
  have executing : next.player.executing = answered.executing := by rw [moved]
  have rendezvous : next.player.rendezvous = answered.rendezvous := by rw [moved]
  have quietly := calm.spared spares rfl rfl
  refine ⟨⟨⟨after, (stays (by simp)).trans mover, (congrArg Frame.generation still).trans current, ?_⟩, ?_⟩,
    congrArg Frame.ground still, ?_⟩
  · exact ⟨executing ▸ quietly.entries, rendezvous ▸ quietly.idle⟩
  · exact (congrArg Frame.playing still).trans cruising.playing
  · rw [← mode, moved]

theorem answer_wait : ∃ moves, world.answered moves = true ∧ world.rounds loop moves = [] ∧
    (world.after moves).Cruising newest loop ∧ (world.after moves).player.ground = world.player.ground ∧
      (world.after moves).player.playback.mode.waiting = false := by
  cases waiting : world.player.playback.mode.waiting with
  | false => exact ⟨[], rfl, rfl, cruising, rfl, waiting⟩
  | true =>
      obtain ⟨first, ground, mode⟩ := answer_once cruising waiting
      cases skip : world.player.playback.mode.skip with
      | false =>
          refine ⟨[.ask (.input .continue), .front], ?_, rfl, first, ground, ?_⟩
          · simp [answered, answers, waiting]
          · rw [mode, skip]
            rfl
      | true =>
          rw [skip, if_pos rfl] at mode
          have still : (world.after [.ask (.input .continue), .front]).player.playback.mode.waiting = true := by
            rw [mode]
            exact waiting
          obtain ⟨second, again, released⟩ := answer_once first still
          refine ⟨[.ask (.input .continue), .front, .ask (.input .continue), .front], ?_, rfl, second, again.trans ground, ?_⟩
          · simp only [answered, answers, waiting, Bool.and_true, Bool.true_and]
            exact still
          · rw [mode, if_neg (by simp)] at released
            exact congrArg Mode.waiting released

-- One round: the caret comes from a visit to the next one.
theorem cruise_round {script : String} {there : Ground} (tame : world.player.ground.Tame script)
    (within : world.player.ground.script? = some script) (leads : world.player.ground.course = some there) :
    ∃ moves, world.answered moves = true ∧ (world.after moves).Cruising newest loop ∧
      (world.after moves).player.ground = there ∧ ∀ player ∈ world.rounds loop moves, player.ground = world.player.ground := by
  obtain ⟨waits, replied, unseen, ready, ground, released⟩ := answer_wait cruising
  rw [← ground] at tame within leads
  obtain ⟨beside, mover, current, calm⟩ := ready.poised
  have live : (world.after waits).player.playback.isLive (newest + 1) = true := by
    have generation : (world.after waits).player.playback.generation = newest + 1 := current
    simp [Playback.isLive, ready.playing, generation]
  have step : (Activity.steering (.loop (newest + 1))).step? (world.after waits).player =
      some (Player.afterVisit (.loop (newest + 1)) ((world.after waits).player.visit (newest + 1))) := by
    simp only [Activity.step?, Player.steerLoop, live, released, Bool.false_eq_true, if_true, if_false]
  obtain ⟨moves, solo, silent, poised, frame⟩ := voyage (world.after waits) _ beside mover current _ rfl calm step
    (Ground.tame_here _ tame within) leads
  refine ⟨waits ++ .thread loop :: moves, ?_, ⟨?_, ?_⟩, ?_, fun player member => ?_⟩
  · have later := solo_answered (.thread loop) (.inr ⟨loop, rfl⟩) moves solo ((world.after waits).move (.thread loop))
    rw [answered_append, replied, answered, later]
    rfl
  · rw [after_append, after_cons]
    exact poised
  · rw [after_append, after_cons]
    exact (congrArg Frame.playing frame).trans ready.playing
  · rw [after_append, after_cons]
    exact congrArg Frame.ground frame
  · rw [rounds_append, unseen, rounds, silent loop rfl, List.append_nil, List.nil_append] at member
    split at member
    · rw [List.mem_singleton.mp member]
      exact ground
    · cases member

end Cruising

theorem cruise {newest loop : Nat} {script : String} (world : World) (cruising : world.Cruising newest loop)
    (tame : world.player.ground.Tame script) (visits : Nat)
    (within : ∀ earlier < visits, ∀ between, world.player.ground.reach earlier = some between → between.script? = some script)
    (there : Ground) (reached : world.player.ground.reach visits = some there) :
    ∃ moves, world.answered moves = true ∧ (world.after moves).Cruising newest loop ∧
      (world.after moves).player.ground = there ∧
        ∀ player ∈ world.rounds loop moves, ∃ earlier < visits, world.player.ground.reach earlier = some player.ground := by
  induction visits generalizing there with
  | zero =>
      obtain rfl := Option.some.inj reached
      exact ⟨[], rfl, cruising, rfl, fun _ none => absurd none List.not_mem_nil⟩
  | succ visits ih =>
      obtain ⟨between, before, leads⟩ := Option.bind_eq_some_iff.mp (reached : (world.player.ground.reach visits).bind _ = _)
      obtain ⟨moves, replied, arrived, here, past⟩ := ih (fun earlier less => within earlier (Nat.lt_succ_of_lt less)) between
        before
      have inside := within visits (Nat.lt_succ_self _) between before
      obtain ⟨more, answers, farther, ground, round⟩ := cruise_round arrived (here ▸ world.player.ground.reach_tame tame visits _
        before) (here ▸ inside) (here ▸ leads)
      refine ⟨moves ++ more, ?_, ?_, ?_, fun player member => ?_⟩
      · rw [answered_append, replied, answers]
        rfl
      · rw [after_append]
        exact farther
      · rw [after_append]
        exact ground
      · rw [rounds_append] at member
        rcases List.mem_append.mp member with old | new
        · obtain ⟨earlier, less, reached⟩ := past player old
          exact ⟨earlier, Nat.lt_succ_of_lt less, reached⟩
        · refine ⟨visits, Nat.lt_succ_self _, ?_⟩
          rw [round player new, here]
          exact before

/-! ### The two departures -/

-- A stopped player with nothing in flight, where nobody is about to do anything to the ground.
structure Moored (world : World) : Prop where
  numbered : world.Numbered
  stopped : world.player.playback.playing = false
  calm : world.player.Calm
  mild : world.player.presenter.Mild
  others : ∀ activity ∈ world.activities, activity.isBystander world.player.playback.generation = true

section Moored

variable {world : World} (moored : world.Moored)
include moored

theorem moored_thread (id : Nat) (activity : Activity) (mover : world.mover? (.thread id) = some activity) :
    activity.isBystander world.player.playback.generation = true :=
  moored.others activity (mover_mem mover)

theorem resume_eq (spot : Spot) (here : world.player.playback.spot? = some spot) :
    ∃ (started : Player) (queue : List Nat), started.Calm ∧
      started.frame = { world.player.frame with
        playing := true, generation := world.player.playback.generation + 1, spawns := started.spawns } ∧
      world.resume = { world with
        player := { started with outbox := [] }
        front := some (.finished .done)
        turns := world.turns + 1
        threads := world.threads ++ [{ id := world.nextThread
                                       activity := .steering (.loop (world.player.playback.generation + 1))
                                       report := fun _ _ => none }]
        nextThread := world.nextThread + 1
        queue := queue } := by
  generalize starts : (({ world.player with playback := { world.player.playback with
    playing := true, generation := world.player.playback.generation + 1 } }.tell .stateChanged).publish (.started spot)).tell
      (.spawned (.steering (.loop (world.player.playback.generation + 1)))) = started
  have step : (Activity.asked .resume).step? world.player = some (.finished .done, started) := by
    simp [Activity.step?, Player.ask, Player.start, moored.stopped, here, Player.answer, ← starts]
  have outbox : started.outbox =
      [.spawned (.steering (.loop (world.player.playback.generation + 1))), .stateChanged] := by
    simp [← starts, Player.tell, Player.publish, moored.numbered.told]
  have calm : started.Calm := by
    rw [← starts]
    exact ⟨moored.calm.entries, moored.calm.idle⟩
  have same : started.frame = { world.player.frame with
      playing := true, generation := world.player.playback.generation + 1, spawns := started.spawns } := by
    rw [← starts]
    rfl
  rw [resume, after_cons, after_cons, after_nil, front_eq (world.move (.ask .resume)) rfl step]
  simp only [deliver, outbox, List.reverse_cons, List.reverse_nil, List.nil_append, List.cons_append, List.foldl_cons,
    List.foldl_nil]
  exact ⟨started, _, calm, same, rfl⟩

theorem resume_cruising (spot : Spot) (here : world.player.playback.spot? = some spot) :
    world.resume.Cruising world.player.playback.generation world.nextThread ∧
      world.resume.player.ground = world.player.ground := by
  obtain ⟨started, queue, calm, same, moved⟩ := resume_eq moored spot here
  have numbered : world.resume.Numbered := after_numbered world moored.numbered _
  have found (id : Nat) : world.resume.mover? (.thread id) = (world.mover? (.thread id)).or
      (if world.nextThread = id then some (.steering (.loop (world.player.playback.generation + 1))) else none) := by
    rw [moved]
    simp only [mover?, thread?, List.find?_append, Option.map_or, List.find?_singleton, decide_eq_true_eq]
    split <;> rfl
  have absent : world.mover? (.thread world.nextThread) = none := by
    cases there : world.thread? world.nextThread with
    | none => rw [mover?, there]; rfl
    | some thread => exact absurd (thread_mem moored.numbered there).1 (Nat.lt_irrefl _)
  have presenter : started.presenter = world.player.presenter := congrArg Frame.presenter same
  have mild : started.presenter.Mild := presenter ▸ moored.mild
  refine ⟨⟨⟨⟨numbered, ?_, fun other activity different there => ?_⟩, ?_, ?_, ?_⟩, ?_⟩, ?_⟩
  · rw [moved]
    exact mild
  · cases other with
    | thread id =>
        have elder : ¬world.nextThread = id := fun same => different (same ▸ rfl)
        rw [found, if_neg elder, Option.or_none] at there
        exact moored_thread moored id activity there
    | front =>
        rw [moved] at there
        obtain rfl := Option.some.inj there
        rfl
    | _ => cases there
  · rw [found, absent, if_pos rfl]
    rfl
  · rw [moved]
    exact congrArg Frame.generation same
  · rw [moved]
    exact ⟨calm.entries, calm.idle⟩
  · rw [moved]
    exact congrArg Frame.playing same
  · rw [moved]
    exact congrArg Frame.ground same

section Ahead

variable {loaded : Loaded} {request : Request} {target : Nat} (here : world.player.playback.loaded = some loaded)
  (aims : request.aims? loaded = some target) (ahead : world.player.playback.index < target)
include here aims ahead

theorem ask_traveling : (world.move (.ask request)).Traveling world.player.ground loaded.playlist.script target
    world.player.playback.generation := by
  have numbered := (move_comes world moored.numbered (.ask request)).2
  refine ⟨⟨numbered, moored.mild, fun other activity different there => ?_⟩, moored.stopped, .asked request, rfl, ?_⟩
  · cases other with
    | thread id => exact moored_thread moored id activity there
    | front => exact absurd rfl different
    | _ => cases there
  · refine .asked request rfl fun other same => ?_
    have place : other.playback.loaded = some loaded := (congrArg (fun ground : Ground => ground.caret.loaded) same).trans here
    have index : other.playback.index = world.player.playback.index := congrArg (fun ground : Ground => ground.caret.index) same
    exact other.ask_travels request loaded target aims place (index ▸ ahead)

-- The trip departs at once: there is nothing to complete.
theorem travel_poised : ∃ trip, (world.after [.ask request, .front, .front]).front = some (.steering (.trip trip)) ∧
    (world.after [.ask request, .front, .front]).player.Calm := by
  have stopped : Spares {} world.player world.player.stop := (Edit.stop world.player _ (by decide)).spares.wider rfl
  obtain ⟨trip, travels⟩ : ∃ trip, world.player.travel loaded.playlist.script target =
    world.player.stop.complete none (.travel trip) := ⟨_, rfl⟩
  obtain ⟨entered, enters, entries⟩ := world.player.stop.complete_calm (moored.calm.spared stopped rfl rfl) (.travel trip)
  have asks : (Activity.asked request).step? world.player = some (.completing .leader (.travel trip), entered) :=
    congrArg some ((world.player.ask_travels request loaded target aims here ahead).trans (travels.trans enters))
  have numbered := after_numbered world moored.numbered [.ask request]
  obtain ⟨⟨stage, told⟩, waits⟩ := @mover_steps _ numbered .front _ rfl _ _ asks
  obtain ⟨left, leaves, calm⟩ := Player.leave_calm ((world.after [.ask request]).move .front).player (by rw [told]; exact entries)
  generalize frees : (if left.playback.mode.waiting then left.setWaiting false else left) = free
  have released : free.Calm := by
    rw [← frees]
    split
    · have spares : Spares {} left (left.setWaiting false) := (left.set_waiting_edits false).spares rfl
      exact calm.spared spares rfl rfl
    · exact calm
  have embarks : (Activity.completing .leader (.travel trip)).step? ((world.after [.ask request]).move .front).player =
      some (free.embark trip) := by
    rw [← frees]
    exact Option.map_eq_some_iff.mpr ⟨left, leaves, rfl⟩
  obtain ⟨⟨later, now⟩, steers⟩ :=
    mover_steps (after_numbered world moored.numbered [.ask request, .front]) (waits rfl) embarks
  refine ⟨_, steers rfl, ?_⟩
  have player : (world.after [.ask request, .front, .front]).player = _ := now
  rw [player]
  exact ⟨released.entries, released.idle⟩

end Ahead

end Moored

/-! ### A trip makes headway -/

section Trip

variable {start : Ground} {script : String} {target newest : Nat}

theorem steering_leg {player : Player} {trip : Trip} (leg : Leg start script target player (.steering (.trip trip))) :
    Bound start script target trip ∧ player.playback.generation = trip.generation ∧
      start.reach trip.steps = some player.ground := by
  cases leg with
  | sails _ own bound current aboard destiny =>
      obtain rfl : trip = own := Pilot.trip.inj aboard
      exact ⟨bound, current, destiny.symm⟩

theorem trip_cruise (tame : start.Tame script) (visits : Nat) (few : visits ≤ Player.tripLimit)
    (short : ∀ earlier < visits, Short start script target earlier) (there : Ground) (reached : start.reach visits = some there)
    (far : target ≤ there.caret.index) (within : there.script? = some script) (world : World)
    (traveling : world.Traveling start script target newest) (trip : Trip)
    (front : world.front = some (.steering (.trip trip))) (calm : world.player.Calm) :
    ∃ moves, moves.all Move.isFree = true ∧ (world.after moves).reply? = some (.flag true) := by
  induction left : visits - trip.steps using Nat.strongRecOn generalizing world trip with
  | ind left ih =>
      obtain ⟨activity, infront, leg⟩ := traveling.leg
      obtain rfl := Option.some.inj (infront.symm.trans front)
      obtain ⟨bound, current, here⟩ := steering_leg leg
      have steps : trip.steps ≤ visits := by
        by_contra beyond
        obtain ⟨other, same, near, _⟩ := bound.short visits (Nat.lt_of_not_le beyond)
        obtain rfl := Option.some.inj (reached.symm.trans same)
        exact absurd near (Nat.not_lt.mpr far)
      have place : world.player.playback.script? = world.player.ground.script? := rfl
      have index : world.player.playback.index = world.player.ground.caret.index := rfl
      rcases Nat.eq_or_lt_of_le steps with last | before
      · -- the place is reached
        obtain rfl := Option.some.inj ((last ▸ here).symm.trans reached)
        have arrives : (Activity.steering (.trip trip)).step? world.player = some (world.player.disembark trip (.ok true)) := by
          simp only [Activity.step?, Player.steerTrip, place, index, bound.name, bound.goal, within, ne_eq, not_true, if_false,
            if_pos far]
        refine ⟨[.front], rfl, ?_⟩
        rw [after_cons, after_nil, front_eq world front arrives, reply?, (deliver_spec _ none).2.1,
          (world.player.disembark_stopped trip bound.stopped true).1]
      · -- one more visit
        obtain ⟨between, same, near, inside⟩ := short trip.steps before
        obtain rfl := Option.some.inj (here.symm.trans same)
        obtain ⟨next, onward⟩ : ∃ next, start.reach (trip.steps + 1) = some next :=
          start.reach_earlier (trip.steps + 1) (visits - (trip.steps + 1)) there
            (by rw [Nat.add_sub_cancel' before]; exact reached)
        have leads : world.player.ground.course = some next := by
          rw [Ground.reach, here] at onward
          exact onward
        have forced := world.player.with_mode_frame world.player.playback.mode.forceSkip
        have visiting : (Activity.steering (.trip trip)).step? world.player =
            some (Player.afterVisit (.trip { trip with steps := trip.steps + 1 })
              ((world.player.withMode world.player.playback.mode.forceSkip).visit trip.generation)) := by
          have ahead : ¬target ≤ world.player.ground.caret.index := Nat.not_le.mpr near
          have room : ¬Player.tripLimit ≤ trip.steps := Nat.not_le.mpr (Nat.lt_of_lt_of_le before few)
          simp only [Activity.step?, Player.steerTrip, place, index, bound.name, bound.goal, inside, ne_eq, not_true, if_false,
            if_neg ahead, if_neg room]
        have spares : Spares {} world.player (world.player.withMode world.player.playback.mode.forceSkip) :=
          world.player.with_mode_spares _
        have ground : (world.player.withMode world.player.playback.mode.forceSkip).ground = world.player.ground :=
          congrArg Frame.ground forced
        have steered : world.player.playback.generation = (Pilot.trip { trip with steps := trip.steps + 1 }).generation := current
        obtain ⟨moves, solo, _, poised, _⟩ := voyage world _ traveling.beside front steered _ forced (calm.spared spares rfl rfl)
          visiting (Ground.tame_here _ (start.reach_tame tame trip.steps _ (ground ▸ here)) (ground ▸ inside)) leads
        have free : (Move.front :: moves).all Move.isFree = true := solo_free moves solo
        rcases traveling_after tame traveling (.front :: moves) free with ⟨reply, fallen, _⟩ | travels
        · cases fallen.symm.trans poised.mover
        · obtain ⟨more, freely, replies⟩ := ih (visits - (trip.steps + 1)) (by omega) _ travels _ poised.mover poised.calm rfl
          refine ⟨.front :: moves ++ more, ?_, ?_⟩
          · rw [List.all_append, free, freely]
            rfl
          · rw [after_append]
            exact replies

theorem trip_over {world : World} (tame : start.Tame script) (traveling : world.Traveling start script target newest)
    (moves : List Move) (free : moves.all Move.isFree = true) (reply : Reply)
    (replies : (world.after moves).reply? = some reply) :
    Falls start script target reply ∨
      Leg start script target (world.after moves).player (.finished reply) ∧ reply = .flag true := by
  have front : (world.after moves).front = some (.finished reply) := by
    unfold reply? at replies
    split at replies
    · next other front => rw [front, Option.some.inj replies]
    · cases replies
  rcases traveling_after tame traveling moves free with ⟨other, fallen, falls⟩ | travels
  · obtain rfl := Activity.finished.inj (Option.some.inj (front.symm.trans fallen))
    exact .inl falls
  · obtain ⟨activity, infront, leg⟩ := travels.leg
    obtain rfl := Option.some.inj (infront.symm.trans front)
    right
    cases leg with
    | sails _ _ _ _ aboard _ => exact aboard.elim
    | arrives visits few there far within short => exact ⟨.arrives visits few there far within short, rfl⟩

end Trip

/-! ### Two ways to the same place -/

-- The moves take the main loop to its first round at the target or past it.
structure Arrives (world : World) (loop target : Nat) (moves : List Move) : Prop where
  answered : world.answered moves = true
  round : (world.after moves).begins loop (.thread loop) = true
  far : target ≤ (world.after moves).player.playback.index
  first : ∀ player ∈ world.rounds loop moves, player.playback.index < target

instance (world : World) (loop target : Nat) (moves : List Move) : Decidable (world.Arrives loop target moves) :=
  decidable_of_iff (world.answered moves = true ∧ (world.after moves).begins loop (.thread loop) = true ∧
      target ≤ (world.after moves).player.playback.index ∧ ∀ player ∈ world.rounds loop moves, player.playback.index < target)
    ⟨fun all => ⟨all.1, all.2.1, all.2.2.1, all.2.2.2⟩,
      fun arrives => ⟨arrives.answered, arrives.round, arrives.far, arrives.first⟩⟩

theorem arrives_before {world : World} {loop target : Nat} {moves : List Move} (arrives : world.Arrives loop target moves)
    (visits : Nat) (there : Ground) (reached : world.player.ground.reach visits = some there) (far : target ≤ there.caret.index)
    (crossed : Nat) (through : Crossed world.player.ground (world.rounds loop moves) crossed) : crossed ≤ visits := by
  by_contra beyond
  obtain ⟨player, member, same⟩ := through.through visits (Nat.lt_of_not_le beyond)
  obtain rfl := Option.some.inj (reached.symm.trans same)
  exact absurd (arrives.first player member) (Nat.not_lt.mpr far)

section Playback

variable {newest loop target : Nat} {script : String} {world : World} (cruising : world.Cruising newest loop)
  (tame : world.player.ground.Tame script)
include cruising tame

theorem arrives_along {moves : List Move} (arrives : world.Arrives loop target moves)
    (within : ∀ player ∈ world.rounds loop moves, ∀ visits, world.player.ground.reach visits = some player.ground →
      Crossed world.player.ground (world.rounds loop moves) visits → player.ground.script? = some script) :
    ∃ visits, world.player.ground.reach visits = some (world.after moves).player.ground ∧
      Crossed world.player.ground (world.rounds loop moves) visits := by
  obtain ⟨beside, mover, current, calm⟩ := cruising.poised
  have departs : Passing world.player.ground newest loop [] world :=
    ⟨beside, current, _, 0, mover, rfl, rfl, Nat.zero_le _, fun earlier less => absurd less (Nat.not_lt_zero _)⟩
  have round := arrives.round
  rcases passing_after tame _ within moves [] world departs arrives.answered rfl with gone | passing
  · simp [begins, gone] at round
  · obtain ⟨activity, visits, there, _, destiny, crossed⟩ := passing.own
    refine ⟨visits, ?_, crossed⟩
    simp only [begins, there, Option.any_some, decide_true, Bool.true_and] at round
    cases activity with
    | steering pilot => exact destiny.symm
    | _ => cases round

theorem playback_arrives (visits : Nat) (there : Ground) (reached : world.player.ground.reach visits = some there)
    (far : target ≤ there.caret.index) (short : ∀ earlier < visits, Short world.player.ground script target earlier) :
    (∃ play, world.Arrives loop target play ∧ (world.after play).player.playback.playing = true) ∧
      ∀ play, world.Arrives loop target play → (world.after play).player.ground = there := by
  have inside (earlier : Nat) (less : earlier < visits) (between : Ground)
      (same : world.player.ground.reach earlier = some between) :
      between.caret.index < target ∧ between.script? = some script := by
    obtain ⟨other, there, near, within⟩ := short earlier less
    obtain rfl := Option.some.inj (there.symm.trans same)
    exact ⟨near, within⟩
  constructor
  · obtain ⟨play, answered, arrived, ground, past⟩ := cruise world cruising tame visits
      (fun earlier less between same => (inside earlier less between same).2) there reached
    refine ⟨play, ⟨answered, ?_, ?_, fun player member => ?_⟩, arrived.playing⟩
    · simp [begins, arrived.poised.mover, Activity.isSteering]
    · subst ground
      exact far
    · obtain ⟨earlier, less, same⟩ := past player member
      exact (inside earlier less player.ground same).1
  · intro play arrives
    have before := arrives_before arrives visits there reached far
    obtain ⟨crossed, along, through⟩ := arrives_along cruising tame arrives fun player member crossed same through => by
      rcases Nat.eq_or_lt_of_le (before crossed through) with rfl | less
      · obtain rfl := Option.some.inj (reached.symm.trans same)
        exact absurd (arrives.first player member) (Nat.not_lt.mpr far)
      · exact (inside crossed less player.ground same).2
    rcases Nat.eq_or_lt_of_le (before crossed through) with rfl | less
    · exact Option.some.inj (along.symm.trans reached)
    · exact absurd (inside crossed less _ along).1 (Nat.not_lt.mpr arrives.far)

end Playback

-- A trip to where the course comes for the first time gets there, and cannot end otherwise.
theorem trip_succeeds {world : World} (moored : world.Moored) {loaded : Loaded}
    (here : world.player.playback.loaded = some loaded) (tame : world.player.ground.Tame loaded.playlist.script)
    {request : Request} {target : Nat} (aims : request.aims? loaded = some target) (ahead : world.player.playback.index < target) (visits : Nat)
    (few : visits ≤ Player.tripLimit)
    (short : ∀ earlier < visits, Short world.player.ground loaded.playlist.script target earlier) (there : Ground)
    (reached : world.player.ground.reach visits = some there) (far : target ≤ there.caret.index)
    (within : there.script? = some loaded.playlist.script) :
    (∃ journey, journey.all Move.isFree = true ∧ (world.after (.ask request :: journey)).reply? = some (.flag true)) ∧
      ∀ journey, journey.all Move.isFree = true → ∀ reply, (world.after (.ask request :: journey)).reply? = some reply →
        reply = .flag true := by
  have traveling := ask_traveling moored here aims ahead
  constructor
  · obtain ⟨trip, steers, calm⟩ := travel_poised moored here aims ahead
    rcases traveling_after tame traveling [.front, .front] rfl with ⟨reply, fallen, _⟩ | travels
    · cases fallen.symm.trans steers
    · obtain ⟨moves, free, replies⟩ := trip_cruise tame visits few short there reached far within _ travels trip steers calm
      exact ⟨.front :: .front :: moves, free, replies⟩
  · intro journey free reply replies
    rcases trip_over tame traveling journey free reply replies with ⟨_, last, _, before, falls⟩ | ⟨_, succeeds⟩
    · -- the trip fell short before the place, at it, or past it
      rcases Nat.lt_trichotomy last visits with less | rfl | more
      · obtain ⟨between, same, near, inside⟩ := short last less
        rcases falls between same with left | ⟨limit, _⟩
        · exact absurd inside left
        · exact absurd (Nat.lt_of_lt_of_le less few) (limit ▸ Nat.lt_irrefl _)
      · rcases falls there reached with left | ⟨_, near⟩
        · exact absurd within left
        · exact absurd near (Nat.not_lt.mpr far)
      · obtain ⟨other, same, near, _⟩ := before visits more
        obtain rfl := Option.some.inj (reached.symm.trans same)
        exact absurd near (Nat.not_lt.mpr far)
    · exact succeeds

-- Fast-forward does what playback does. Nothing is in flight or about to play beside the caret of a stopped player, and the
-- script is tame. If the trip to a place ahead succeeds, playback from the same state, with its input waits answered, can come to
-- a first round at the place or past it, and whenever it does the two agree on variables, draws, played commands, raised flags,
-- calls and caret. Conversely, where playback gets there inside the script and within the limit, the trip can end, and only well.
theorem fast_forward_follows_playback (start : World) (moored : start.Moored) (loaded : Loaded)
    (here : start.player.playback.loaded = some loaded) (tame : start.player.ground.Tame loaded.playlist.script)
    (request : Request) (target : Nat) (aims : request.aims? loaded = some target)
    (ahead : start.player.playback.index < target) :
    (∀ journey, journey.all Move.isFree = true → (start.after (.ask request :: journey)).reply? = some (.flag true) →
      (∃ play, start.resume.Arrives start.nextThread target play ∧ (start.resume.after play).player.playback.playing = true) ∧
      ∀ play, start.resume.Arrives start.nextThread target play →
        (start.resume.after play).player.ground = (start.after (.ask request :: journey)).player.ground) ∧
    (∀ play, start.resume.Arrives start.nextThread target play →
      (∀ player ∈ (start.resume.after play).player :: start.resume.rounds start.nextThread play,
        player.playback.script? = some loaded.playlist.script) →
      visitRounds (start.resume.rounds start.nextThread play) ≤ Player.tripLimit →
      (∃ journey, journey.all Move.isFree = true ∧ (start.after (.ask request :: journey)).reply? = some (.flag true)) ∧
      ∀ journey, journey.all Move.isFree = true → ∀ reply, (start.after (.ask request :: journey)).reply? = some reply →
        reply = .flag true) := by
  have inside := Nat.lt_trans ahead (request.aims_inside loaded target aims)
  obtain ⟨spot, found⟩ := start.player.playback.spot_inside loaded here inside
  obtain ⟨cruising, ground⟩ := resume_cruising moored spot found
  have traveling := ask_traveling moored here aims ahead
  have tamed : start.resume.player.ground.Tame loaded.playlist.script := ground ▸ tame
  constructor
  · intro journey free replies
    rcases trip_over tame traveling journey free _ replies with ⟨other, _⟩ | ⟨leg, _⟩
    · exact absurd rfl other
    · cases leg with
      | sails _ _ _ _ aboard _ => exact aboard.elim
      | arrives visits few there far within short =>
          exact playback_arrives cruising tamed visits _ (ground ▸ there) far (ground ▸ short)
  · intro play arrives within few
    obtain ⟨visits, there, through⟩ := arrives_along cruising tamed arrives fun player member _ _ _ =>
      within player (List.mem_cons_of_mem _ member)
    have short (earlier : Nat) (less : earlier < visits) : Short start.player.ground loaded.playlist.script target earlier := by
      obtain ⟨player, member, same⟩ := through.through earlier less
      exact ⟨player.ground, ground ▸ same, arrives.first player member, within player (List.mem_cons_of_mem _ member)⟩
    exact trip_succeeds moored here tame aims ahead visits (Nat.le_trans through.few few) short
      (start.resume.after play).player.ground (ground ▸ there) arrives.far (within _ List.mem_cons_self)

-- A call and its return, an input wait inside an await block, and a pause, on the way to the ford.
def wayside : World := stocked
  [⟨"road", [{ line := 0, command := "label", parameters := [("name", .text "hut")] },
    { line := 1, command := "set", parameters := [("var", .text "fire"), ("value", (Expr.literal (.bool true)).toJson)] },
    { line := 2, command := "return" },
    { line := 3, command := "gosub", parameters := [("label", .text "hut")] },
    { line := 4, command := "await" }, { line := 5, indent := 1, command := "wait_input" },
    { line := 6, command := "wait", parameters := [("millis", .integer 50)] },
    { line := 7, command := "label", parameters := [("name", .text "ford")] }, { line := 8, command := "wait_input" }]⟩]

def outsideHut : World := wayside.after [.ask (.load { spot := some ⟨"road", 3, 0⟩ }), .front, .front]

def toFord : List Move :=
  List.flatten [List.replicate 30 (.thread 0), [.ask (.input .continue), .front], List.replicate 12 (.thread 0), [.pass 50],
    List.replicate 3 (.thread 0)]

theorem ford_reached_alike :
    outsideHut.Moored ∧ outsideHut.resume.Arrives outsideHut.nextThread 7 toFord ∧
      (outsideHut.after (.ask (.rewindLine 7) :: List.replicate 45 .front)).reply? = some (.flag true) ∧
      (outsideHut.resume.after toFord).player.ground =
        (outsideHut.after (.ask (.rewindLine 7) :: List.replicate 45 .front)).player.ground ∧
      ∀ journey, journey.all Move.isFree = true →
        ∀ reply, (outsideHut.after (.ask (.rewindLine 7) :: journey)).reply? = some reply → reply = .flag true := by
  have silent : outsideHut.player.presenter = Presenter.silent := by with_unfolding_all rfl
  have moored : outsideHut.Moored := by
    refine ⟨after_numbered wayside (numbered_new _ rfl) _, by decide +kernel, ⟨by decide +kernel, by decide +kernel⟩, ?_,
      by decide +kernel⟩
    rw [silent]
    refine ⟨fun line reveal cause fails => ?_, nofun, fun _ _ _ fails => by cases fails⟩
    simp only [Presenter.silent] at fails
    split at fails <;> cases fails
  have unsearched : outsideHut.player.library.search = none := Option.isNone_iff_eq_none.mp (by decide +kernel)
  have scripts : outsideHut.player.library.scripts.all (fun loaded => loaded.playlist.isTame) = true := by decide +kernel
  have caret : (outsideHut.player.playback.loaded.any fun loaded => decide (loaded.playlist.script = "road" ∧
      loaded.playlist.isTame = true ∧ Request.aims? loaded (.rewindLine 7) = some 7)) = true := by decide +kernel
  obtain ⟨loaded, here, facts⟩ := (Option.any_eq_true _ _).mp caret
  obtain ⟨script, fits, aims⟩ := of_decide_eq_true facts
  have tame : outsideHut.player.ground.Tame loaded.playlist.script := by
    refine ⟨⟨fun other member _ => List.all_eq_true.mp scripts other member, fun name text playlist read => ?_⟩,
      fun other there _ => ?_⟩
    · have search : outsideHut.player.ground.library.search = none := unsearched
      rw [search] at read
      cases read
    · obtain rfl := Option.some.inj (here.symm.trans there)
      exact fits
  have arrives : outsideHut.resume.Arrives outsideHut.nextThread 7 toFord := by decide +kernel
  have replies : (outsideHut.after (.ask (.rewindLine 7) :: List.replicate 45 .front)).reply? = some (.flag true) := by
    decide +kernel
  have follows := fast_forward_follows_playback outsideHut moored loaded here tame (.rewindLine 7) 7 aims (by decide +kernel)
  refine ⟨moored, arrives, replies, (follows.1 _ (by decide +kernel) replies).2 toFord arrives, ?_⟩
  refine (follows.2 toFord arrives ?_ (by decide +kernel)).2
  rw [script]
  decide +kernel

-- A return from the wood leads to the road and from there to a place deeper in the wood.
def homeward : World := stocked
  [⟨"wood", [{ line := 0, command := "wait_input" }, { line := 1, command := "return" },
      { line := 2, command := "label", parameters := [("name", .text "glade")] }, { line := 3, command := "wait_input" }]⟩,
    ⟨"road", [{ line := 0, command := "gosub", parameters := [("script", .text "wood")] },
      { line := 1, command := "goto", parameters := [("script", .text "wood"), ("label", .text "glade")] },
      { line := 2, command := "stop" }]⟩]

def insideWood : World :=
  homeward.after [.ask (.load { returns := [⟨"road", 0, 0⟩], spot := some ⟨"wood", 1, 0⟩ }), .front, .front]

-- A delayed block has yet to play when the caret is on the road.
def dawn : World := stocked
  [⟨"night", [{ line := 0, command := "delay", parameters := [("millis", .integer 50)] },
      { line := 1, indent := 1, command := "set",
        parameters := [("var", .text "light"), ("value", (Expr.literal (.bool true)).toJson)] },
      { line := 2, command := "wait_input" }]⟩,
    ⟨"road", [{ line := 0, command := "wait", parameters := [("millis", .integer 100)] },
      { line := 1, command := "label", parameters := [("name", .text "ford")] }, { line := 2, command := "wait_input" }]⟩]

def beforeDawn : World :=
  dawn.after (List.flatten
    [[.ask (.play "night" none), .front], List.replicate 13 (.thread 0), [.ask (.jump ⟨some "road", none⟩), .front]])

def throughDawn : List Move :=
  List.flatten [[.thread 2, .ask (.input .continue), .front], List.replicate 4 (.thread 2), [.pass 50],
    List.replicate 6 (.thread 1), [.pass 100], List.replicate 3 (.thread 2)]

-- Playback comes back to the wood, and the trip stops short. Playback waits until there is light, and the trip does not.
theorem fast_forward_parts_from_playback :
    (insideWood.player.playback.playing = false ∧ insideWood.player.executing.entries = [] ∧
      (insideWood.player.playback.loaded.all fun loaded => loaded.playlist.isTame) = true ∧
      insideWood.resume.Arrives insideWood.nextThread 2 (List.replicate 10 (.thread 0)) ∧
      visitRounds (insideWood.resume.rounds insideWood.nextThread (List.replicate 10 (.thread 0))) ≤ Player.tripLimit ∧
      (insideWood.after (.ask (.rewindLine 2) :: List.replicate 7 .front)).reply? = some (.flag false)) ∧
    (beforeDawn.player.playback.playing = false ∧ beforeDawn.player.executing.entries = [] ∧
      (beforeDawn.player.playback.loaded.all fun loaded => loaded.playlist.isTame) = true ∧
      beforeDawn.resume.Arrives beforeDawn.nextThread 1 throughDawn ∧
      (beforeDawn.after (.ask (.rewindLine 1) :: List.replicate 8 .front)).reply? = some (.flag true) ∧
      ((beforeDawn.resume.after throughDawn).player.store.get? "light").isSome = true ∧
      ((beforeDawn.after (.ask (.rewindLine 1) :: List.replicate 8 .front)).player.store.get? "light").isSome = false) := by
  decide +kernel

end World

end Storyline
