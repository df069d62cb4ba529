import Storyline.Proofs.Deferral
import Storyline.Proofs.Journey
import Storyline.Proofs.Records
import Storyline.Proofs.Stack
import Storyline.Proofs.Visits

set_option autoImplicit false

/-!
Rewinds that fail. What was written down before a command is taken over in two steps: first the variables and the history, then
the place. The place may be refused, because the script was replaced, or because the command was run inside a delay block, where
the caret cannot be put. Then the caret and the calls are as before, while the variables and the history are not.
-/

namespace Storyline

theorem Library.Addressed.sound {library : Library} (addressed : library.Addressed) : library.Sound := by
  intro loaded member
  obtain ⟨registry, compiled, built⟩ := (addressed.stored loaded member).accepted
  exact registry.playlist_accepted compiled loaded.playlist built

namespace Player

-- The record that a rewind to a spot takes over: the newest one there, or else the newest one before it in the script.
def recalled? (player : Player) (spot : Spot) : Option Snapshot :=
  (player.history.find? fun candidate => candidate = spot).or
    (player.history.find? fun candidate => candidate.script = spot.script && candidate.le spot)

theorem recalled_mem (player : Player) (spot : Spot) (snapshot : Snapshot) (found : player.recalled? spot = some snapshot) :
    snapshot ∈ player.history.snapshots ∧ snapshot.permitted = true := by
  have kept (test : Spot → Bool) (there : player.history.find? test = some snapshot) :
      snapshot ∈ player.history.snapshots ∧ snapshot.permitted = true := by
    have passes := List.find?_some there
    exact ⟨List.mem_reverse.mp (List.mem_of_find?_eq_some there), (Bool.and_eq_true_iff.mp passes).1⟩
  rcases Option.or_eq_some_iff.mp found with exact_ | ⟨_, nearest⟩
  · exact kept _ exact_
  · exact kept _ nearest

theorem roll_back_to_recalled (player : Player) (spot : Spot) (snapshot : Snapshot)
    (found : player.recalled? spot = some snapshot) :
    ∃ log, player.rollBackTo spot = { player with log := log }.rollBack snapshot := by
  rw [rollBackTo]
  rcases Option.or_eq_some_iff.mp found with exact_ | ⟨absent, nearest⟩
  · rw [exact_]
    exact ⟨player.log, rfl⟩
  · rw [absent, nearest]
    exact ⟨_, rfl⟩

theorem roll_back_to_nothing (player : Player) (spot : Spot) (nothing : player.recalled? spot = none) :
    (player.rollBackTo spot).1 = .finished (.flag false) := by
  obtain ⟨absent, none_⟩ := Option.or_eq_none_iff.mp nothing
  rw [rollBackTo, absent, none_]

end Player

/-! ### Where records come from -/

theorem started_under_caret (activity : Activity) (player : Player) (moved : Activity × Player)
    (step : activity.step? player = some moved) (spot : Spot)
    (launched : moved.2.launches = (spot, .main) :: player.launches) : player.playback.spot? = some spot := by
  have under (player : Player) (generation : Nat) (launched : (player.visit generation).2.launches = (spot, .main) :: player.launches) :
      player.playback.spot? = some spot := by
    rcases player.visit_launches generation with same | ⟨loaded, command, there, _, found, new⟩
    · exact absurd (launched.symm.trans same) (List.cons_ne_self _ _)
    · have own : command.spot = spot := congrArg Prod.fst (List.cons.inj (new.symm.trans launched)).1
      rw [Playback.spot?, Playback.command?, there, Option.bind_some, found, Option.map_some, own]
  cases step_launches step with
  | nothing same => exact absurd ((player.main_launches_cons moved.2 spot launched).symm.trans same) (Nat.succ_ne_self _)
  | starts pilot helm =>
      subst helm
      cases pilot with
      | loop generation =>
          obtain ⟨loaded, command, there, _, found, own⟩ := main_launch _ player moved step
            (fun trip same => by cases same) spot launched
          rw [Playback.spot?, Playback.command?, there, Option.bind_some, found, Option.map_some, own]
      | trip trip =>
          obtain rfl := Option.some.inj step
          rcases player.steer_trip_cases trip with ⟨log, outcome, ends⟩ | visits
          · rw [ends, (Player.disembark_edits _ trip outcome).kept.launches rfl] at launched
            exact absurd launched.symm (List.cons_ne_self _ _)
          · have forced := player.force_skip_within
            have caret := forced.caret rfl
            rw [visits, Player.after_visit_player, ← forced.launches rfl] at launched
            have there := under _ trip.generation launched
            rw [Playback.spot?, Playback.command?] at there ⊢
            rw [← show _ = player.playback.loaded from congrArg Caret.loaded caret,
              ← show _ = player.playback.index from congrArg Caret.index caret]
            exact there

namespace World

theorem starts_under_caret (world : World) (numbered : world.Numbered) (move : Move) (spot : Spot)
    (starts : world.Starts move spot) : world.player.playback.spot? = some spot := by
  rw [Starts] at starts
  cases (move_comes world numbered move).1 with
  | stays clock requests player =>
      rw [player] at starts
      exact absurd starts.symm (List.cons_ne_self _ _)
  | moves activity successor others player stage mover _ _ step told _ =>
      rw [told] at starts
      exact started_under_caret activity world.player _ step spot starts

theorem shelved_supplied (world : World) (moves : List Move) (shelved : world.Shelved moves) : world.Supplied moves := by
  induction moves generalizing world with
  | nil => trivial
  | cons move moves ih =>
      refine ⟨fun activity mover => ?_, ih (world.move move) shelved.2⟩
      have keeps := shelved.1 activity mover
      cases activity with
      | asked request =>
          cases request with
          | insert playlist => cases keeps
          | _ => rfl
      | _ => rfl

section Records

variable (start : World) (numbered : start.Numbered) (addressed : start.player.library.Addressed)
  (nowhere : start.player.playback.loaded = none) (moves : List Move) (shelved : start.Shelved moves)
include numbered addressed nowhere shelved

-- Where the caret was, the script still has the command, so its spot is refused only inside a delay block.
theorem displaced_inside (earlier : List Move) (first : Move) (later : List Move) (split : moves = earlier ++ first :: later)
    (spot : Spot) (under : (start.after earlier).player.playback.spot? = some spot) (cause : Error)
    (displaced : (start.after moves).player.library.Displaced spot cause) : ¬(start.after earlier).player.Navigable := by
  subst split
  obtain ⟨before, onward⟩ := (shelved_append start earlier (first :: later)).mp shelved
  obtain ⟨library, anchored⟩ := unplaced_anchored start numbered addressed nowhere earlier before
  obtain ⟨addresses, grows⟩ := grows_after (start.after earlier) (after_numbered start numbered earlier) library
    (first :: later) onward
  rw [← after_append] at addresses grows
  obtain ⟨command, found, own⟩ := Option.map_eq_some_iff.mp under
  obtain ⟨loaded, there, found⟩ := Option.bind_eq_some_iff.mp found
  obtain ⟨has, bound⟩ := anchored loaded there
  obtain ⟨required, leads⟩ := (grows loaded has).finds addresses _ command found
  rw [own] at required leads
  cases displaced with
  | script _ missing => cases required.symm.trans missing
  | spot other _ script missing =>
      obtain ⟨rfl, _⟩ := Prod.mk.inj (Except.ok.inj (required.symm.trans script))
      cases leads.symm.trans missing
  | inside other _ script index there' fault refused =>
      obtain ⟨rfl, _⟩ := Prod.mk.inj (Except.ok.inj (required.symm.trans script))
      obtain rfl := Option.some.inj (leads.symm.trans there')
      intro navigable
      have accepted := library.sound loaded (List.mem_of_find?_eq_some has)
      have open_ := (loaded.playlist.navigable_iff accepted _ bound).mpr (navigable loaded there)
      cases open_.symm.trans refused

end Records

theorem over_replies (world : World) (numbered : world.Numbered) (move : Move) (activity : Activity)
    (mover : world.mover? move = some activity) (answer : Reply) (player : Player)
    (step : activity.step? world.player = some (.finished answer, player)) : (world.move move).replies? move = none := by
  cases there : (world.move move).mover? move with
  | none => rw [replies?, there, Option.bind_none, Option.bind_none]
  | some now =>
      obtain rfl := mover_after world numbered move activity mover (.finished answer) player step now there
      rw [replies?, there]
      rfl

theorem rewind_fails {world : World} (numbered : world.Numbered) (issued : world.Issued Playlist.Named)
    (idle : world.player.executing.drained none = true) (move : Move) (request : Request) (spot : Spot)
    (mover : world.mover? move = some (.asked request)) (back : world.player.GoesBack request spot) (cause : Error)
    (failed : (world.move move).replies? move = some (.failed cause)) :
    ∃ snapshot, world.player.recalled? spot = some snapshot ∧
      (∃ place, snapshot.player.spot = some place ∧ world.player.library.Displaced place cause) ∧
      ∃ log stage, Player.Untouched (Player.stopped { world.player with
        log := log, history := world.player.history.restore snapshot, store := snapshot.store } stage)
          (world.after [move, move]).player := by
  have named (loaded : Loaded) (here : loaded ∈ world.player.playback.loaded) : loaded.playlist.Named :=
    (issued.player.caret loaded here).2
  have asked : (Activity.asked request).step? world.player = some (world.player.rollBackTo spot) := by
    rw [Activity.step?, Player.ask_goes_back world.player named request spot back]
  cases found : world.player.recalled? spot with
  | none =>
      have ends := world.player.roll_back_to_nothing spot found
      have silent := over_replies world numbered move _ mover (.flag false) (world.player.rollBackTo spot).2
        (asked.trans (congrArg some (Prod.ext ends rfl)))
      cases silent.symm.trans failed
  | some snapshot =>
      obtain ⟨log, rolls⟩ := world.player.roll_back_to_recalled spot snapshot found
      let ready : Player :=
        { world.player with log := log, history := world.player.history.restore snapshot, store := snapshot.store }
      let save : Save := { snapshot.player with playing := world.player.playback.playing }
      obtain ⟨displaced, last, untouched⟩ := take_over_refused numbered move _ mover ready save true
        (asked.trans (congrArg some rolls)) idle cause failed
      exact ⟨snapshot, rfl, displaced, log, last, untouched⟩

-- Whatever was done before: a rewind that fails with nothing in flight leaves the caret and the calls as they were, but has
-- overwritten the variables and cut the history back. It fails because the record has no place any more. Where no script was
-- replaced, the record was then made inside a delay block, into which the caret had come back from a call.
theorem failed_rewind_overwrites (start : World) (numbered : start.Numbered) (blank : start.player.memories = [])
    (issued : start.Issued Playlist.Named) (moves : List Move) (brings : start.Brings Playlist.Named moves) (move : Move)
    (request : Request) (spot : Spot) (cause : Error) (idle : (start.after moves).player.executing.drained none = true)
    (mover : (start.after moves).mover? move = some (.asked request))
    (back : (start.after moves).player.GoesBack request spot)
    (failed : ((start.after moves).move move).replies? move = some (.failed cause)) :
    let before := (start.after moves).player
    let after := ((start.after moves).after [move, move]).player
    ∃ snapshot, before.recalled? spot = some snapshot ∧
      after.playback = { before.playback with playing := false } ∧ after.raised = before.raised ∧
      after.played = before.played ∧ after.store = snapshot.store ∧ after.history = before.history.restore snapshot ∧
      before.library.Displaced snapshot.spot cause ∧
      (start.player.library.Addressed → start.player.playback.loaded = none → start.Shelved moves →
        ∃ earlier first later, moves = earlier ++ first :: later ∧ (start.after earlier).Starts first snapshot.spot ∧
          start.Strayed earlier) := by
  intro before after
  have there : (start.after moves).Numbered := after_numbered start numbered moves
  have known := issued_after Registry.playlist_named start numbered issued moves brings
  obtain ⟨snapshot, found, ⟨place, somewhere, displaced⟩, log, stage, untouched⟩ :=
    rewind_fails there known idle move request spot mover back cause failed
  have member : snapshot.memory ∈ before.memories :=
    List.mem_map_of_mem (List.mem_append_right _ (before.recalled_mem spot snapshot found).1)
  obtain ⟨earlier, first, later, own, split, starts, recorded⟩ := recalls_start start numbered blank moves snapshot.memory member
  have spot_ : snapshot.spot = own := (congrArg Snapshot.spot recorded :)
  have save : snapshot.player.spot = some own := (congrArg (fun record : Snapshot => record.player.spot) recorded :)
  obtain rfl : own = place := Option.some.inj (save.symm.trans somewhere)
  rw [← spot_] at starts displaced
  have same := untouched.rest
  refine ⟨snapshot, found, (congrArg Player.playback same :), (congrArg Player.raised same :),
    (congrArg Player.played same :), (congrArg Player.store same :), (congrArg Player.history same :), displaced, ?_⟩
  intro addressed nowhere shelved
  have under := starts_under_caret (start.after earlier) (after_numbered start numbered earlier) first snapshot.spot starts
  have inside := displaced_inside start numbered addressed nowhere moves shelved earlier first later split snapshot.spot under
    cause displaced
  have sound : start.player.Sound :=
    ⟨addressed.sound, fun other found => absurd (nowhere ▸ found) (Option.not_mem_none other),
      fun other found => absurd (nowhere ▸ found) (Option.not_mem_none other)⟩
  have before := ((shelved_append start earlier (first :: later)).mp (split ▸ shelved)).1
  have place := (navigable_or_strayed start numbered sound nowhere earlier (shelved_supplied start earlier before)).2
  exact ⟨earlier, first, later, split, starts, place.resolve_left inside⟩

-- A delay block calls into the wood. The return leads the caret into the block, where input is awaited.
def hollow : World := stocked
  [⟨"road", [{ line := 0, command := "delay", parameters := [("millis", .integer 10)] },
      { line := 1, indent := 1, command := "group" },
      { line := 2, indent := 2, command := "gosub", parameters := [("script", .text "wood")] },
      { line := 3, indent := 2, command := "wait_input" }, { line := 4, command := "wait_input" },
      { line := 5, command := "stop" }]⟩,
    ⟨"wood", [{ line := 0, command := "return" }]⟩]

-- Up to a rewind to the command in the block, after it has begun to rain.
def intoHollow : List Move :=
  List.flatten
    [[.ask (.play "road" none), .front, .leave], List.replicate 11 (.thread 0), [.pass 10], List.replicate 12 (.thread 1),
      [.ask (.input .continue), .front, .leave], List.replicate 12 (.thread 0),
      [.ask (.setVariable "rain" (.bool true)), .front, .leave, .ask (.rewindSpot ⟨"road", 3, 0⟩)]]

theorem rain_forgotten_in_hollow :
    let before := (hollow.after intoHollow).player
    let after := ((hollow.after intoHollow).after [.front, .front]).player
    (before.store.get? "rain").isSome = true ∧ (after.store.get? "rain").isSome = false ∧
      after.playback = { before.playback with playing := false } ∧
      ∃ earlier first later, intoHollow = earlier ++ first :: later ∧ (hollow.after earlier).Starts first ⟨"road", 3, 0⟩ ∧
        hollow.Strayed earlier := by
  have numbered : hollow.Numbered := numbered_new _ rfl
  have addressed : hollow.player.library.Addressed := stocked_addressed _ (by decide +kernel)
  have shelved : hollow.Shelved intoHollow := by decide +kernel
  have failed : ((hollow.after intoHollow).move .front).replies? .front =
      some (.failed (.structural (.deferredNavigation ⟨"road", 3, 0⟩))) := by decide +kernel
  have back : (hollow.after intoHollow).player.GoesBack (.rewindSpot ⟨"road", 3, 0⟩) ⟨"road", 3, 0⟩ := by
    have place : ((hollow.after intoHollow).player.playback.loaded.bind fun loaded =>
        loaded.playlist.indexOf? ⟨"road", 3, 0⟩) = some 3 := by decide +kernel
    obtain ⟨loaded, here, found⟩ := Option.bind_eq_some_iff.mp place
    exact .spot _ loaded 3 here found (by decide +kernel)
  have own : ((hollow.after intoHollow).player.recalled? ⟨"road", 3, 0⟩).map Snapshot.spot = some ⟨"road", 3, 0⟩ := by
    decide +kernel
  obtain ⟨snapshot, found, playback, _, _, _, _, _, strays⟩ := failed_rewind_overwrites hollow numbered rfl (stocked_issued _)
    intoHollow (shelved_brings _ _ _ shelved) .front _ _ _ (by decide +kernel) rfl back failed
  rw [found] at own
  rw [show snapshot.spot = ⟨"road", 3, 0⟩ from Option.some.inj own] at strays
  exact ⟨by decide +kernel, by decide +kernel, playback, strays addressed rfl shelved⟩

-- The script is replaced by one without the command where input is awaited.
def relaid : List Move :=
  List.flatten
    [[.ask (.play "road" none), .front, .leave], List.replicate 6 (.thread 0),
      [.ask (.setVariable "rain" (.bool true)), .front, .leave,
        .ask (.insert ⟨"road", #[⟨0, ⟨"road", 7, 0⟩, none, true, .stop⟩]⟩), .front, .leave,
        .ask (.rewindSpot ⟨"road", 0, 0⟩)]]

theorem failed_rewind_forgets_rain :
    let world := (stocked [⟨"road", [{ line := 0, command := "wait_input" }, { line := 1, command := "stop" }]⟩]).after relaid
    world.player.executing.drained none = true ∧
      (world.move .front).replies? .front = some (.failed (.script (.spotNotFound ⟨"road", 0, 0⟩))) ∧
      (world.player.store.get? "rain").isSome = true ∧
      ((world.after [.front, .front]).player.store.get? "rain").isSome = false := by
  decide +kernel

end World

end Storyline
