import Storyline.Proofs.Handles
import Storyline.Proofs.Permission
import Storyline.Proofs.Reload

set_option autoImplicit false

/-!
Rolling back. A rewind that finds what was written down before a command gives up everything in flight and restores exactly
what was there: the place, the variables and the calls that had not returned.
-/

namespace Storyline

/-! ### Taking a record over -/

theorem Playlist.Named.index_of {p : Playlist} (named : p.Named) (spot : Spot) (index : Nat)
    (found : p.indexOf? spot = some index) : ∃ command, p.command? index = some command ∧ command.spot = spot := by
  rw [indexOf?] at found
  split at found
  · next script =>
      rw [indexByLine?, Array.findIdx?_eq_some_iff_getElem] at found
      obtain ⟨bound, here, _⟩ := found
      obtain ⟨line, inline⟩ : p.commands[index].spot.line = spot.line ∧ p.commands[index].spot.inline = spot.inline := by
        simpa using here
      refine ⟨p.commands[index], Array.getElem?_eq_getElem bound, ?_⟩
      calc p.commands[index].spot
          = ⟨p.commands[index].spot.script, p.commands[index].spot.line, p.commands[index].spot.inline⟩ := rfl
        _ = ⟨spot.script, spot.line, spot.inline⟩ := by
          rw [named _ (Array.getElem_mem_toList bound), script, line, inline]
  · cases found

-- A spot has a place in a script that the library has or can read.
structure Library.Places (library : Library) (spot : Spot) (loaded : Loaded) (after : Library) (index : Nat) : Prop where
  script : library.require spot.script = .ok (loaded, after)
  spot : loaded.playlist.indexOf? spot = some index
  outside : loaded.playlist.ensureNavigable index = .ok ()

namespace Player

section Restores

variable (player : Player)

-- Rewinds that do not lead ahead of the caret, and the spots that they lead to.
inductive GoesBack : Request → Spot → Prop where
  | elsewhere (spot : Spot) (other : player.playback.script? ≠ some spot.script) : GoesBack (.rewindSpot spot) spot
  | spot (spot : Spot) (loaded : Loaded) (target : Nat) (here : player.playback.loaded = some loaded)
      (found : loaded.playlist.indexOf? spot = some target) (behind : target ≤ player.playback.index) :
      GoesBack (.rewindSpot spot) spot
  | line (line : UInt32) (loaded : Loaded) (target : Nat) (command : Command) (here : player.playback.loaded = some loaded)
      (found : loaded.playlist.indexFromLine? line = some target) (behind : target ≤ player.playback.index)
      (there : loaded.playlist.command? target = some command) : GoesBack (.rewindLine line) command.spot

theorem rewind_behind (playlist : Playlist) (target : Nat) (command : Command) (behind : target ≤ player.playback.index)
    (there : playlist.command? target = some command) :
    player.rewindToIndex playlist target = player.rollBackTo command.spot := by
  rw [rewindToIndex, if_neg (Nat.not_lt_of_le behind), there]

theorem ask_goes_back (named : ∀ loaded ∈ player.playback.loaded, loaded.playlist.Named) (request : Request) (spot : Spot)
    (back : player.GoesBack request spot) : player.ask request = player.rollBackTo spot := by
  cases back with
  | elsewhere _ other =>
      have apart : (player.playback.loaded.filter fun loaded => loaded.playlist.script = spot.script) = none := by
        refine Option.filter_eq_none_iff.mpr fun loaded here same => other ?_
        rw [Playback.script?, here, ← of_decide_eq_true same]
        rfl
      rw [ask, rewindToSpot, apart]
  | spot _ loaded target here found behind =>
      obtain ⟨command, there, same⟩ := (named loaded here).index_of spot target found
      have script : spot.script = loaded.playlist.script := by
        by_contra other
        rw [Playlist.indexOf?, if_neg other] at found
        cases found
      have inside : (player.playback.loaded.filter fun loaded => loaded.playlist.script = spot.script) = some loaded := by
        rw [here]
        exact Option.filter_some_pos (decide_eq_true script.symm)
      simp only [ask, rewindToSpot, inside, found]
      rw [rewind_behind player loaded.playlist target command behind there, same]
  | line number loaded target command here found behind there =>
      simp only [ask, rewindToLine, here, found]
      exact rewind_behind player loaded.playlist target command behind there

theorem start_keeps (after : Player) (started : player.start = (.ok (), after)) :
    after.store = player.store ∧
      ∃ generation, after.playback = { player.playback with playing := true, generation := generation } := by
  rw [start] at started
  split at started
  · next on =>
      obtain ⟨_, rfl⟩ := Prod.mk.inj started
      exact ⟨rfl, player.playback.generation, by rw [← on]⟩
  · split at started
    · cases started
    · obtain ⟨_, rfl⟩ := Prod.mk.inj started
      exact ⟨rfl, _, rfl⟩

-- What a save tells is taken over, and skipping is off.
structure Adopted (before : Player) (save : Save) (after : Player) : Prop where
  store : after.store = before.store
  place : after.playback.loaded = before.playback.loaded ∧ after.playback.index = before.playback.index ∧
    after.playback.executed = before.playback.executed
  returns : after.playback.returns = save.returns
  mode : after.playback.mode.skip = false ∧ after.playback.mode.waiting = save.waiting
  playing : after.playback.playing = (save.playing && save.spot.isSome)

theorem adopt_eq (save : Save) : ∃ events outbox, player.adopt save =
    let mode := (player.playback.mode.disableSkip.2.setWaiting save.waiting).2
    let told : Player :=
      { player with
        playback := { player.playback with returns := save.returns, masked := false, mode := mode }
        events := events
        outbox := outbox }
    if save.playing && save.spot.isSome then told.start else (.ok (), told) := by
  obtain ⟨events, outbox, same⟩ :=
    ({ player with playback := { player.playback with returns := save.returns, masked := false } } : Player).with_mode_quiet
      ({ player.playback.mode.disableSkip.1 with
          waiting := (player.playback.mode.disableSkip.2.setWaiting save.waiting).1.waiting },
        (player.playback.mode.disableSkip.2.setWaiting save.waiting).2)
  refine ⟨events, .stateChanged :: outbox, ?_⟩
  simp only [adopt, same]
  rfl

theorem adopt_adopted (save : Save) (after : Player) (stopped : player.playback.playing = false)
    (done : player.adopt save = (.ok (), after)) : Adopted player save after := by
  have unskipped (mode : Mode) : (mode.disableSkip.2.setWaiting save.waiting).2.skip = false ∧
      (mode.disableSkip.2.setWaiting save.waiting).2.waiting = save.waiting := by
    obtain ⟨skipMode, skip, autoPlay, waiting⟩ := mode
    cases save.waiting <;> exact ⟨rfl, rfl⟩
  have mode := unskipped player.playback.mode
  obtain ⟨events, outbox, same⟩ := player.adopt_eq save
  rw [same] at done
  split at done
  · next plays =>
      obtain ⟨store, generation, playback⟩ := start_keeps _ after done
      refine ⟨store, ?_, ?_, ?_, ?_⟩
      · rw [playback]
        exact ⟨rfl, rfl, rfl⟩
      · rw [playback]
      · rw [playback]
        exact mode
      · rw [playback, plays]
  · next rests =>
      obtain ⟨_, rfl⟩ := Prod.mk.inj done
      exact ⟨rfl, ⟨rfl, rfl, rfl⟩, rfl, mode, stopped.trans (Bool.eq_false_iff.mpr rests).symm⟩

theorem place_places (spot : Spot) (loaded : Loaded) (index : Nat) (between : Player)
    (found : player.place spot = (.ok (loaded, index), between)) :
    ∃ library, between = player.withLibrary library ∧ player.library.Places spot loaded library index := by
  rw [place] at found
  split at found
  · cases found
  · next held library required =>
      obtain ⟨result, rfl⟩ := Prod.mk.inj found
      refine ⟨library, rfl, ?_⟩
      split at result
      · cases result
      · next place leads =>
          split at result
          · cases result
          · next open_ =>
              obtain ⟨rfl, rfl⟩ := Prod.mk.inj (Except.ok.inj result)
              exact ⟨required, leads, open_⟩

theorem place_named (issued : player.Issued Playlist.Named) (spot : Spot) (loaded : Loaded) (index : Nat) (between : Player)
    (found : player.place spot = (.ok (loaded, index), between)) :
    (∃ library, between = player.withLibrary library) ∧
      ∃ command, loaded.playlist.command? index = some command ∧ command.spot = spot := by
  obtain ⟨library, same, places⟩ := player.place_places spot loaded index between found
  have named := (player.library.require_issued Registry.playlist_named spot.script loaded library places.script).2 issued.library
  exact ⟨⟨library, same⟩, Playlist.Named.index_of named.2.2 spot index places.spot⟩

theorem replace_restores (save : Save) (after : Player) (done : player.replace (.load save true) = (.flag true, after)) :
    player.restore save = (.ok (), after) := by
  rw [replace] at done
  split at done
  · next found =>
      obtain ⟨_, rfl⟩ := Prod.mk.inj done
      exact found
  · cases done

-- What a record is taken over as.
structure Restored (spot : Spot) (save : Save) (store : Variables) (after : Player) : Prop where
  place : after.playback.spot? = some spot ∧ after.playback.executed = save.executed
  mode : after.playback.mode.waiting = save.waiting ∧ after.playback.mode.skip = false
  playing : after.playback.playing = save.playing
  store : after.store = store
  returns : after.playback.returns = save.returns

theorem restore_restored (issued : player.Issued Playlist.Named) (stopped : player.playback.playing = false) (save : Save)
    (spot : Spot) (placed : save.spot = some spot) (after : Player) (done : player.restore save = (.ok (), after)) :
    Restored spot save player.store after := by
  simp only [restore, placed] at done
  split at done
  · cases done
  · next loaded index between found =>
      obtain ⟨⟨library, rfl⟩, command, there, same⟩ := place_named player issued spot loaded index between found
      obtain ⟨store, ⟨script, place, executed⟩, returns, ⟨skip, waiting⟩, playing⟩ := adopt_adopted
        (((player.withLibrary library).clearVisits loaded).moveCaret loaded index save.executed) save after stopped done
      refine ⟨⟨?_, executed⟩, ⟨waiting, skip⟩, ?_, store, returns⟩
      · rw [Playback.spot?, Playback.command?, script, place, ← same]
        exact congrArg (Option.map Command.spot) there
      · rw [playing, placed]
        exact Bool.and_true _

end Restores

end Player

-- The reply of an activity that is over.
def Activity.reply? : Activity → Option Reply
  | .finished reply => some reply
  | _ => none

namespace World

/-! ### The moves of a rewind -/

theorem fold_pass_thread (giver : Option Nat) (notices : List Notice) (world : World) (id : Nat) (thread : Thread)
    (found : world.thread? id = some thread) : (notices.foldl (pass giver) world).thread? id = some thread := by
  induction notices generalizing world with
  | nil => exact found
  | cons notice notices ih =>
      refine ih (pass giver world notice) ?_
      cases notice with
      | spawned activity =>
          simp only [pass, spawn, thread?, List.find?_append]
          rw [show (world.threads.find? fun thread => thread.id = id) = some thread from found]
          rfl
      | _ => exact found

theorem around_thread {world : World} {id : Nat} {thread : Thread} {left right : List Thread}
    (around : Around world id thread left right) (new : Thread) (same : new.id = id) :
    (world.threads.map fun other => if other.id = id then new else other).find? (fun thread => thread.id = id) = some new := by
  have before : (left.find? fun thread => thread.id = id) = none :=
    List.find?_eq_none.mpr fun other member here => around.left other member (of_decide_eq_true here)
  rw [around_map around new, List.find?_append, before, Option.none_or]
  exact List.find?_cons_of_pos (decide_eq_true same)

theorem mover_steps {world : World} (numbered : world.Numbered) {move : Move} {activity : Activity}
    (mover : world.mover? move = some activity) {successor : Activity} {player : Player}
    (step : activity.step? world.player = some (successor, player)) :
    (∃ stage, (world.move move).player = { player with outbox := [], stage := stage }) ∧
      (successor.isOver = false → (world.move move).mover? move = some successor) := by
  refine ⟨world.move_acts move activity _ mover step, fun going => ?_⟩
  cases move with
  | thread id =>
      obtain ⟨thread, found, rfl⟩ := Option.map_eq_some_iff.mp mover
      obtain ⟨left, right, around⟩ := thread_around world numbered.distinct id thread found
      let new : Thread :=
        { thread with
          activity := successor
          since := if setsDeadline thread.activity successor then world.turns else thread.since }
      have stepped : world.step? id = some ({ world with
          player := player
          threads := world.threads.map fun (other : Thread) => if other.id = id then new else other
          turns := world.turns + 1 }.deliver (some id)) := by
        simp only [step?, found, Option.bind_some, step, Option.map_some]
        cases successor with
        | finished reply => cases going
        | _ => rfl
      rw [World.move, stepped, Option.getD_some]
      have kept := fold_pass_thread (some id) player.outbox.reverse { world with
          player := { player with outbox := [] }
          threads := world.threads.map fun (other : Thread) => if other.id = id then new else other
          turns := world.turns + 1 } id new (around_thread around new around.here)
      exact congrArg (Option.map Thread.activity) kept
  | front =>
      rw [front_eq world mover step]
      exact (deliver_spec
        { world with player := player, front := some successor, turns := world.turns + 1 } none).2.1
  | _ => cases mover

-- The reply that the mover is going to give with this move.
def replies? (world : World) (move : Move) : Option Reply :=
  ((world.mover? move).bind fun activity => activity.step? world.player).bind fun moved => moved.1.reply?

theorem roll_back_keeps (player : Player) (snapshot : Snapshot) :
    (player.rollBack snapshot).2.store = snapshot.store ∧ (player.rollBack snapshot).2.executing = player.executing ∧
      (player.rollBack snapshot).2.playback.playing = false := by
  have given : Spares {} { player with history := player.history.restore snapshot, store := snapshot.store }
      (player.rollBack snapshot).2 := (Player.give_up_edits _ _).spares rfl
  refine ⟨?_, (given.executing rfl).1, Player.give_up_halted _ _ _ rfl⟩
  rw [Player.rollBack, Player.giveUp, Player.stop, Player.stopFor]
  split <;> rfl

section Rewind

variable {world : World} (numbered : world.Numbered) (issued : world.Issued Playlist.Named)
include numbered issued

theorem rewind_moves (idle : world.player.executing.drained none = true) (move : Move) (request : Request) (spot : Spot)
    (mover : world.mover? move = some (.asked request)) (back : world.player.GoesBack request spot) (snapshot : Snapshot)
    (found : world.player.history.find? (fun candidate => candidate = spot) = some snapshot)
    (placed : snapshot.player.spot = some spot) (reply : (world.move move).replies? move = some (.flag true)) :
    Player.Restored spot { snapshot.player with playing := world.player.playback.playing } snapshot.store
      (world.after [move, move]).player := by
  have asked : (Activity.asked request).step? world.player = some (world.player.rollBack snapshot) := by
    have named (loaded : Loaded) (here : loaded ∈ world.player.playback.loaded) : loaded.playlist.Named :=
      (issued.player.caret loaded here).2
    rw [Activity.step?, Player.ask_goes_back world.player named request spot back, Player.rollBackTo, found]
  obtain ⟨⟨stage, given⟩, goes⟩ := mover_steps numbered mover asked
  have next := goes rfl
  have brings (activity : Activity) (own : world.mover? move = some activity) : activity.Brings Playlist.Named := by
    obtain rfl := Option.some.inj (mover.symm.trans own)
    rintro playlist inserts
    obtain rfl := Activity.asked.inj inserts
    cases back
  have kept := (move_issued Registry.playlist_named world numbered issued move brings).player
  have between := (move_comes world numbered move).2
  obtain ⟨store, executing, stopped⟩ := roll_back_keeps world.player snapshot
  have flights : (world.move move).player.executing = world.player.executing := by
    rw [given]
    exact executing
  have drained : (world.move move).player.executing.drained none = true := by
    rw [flights]
    exact idle
  have off : (world.move move).player.playback.playing = false := by
    rw [given]
    exact stopped
  have own : (world.move move).player.store = snapshot.store := by
    rw [given]
    exact store
  let save : Save := { snapshot.player with playing := world.player.playback.playing }
  let replaced := (world.move move).player.replace (.load save true)
  have step : (Activity.draining (.load save true)).step? (world.move move).player =
      some (.finished replaced.1, replaced.2) := by
    rw [Activity.step?, if_pos drained]
  have done : replaced = (.flag true, replaced.2) := by
    rw [replies?, next, Option.bind_some, show Activity.step? _ _ = _ from step] at reply
    exact Prod.ext (Option.some.inj reply) rfl
  obtain ⟨⟨last, player⟩, _⟩ := mover_steps between next step
  have restored := Player.restore_restored (world.move move).player kept off save spot placed replaced.2
    (Player.replace_restores _ save replaced.2 done)
  rw [own] at restored
  rw [after_cons, after_cons, after_nil, player]
  exact ⟨restored.place, restored.mode, restored.playing, restored.store, restored.returns⟩

end Rewind

-- The input wait permits to roll back to the command of the main lane that was started last: to the one that raises it, unless
-- another has taken over while its line appeared, and to the bare wait in any case. A rewind back to a spot that was permitted,
-- with nothing in flight, comes to rest there and restores the variables and the calls as they were right before that start.
theorem rewind_restores_start (start : World) (fresh : start.Fresh) (blank : start.player.memories = [])
    (issued : start.Issued Playlist.Named) (moves : List Move) (orderly : start.Orderly moves)
    (brings : start.Brings Playlist.Named moves) :
    let world := start.after moves
    (∀ move execution, (world.mover? move).bind Activity.awaited? = some execution → execution.command.kind.asks = true →
      world.player.playback.mode.waiting = false → (world.move move).player.playback.mode.waiting = true →
        (∃ snapshot, (world.move move).player.history.snapshots.getLast? = some snapshot ∧ snapshot.permitted = true ∧
          snapshot.spot = (world.startedSince execution).head?.getD execution.command.spot) ∧
        (execution.command.kind = .waitInput → world.startedSince execution = [])) ∧
    (∀ move request spot snapshot, world.player.executing.drained none = true → world.mover? move = some (.asked request) →
      world.player.GoesBack request spot →
      world.player.history.find? (fun candidate => candidate = spot) = some snapshot →
      (world.move move).replies? move = some (.flag true) →
        let player := (world.after [move, move]).player
        player.playback.spot? = some spot ∧ player.playback.executed = false ∧ player.playback.mode.waiting = false ∧
          player.playback.mode.skip = false ∧ player.playback.playing = world.player.playback.playing ∧
          ∃ earlier first later, moves = earlier ++ first :: later ∧ (start.after earlier).Starts first spot ∧
            snapshot.memory = (start.after earlier).player.record spot ∧
            player.store = (start.after earlier).player.store ∧
            player.playback.returns = (start.after earlier).player.playback.returns) := by
  intro world
  have numbered : world.Numbered := after_numbered start fresh.numbered moves
  obtain ⟨_, listed, marked⟩ := marked_after start fresh moves orderly
  constructor
  · intro move execution awaited asks off raised
    exact ⟨raise_permits world marked move execution awaited numbered listed asks off raised,
      bare_wait_prompt world marked move execution awaited⟩
  · intro move request spot snapshot idle mover back found reply player
    have listed : snapshot ∈ world.player.history.snapshots := List.mem_reverse.mp (List.mem_of_find?_eq_some found)
    have here : snapshot.spot = spot := by
      have passes := List.find?_some found
      simp only [Bool.and_eq_true, decide_eq_true_eq] at passes
      exact passes.2
    obtain ⟨earlier, first, later, own, split, starts, recorded⟩ := recalls_start start fresh.numbered blank moves
      snapshot.memory (List.mem_map_of_mem (List.mem_append_right _ listed))
    obtain rfl : own = spot := (congrArg Snapshot.spot recorded).symm.trans here
    have save : snapshot.player = ((start.after earlier).player.record own).player := (congrArg Snapshot.player recorded :)
    have store : snapshot.store = (start.after earlier).player.store := (congrArg Snapshot.store recorded :)
    have placed : snapshot.player.spot = some own := by rw [save]; rfl
    have known := issued_after Registry.playlist_named start fresh.numbered issued moves brings
    obtain ⟨⟨place, executed⟩, ⟨waiting, skip⟩, playing, values, returns⟩ :=
      rewind_moves numbered known idle move request own mover back snapshot found placed reply
    rw [save] at executed waiting returns
    rw [store] at values
    exact ⟨place, executed, waiting, skip, playing, earlier, first, later, split, starts, recorded, values, returns⟩

theorem stocked_issued (scripts : List CompiledScript) : (stocked scripts).Issued Playlist.Named := by
  refine ⟨⟨fun loaded member => ?_, fun loaded here => ?_, fun run scheduled => ?_⟩, fun activity member => ?_,
    fun flag raised => ?_⟩
  · obtain ⟨⟨playlist, handle⟩, indexed, rfl⟩ := List.mem_map.mp member
    obtain ⟨compiled, _, accepted⟩ := List.mem_filterMap.mp (List.fst_mem_of_mem_zipIdx indexed)
    refine ⟨Nat.lt_of_lt_of_le (List.snd_lt_of_mem_zipIdx indexed) ?_, ?_⟩
    · exact List.length_filterMap_le _ _
    · cases made : Registry.playlist [] compiled with
      | error cause =>
          rw [made] at accepted
          cases accepted
      | ok accepted_list =>
          rw [made] at accepted
          obtain rfl : accepted_list = playlist := Option.some.inj accepted
          exact Registry.playlist_named [] compiled accepted_list made
  · cases here
  · cases scheduled
  · cases member
  · cases raised

-- A call leads into the wood and back, and input is awaited in the wood and after it.
def detour : World := stocked
  [⟨"road", [{ line := 0, command := "gosub", parameters := [("script", .text "wood")] },
      { line := 1, command := "wait_input" }, { line := 2, command := "stop" }]⟩,
    ⟨"wood", [{ line := 0, command := "wait_input" },
      { line := 1, command := "set", parameters := [("var", .text "rain"), ("value", (Expr.literal (.bool true)).toJson)] },
      { line := 2, command := "return" }]⟩]

def intoWood : List Move := List.flatten [[.ask (.play "road" none), .front, .leave], List.replicate 6 (.thread 0)]

-- On to the input wait after the call, where a rewind into the wood is requested.
def throughWood : List Move :=
  List.flatten
    [intoWood, List.replicate 6 (.thread 0), [.ask (.input .continue), .front, .leave], List.replicate 21 (.thread 0),
      [.ask (.rewindSpot ⟨"wood", 0, 0⟩)]]

theorem detour_rewound :
    detour.Fresh ∧ detour.player.memories = [] ∧ detour.Issued Playlist.Named ∧ detour.Orderly throughWood ∧
      detour.Brings Playlist.Named throughWood ∧
      (∃ snapshot, ((detour.after intoWood).move (.thread 0)).player.history.snapshots.getLast? = some snapshot ∧
        snapshot.permitted = true ∧ snapshot.spot = ⟨"wood", 0, 0⟩) ∧
      (detour.after throughWood).player.playback.returns = [] ∧
      (let player := (detour.after (throughWood ++ [.front, .front])).player
       player.playback.spot? = some ⟨"wood", 0, 0⟩ ∧ player.playback.executed = false ∧
        player.playback.mode.waiting = false ∧ player.playback.playing = true ∧
        player.playback.returns = [⟨"road", 0, 0⟩] ∧
        ∃ earlier first later, throughWood = earlier ++ first :: later ∧
          (detour.after earlier).Starts first ⟨"wood", 0, 0⟩ ∧ player.store = (detour.after earlier).player.store ∧
          (detour.after earlier).player.playback.returns = [⟨"road", 0, 0⟩]) := by
  have fresh : detour.Fresh := ⟨numbered_new _ rfl, rfl, rfl, ⟨rfl, rfl⟩, rfl⟩
  have issued : detour.Issued Playlist.Named := stocked_issued _
  have orderly : detour.Orderly throughWood := by decide +kernel
  have brings : detour.Brings Playlist.Named throughWood := shelved_brings _ _ _ (by decide +kernel)
  refine ⟨fresh, rfl, issued, orderly, brings, ?_, by decide +kernel, ?_⟩
  · have asking : (((detour.after intoWood).mover? (.thread 0)).bind Activity.awaited?).map (fun execution =>
        (execution.command.kind.asks, execution.command.spot, (detour.after intoWood).startedSince execution)) =
        some (true, ⟨"wood", 0, 0⟩, []) := by decide +kernel
    obtain ⟨execution, awaited, seen⟩ := Option.map_eq_some_iff.mp asking
    obtain ⟨asks, spot, since⟩ : execution.command.kind.asks = true ∧ execution.command.spot = ⟨"wood", 0, 0⟩ ∧
        (detour.after intoWood).startedSince execution = [] := by simpa using seen
    have shelved : detour.Brings Playlist.Named intoWood := shelved_brings _ _ _ (by decide +kernel)
    obtain ⟨permits, _⟩ := rewind_restores_start detour fresh rfl issued intoWood (by decide +kernel) shelved
    obtain ⟨⟨snapshot, newest, permitted, place⟩, _⟩ :=
      permits (.thread 0) execution awaited asks (by decide +kernel) (by decide +kernel)
    refine ⟨snapshot, newest, permitted, ?_⟩
    rw [place, since, spot]
    rfl
  · obtain ⟨_, restores⟩ := rewind_restores_start detour fresh rfl issued throughWood orderly brings
    have recorded : ((detour.after throughWood).player.history.find? fun candidate =>
        candidate = ⟨"wood", 0, 0⟩).isSome = true := by decide +kernel
    obtain ⟨snapshot, found⟩ := Option.isSome_iff_exists.mp recorded
    have back : (detour.after throughWood).player.GoesBack (.rewindSpot ⟨"wood", 0, 0⟩) ⟨"wood", 0, 0⟩ :=
      .elsewhere _ (by decide +kernel)
    obtain ⟨place, executed, waiting, _, playing, earlier, first, later, split, starts, _, store, returns⟩ :=
      restores .front _ _ snapshot (by decide +kernel) rfl back found (by decide +kernel)
    rw [after_append]
    have calls : ((detour.after throughWood).after [.front, .front]).player.playback.returns = [⟨"road", 0, 0⟩] := by
      decide +kernel
    exact ⟨place, executed, waiting, playing.trans (by decide +kernel), calls, earlier, first, later, split, starts, store,
      returns.symm.trans calls⟩

-- A line appears slowly, and playback is taken over before it is there.
def slowLine : World := stocked
  [⟨"road", [{ line := 0, command := "print", parameters := [("text", .text "Hello"), ("reveal_ms", .integer 100)] },
      { line := 1, command := "stop" }]⟩,
    ⟨"wood", [{ line := 0, command := "wait", parameters := [("millis", .integer 1000)] }, { line := 1, command := "stop" }]⟩]

def takenOver : List Move :=
  List.flatten
    [[.ask (.play "road" none), .front, .leave], List.replicate 3 (.thread 0), [.ask .stop, .front, .leave],
      [.ask (.play "wood" none), .front, .leave], List.replicate 4 (.thread 1), [.pass 100, .thread 0]]

-- Then the line permits to roll back to the other script, and not to itself.
theorem slow_line_permits_other_script :
    slowLine.Fresh ∧ slowLine.Orderly takenOver ∧
      (let world := slowLine.after takenOver
       ((world.mover? (.thread 0)).bind Activity.awaited?).map (fun execution =>
          (execution.command.kind.asks, execution.lane, execution.command.spot)) = some (true, .main, ⟨"road", 0, 0⟩) ∧
        world.player.playback.mode.waiting = false ∧ (world.move (.thread 0)).player.playback.mode.waiting = true ∧
        (world.move (.thread 0)).player.history.snapshots.getLast?.map (fun newest => (newest.permitted, newest.spot)) =
          some (true, ⟨"wood", 0, 0⟩)) := by
  refine ⟨⟨numbered_new _ rfl, rfl, rfl, ⟨rfl, rfl⟩, rfl⟩, ?_⟩
  decide +kernel

end World

end Storyline
