import Storyline.Proofs.Performance
import Storyline.Proofs.Pilots
import Storyline.Proofs.Reading

set_option autoImplicit false

/-!
What a superseded pilot still does. It leaves the caret alone and starts nothing, because it looks at the generation after
each wait, and because a command that moves the caret does so before it first waits. The built-in commands are all like this;
for those that an application adds it is taken for granted.
-/

namespace Storyline

/-! ### Commands that steer at once -/

namespace Effect

def steers (effect : Effect) : Bool := effect.footprint.caret || effect.footprint.playing

theorem pushes_mild {effect more : Effect} {extra : List Effect} (pushed : extra ∈ effect.pushes) (member : more ∈ extra) :
    more.steers = false := by
  cases effect with
  | barrier | awaitOthers | transition _ =>
      simp only [pushes, List.mem_cons, List.not_mem_nil, or_false] at pushed
      rcases pushed with rfl | rfl | rfl | rfl <;> simp only [List.mem_cons, List.not_mem_nil, or_false] at member
      all_goals rcases member with rfl | rfl <;> rfl
  | _ =>
      obtain rfl := List.mem_singleton.mp pushed
      cases member

-- Whether a command may be held up by it.
def lingers (effect : Effect) : Bool := effect.pauses || effect.pushes.any fun extra => !extra.isEmpty

-- Nothing steers after something that lingers.
def prompt : List Effect → Bool
  | [] => true
  | effect :: effects => if effect.lingers then effects.all fun more => !more.steers else prompt effects

theorem prompt_of_mild (effects : List Effect) (mild : ∀ effect ∈ effects, effect.steers = false) : prompt effects = true := by
  induction effects with
  | nil => rfl
  | cons effect effects ih =>
      have rest (more : Effect) (member : more ∈ effects) : more.steers = false := mild more (List.mem_cons_of_mem _ member)
      rw [prompt]
      split
      · exact List.all_eq_true.mpr fun more member => by rw [rest more member]; rfl
      · exact ih rest

end Effect

-- A command of an application moves the caret and stops playback before it first waits, if it does so at all.
def Custom.isPrompt (custom : Custom) : Bool := Effect.prompt custom.effects

def Kind.isPrompt : Kind → Bool
  | .custom command => command.isPrompt
  | _ => true

theorem Kind.prompt_effects (kind : Kind) (prompt : kind.isPrompt = true) : Effect.prompt kind.effects = true := by
  cases kind with
  | custom command => exact prompt
  | print line =>
      refine Effect.prompt_of_mild _ fun effect member => ?_
      rcases List.mem_cons.mp member with rfl | asks
      · rfl
      · split at asks
        · obtain rfl := List.mem_singleton.mp asks
          rfl
        · cases asks
  | _ => rfl

namespace Execution

-- Whether it moves the caret next, or stops playback.
def steers (execution : Execution) : Bool := execution.next?.any Effect.steers

-- Nothing is left to do that moves the caret.
def Spent (execution : Execution) : Prop := ∀ effect ∈ execution.todo, effect.steers = false

section Step

variable {execution next : Execution} {player after : Player} (step : execution.step? player = some (.going next, after))
include step

theorem step_spent (spent : execution.Spent) : next.Spent := by
  intro effect member
  obtain ⟨_, ⟨same, _⟩ | ⟨first, rest, split, _, extra, pushed, more⟩⟩ := step_going execution next player after step
  · exact spent effect (same ▸ member)
  · rcases List.mem_append.mp (more ▸ member) with new | old
    · exact Effect.pushes_mild pushed new
    · exact spent effect (split ▸ List.mem_cons_of_mem _ old)

-- As soon as it may have to wait, there is nothing left to do that moves the caret.
theorem step_prompt (awake : execution.wait = none) (prompt : Effect.prompt execution.todo = true) :
    next.Spent ∨ (next.wait = none ∧ Effect.prompt next.todo = true) := by
  obtain ⟨_, ⟨same, on⟩ | ⟨first, rest, split, brief, extra, pushed, more⟩⟩ := step_going execution next player after step
  · exact .inr ⟨on awake, same ▸ prompt⟩
  · rw [split, Effect.prompt] at prompt
    cases lingers : first.lingers with
    | true =>
        rw [lingers, if_pos rfl] at prompt
        refine .inl fun effect member => ?_
        rcases List.mem_append.mp (more ▸ member) with new | old
        · exact Effect.pushes_mild pushed new
        · simpa using List.all_eq_true.mp prompt effect old
    | false =>
        rw [lingers, if_neg Bool.false_ne_true] at prompt
        obtain ⟨soon, nothing⟩ := Bool.or_eq_false_iff.mp lingers
        obtain rfl : extra = [] := by simpa using List.any_eq_false.mp nothing extra pushed
        exact .inr ⟨brief soon, by rw [more]; exact prompt⟩

end Step

theorem spent_steers (execution : Execution) (spent : execution.Spent) : execution.steers = false := by
  refine Bool.eq_false_iff.mpr fun steers => ?_
  obtain ⟨effect, next, steers⟩ := Option.any_eq_true _ _ |>.mp steers
  simp only [next?] at next
  split at next
  · next begun =>
      have member : effect ∈ execution.todo := by
        rw [todo, if_pos (Bool.and_eq_true_iff.mp begun).2]
        exact List.mem_of_mem_head? next
      cases (spent effect member).symm.trans steers
  · cases next

end Execution

/-! ### Scripts of prompt commands -/

def Playlist.Prompt (p : Playlist) : Prop := ∀ command ∈ p.commands.toList, command.kind.isPrompt = true

def Registry.Prompt (registry : Registry) : Prop :=
  ∀ entry ∈ registry, ∀ parameters custom, entry.2 parameters = .ok custom → custom.isPrompt = true

theorem Kind.read_prompt (json : Json) (kind : Kind) (read : Kind.ofJson? json = some kind) : kind.isPrompt = true := by
  obtain ⟨⟨name, parameters⟩, _, read⟩ := Option.bind_eq_some_iff.mp read
  unfold ofParameters? at read
  split at read
  all_goals simp only [unit?, ofMillis?, ofCondition?, Option.map_eq_some_iff, Option.bind_eq_bind, Option.bind_eq_some_iff,
    Option.pure_def, Option.some.injEq, reduceCtorEq] at read
  all_goals grind [isPrompt]

theorem Registry.playlist_prompt (registry : Registry) (prompt : registry.Prompt) (compiled : CompiledScript) (p : Playlist)
    (accepted : registry.playlist compiled = .ok p) : p.Prompt := by
  intro command member
  obtain ⟨given, made⟩ := registry.playlist_made compiled p accepted command member
  have kind := (registry.command_made p.script given command made).1
  unfold Registry.kind at kind
  split at kind
  · next make found =>
      obtain ⟨entry, known, rfl⟩ := Option.map_eq_some_iff.mp found
      cases custom : entry.2 given.parameters with
      | error cause => rw [custom] at kind; cases kind
      | ok custom_ =>
          rw [custom] at kind
          rw [← Except.ok.inj kind]
          exact prompt entry (List.mem_of_find?_eq_some known) _ _ custom
  · split at kind
    · next read =>
        rw [← Except.ok.inj kind]
        exact Kind.read_prompt _ _ read
    · cases kind

-- All commands of applications in the scripts that the library has or can make are prompt.
structure Library.Prompt (library : Library) : Prop where
  registry : library.registry.Prompt
  scripts : ∀ loaded ∈ library.scripts, loaded.playlist.Prompt

structure Player.Prompt (player : Player) : Prop where
  library : player.library.Prompt
  caret : ∀ loaded ∈ player.playback.loaded, loaded.playlist.Prompt

namespace Library

variable {library after : Library} (prompt : library.Prompt)
include prompt

theorem require_prompt (name : String) (loaded : Loaded) (found : library.require name = .ok (loaded, after)) :
    loaded.playlist.Prompt ∧ after.Prompt := by
  obtain ⟨own, others⟩ := library.require_fits (library.registry.playlist_prompt prompt.registry) prompt.scripts name loaded
    after found
  rcases library.require_cases name loaded after found with ⟨_, rfl⟩ | ⟨_, _, _, _, _, added⟩
  · exact ⟨own, prompt⟩
  · obtain ⟨_, rfl⟩ := Prod.mk.inj added
    exact ⟨own, prompt.registry, others⟩

theorem takes_prompt (loaded : Loaded) (takes : library.Takes loaded after) : after.Prompt := by
  cases takes with
  | found name required => exact (require_prompt prompt name loaded required).2
  | loads playlist same =>
      obtain ⟨_, rfl⟩ := Prod.mk.inj same
      exact ⟨prompt.registry, prompt.scripts⟩

end Library

theorem step_keeps_prompt {activity : Activity} {player : Player} {moved : Activity × Player}
    (step : activity.step? player = some moved) (brings : activity.Brings Playlist.Prompt) (prompt : player.Prompt) :
    moved.2.Prompt := by
  cases inserts : activity.inserts with
  | true =>
      obtain ⟨playlist, own, after⟩ := step_inserts step inserts
      rw [after]
      refine ⟨⟨prompt.library.registry, fun loaded member => ?_⟩, prompt.caret⟩
      rcases Tables.mem_put Library.put_places member with rfl | old
      · exact brings playlist own
      · exact prompt.library.scripts loaded old
  | false =>
      have reads := step_reads step inserts
      refine ⟨?_, fun loaded there => ?_⟩
      · rcases reads.library with same | ⟨loaded, takes⟩
        · exact same ▸ prompt.library
        · exact Library.takes_prompt prompt.library loaded takes
      · rcases reads.caret loaded there with old | ⟨name, found⟩
        · exact prompt.caret loaded old
        · exact (Library.require_prompt prompt.library name loaded found).1

/-! ### Pilots in the middle of a command -/

def Activity.steers : Activity → Bool
  | .running execution _ => execution.steers
  | _ => false

-- No pilot is in the middle of a command that has still to move the caret, unless it holds the generation.
def Activity.Settled (generation : Nat) : Activity → Prop
  | .running execution (.pilot pilot _) =>
      execution.Spent ∨
        (execution.wait = none ∧ pilot.generation = generation ∧ Effect.prompt execution.todo = true)
  | _ => True

theorem settled_of_nobody (activity : Activity) (generation : Nat) (nobody : activity.pilot? = none) :
    activity.Settled generation := by
  cases activity with
  | running execution caller =>
      cases caller with
      | pilot pilot epoch => cases nobody
      | _ => trivial
  | _ => trivial

theorem settled_of_idle (activity : Activity) (old new : Nat) (idle : activity.isBusy = false)
    (settled : activity.Settled old) : activity.Settled new := by
  cases activity with
  | running execution caller =>
      cases caller with
      | pilot pilot epoch =>
          rcases settled with spent | ⟨going, _⟩
          · exact .inl spent
          · simp [Activity.isBusy, going] at idle
      | _ => trivial
  | _ => trivial

theorem Hands.settled {own : Option Nat} {before after : Player} {successor : Activity}
    (hands : Hands own before successor after)
    (settled : own ≠ none → successor.Settled before.playback.generation) : successor.Settled after.playback.generation := by
  cases hands with
  | keeps generation crew pilot =>
      cases helm : successor.pilot? with
      | none => exact settled_of_nobody successor _ helm
      | some next => exact generation ▸ settled (by simp [pilot next helm])
  | leaves nobody manned => exact settled_of_nobody successor _ nobody
  | takes trip helm => exact helm ▸ trivial

theorem begins_settled {player : Player} {pilot : Pilot} {execution : Execution} {epoch : Nat}
    (begins : player.Begins pilot.generation execution epoch)
    (prompt : ∀ loaded ∈ player.playback.loaded, loaded.playlist.Prompt) :
    (Activity.running execution (.pilot pilot.onward epoch)).Settled player.playback.generation := by
  have todo : execution.todo = execution.command.kind.effects := by simp [Execution.todo, begins.begun]
  have member : execution.command ∈ execution.loaded.playlist.commands.toList :=
    Array.mem_toList_iff.mpr (Array.mem_of_getElem? begins.command)
  have kind := prompt execution.loaded begins.loaded execution.command member
  exact .inr ⟨begins.wait, pilot.onward_generation.trans begins.current.symm, todo ▸ Kind.prompt_effects _ kind⟩

section Step

variable {activity successor : Activity} {player after : Player}
  (step : activity.step? player = some (successor, after))
include step

theorem step_settled (prompt : ∀ loaded ∈ player.playback.loaded, loaded.playlist.Prompt)
    (settled : activity.Settled player.playback.generation) : successor.Settled after.playback.generation := by
  refine (step_hands step).settled fun _ => ?_
  have quiet (idle : successor.execution? = none) : successor.Settled player.playback.generation := by
    cases successor with
    | running execution caller => cases idle
    | _ => trivial
  cases activity.step_becomes player _ step with
  | ends _ reply => trivial
  | rests _ _ rests => exact settled_of_nobody _ _ (Activity.rests_nobody _ rests)
  | holds _ _ _ _ _ _ idle => exact quiet idle
  | visits pilot execution epoch begins => exact begins_settled begins prompt
  | goes execution next caller between went =>
      cases caller with
      | pilot pilot epoch =>
          rcases settled with spent | ⟨awake, current, at_once⟩
          · exact .inl (Execution.step_spent went spent)
          · rcases Execution.step_prompt went awake at_once with spent | ⟨wait, todo⟩
            · exact .inl spent
            · exact .inr ⟨wait, current, todo⟩
      | _ => trivial
  | plays _ _ _ _ => trivial
  | starts _ _ => trivial
  | listens _ _ _ _ again =>
      cases successor with
      | running execution caller => cases again
      | _ => trivial
  | embarks _ _ _ => trivial

end Step

/-! ### Superseded pilots -/

namespace Player

section Stale

variable (player : Player) (generation : Nat) (stale : player.playback.generation ≠ generation)
include stale

theorem visit_stale : player.visit generation = (.astray, player) := by
  unfold visit
  rw [if_pos stale]

theorem advance_stale : player.advance generation = (.stale, player) := by
  unfold advance
  rw [if_pos stale]

theorem settle_stale (epoch : Nat) (passed : Bool) : player.settle generation epoch passed = (.astray, player) := by
  unfold settle
  rw [if_neg fun both => stale both.1]

theorem not_live : player.playback.isLive generation = false := by
  simp [Playback.isLive, stale]

theorem steer_loop_stale : player.steerLoop generation = (.finished .nothing, player) := by
  simp [steerLoop, not_live player generation stale]

end Stale

end Player

-- What is left to a pilot that has been superseded: a trip may end, and then start a new loop.
inductive Idles (pilot : Pilot) (before : Player) (successor : Activity) (after : Player) : Prop where
  | still (within : Within { skip := true } before after)
  | ends (trip : Trip) (reply : Reply) (travels : pilot = .trip trip) (over_ : successor = .finished reply)
      (within : Within { playing := true, pilots := true, skip := true } before after)

theorem Idles.after_within {pilot : Pilot} {before between after : Player} {successor : Activity}
    (within : Within { skip := true } before between) (idles : Idles pilot between successor after) :
    Idles pilot before successor after := by
  cases idles with
  | still more => exact .still (within.trans more)
  | ends trip reply travels over_ more => exact .ends trip reply travels over_ ((within.wider rfl).trans more)

theorem steers_footprint (execution : Execution) (idle : execution.steers = false) :
    execution.footprint.le { skip := true } = true := by
  unfold Execution.steers at idle
  unfold Execution.footprint
  cases next : execution.next? with
  | none => rfl
  | some effect =>
      rw [next] at idle
      cases effect with
      | jump _ | call _ | goBack | halt => cases idle
      | _ => rfl

namespace Player

theorem disembark_idles (player : Player) (trip : Trip) (outcome : Except Error Bool) :
    Idles (.trip trip) player (player.disembark trip outcome).1 (player.disembark trip outcome).2 := by
  obtain ⟨reply, finished⟩ := disembark_finished player trip outcome
  exact .ends trip reply rfl finished ((disembark_edits player trip outcome).within rfl)

theorem fail_idles (player : Player) (pilot : Pilot) (stale : player.playback.generation ≠ pilot.generation) (cause : Error) :
    Idles pilot player (player.fail pilot cause).1 (player.fail pilot cause).2 := by
  cases pilot with
  | loop generation =>
      have reported : Within { skip := true } player (player.report ("Playback halted: " ++ cause.message)) :=
        logged_within _ _ _
      refine .still ?_
      simp only [fail, halt, stopLoop, not_live (player.report _) generation stale]
      exact reported
  | trip trip => exact disembark_idles player trip _

theorem resume_pilot_idles (player : Player) (pilot : Pilot) (stale : player.playback.generation ≠ pilot.generation)
    (epoch : Nat) (result : Except Error Unit) :
    Idles pilot player (player.resumeCaller (.pilot pilot epoch) result).1
      (player.resumeCaller (.pilot pilot epoch) result).2 := by
  cases result with
  | error cause => exact fail_idles player pilot stale cause
  | ok _ =>
      simp only [resumeCaller, settle_stale player pilot.generation stale, afterVisit]
      exact .still (.refl _)

theorem steer_idles (player : Player) (trip : Trip) (stale : player.playback.generation ≠ trip.generation) :
    Idles (.trip trip) player (player.steerTrip trip).1 (player.steerTrip trip).2 := by
  rcases player.steer_trip_cases trip with ⟨log, outcome, ends⟩ | visits
  · have aside : Within { skip := true } player { player with log := log } := .beside rfl rfl rfl rfl
    exact ends ▸ .after_within aside (disembark_idles _ _ _)
  · rw [visits, visit_stale _ _ (by rw [with_mode_playback]; exact stale)]
    exact .still player.force_skip_within

theorem advance_idles (player : Player) (pilot : Pilot) (stale : player.playback.generation ≠ pilot.generation) :
    Idles pilot player (player.advancePilot pilot).1 (player.advancePilot pilot).2 := by
  have warned (text : String) : Within { skip := true } player (player.warn text) := logged_within _ _ _
  simp only [advancePilot, advance_stale player pilot.generation stale]
  cases pilot with
  | loop generation => exact .still (.refl _)
  | trip trip => exact .after_within (warned _) (disembark_idles _ _ _)

end Player

theorem step_stale {activity successor : Activity} {player after : Player}
    (step : activity.step? player = some (successor, after)) (pilot : Pilot) (helm : activity.pilot? = some pilot)
    (stale : player.playback.generation ≠ pilot.generation) (idle : activity.steers = false) :
    Idles pilot player successor after := by
  cases activity with
  | steering own =>
      obtain rfl := Option.some.inj helm
      cases own with
      | loop generation =>
          have moved := Option.some.inj step
          rw [Player.steer_loop_stale player generation stale] at moved
          obtain ⟨_, rfl⟩ := Prod.mk.inj moved
          exact .still (.refl _)
      | trip trip =>
          obtain ⟨rfl, rfl⟩ := Prod.mk.inj (Option.some.inj step)
          exact Player.steer_idles player trip stale
  | advancing own =>
      obtain rfl := Option.some.inj helm
      obtain ⟨rfl, rfl⟩ := Prod.mk.inj (Option.some.inj step)
      exact Player.advance_idles player own stale
  | awaitingInput generation auto deadline =>
      exact .still ((Player.await_input_edits player generation auto deadline _ step).within rfl)
  | running execution caller =>
      cases caller with
      | pilot own epoch =>
          obtain rfl := Option.some.inj helm
          obtain ⟨⟨progress, between⟩, moved, rest⟩ := Option.map_eq_some_iff.mp step
          have within := (Execution.step_within execution player progress between moved).wider
            (steers_footprint execution idle)
          cases progress with
          | going next =>
              obtain ⟨rfl, rfl⟩ := Prod.mk.inj rest
              exact .still within
          | ended result =>
              obtain ⟨rfl, rfl⟩ := Prod.mk.inj rest
              have finished := within.trans ((Player.finish_edits between execution result).within rfl)
              exact .after_within finished (Player.resume_pilot_idles _ own
                ((finished.pilots rfl).1 ▸ stale) epoch _)
      | _ => cases helm
  | _ => cases helm

/-! ### Whole runs -/

namespace World

def Settled (world : World) : Prop := ∀ activity ∈ world.activities, activity.Settled world.player.playback.generation

theorem spawned_settled (activity : Activity) (player : Player) (successor : Activity) (after : Player)
    (step : activity.step? player = some (successor, after)) (told : player.outbox = []) (new : Activity)
    (spawned : new ∈ after.spawns) (generation : Nat) : new.Settled generation := by
  have none_yet : player.crew = [] := by rw [Player.crew, told]; rfl
  cases helm : new.pilot? with
  | none => exact settled_of_nobody new generation helm
  | some pilot =>
      have member := mem_crew spawned helm
      cases step_hands step with
      | keeps _ crew _ => simp [crew, none_yet] at member
      | takes _ _ _ _ crew => simp [crew, none_yet] at member
      | leaves _ manned =>
          cases manned with
          | same _ crew => simp [crew, none_yet] at member
          | vacant _ crew => simp [crew, none_yet] at member
          | started _ crew =>
              rw [crew, none_yet] at member
              obtain rfl := List.mem_singleton.mp member
              trivial

theorem move_settled (world : World) (numbered : world.Numbered)
    (prompt : ∀ loaded ∈ world.player.playback.loaded, loaded.playlist.Prompt) (settled : world.Settled) (move : Move)
    (allowed : world.Allows move) : (world.move move).Settled := by
  cases (move_comes world numbered move).1 with
  | stays clock requests player activities =>
      intro activity member
      rcases asked_or_before activities member with ⟨request, rfl⟩ | old
      · trivial
      · rw [player]
        exact settled activity old
  | moves activity successor others player stage _ there alone step told activities =>
      have mine := settled activity (there.mem_iff.mpr List.mem_cons_self)
      intro other member
      rw [told]
      rcases List.mem_cons.mp (activities.subset member) with rfl | member
      · exact (step_settled step prompt mine :)
      · rcases List.mem_append.mp member with old | new
        · exact settled_of_idle other _ _ (alone allowed other old)
            (settled other (there.mem_iff.mpr (List.mem_cons_of_mem _ old)))
        · exact spawned_settled activity world.player successor player step numbered.told other new _

theorem move_prompt (world : World) (numbered : world.Numbered) (prompt : world.player.Prompt) (move : Move)
    (brings : ∀ activity, world.mover? move = some activity → activity.Brings Playlist.Prompt) :
    (world.move move).player.Prompt := by
  cases (move_comes world numbered move).1 with
  | stays clock requests player =>
      rw [player]
      exact ⟨prompt.library, prompt.caret⟩
  | moves activity successor others player stage mover _ _ step told =>
      have kept := step_keeps_prompt step (brings activity mover) prompt
      rw [told]
      exact ⟨kept.library, kept.caret⟩

-- Along a run, at most one pilot holds the generation, and the others are settled.
theorem settled_after (world : World) (numbered : world.Numbered) (prompt : world.player.Prompt) (settled : world.Settled)
    (moves : List Move) (brings : world.Brings Playlist.Prompt moves) (orderly : world.Orderly moves) :
    (world.after moves).Settled := by
  induction moves generalizing world with
  | nil => exact settled
  | cons move moves ih =>
      exact ih _ (move_comes world numbered move).2 (move_prompt world numbered prompt move brings.1)
        (move_settled world numbered prompt.caret settled move orderly.1) brings.2 orderly.2

theorem stale_moves (world : World) (numbered : world.Numbered) (settled : world.Settled) (move : Move) (pilot : Pilot)
    (helm : world.helm? move = some pilot) (stale : world.player.playback.generation ≠ pilot.generation) :
    (world.move move).player.playback.caret = world.player.playback.caret ∧
      (world.move move).player.launches = world.player.launches ∧
      ((world.move move).player.playback.playing = world.player.playback.playing ∨
        ∃ trip reply player, pilot = .trip trip ∧
          (world.mover? move).bind (fun activity => activity.step? world.player) = some (.finished reply, player)) := by
  cases (move_comes world numbered move).1 with
  | stays clock requests player =>
      rw [player]
      exact ⟨rfl, rfl, .inl rfl⟩
  | moves activity successor others player stage mover there _ step told _ =>
      rw [told, mover]
      rw [helm?, mover] at helm
      have idle : activity.steers = false := by
        cases activity with
        | running execution caller =>
            cases caller with
            | pilot own epoch =>
                obtain rfl := Option.some.inj helm
                rcases settled _ (there.mem_iff.mpr List.mem_cons_self) with spent | ⟨_, current, _⟩
                · exact execution.spent_steers spent
                · exact absurd current.symm stale
            | _ => cases helm
        | _ => rfl
      cases step_stale step pilot helm stale idle with
      | still within => exact ⟨within.caret rfl, within.launches rfl, .inl (within.playing rfl)⟩
      | ends trip reply travels over_ within =>
          exact ⟨within.caret rfl, within.launches rfl, .inr ⟨trip, reply, player, travels, by rw [← over_]; exact step⟩⟩

-- A loop pauses in a command of an application, and playback is stopped and resumed. The new loop goes on from the caret; then
-- the pause is over.
def dozing (custom : Custom) : World where
  player :=
    { draws := ⟨fun _ => 0, 0⟩
      library :=
        { registry := [("nap", fun _ => .ok custom)]
          scripts := [⟨0, "s", #[⟨0, ⟨"s", 0, 0⟩, none, true, .custom custom⟩, ⟨0, ⟨"s", 1, 0⟩, none, true, .label "b"⟩,
            ⟨0, ⟨"s", 2, 0⟩, none, true, .wait 100⟩]⟩]
          nextHandle := 1 } }

def superseding : List Move :=
  [.ask (.play "s" none), .front, .leave, .thread 0, .thread 0, .thread 0, .thread 0, .pass 50, .ask .stop, .front,
    .ask .resume, .front]

def takingOver : List Move := [.leave, .thread 1, .thread 1, .thread 1, .pass 100, .thread 0]

def napping : Custom := { name := "nap", effects := [.jump ⟨none, some "b"⟩, .pause 100] }

theorem napping_prompt : (dozing napping).player.Prompt := by
  refine ⟨⟨fun entry member parameters custom made => ?_, fun loaded member => ?_⟩, nofun⟩
  · obtain rfl := List.mem_singleton.mp member
    rw [← Except.ok.inj made]
    rfl
  · obtain rfl := List.mem_singleton.mp member
    simp [Playlist.Prompt, Kind.isPrompt, show napping.isPrompt = true from rfl]

-- A command that steers only after it has waited moves the caret for a loop that was superseded.
example :
    let world := (dozing { name := "nap", effects := [.pause 100, .jump ⟨none, some "b"⟩] }).after (superseding ++ takingOver)
    world.helm? (.thread 0) = some (.loop 1) ∧ world.player.playback.isLive 2 = true ∧
      (world.move (.thread 0)).player.playback.epoch = world.player.playback.epoch + 1 := by
  decide +kernel

end World

end Storyline
