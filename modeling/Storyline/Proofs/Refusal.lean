import Storyline.Proofs.Takeover

set_option autoImplicit false

/-!
Refused operations. Starting a script, jumping and calling look everything up before they change anything, so what is refused
leaves no trace. A refused load has stopped playback and nothing else.
-/

namespace Storyline

-- The place in a playlist that a target names.
inductive Target.Leads (target : Target) (p : Playlist) : Nat → Prop where
  | top (unlabelled : target.label = none) : Leads target p 0
  | label (name : String) (index : Nat) (labelled : target.label = some name) (found : p.indexOfLabel? name = some index) :
      Leads target p index

namespace Player

-- Nothing has changed, except that a script may have been read from its directory and a warning may have been left.
structure Untouched (before after : Player) : Prop where
  rest : after = { before with library := after.library, log := after.log }
  library : after.library = before.library ∨ ∃ name loaded, before.library.require name = .ok (loaded, after.library)

-- Why a target leads nowhere.
inductive Unresolved (player : Player) (target : Target) : Prop where
  | nowhere (unnamed : target.script = none) (idle : player.playback.loaded = none)
  | script (name : String) (named : target.script.or player.playback.script? = some name) (cause : Error)
      (missing : player.library.require name = .error cause)
  | label (name : String) (named : target.script.or player.playback.script? = some name) (loaded : Loaded)
      (library : Library) (found : player.library.require name = .ok (loaded, library)) (label : String)
      (labelled : target.label = some label)
      (missing : ∀ command ∈ loaded.playlist.commands.toList, command.kind.label? ≠ some label)
  | empty (name : String) (named : target.script.or player.playback.script? = some name) (loaded : Loaded)
      (library : Library) (found : player.library.require name = .ok (loaded, library))
      (nothing : loaded.playlist.length = 0)
  | inside (name : String) (named : target.script.or player.playback.script? = some name) (loaded : Loaded)
      (library : Library) (found : player.library.require name = .ok (loaded, library)) (index : Nat)
      (leads : target.Leads loaded.playlist index) (fault : StructuralError)
      (refused : loaded.playlist.ensureNavigable index = .error fault)

section Refusal

variable (player : Player)

theorem untouched_warn {before after : Player} (untouched : before.Untouched after) (text : String) :
    before.Untouched (after.warn text) := by
  obtain ⟨rest, library⟩ := untouched
  refine ⟨?_, library⟩
  rw [rest]
  rfl

theorem untouched_refl : player.Untouched player := ⟨rfl, .inl rfl⟩

theorem untouched_found (name : String) (loaded : Loaded) (library : Library)
    (found : player.library.require name = .ok (loaded, library)) : player.Untouched (player.withLibrary library) :=
  ⟨rfl, .inr ⟨name, loaded, found⟩⟩

-- Whoever has moved the caret is not untouched.
theorem landed_touched (after : Player) (loaded : Loaded) (index : Nat) (executed : Bool)
    (landed : Landed player after loaded index executed) : ¬player.Untouched after := by
  intro untouched
  have moved : after.playback.epoch = player.playback.epoch + 1 := congrArg Caret.epoch landed
  have same : after.playback = player.playback := (congrArg Player.playback untouched.rest :)
  rw [same] at moved
  exact Nat.succ_ne_self _ moved.symm

/-! ### Jumps and calls -/

theorem resolve_untouched (target : Target) : player.Untouched (player.resolve target).2 := by
  unfold resolve
  split
  · exact untouched_warn player.untouched_refl _
  · next name _ =>
      split
      · exact untouched_warn player.untouched_refl _
      · next loaded library found =>
          have looked := player.untouched_found name loaded library found
          simp only
          split
          · exact untouched_warn looked _
          · split
            · exact untouched_warn looked _
            · split
              · exact looked
              · exact looked

theorem label_missing (p : Playlist) (label : String) :
    p.indexOfLabel? label = none ↔ ∀ command ∈ p.commands.toList, command.kind.label? ≠ some label := by
  rw [Playlist.indexOfLabel?, Array.findIdx?_eq_none_iff]
  simp [Array.mem_toList_iff]

section Found

variable {player} {target : Target} {name : String} (named : target.script.or player.playback.script? = some name)
  {loaded : Loaded} {library : Library} (found : player.library.require name = .ok (loaded, library))
include named found

theorem resolve_leads (index : Nat) (leads : target.Leads loaded.playlist index) :
    (∃ place, (player.resolve target).1 = .ok (some place)) ↔
      index < loaded.playlist.length ∧ loaded.playlist.ensureNavigable index = .ok () := by
  have chosen : (player.resolve target).1 = if loaded.playlist.length ≤ index then .ok none
      else ((loaded.playlist.ensureNavigable index).mapError Error.structural).map fun _ => some (loaded, index) := by
    cases leads with
    | top unlabelled =>
        simp only [resolve, named, found, unlabelled]
        split
        · rfl
        · cases loaded.playlist.ensureNavigable 0 <;> rfl
    | label label _ labelled there =>
        simp only [resolve, named, found, labelled, there]
        split
        · rfl
        · cases loaded.playlist.ensureNavigable index <;> rfl
  rw [chosen]
  split
  · next past => simp [Nat.not_lt_of_le past]
  · next bound =>
      cases loaded.playlist.ensureNavigable index with
      | error fault => simp [Except.mapError, Except.map]
      | ok => simp [Except.mapError, Except.map, Nat.lt_of_not_le bound]

theorem resolve_unlabelled (label : String) (labelled : target.label = some label)
    (missing : loaded.playlist.indexOfLabel? label = none) : (player.resolve target).1 = .ok none := by
  simp only [resolve, named, found, labelled, missing]

end Found

theorem unresolved_iff (target : Target) :
    player.Unresolved target ↔ ¬∃ place, (player.resolve target).1 = .ok (some place) := by
  constructor
  · intro unresolved
    cases unresolved with
    | nowhere unnamed idle => simp [resolve, unnamed, Playback.script?, idle]
    | script name named cause missing => simp [resolve, named, missing]
    | label name named loaded library found label labelled missing =>
        simp [resolve_unlabelled named found label labelled ((label_missing _ _).mpr missing)]
    | empty name named loaded library found nothing =>
        have short (index : Nat) (leads : target.Leads loaded.playlist index) :
            ¬∃ place, (player.resolve target).1 = .ok (some place) := by
          rw [resolve_leads named found index leads, nothing]
          exact fun led => Nat.not_lt_zero _ led.1
        cases labelled : target.label with
        | none => exact short 0 (.top labelled)
        | some label =>
            cases there : loaded.playlist.indexOfLabel? label with
            | none => simp [resolve_unlabelled named found label labelled there]
            | some index => exact short index (.label label index labelled there)
    | inside name named loaded library found index leads fault refused =>
        rw [resolve_leads named found index leads, refused]
        rintro ⟨_, open_⟩
        cases open_
  · intro lost
    cases named : target.script.or player.playback.script? with
    | none =>
        obtain ⟨unnamed, idle⟩ := Option.or_eq_none_iff.mp named
        exact .nowhere unnamed (Option.map_eq_none_iff.mp idle)
    | some name =>
        cases required : player.library.require name with
        | error cause => exact .script name named cause required
        | ok there =>
            obtain ⟨loaded, library⟩ := there
            -- a target that leads to a command is refused only inside a delay block
            have inside (index : Nat) (leads : target.Leads loaded.playlist index) (bound : index < loaded.playlist.length) :
                player.Unresolved target := by
              cases navigable : loaded.playlist.ensureNavigable index with
              | error fault => exact .inside name named loaded library required index leads fault navigable
              | ok => exact absurd ((resolve_leads named required index leads).mpr ⟨bound, navigable⟩) lost
            cases labelled : target.label with
            | none =>
                by_cases nothing : loaded.playlist.length = 0
                · exact .empty name named loaded library required nothing
                · exact inside 0 (.top labelled) (Nat.pos_of_ne_zero nothing)
            | some label =>
                cases there : loaded.playlist.indexOfLabel? label with
                | none => exact .label name named loaded library required label labelled ((label_missing _ _).mp there)
                | some index =>
                    exact inside index (.label label index labelled there) (Playlist.index_of_label_lt _ _ _ there)

inductive Resolution (target : Target) : Except Error (Option (Loaded × Nat)) × Player → Prop where
  | refused (cause : Error) (after : Player) (lost : player.Unresolved target) (untouched : player.Untouched after) :
      Resolution target (.error cause, after)
  | lost (after : Player) (lost : player.Unresolved target) (untouched : player.Untouched after) :
      Resolution target (.ok none, after)
  | found (loaded : Loaded) (index : Nat) (after : Player) (resolved : ¬player.Unresolved target)
      (untouched : player.Untouched after) : Resolution target (.ok (some (loaded, index)), after)

theorem resolve_resolution (target : Target) : player.Resolution target (player.resolve target) := by
  have untouched := player.resolve_untouched target
  have decided := player.unresolved_iff target
  generalize player.resolve target = resolved at untouched decided ⊢
  obtain ⟨result, after⟩ := resolved
  cases result with
  | error cause => exact .refused cause after (decided.mpr fun ⟨_, same⟩ => by cases same) untouched
  | ok place =>
      cases place with
      | none => exact .lost after (decided.mpr fun ⟨_, same⟩ => by cases same) untouched
      | some place => exact .found place.1 place.2 after (fun lost => decided.mp lost ⟨place, rfl⟩) untouched

-- A jump or a call changes something exactly if its target resolves.
structure Touches (target : Target) (result : Except Error Unit × Player) : Prop where
  lost : ∀ cause, result.1 = .error cause → player.Unresolved target
  untouched : player.Unresolved target ↔ player.Untouched result.2

theorem lost_touches {target : Target} {after : Player} (lost : player.Unresolved target) (untouched : player.Untouched after)
    (result : Except Error Unit) : player.Touches target (result, after) :=
  ⟨fun _ _ => lost, iff_of_true lost untouched⟩

-- Whatever is left behind for the way back, the caret has moved.
theorem led_touches {target : Target} {after : Player} (resolved : ¬player.Unresolved target)
    (untouched : player.Untouched after) (returns : List Spot) (loaded : Loaded) (index : Nat) :
    player.Touches target (.ok (), ({ after with playback := { after.playback with returns := returns } }.moveCaret loaded index
      false).tell .stateChanged) := by
  have same : after.playback = player.playback := (congrArg Player.playback untouched.rest :)
  refine ⟨fun _ failed => (by cases failed), iff_of_false resolved (player.landed_touched _ loaded index false ?_)⟩
  rw [Landed, ← same]
  rfl

theorem jump_touches (target : Target) : player.Touches target (player.jump target) := by
  have resolution := player.resolve_resolution target
  unfold jump
  generalize player.resolve target = resolved at resolution
  cases resolution with
  | refused cause after lost untouched => exact player.lost_touches lost untouched (.error cause)
  | lost after lost untouched => exact player.lost_touches lost untouched (.ok ())
  | found loaded index after resolved untouched => exact player.led_touches resolved untouched after.playback.returns loaded index

theorem call_touches (target : Target) (spot : Spot) : player.Touches target (player.call target spot) := by
  have resolution := player.resolve_resolution target
  unfold call
  generalize player.resolve target = resolved at resolution
  cases resolution with
  | refused cause after lost untouched => exact player.lost_touches lost untouched (.error cause)
  | lost after lost untouched => exact player.lost_touches lost untouched (.ok ())
  | found loaded index after resolved untouched => exact player.led_touches resolved untouched _ loaded index

/-! ### Starting a script -/

theorem entry_untouched (script : String) (label : Option String) : player.Untouched (player.entry script label).2 := by
  unfold entry
  split
  · exact player.untouched_refl
  · next loaded library found => exact player.untouched_found script loaded library found

theorem play_touches (script : String) (label : Option String) :
    (∃ cause, (player.play script label).1 = .error cause) ↔ player.Untouched (player.play script label).2 := by
  have untouched := player.entry_untouched script label
  cases entered : player.entry script label with
  | mk result between =>
      rw [entered] at untouched
      cases result with
      | error cause =>
          simp only [play, entered]
          exact iff_of_true ⟨cause, rfl⟩ untouched
      | ok place =>
          obtain ⟨loaded, index⟩ := place
          obtain ⟨⟨_, _, _, bound⟩, _⟩ := player.entry_admits script label loaded index (by rw [entered])
          obtain ⟨command, there⟩ : ∃ command, loaded.playlist.command? index = some command :=
            ⟨_, Array.getElem?_eq_getElem bound⟩
          refine iff_of_false ?_ (player.landed_touched _ loaded index false ?_)
          · rintro ⟨cause, failed⟩
            simp only [play, entered] at failed
            rw [start_done _ command.spot] at failed
            · cases failed
            · exact congrArg (Option.map Command.spot) there
          · have same : between.playback = player.playback := (congrArg Player.playback untouched.rest :)
            have epoch : (between.stop.clearVisits loaded).playback.epoch = player.playback.epoch := by
              rw [← same]
              exact congrArg Caret.epoch ((Edit.stop between .requested (by decide)).within.caret rfl)
            simp only [play, entered]
            rw [Landed, (Edit.start _).within.caret rfl, ← epoch]
            rfl

end Refusal

end Player

namespace World

theorem take_over_refused {world : World} (numbered : world.Numbered) (move : Move) (activity : Activity)
    (mover : world.mover? move = some activity) (ready : Player) (save : Save) (rollback : Bool)
    (gives : activity.step? world.player = some (ready.giveUp (.load save rollback)))
    (idle : ready.executing.drained none = true) (cause : Error)
    (failed : (world.move move).replies? move = some (.failed cause)) :
    (∃ spot, save.spot = some spot ∧ ready.library.Displaced spot cause) ∧
      ∃ stage, (ready.stopped stage).Untouched (world.after [move, move]).player := by
  obtain ⟨stage, reply, last, player⟩ := give_up_moves numbered move activity mover ready (.load save rollback) gives idle
  rw [reply, Option.some_inj, Player.replace_failed] at failed
  have restored : (ready.stopped stage).restore save = (.error cause, ((ready.stopped stage).restore save).2) :=
    Prod.ext failed rfl
  obtain ⟨spot, somewhere, refused⟩ := (ready.stopped stage).restore_refused save cause _ restored
  obtain ⟨displaced, looked⟩ := (ready.stopped stage).place_displaced spot cause _ refused
  refine ⟨⟨spot, somewhere, displaced⟩, last, ?_⟩
  rw [player, Player.replace_load]
  rcases looked with same | ⟨loaded, library, found, same⟩
  · rw [same]
    exact ⟨rfl, .inl rfl⟩
  · rw [same]
    exact ⟨rfl, .inr ⟨spot.script, loaded, found⟩⟩

-- A start that is refused, and a jump or a call that is refused or leads nowhere, leave no trace. A load that is refused with
-- nothing in flight has only stopped playback.
theorem refusals_leave_no_trace (world : World) (numbered : world.Numbered) :
    (∀ script label, (∃ cause, (world.player.play script label).1 = .error cause) ↔
      world.player.Untouched (world.player.play script label).2) ∧
    (∀ target, world.player.Touches target (world.player.jump target)) ∧
    (∀ target spot, world.player.Touches target (world.player.call target spot)) ∧
    (∀ move save cause, world.player.executing.drained none = true → world.mover? move = some (.asked (.load save)) →
      (world.move move).replies? move = some (.failed cause) →
        (∃ spot, save.spot = some spot ∧ world.player.library.Displaced spot cause) ∧
        ∃ stage, (world.player.stopped stage).Untouched (world.after [move, move]).player) := by
  refine ⟨world.player.play_touches, world.player.jump_touches, world.player.call_touches, ?_⟩
  intro move save cause idle mover failed
  exact take_over_refused numbered move _ mover world.player save false rfl idle cause failed

-- Input is awaited in front of a delay block with a label in it, and a save of somewhere else is to be loaded.
def thicket : World := (stocked
  [⟨"road", [{ line := 0, command := "wait_input" },
    { line := 1, command := "delay", parameters := [("millis", .integer 10)] },
    { line := 2, indent := 1, command := "label", parameters := [("name", .text "den")] }, { line := 3, command := "stop" }]⟩]).after
  ([.ask (.play "road" none), .front, .leave] ++ List.replicate 6 (.thread 0) ++
    [.ask (.load { playing := true, spot := some ⟨"road", 7, 0⟩ })])

theorem thicket_left_alone :
    thicket.player.playback.playing = true ∧
      thicket.player.Untouched (thicket.player.play "wood" none).2 ∧
      thicket.player.Untouched (thicket.player.jump ⟨none, some "den"⟩).2 ∧
      thicket.player.Untouched (thicket.player.call ⟨some "wood", none⟩ ⟨"road", 0, 0⟩).2 ∧
      ∃ stage, (thicket.player.stopped stage).Untouched (thicket.after [.front, .front]).player := by
  have numbered : thicket.Numbered := after_numbered _ (numbered_new _ rfl) _
  obtain ⟨plays, jumps, calls, loads⟩ := refusals_leave_no_trace thicket numbered
  have unknown : (thicket.player.play "wood" none).1 = .error (.script (.notFound "wood")) := by decide +kernel
  have inside : (thicket.player.jump ⟨none, some "den"⟩).1 = .error (.structural (.deferredNavigation ⟨"road", 2, 0⟩)) := by
    decide +kernel
  have lost : thicket.player.Unresolved ⟨some "wood", none⟩ := .script "wood" rfl (.script (.notFound "wood")) rfl
  have refused : (thicket.move .front).replies? .front = some (.failed (.script (.spotNotFound ⟨"road", 7, 0⟩))) := by
    decide +kernel
  exact ⟨by decide +kernel, (plays _ _).mp ⟨_, unknown⟩, (jumps _).untouched.mp ((jumps _).lost _ inside),
    (calls _ _).untouched.mp lost, (loads .front _ _ (by decide +kernel) rfl refused).2⟩

end World

end Storyline
