import Storyline.Proofs.Refusal

set_option autoImplicit false

/-!
The calls that have not returned. A move makes a call, comes back from one, or puts other calls in their place; everything
else leaves them as they are.
-/

namespace Storyline

namespace Library

theorem Has.addressed {library : Library} {loaded : Loaded} (has : library.Has loaded) (addressed : library.Addressed) :
    loaded.playlist.Addressed :=
  addressed.stored loaded (List.mem_of_find?_eq_some has)

theorem Has.finds {library : Library} {loaded : Loaded} (has : library.Has loaded) (addressed : library.Addressed)
    (index : Nat) (command : Command) (there : loaded.playlist.command? index = some command) :
    library.require command.spot.script = .ok (loaded, library) ∧ loaded.playlist.indexOf? command.spot = some index := by
  have own := has.addressed addressed
  obtain ⟨bound, here⟩ := Array.getElem?_eq_some_iff.mp there
  have script : command.spot.script = loaded.playlist.script :=
    own.named command (here ▸ Array.getElem_mem_toList bound)
  refine ⟨?_, own.index_of_spot index command there⟩
  rw [require, script, show library.get? loaded.playlist.script = some loaded from has]

end Library

namespace Player

section Returns

variable (player : Player)

theorem untouched_returns {before after : Player} (untouched : before.Untouched after) :
    after.playback.returns = before.playback.returns :=
  (congrArg (fun player => player.playback.returns) untouched.rest :)

theorem call_returns (target : Target) (spot : Spot) :
    (player.Unresolved target → (player.call target spot).2.playback.returns = player.playback.returns) ∧
    (¬player.Unresolved target → (player.call target spot).2.playback.returns = player.playback.returns ++ [spot]) := by
  have resolution := player.resolve_resolution target
  unfold call
  generalize player.resolve target = resolved at resolution
  cases resolution with
  | refused cause after lost untouched =>
      exact ⟨fun _ => untouched_returns untouched, fun resolved => absurd lost resolved⟩
  | lost after lost untouched => exact ⟨fun _ => untouched_returns untouched, fun resolved => absurd lost resolved⟩
  | found loaded index after resolved untouched =>
      refine ⟨fun lost => absurd lost resolved, fun _ => ?_⟩
      rw [← untouched_returns untouched]
      rfl

theorem go_back_returns : player.goBack.playback.returns = player.playback.returns.dropLast := by
  unfold goBack
  split
  · next nothing =>
      rw [List.getLast?_eq_none_iff.mp nothing]
      exact List.getLast?_eq_none_iff.mp nothing
  · simp only
    split
    · rfl
    · split <;> rfl

theorem play_returns (script : String) (label : Option String) :
    (player.play script label).2.playback.returns = player.playback.returns ∨
      (player.play script label).2.playback.returns = [] := by
  have same := untouched_returns (player.entry_untouched script label)
  unfold play
  split
  · next found =>
      rw [found] at same
      exact .inl same
  · exact .inr ((Edit.start _).within.returns rfl)

theorem adopt_returns (save : Save) : (player.adopt save).2.playback.returns = save.returns := by
  obtain ⟨events, outbox, same⟩ := player.adopt_eq save
  rw [same]
  simp only
  split
  · exact (Edit.start _).within.returns rfl
  · rfl

theorem restore_returns (save : Save) : (player.restore save).2.playback.returns = player.playback.returns ∨
    (player.restore save).2.playback.returns = save.returns := by
  unfold restore
  split
  · exact .inr (adopt_returns _ save)
  · next spot _ =>
      have placed : Within {} player (player.place spot).2 := (place_edits player spot).within rfl
      split
      · next found => rw [found] at placed; exact .inl (placed.returns rfl)
      · exact .inr (adopt_returns _ save)

theorem clear_returns : player.clear.playback.returns = [] := by
  have lowered : Within {} { player with playback := player.playback.clear } _ :=
    (clear_all_visits_edits _ player.library.scripts).within rfl
  exact lowered.returns rfl

end Returns

end Player

/-! ### What a move does to the calls -/

def Effect.call? : Effect → Option Target
  | .call target => some target
  | _ => none

-- The call that the next move makes, with the spot to come back to.
def Activity.calls? : Activity → Option (Target × Spot)
  | .asked (.call target spot) => some (target, spot)
  | .running execution _ => (execution.next?.bind Effect.call?).map fun target => (target, execution.command.spot)
  | _ => none

-- The calls that the next move may put in place of those that there are.
def Activity.stack? : Activity → Option (List Spot)
  | .asked (.play ..) | .draining .reset => some []
  | .draining (.load save _) => some save.returns
  | _ => none

-- Only a save has calls to put in place of others.
theorem Activity.stack_saved (activity : Activity) (stack : List Spot) (replaces : activity.stack? = some stack)
    (filled : stack ≠ []) : ∃ save rollback, activity = .draining (.load save rollback) ∧ save.returns = stack := by
  unfold stack? at replaces
  split at replaces
  · exact absurd (Option.some.inj replaces).symm filled
  · exact absurd (Option.some.inj replaces).symm filled
  · next save rollback => exact ⟨save, rollback, rfl, Option.some.inj replaces⟩
  · cases replaces

structure Stacks (activity : Activity) (before after : Player) : Prop where
  calls : ∀ target spot, activity.calls? = some (target, spot) →
    (before.Unresolved target → after.playback.returns = before.playback.returns) ∧
      (¬before.Unresolved target → after.playback.returns = before.playback.returns ++ [spot])
  back : activity.goesBack = true → after.playback.returns = before.playback.returns.dropLast
  stack : ∀ stack, activity.stack? = some stack →
    after.playback.returns = before.playback.returns ∨ after.playback.returns = stack
  rest : activity.calls? = none → activity.goesBack = false → activity.stack? = none →
    after.playback.returns = before.playback.returns

theorem Stacks.of_same {activity : Activity} {before after : Player}
    (same : after.playback.returns = before.playback.returns) (quiet : activity.calls? = none)
    (onward : activity.goesBack = false) : Stacks activity before after where
  calls target spot calls := by cases quiet.symm.trans calls
  back back := by cases onward.symm.trans back
  stack _ _ := .inl same
  rest _ _ _ := same

theorem running_moves (execution : Execution) (caller : Caller) (player : Player) (moved : Activity × Player)
    (step : (Activity.running execution caller).step? player = some moved) :
    ∃ progress between, execution.step? player = some (progress, between) ∧
      moved.2.playback.returns = between.playback.returns := by
  obtain ⟨⟨progress, between⟩, stepped, came⟩ := Option.map_eq_some_iff.mp step
  refine ⟨progress, between, stepped, ?_⟩
  cases progress with
  | going next =>
      obtain rfl := came
      rfl
  | ended result =>
      obtain rfl := came
      have finished : (between.finish execution result).2.playback.returns = between.playback.returns :=
        ((Player.finish_edits between execution result).within rfl : Within {} _ _).returns rfl
      cases caller with
      | nobody => exact finished
      | run run => exact (((Player.resume_caller_edits _ (.run run) _).within rfl : Within {} _ _).returns rfl).trans finished
      | pilot pilot epoch => exact ((Player.resume_caller_edits _ (.pilot pilot epoch) _).kept.returns rfl).trans finished

theorem running_stacks (execution : Execution) (caller : Caller) (player : Player) (moved : Activity × Player)
    (step : (Activity.running execution caller).step? player = some moved) :
    Stacks (.running execution caller) player moved.2 := by
  obtain ⟨progress, between, stepped, same⟩ := running_moves execution caller player moved step
  rcases execution.step_cases player progress between stepped with ⟨effect, rest, next, performed⟩ | ⟨idle, within⟩
  · have comes : between = ({ execution with effects := rest }.perform effect player).2 := (congrArg Prod.snd performed).symm
    have calls : (Activity.running execution caller).calls? =
        effect.call?.map fun target => (target, execution.command.spot) := by
      rw [Activity.calls?, next, Option.bind_some]
    have back : (Activity.running execution caller).goesBack = effect.goesBack := by
      rw [Activity.goesBack, next, Option.any_some]
    have plain (still : effect.footprint.returns = false) (quiet : effect.call? = none) (onward : effect.goesBack = false) :
        Stacks (.running execution caller) player moved.2 := by
      have kept := (Execution.perform_within { execution with effects := rest } effect player).returns still
      rw [← comes] at kept
      exact .of_same (same.trans kept) (by rw [calls, quiet]; rfl) (back.trans onward)
    cases effect with
    | call target =>
        have leaps : between = (player.call target execution.command.spot).2 := by
          rw [comes, Execution.perform, Execution.unless_failed_player]
        obtain ⟨lost, pushes⟩ := player.call_returns target execution.command.spot
        rw [← leaps] at lost pushes
        refine ⟨fun other spot own => ?_, fun goes => ?_, fun _ own => ?_, fun quiet => ?_⟩
        · obtain ⟨rfl, rfl⟩ := Prod.mk.inj (Option.some.inj (calls.symm.trans own))
          exact ⟨fun unresolved => same.trans (lost unresolved), fun resolved => same.trans (pushes resolved)⟩
        · cases back.symm.trans goes
        · cases own
        · cases calls.symm.trans quiet
    | goBack =>
        have popped := player.go_back_returns
        rw [← show between = player.goBack from comes] at popped
        refine ⟨fun other spot own => ?_, fun _ => same.trans popped, fun _ own => ?_, fun _ onward => ?_⟩
        · cases calls.symm.trans own
        · cases own
        · cases back.symm.trans onward
    | _ => exact plain rfl rfl rfl
  · exact .of_same (same.trans ((within {}).returns rfl)) (by rw [Activity.calls?, idle]; rfl)
      (by rw [Activity.goesBack, idle]; rfl)

theorem step_stacks {activity : Activity} {player : Player} {moved : Activity × Player}
    (step : activity.step? player = some moved) : Stacks activity player moved.2 := by
  have within := activity.step_within player moved step
  cases activity with
  | asked request =>
      obtain rfl := Option.some.inj step
      cases request with
      | play script label =>
          simp only [Player.ask, Player.answer_player]
          exact
            { calls := fun _ _ calls => by cases calls
              back := fun back => by cases back
              stack := fun _ own => Option.some.inj own ▸ player.play_returns script label
              rest := fun _ _ other => by cases other }
      | call target spot =>
          simp only [Player.ask, Player.answer_player]
          refine
            { calls := fun other own calls => ?_
              back := fun back => by cases back
              stack := fun _ own => by cases own
              rest := fun quiet => by cases quiet }
          obtain ⟨rfl, rfl⟩ := Prod.mk.inj (Option.some.inj calls)
          exact player.call_returns target spot
      | goBack =>
          exact
            { calls := fun _ _ calls => by cases calls
              back := fun _ => player.go_back_returns
              stack := fun _ own => by cases own
              rest := fun _ onward => by cases onward }
      | _ => exact .of_same (within.returns rfl) rfl rfl
  | running execution caller => exact running_stacks execution caller player moved step
  | draining replacement =>
      obtain rfl := Activity.draining_step step
      refine
        { calls := fun _ _ calls => by cases calls
          back := fun back => by cases back
          stack := fun stack own => ?_
          rest := fun _ _ other => by cases replacement <;> cases other }
      cases replacement with
      | reset => exact .inr (Option.some.inj own ▸ player.clear_returns)
      | load save rollback =>
          rw [player.replace_load save rollback]
          exact Option.some.inj own ▸ player.restore_returns save
  | steering pilot => cases pilot <;> exact .of_same (within.returns rfl) rfl rfl
  | _ => exact .of_same (within.returns rfl) rfl rfl

namespace World

theorem shelved_append (world : World) (first second : List Move) :
    world.Shelved (first ++ second) ↔ world.Shelved first ∧ (world.after first).Shelved second := by
  induction first generalizing world with
  | nil => exact ⟨fun shelved => ⟨trivial, shelved⟩, fun shelved => shelved.2⟩
  | cons move moves ih =>
      rw [List.cons_append, Shelved, Shelved, ih, and_assoc]
      rfl

theorem move_grows (world : World) (numbered : world.Numbered) (move : Move)
    (keeps : ∀ activity ∈ world.mover? move, activity.inserts = false) (addressed : world.player.library.Addressed) :
    (world.move move).player.library.Addressed ∧ world.player.library.Grows (world.move move).player.library := by
  cases (move_comes world numbered move).1 with
  | stays clock requests player =>
      rw [player]
      exact ⟨addressed, fun _ => id⟩
  | moves activity successor others player stage mover _ _ step told _ =>
      rw [told]
      exact (step_reads step (keeps activity mover)).grows addressed

theorem grows_after (world : World) (numbered : world.Numbered) (addressed : world.player.library.Addressed)
    (moves : List Move) (shelved : world.Shelved moves) :
    (world.after moves).player.library.Addressed ∧ world.player.library.Grows (world.after moves).player.library := by
  induction moves generalizing world with
  | nil => exact ⟨addressed, fun _ => id⟩
  | cons move moves ih =>
      obtain ⟨kept, grows⟩ := move_grows world numbered move shelved.1 addressed
      obtain ⟨last, more⟩ := ih (world.move move) (move_comes world numbered move).2 kept shelved.2
      exact ⟨last, fun loaded has => more loaded (grows loaded has)⟩

theorem unplaced_anchored (start : World) (numbered : start.Numbered) (addressed : start.player.library.Addressed)
    (nowhere : start.player.playback.loaded = none) (moves : List Move) (shelved : start.Shelved moves) :
    (start.after moves).player.Anchored :=
  anchored_after start numbered moves shelved ⟨addressed, fun _ there => by rw [nowhere] at there; cases there⟩

end World

end Storyline
