import Storyline.Proofs.Edits

set_option autoImplicit false

/-!
The edits that commands are made of. What an effect may edit is told by its facets, and a command edits at each step what its
next effect does.
-/

namespace Storyline

/-! ### Effects -/

def Effect.facets : Effect → List Facet
  | .assign .. => [.store]
  | .askInput | .setWaiting _ => [.permission, .mode]
  | .jump _ => [.library, .caret]
  | .call _ | .goBack => [.library, .caret, .returns]
  | .halt => [.stop]
  | .schedule _ => [.library, .playlists]
  | .completeOthers => [.rendezvous, .parking]
  | .transition _ | .cover => [.mask]
  | .setSkip .. => [.permission, .mode, .skip]
  | .setAuto _ => [.mode]
  | _ => []

def Wait.facets : Wait → List Facet
  | .rendezvous _ => [.rendezvous, .parking]
  | _ => []

namespace Execution

variable (execution : Execution)

theorem play_edits (cue : Cue) (token : Token) (player : Player) :
    Edits [] player (execution.play cue token player).2 := by
  have opened := player.notes_edits cue.opening
  unfold play
  split
  · exact opened
  · exact opened
  · exact opened.trans (Player.notes_edits _ _)

theorem unless_failed_player (changed : Except Error Unit × Player) :
    (execution.unlessFailed changed).2 = changed.2 := by
  unfold unlessFailed
  split <;> rfl

theorem mask_edits (value : Bool) (player : Player) : Edits [.mask] player (execution.mask value player) := by
  unfold mask
  split
  · exact (Edit.mask player value).edits rfl
  · exact .refl

theorem perform_capture (player : Player) :
    (execution.perform .capture player).2 = player.notes player.presenter.capture.opening := by
  simp only [perform]
  split <;> rfl

-- A capture fails or goes on to the rest, perhaps after a pause.
theorem capture_comes (player : Player) (awake : execution.wait = none) :
    (∃ cause, player.presenter.capture.failure = some cause ∧
      (execution.perform .capture player).1 = .ended (.error cause)) ∨
    player.presenter.capture.failure = none ∧ ∃ wait : Option Wait,
      (∀ own, wait = some own → ∃ deadline, own = .pause deadline) ∧
      (execution.perform .capture player).1 = .going { execution with wait := wait } := by
  simp only [perform]
  split
  · next cause failure => exact .inl ⟨cause, failure, rfl⟩
  · next millis films _ => exact .inr ⟨films, some _, fun _ waits => ⟨_, (Option.some.inj waits).symm⟩, rfl⟩
  · next films _ =>
      refine .inr ⟨films, none, fun _ waits => ?_, ?_⟩
      · cases waits
      · rw [proceed, ← awake]

theorem perform_edits (effect : Effect) (player : Player) :
    Edits effect.facets player (execution.perform effect player).2 := by
  cases effect with
  | assign name op value =>
      simp only [perform]
      split
      · exact (Edit.store player _).edits rfl
      · exact .refl
  | say line => exact play_edits _ _ _ _
  | askInput =>
      simp only [perform, proceed]
      split
      · exact Player.set_waiting_edits _ _
      · exact .refl
  | rest millis =>
      simp only [perform]
      split <;> exact .refl
  | jump target =>
      simp only [perform, unless_failed_player]
      exact player.jump_edits target
  | call target =>
      simp only [perform, unless_failed_player]
      exact player.call_edits target _
  | goBack => exact player.go_back_edits
  | halt => exact player.stop_edit.edits rfl
  | schedule millis =>
      simp only [perform]
      split
      · exact .refl
      · exact player.schedule_edits _ _
  | barrier =>
      simp only [perform]
      split <;> exact .refl
  | awaitOthers =>
      simp only [perform]
      split
      · exact .refl
      · split <;> exact .refl
  | completeOthers =>
      simp only [perform, await]
      exact player.enter_rendezvous_edits none (some execution.id)
  | transition millis =>
      simp only [perform]
      split
      · exact mask_edits execution false player
      · split <;> exact .refl
  | capture =>
      rw [perform_capture]
      exact player.notes_edits _
  | cover => exact mask_edits execution true player
  | blend millis fresh => exact play_edits _ _ _ _
  | note line => exact (Edit.aside player _ _ _ _).edits rfl
  | setSkip enabled report => exact (player.set_skip_edits enabled).and (.aside _ _ _ _ _) rfl
  | setAuto enabled => exact (player.set_auto_play_edit enabled).edits rfl
  | setWaiting waiting => exact player.set_waiting_edits waiting
  | sleep _ _ | pause _ | waitOthers | fail _ => exact .refl

-- What a command does to the player when its wait is over: nothing, its closing lines, a warning, or it leaves the rendezvous.
inductive Wakes (execution : Execution) (wait : Wait) (player after : Player) : Prop where
  | still (same : after = player)
  | closes (lines : List String) (same : after = player.notes lines)
  | warns (message : String) (same : after = player.warn message)
  | leaves (role : Role) (waits : wait = .rendezvous role) (left : player.leaveRendezvous? role (some execution.id) = some after)

theorem wake_cases (wait : Wait) (player : Player) (woken : Except Error Unit × Player)
    (wakes : execution.wake? wait player = some woken) : Wakes execution wait player woken.2 := by
  cases wait with
  | sleep token what deadline closing =>
      simp only [wake?] at wakes
      split at wakes
      · cases wakes
      · exact Option.some.inj wakes ▸ .still rfl
      · exact Option.some.inj wakes ▸ .closes closing rfl
  | barrier token =>
      simp only [wake?] at wakes
      split at wakes
      · cases wakes
      · exact Option.some.inj wakes ▸ .still rfl
      · exact Option.some.inj wakes ▸ .still rfl
      · exact Option.some.inj wakes ▸ .warns _ rfl
  | rendezvous role =>
      obtain ⟨left, leaves, rfl⟩ := Option.map_eq_some_iff.mp wakes
      exact .leaves role rfl leaves
  | _ =>
      simp only [wake?] at wakes
      split at wakes
      · exact Option.some.inj wakes ▸ .still rfl
      · cases wakes

theorem wake_edits (wait : Wait) (player : Player) (woken : Except Error Unit × Player)
    (wakes : execution.wake? wait player = some woken) : Edits wait.facets player woken.2 := by
  cases execution.wake_cases wait player woken wakes with
  | still same => exact same ▸ .refl
  | closes lines same => exact same ▸ (player.notes_edits lines).wider rfl
  | warns message same => exact same ▸ (Edit.aside player _ _ _ _).edits rfl
  | leaves role waits left => exact waits ▸ player.leave_rendezvous_edits role _ _ left

-- The effect that a command in flight is about to do; nothing if it wakes, begins or ends.
def next? (execution : Execution) : Option Effect :=
  if execution.wait.isNone && execution.begun then execution.effects.head? else none

theorem step_opens (player : Player) (progress : Progress) (after : Player)
    (step : execution.step? player = some (progress, after)) :
    (∃ wait woken, execution.wait = some wait ∧ execution.wake? wait player = some woken ∧
      { execution with wait := none }.unlessFailed woken = (progress, after)) ∨
    (execution.wait = none ∧ execution.next? = none ∧ after = player ∧
      ∀ next, progress = .going next → next.id = execution.id ∧ next.wait = none) ∨
    (execution.wait = none ∧ ∃ effect rest, execution.next? = some effect ∧
      { execution with effects := rest }.perform effect player = (progress, after)) := by
  unfold step? at step
  cases wait : execution.wait with
  | some waited =>
      simp only [wait] at step
      obtain ⟨woken, wakes, moved⟩ := Option.map_eq_some_iff.mp step
      exact .inl ⟨waited, woken, rfl, wakes, moved⟩
  | none =>
      simp only [wait] at step
      cases begun : execution.begun with
      | true =>
          simp only [begun, if_true] at step
          cases effects : execution.effects with
          | nil =>
              simp only [effects, Option.some.injEq, Prod.mk.injEq] at step
              exact .inr (.inl ⟨rfl, by simp [next?, effects], step.2.symm, fun _ going => by cases step.1.trans going⟩)
          | cons effect rest =>
              simp only [effects, Option.some.injEq] at step
              exact .inr (.inr ⟨rfl, effect, rest, by simp [next?, wait, begun, effects], step⟩)
      | false =>
          simp only [begun, Bool.false_eq_true, if_false] at step
          refine .inr (.inl ⟨rfl, by simp [next?, begun], ?_⟩)
          split at step
          · obtain ⟨rfl, rfl⟩ := Prod.mk.inj (Option.some.inj step)
            exact ⟨rfl, fun _ going => by cases going⟩
          · obtain ⟨rfl, rfl⟩ := Prod.mk.inj (Option.some.inj step)
            refine ⟨rfl, fun next going => ?_⟩
            obtain rfl := Progress.going.inj going
            exact ⟨rfl, rfl⟩

def facets (execution : Execution) : List Facet :=
  (execution.wait.map Wait.facets).getD ((execution.next?.map Effect.facets).getD [])

theorem facets_all (allowed : Facet → Bool) (waits : ∀ wait : Wait, wait.facets.all allowed = true)
    (effects : ∀ effect, execution.next? = some effect → effect.facets.all allowed = true) :
    execution.facets.all allowed = true := by
  unfold facets
  cases execution.wait with
  | some wait => exact waits wait
  | none =>
      cases next : execution.next? with
      | none => rfl
      | some effect => exact effects effect next

theorem step_edits (player : Player) (progress : Progress) (after : Player)
    (step : execution.step? player = some (progress, after)) : Edits execution.facets player after := by
  rcases step_opens execution player progress after step with
    ⟨wait, woken, waits, wakes, moved⟩ | ⟨_, _, same, _⟩ | ⟨awake, effect, rest, next, moved⟩
  · have same : woken.2 = after := by rw [← unless_failed_player, moved]
    rw [facets, waits]
    exact same ▸ wake_edits execution wait player woken wakes
  · exact same ▸ .refl
  · have done := perform_edits { execution with effects := rest } effect player
    rw [moved] at done
    rw [facets, awake, next]
    exact done

end Execution

end Storyline
