import Storyline.Player.Step

set_option autoImplicit false

/-!
What an effect comes to. The command is over, goes on with something more to do before the rest, or waits; so a command that
goes on has begun, has woken, or has done the first of its effects.
-/

namespace Storyline

namespace Effect

-- What an effect may put before what is left to do.
def pushes : Effect → List (List Effect)
  | .barrier => [[], [.awaitOthers]]
  | .awaitOthers => [[], [.completeOthers]]
  | .transition millis => [[], [.completeOthers, .blend millis true], [.capture, .cover], [.capture, .blend millis false]]
  | _ => [[]]

-- Whether a command may have to wait after it.
def pauses : Effect → Bool
  | .say _ | .rest _ | .sleep .. | .pause _ | .capture | .blend .. | .awaitOthers | .completeOthers | .waitOthers => true
  | _ => false

theorem nil_mem_pushes (effect : Effect) : [] ∈ effect.pushes := by
  cases effect <;> exact List.mem_cons_self

end Effect

namespace Execution

-- The command as it was launched.
def origin (execution : Execution) : Execution := { execution with begun := false, effects := [], wait := none }

theorem origin_same {execution next : Execution} (same : next.origin = execution.origin) :
    next.id = execution.id ∧ next.command = execution.command ∧ next.lane = execution.lane ∧ next.token = execution.token :=
  ⟨(congrArg Execution.id same :), (congrArg Execution.command same :), (congrArg Execution.lane same :),
    (congrArg Execution.token same :)⟩

def todo (execution : Execution) : List Effect :=
  if execution.begun then execution.effects else execution.command.kind.effects

theorem unless_failed_going (execution next : Execution) (changed : Except Error Unit × Player)
    (going : (execution.unlessFailed changed).1 = .going next) : next = execution := by
  obtain ⟨_ | _, _⟩ := changed
  · cases going
  · exact (Progress.going.inj going).symm

-- What an effect comes to: the command is over, goes on with more to do before the rest, or waits.
inductive Performs (execution : Execution) (effect : Effect) : Progress → Prop where
  | ended (result : Except Error Unit) : Performs execution effect (.ended result)
  | pushes (extra : List Effect) (pushed : extra ∈ effect.pushes) : Performs execution effect (.going (execution.push extra))
  | awaits (wait : Wait) (pauses : effect.pauses = true)
      (meets : ∀ role, wait = .rendezvous role → effect = .completeOthers) :
      Performs execution effect (.going { execution with wait := some wait })

theorem perform_performs (execution : Execution) (effect : Effect) (player : Player) :
    execution.Performs effect (execution.perform effect player).1 := by
  have proceeds : execution.Performs effect (.going execution) := .pushes [] effect.nil_mem_pushes
  have awaits (wait : Wait) (pauses : effect.pauses = true) (apart : ∀ role, wait ≠ .rendezvous role) :
      execution.Performs effect (.going { execution with wait := some wait }) :=
    .awaits wait pauses fun role same => absurd same (apart role)
  have plays (cue : Cue) (token : Token) (pauses : effect.pauses = true) :
      execution.Performs effect (execution.play cue token player).1 := by
    unfold play
    split
    · exact .ended _
    · exact awaits _ pauses (by simp)
    · exact proceeds
  have unlessFailed (changed : Except Error Unit × Player) :
      execution.Performs effect (execution.unlessFailed changed).1 := by
    obtain ⟨_ | _, _⟩ := changed
    · exact .ended _
    · exact proceeds
  cases effect with
  | assign name op value =>
      simp only [perform]
      split
      · exact proceeds
      · exact .ended _
  | say line => exact plays _ _ rfl
  | blend millis fresh => exact plays _ _ rfl
  | jump target => exact unlessFailed _
  | call target => exact unlessFailed _
  | rest millis =>
      simp only [perform]
      split
      · exact proceeds
      · exact awaits _ rfl (by simp)
  | sleep _ _ | pause _ | waitOthers => exact awaits _ rfl (by simp)
  | schedule millis =>
      simp only [perform]
      split
      · exact .ended _
      · exact proceeds
  | barrier =>
      simp only [perform]
      split
      · exact .pushes [.awaitOthers] (by simp [Effect.pushes])
      · exact proceeds
  | awaitOthers =>
      simp only [perform]
      split
      · exact proceeds
      · split
        · exact .pushes [.completeOthers] (by simp [Effect.pushes])
        · exact awaits _ rfl (by simp)
  | completeOthers => exact .awaits _ rfl fun _ _ => rfl
  | transition millis =>
      simp only [perform]
      split
      · exact .pushes [.completeOthers, .blend millis true] (by simp [Effect.pushes])
      · split
        · exact .pushes [.capture, .cover] (by simp [Effect.pushes])
        · exact .pushes [.capture, .blend millis false] (by simp [Effect.pushes])
  | capture =>
      simp only [perform]
      split
      · exact .ended _
      · exact awaits _ rfl (by simp)
      · exact proceeds
  | fail cause => exact .ended _
  | _ => exact proceeds

theorem perform_going {execution next : Execution} {effect : Effect} {player : Player}
    (going : (execution.perform effect player).1 = .going next) :
    next.origin = execution.origin ∧ next.begun = execution.begun ∧ (effect.pauses = false → next.wait = execution.wait) ∧
      ∃ extra ∈ effect.pushes, next.effects = extra ++ execution.effects := by
  have performs := execution.perform_performs effect player
  rw [going] at performs
  cases performs with
  | pushes extra pushed => exact ⟨rfl, rfl, fun _ => rfl, extra, pushed, rfl⟩
  | awaits _ pauses => exact ⟨rfl, rfl, fun brief => absurd (brief.symm.trans pauses) Bool.false_ne_true, [], effect.nil_mem_pushes, rfl⟩

-- A command goes on: it wakes or begins, or has done the first of its effects.
theorem step_going (execution next : Execution) (player after : Player)
    (step : execution.step? player = some (.going next, after)) :
    next.origin = execution.origin ∧
      ((next.todo = execution.todo ∧ (execution.wait = none → next.wait = none)) ∨
        ∃ effect rest, execution.todo = effect :: rest ∧ (effect.pauses = false → next.wait = none) ∧
          ∃ extra ∈ effect.pushes, next.todo = extra ++ rest) := by
  unfold step? at step
  cases wait : execution.wait with
  | some waited =>
      simp only [wait] at step
      obtain ⟨woken, _, moved⟩ := Option.map_eq_some_iff.mp step
      obtain rfl := unless_failed_going _ next woken (congrArg Prod.fst moved)
      exact ⟨rfl, .inl ⟨rfl, nofun⟩⟩
  | none =>
      simp only [wait] at step
      cases begun : execution.begun with
      | false =>
          simp only [begun, Bool.false_eq_true, if_false] at step
          split at step
          · cases step
          · obtain rfl := Progress.going.inj (congrArg Prod.fst (Option.some.inj step))
            exact ⟨rfl, .inl ⟨by simp [todo, begun], fun _ => rfl⟩⟩
      | true =>
          simp only [begun, if_true] at step
          cases effects : execution.effects with
          | nil => simp [effects] at step
          | cons effect rest =>
              simp only [effects, Option.some.injEq] at step
              obtain ⟨origin, began, brief, extra, pushed, more⟩ := perform_going (congrArg Prod.fst step)
              refine ⟨origin, .inr ⟨effect, rest, by simp [todo, begun, effects], brief, extra, pushed, ?_⟩⟩
              rw [todo, if_pos (began.trans rfl), more]

end Execution

end Storyline
