import Storyline.Proofs.MoveEdits

set_option autoImplicit false

/-!
What the operations of a player leave alone: the caret, whether it plays, who pilots it, whether it skips, what was played,
and which commands were started. An operation stays within its footprint, which is that of the edits it is made of.
-/

namespace Storyline

-- Where the caret is and what became of the command under it.
structure Caret where
  loaded : Option Loaded
  index : Nat
  executed : Bool
  guardPassed : Bool
  epoch : Nat

def Playback.caret (playback : Playback) : Caret where
  loaded := playback.loaded
  index := playback.index
  executed := playback.executed
  guardPassed := playback.guardPassed
  epoch := playback.epoch

def Notice.pilot? (notice : Notice) : Option Activity := notice.spawned?.filter fun activity => activity.pilot?.isSome

def Event.launched? : Event → Option (Spot × Lane)
  | .commandExecuting spot _ lane => some (spot, lane)
  | _ => none

namespace Player

-- Activities that the player has started and that are not under way yet, and the pilots among them, newest first.
def spawns (player : Player) : List Activity := player.outbox.reverse.filterMap Notice.spawned?

def crew (player : Player) : List Activity := player.outbox.filterMap Notice.pilot?

-- Commands that were started, newest first.
def launches (player : Player) : List (Spot × Lane) := player.events.filterMap Event.launched?

end Player

-- What an operation may change. Skipping may always be turned off; the footprint tells whether it may be turned on.
structure Footprint where
  caret : Bool := false
  playing : Bool := false
  pilots : Bool := false
  skip : Bool := false
  played : Bool := false
  launches : Bool := false
  returns : Bool := false

def Footprint.le (small large : Footprint) : Bool :=
  (!small.caret || large.caret) && (!small.playing || large.playing) && (!small.pilots || large.pilots) &&
    (!small.skip || large.skip) && (!small.played || large.played) && (!small.launches || large.launches) &&
    (!small.returns || large.returns)

structure Within (footprint : Footprint) (before after : Player) : Prop where
  caret : footprint.caret = false → after.playback.caret = before.playback.caret
  playing : footprint.playing = false → after.playback.playing = before.playback.playing
  pilots : footprint.pilots = false →
    after.playback.generation = before.playback.generation ∧ after.crew = before.crew
  skip : footprint.skip = false → after.playback.mode.skip = true → before.playback.mode.skip = true
  skipMode : after.playback.mode.skipMode = before.playback.mode.skipMode
  played : footprint.played = false → after.played = before.played
  launches : footprint.launches = false → after.launches = before.launches
  returns : footprint.returns = false → after.playback.returns = before.playback.returns

namespace Within

variable {footprint : Footprint} {before between after : Player}

theorem refl (player : Player) : Within footprint player player :=
  ⟨fun _ => rfl, fun _ => rfl, fun _ => ⟨rfl, rfl⟩, fun _ => id, rfl, fun _ => rfl, fun _ => rfl, fun _ => rfl⟩

theorem trans (first : Within footprint before between) (second : Within footprint between after) :
    Within footprint before after where
  caret still := (second.caret still).trans (first.caret still)
  playing still := (second.playing still).trans (first.playing still)
  pilots still := ⟨(second.pilots still).1.trans (first.pilots still).1, (second.pilots still).2.trans (first.pilots still).2⟩
  skip still skips := first.skip still (second.skip still skips)
  skipMode := second.skipMode.trans first.skipMode
  played still := (second.played still).trans (first.played still)
  launches still := (second.launches still).trans (first.launches still)
  returns still := (second.returns still).trans (first.returns still)

theorem beside (playback : after.playback = before.playback) (played : after.played = before.played)
    (crew : after.crew = before.crew) (launches : after.launches = before.launches) :
    Within footprint before after :=
  ⟨fun _ => by rw [playback], fun _ => by rw [playback], fun _ => ⟨by rw [playback], crew⟩, fun _ => by rw [playback]; exact id,
    by rw [playback], fun _ => played, fun _ => launches, fun _ => by rw [playback]⟩

theorem wider {small large : Footprint} (within : Within small before after) (le : small.le large = true) :
    Within large before after := by
  have narrow {one other : Bool} (below : (!one || other) = true) (still : other = false) : one = false := by
    simpa [still] using below
  simp only [Footprint.le, Bool.and_eq_true] at le
  obtain ⟨⟨⟨⟨⟨⟨caret, playing⟩, pilots⟩, skip⟩, played⟩, launches⟩, returns⟩ := le
  exact ⟨fun still => within.caret (narrow caret still), fun still => within.playing (narrow playing still),
    fun still => within.pilots (narrow pilots still), fun still => within.skip (narrow skip still), within.skipMode,
    fun still => within.played (narrow played still), fun still => within.launches (narrow launches still),
    fun still => within.returns (narrow returns still)⟩

end Within

/-! ### Edits -/

def Facet.footprint : Facet → Footprint
  | .skip => { skip := true }
  | .stop => { playing := true }
  | .loop => { playing := true, pilots := true }
  | .caret | .mark => { caret := true }
  | .played => { played := true }
  | .launch => { launches := true }
  | .returns => { returns := true }
  | .helm => { pilots := true }
  | .playback => { caret := true, playing := true, pilots := true, returns := true }
  | .everything => { caret := true, playing := true, pilots := true, played := true, returns := true }
  | _ => {}

namespace Player

variable {footprint : Footprint} (player : Player)

theorem publish_within (event : Event) (other : event.launched? = none) :
    Within footprint player (player.publish event) :=
  .beside rfl rfl rfl (by simp [launches, publish, other])

theorem tell_within (notice : Notice) (nobody : notice.pilot? = none) : Within footprint player (player.tell notice) :=
  .beside rfl rfl (by simp [crew, tell, nobody]) rfl

theorem logged_within (level : LogLevel) (text : String) : Within footprint player (player.logged level text) :=
  .beside rfl rfl rfl rfl

theorem with_mode_crew (changed : ModeChange × Mode) : (player.withMode changed).crew = player.crew := by
  rw [with_mode_eq]
  exact changed.1.notices_silent _ _ rfl

theorem with_mode_launches (changed : ModeChange × Mode) : (player.withMode changed).launches = player.launches := by
  rw [with_mode_eq]
  exact changed.1.news_silent _ _ fun _ => ⟨rfl, rfl, rfl⟩

theorem with_mode_within (changed : ModeChange × Mode) (skipMode : changed.2.skipMode = player.playback.mode.skipMode)
    (lowers : footprint.skip = false → changed.2.skip = true → player.playback.mode.skip = true) :
    Within footprint player (player.withMode changed) := by
  have crew := player.with_mode_crew changed
  have launches := player.with_mode_launches changed
  rw [with_mode_eq] at crew launches ⊢
  exact ⟨fun _ => rfl, fun _ => rfl, fun _ => ⟨rfl, crew⟩, lowers, skipMode, fun _ => rfl, fun _ => launches, fun _ => rfl⟩

theorem force_skip_within : Within { skip := true } player (player.withMode player.playback.mode.forceSkip) :=
  with_mode_within _ _ rfl nofun

end Player

theorem Edit.within {facet : Facet} {before after : Player} (edit : Edit facet before after) :
    Within facet.footprint before after := by
  cases edit with
  | publish _ event plain =>
      refine before.publish_within event ?_
      cases event with
      | commandExecuting _ _ _ => cases plain
      | _ => rfl
  | tell _ notice nobody => exact before.tell_within notice (by rw [Notice.pilot?, nobody]; rfl)
  | playlist _ activity apart => exact before.tell_within _ (by simp [Notice.pilot?, Notice.spawned?, apart])
  | launch _ loaded index command lane =>
      exact ⟨fun _ => rfl, fun _ => rfl, fun _ => ⟨rfl, rfl⟩, fun _ => id, rfl, fun _ => rfl, nofun, fun _ => rfl⟩
  | capture _ spot =>
      unfold Player.capture
      split
      · exact .beside rfl rfl rfl rfl
      · exact ⟨fun _ => rfl, fun _ => rfl, fun _ => ⟨rfl, rfl⟩, fun _ => id, rfl, fun _ => rfl, fun _ => rfl, fun _ => rfl⟩
  | permit _ =>
      unfold Player.permitRollback
      split
      · exact ⟨fun _ => rfl, fun _ => rfl, fun _ => ⟨rfl, rfl⟩, fun _ => id, rfl, fun _ => rfl, fun _ => rfl, fun _ => rfl⟩
      · exact .beside rfl rfl rfl rfl
  | mode _ changed honest kept lowers => exact before.with_mode_within changed kept fun _ => lowers
  | skip _ changed honest kept => exact before.with_mode_within changed kept nofun
  | stop _ reason ordinary =>
      unfold Player.stopFor
      split
      · exact ⟨fun _ => rfl, nofun, fun _ => ⟨rfl, rfl⟩, fun _ => id, rfl, fun _ => rfl, fun _ => rfl, fun _ => rfl⟩
      · exact .refl _
  | start _ =>
      unfold Player.start
      split
      · exact .refl _
      · split
        · exact .refl _
        · exact ⟨fun _ => rfl, nofun, nofun, fun _ => id, rfl, fun _ => rfl, fun _ => rfl, fun _ => rfl⟩
  | caret _ loaded index executed =>
      exact ⟨nofun, fun _ => rfl, fun _ => ⟨rfl, rfl⟩, fun _ => id, rfl, fun _ => rfl, fun _ => rfl, fun _ => rfl⟩
  | mark _ passed =>
      exact ⟨nofun, fun _ => rfl, fun _ => ⟨rfl, rfl⟩, fun _ => id, rfl, fun _ => rfl, fun _ => rfl, fun _ => rfl⟩
  | played _ played =>
      exact ⟨fun _ => rfl, fun _ => rfl, fun _ => ⟨rfl, rfl⟩, fun _ => id, rfl, nofun, fun _ => rfl, fun _ => rfl⟩
  | returns _ returns =>
      exact ⟨fun _ => rfl, fun _ => rfl, fun _ => ⟨rfl, rfl⟩, fun _ => id, rfl, fun _ => rfl, fun _ => rfl, nofun⟩
  | mask _ masked =>
      exact ⟨fun _ => rfl, fun _ => rfl, fun _ => ⟨rfl, rfl⟩, fun _ => id, rfl, fun _ => rfl, fun _ => rfl, fun _ => rfl⟩
  | helm _ => exact ⟨fun _ => rfl, fun _ => rfl, nofun, fun _ => id, rfl, fun _ => rfl, fun _ => rfl, fun _ => rfl⟩
  | playback _ => exact ⟨nofun, nofun, nofun, nofun, rfl, fun _ => rfl, fun _ => rfl, nofun⟩
  | everything _ raised => exact ⟨nofun, nofun, nofun, nofun, rfl, nofun, fun _ => rfl, nofun⟩
  | _ => exact .beside rfl rfl rfl rfl

theorem Edits.within {facets : List Facet} {footprint : Footprint} {before after : Player} (edits : Edits facets before after)
    (le : facets.all (fun facet => facet.footprint.le footprint) = true) : Within footprint before after :=
  edits.lift (Within footprint) le rfl .refl .trans fun edit le => edit.within.wider le

-- No edit exchanges the presenter, and one of them raises the full layer.
theorem Edit.fixtures {facet : Facet} {before after : Player} (edit : Edit facet before after) :
    after.presenter = before.presenter ∧ (facet ≠ .layer → after.abandoned = before.abandoned) := by
  cases edit with
  | capture _ spot =>
      unfold Player.capture
      split <;> exact ⟨rfl, fun _ => rfl⟩
  | permit =>
      unfold Player.permitRollback
      split <;> exact ⟨rfl, fun _ => rfl⟩
  | mode _ changed | skip _ changed =>
      rw [Player.with_mode_eq]
      exact ⟨rfl, fun _ => rfl⟩
  | stop _ reason =>
      unfold Player.stopFor
      split <;> exact ⟨rfl, fun _ => rfl⟩
  | start =>
      unfold Player.start
      split
      · exact ⟨rfl, fun _ => rfl⟩
      · split <;> exact ⟨rfl, fun _ => rfl⟩
  | abandon => exact ⟨rfl, fun still => absurd rfl still⟩
  | _ => exact ⟨rfl, fun _ => rfl⟩

theorem Edits.presenter {facets : List Facet} {before after : Player} (edits : Edits facets before after) :
    after.presenter = before.presenter := by
  induction edits with
  | refl => rfl
  | step _ edit _ ih => exact edit.fixtures.1.trans ih

theorem Edits.layer {facets : List Facet} {before after : Player} (edits : Edits facets before after)
    (still : facets.all (· ≠ .layer) = true) : after.abandoned = before.abandoned :=
  edits.lift (fun before after => after.abandoned = before.abandoned) still rfl (fun _ => rfl)
    (fun first second => second.trans first) fun edit apart => edit.fixtures.2 (of_decide_eq_true apart)

def Footprint.of (facets : List Facet) : Footprint where
  caret := facets.any fun facet => facet.footprint.caret
  playing := facets.any fun facet => facet.footprint.playing
  pilots := facets.any fun facet => facet.footprint.pilots
  skip := facets.any fun facet => facet.footprint.skip
  played := facets.any fun facet => facet.footprint.played
  launches := facets.any fun facet => facet.footprint.launches
  returns := facets.any fun facet => facet.footprint.returns

theorem Edits.kept {facets : List Facet} {before after : Player} (edits : Edits facets before after) :
    Within (.of facets) before after := by
  refine edits.within (List.all_eq_true.mpr fun facet member => ?_)
  have below (field : Footprint → Bool) :
      (!field facet.footprint || facets.any fun facet => field facet.footprint) = true := by
    cases set : field facet.footprint with
    | false => rfl
    | true => exact List.any_eq_true.mpr ⟨facet, member, set⟩
  simp only [Footprint.le, Bool.and_eq_true]
  exact ⟨⟨⟨⟨⟨⟨below _, below _⟩, below _⟩, below _⟩, below _⟩, below _⟩, below _⟩

/-! ### Moves -/

def Effect.footprint : Effect → Footprint
  | .jump _ => { caret := true }
  | .call _ | .goBack => { caret := true, returns := true }
  | .halt => { playing := true }
  | .setSkip .. => { skip := true }
  | _ => {}

namespace Execution

theorem perform_within (execution : Execution) (effect : Effect) (player : Player) :
    Within effect.footprint player (execution.perform effect player).2 :=
  (execution.perform_edits effect player).within (by cases effect <;> rfl)

def footprint (execution : Execution) : Footprint := (execution.next?.map Effect.footprint).getD {}

theorem step_cases (execution : Execution) (player : Player) (progress : Progress) (after : Player)
    (step : execution.step? player = some (progress, after)) :
    (∃ effect rest, execution.next? = some effect ∧
      { execution with effects := rest }.perform effect player = (progress, after)) ∨
    (execution.next? = none ∧ ∀ footprint, Within footprint player after) := by
  rcases step_opens execution player progress after step with
    ⟨wait, woken, waits, wakes, moved⟩ | ⟨_, idle, same, _⟩ | ⟨_, effect, rest, next, moved⟩
  · have same : woken.2 = after := by rw [← unless_failed_player, moved]
    exact .inr ⟨by simp [next?, waits], fun _ =>
      same ▸ (execution.wake_edits wait player woken wakes).within (by cases wait <;> rfl)⟩
  · exact .inr ⟨idle, fun _ => same ▸ .refl _⟩
  · exact .inl ⟨effect, rest, next, moved⟩

theorem step_within (execution : Execution) (player : Player) (progress : Progress) (after : Player)
    (step : execution.step? player = some (progress, after)) : Within execution.footprint player after := by
  rcases step_cases execution player progress after step with ⟨effect, rest, next, moved⟩ | ⟨_, within⟩
  · have done := perform_within { execution with effects := rest } effect player
    rw [moved] at done
    simpa [footprint, next] using done
  · exact within _

theorem footprint_le (execution : Execution) :
    execution.footprint.le { caret := true, playing := true, pilots := true, skip := true, returns := true } = true := by
  unfold footprint
  cases execution.next? with
  | none => rfl
  | some effect => cases effect <;> rfl

end Execution

def Request.footprint : Request → Footprint
  | .play .. => { caret := true, playing := true, pilots := true, returns := true }
  | .resume => { playing := true, pilots := true }
  | .stop | .reset | .load _ | .rewindLine _ | .rewindSpot _ => { playing := true }
  | .input _ => { playing := true, skip := true }
  | .setSkip _ => { skip := true }
  | .jump _ => { caret := true }
  | .call .. | .goBack => { caret := true, returns := true }
  | _ => {}

theorem Player.ask_within (player : Player) (request : Request) : Within request.footprint player (player.ask request).2 :=
  (player.ask_edits request).within (by cases request <;> rfl)

namespace Player

variable (player : Player)

theorem restore_played (save : Save) : (player.restore save).2.played = player.played := by
  refine (player.restore_edits save).kept.played ?_
  unfold Save.facets
  cases save.spot <;> rfl

theorem run_command_visits (generation : Nat) (loaded : Loaded) (command : Command) :
    (player.runCommand generation loaded command).2.played =
        player.played.add loaded.playlist.script player.playback.index ∧
      (player.runCommand generation loaded command).2.launches =
        (if (player.passesGuard command).1 then [(command.spot, Lane.main)] else []) ++ player.launches := by
  have judged : Within {} player (player.passesGuard command).2 := (player.guard_edits command).within rfl
  have same : (player.passesGuard command).2.played = player.played := judged.played rfl
  have started : (player.passesGuard command).2.launches = player.launches := judged.launches rfl
  unfold runCommand
  simp only [same]
  generalize visits : ({ (player.passesGuard command).2 with
    played := player.played.add loaded.playlist.script player.playback.index } : Player) = visited
  have played : visited.played = player.played.add loaded.playlist.script player.playback.index := visits ▸ rfl
  have launches : visited.launches = player.launches := by rw [← visits]; exact started
  have captured : Within {} visited (visited.capture command.spot) := (Edit.capture visited command.spot).within
  have settled (player : Player) (passed : Bool) (epoch : Nat) :
      Within { caret := true } player (player.settle generation epoch passed).2 := (player.settle_edits generation epoch passed).within rfl
  split
  · have launched : ((visited.capture command.spot).launch loaded player.playback.index command .main).2.played =
          player.played.add loaded.playlist.script player.playback.index ∧
        ((visited.capture command.spot).launch loaded player.playback.index command .main).2.launches =
          (command.spot, Lane.main) :: player.launches :=
      ⟨(captured.played rfl).trans played, congrArg _ ((captured.launches rfl).trans launches)⟩
    split
    · exact launched
    · exact ⟨((settled _ _ _).played rfl).trans launched.1, ((settled _ _ _).launches rfl).trans launched.2⟩
  · exact ⟨((settled _ _ _).played rfl).trans played, ((settled _ _ _).launches rfl).trans launches⟩

end Player

def Activity.footprint : Activity → Footprint
  | .asked request => request.footprint
  | .steering (.loop _) => { caret := true, played := true, launches := true }
  | .steering (.trip _) =>
      { caret := true, playing := true, pilots := true, skip := true, played := true, launches := true }
  | .advancing _ => { caret := true, playing := true, pilots := true }
  | .running _ (.pilot ..) => { caret := true, playing := true, pilots := true, skip := true, returns := true }
  | .running execution _ => execution.footprint
  | .transient _ => { launches := true }
  | .listening _ => { playing := true, skip := true }
  | .completing .. => { pilots := true }
  | .draining _ => { caret := true, playing := true, pilots := true, played := true, returns := true }
  | _ => {}

theorem Activity.step_within (activity : Activity) (player : Player) (moved : Activity × Player)
    (step : activity.step? player = some moved) : Within activity.footprint player moved.2 := by
  have edits := activity.step_edits player moved step
  cases activity with
  | asked request => exact edits.within (by cases request <;> rfl)
  | steering pilot => cases pilot <;> exact edits.within rfl
  | completing role sequel => cases sequel <;> exact edits.within rfl
  | draining replacement =>
      cases replacement with
      | reset => exact edits.within rfl
      | load save rollback =>
          exact edits.within (by simp only [facets, Replacement.facets, Save.facets]; cases save.spot <;> rfl)
  | running execution caller =>
      have own (effect : Effect) (next : execution.next? = some effect) :
          effect.facets.all (fun facet => facet.footprint.le execution.footprint) = true := by
        rw [Execution.footprint, next]
        cases effect <;> rfl
      refine edits.within ?_
      rw [facets, List.all_append]
      cases caller with
      | pilot _ _ =>
          exact Bool.and_eq_true_iff.mpr
            ⟨execution.facets_all _ (fun wait => by cases wait <;> rfl) fun effect _ => by cases effect <;> rfl, rfl⟩
      | nobody => exact Bool.and_eq_true_iff.mpr ⟨execution.facets_all _ (fun wait => by cases wait <;> rfl) own, rfl⟩
      | run _ => exact Bool.and_eq_true_iff.mpr ⟨execution.facets_all _ (fun wait => by cases wait <;> rfl) own, rfl⟩
  | _ => exact edits.within rfl

end Storyline
