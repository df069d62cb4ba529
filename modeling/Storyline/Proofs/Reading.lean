import Storyline.Proofs.Landing

set_option autoImplicit false

/-!
What is read along the way. A move takes scripts into the library by looking them up or because they are put in by hand;
what the caret is on, and what is played beside it, comes from there.
-/

namespace Storyline

variable {activity : Activity} {player : Player} {moved : Activity × Player} (step : activity.step? player = some moved)

/-! ### What is read along the way -/

-- A playlist is put to use: a script is looked up, or something else is going to be played.
inductive Library.Takes (before : Library) (loaded : Loaded) (after : Library) : Prop where
  | found (name : String) (required : before.require name = .ok (loaded, after))
  | loads (playlist : Playlist) (same : before.load playlist = (loaded, after))

-- The scripts, the playlists that are to be played beside the caret, and the one under it.
def Player.desk (player : Player) : Library × List Run × Option Loaded :=
  (player.library, player.scheduled, player.playback.loaded)

-- Whatever is newly under the caret or played beside it was put to use by this move.
structure Reads (before after : Player) : Prop where
  library : after.library = before.library ∨ ∃ loaded, before.library.Takes loaded after.library
  caret : ∀ loaded ∈ after.playback.loaded, loaded ∈ before.playback.loaded ∨
    ∃ name, before.library.require name = .ok (loaded, after.library)
  runs : ∀ run ∈ after.scheduled, run ∈ before.scheduled ∨ before.library.Takes run.loaded after.library

-- A script was looked up and nothing else was done.
def Found (before after : Player) (loaded : Loaded) : Prop :=
  ∃ name, before.library.require name = .ok (loaded, after.library) ∧ after.scheduled = before.scheduled

theorem Spares.desk {reach : Reach} {before after : Player} (spares : Spares reach before after)
    (still : reach.library = false) (there : after.playback.loaded = before.playback.loaded) : after.desk = before.desk := by
  rw [Player.desk, Player.desk, spares.library still, spares.scheduled still, there]

namespace Reads

variable {before between after : Player}

theorem onward (reads : Reads before between) (same : after.desk = between.desk) : Reads before after := by
  obtain ⟨library, rest⟩ := Prod.mk.inj same
  obtain ⟨scheduled, there⟩ := Prod.mk.inj rest
  exact ⟨library ▸ reads.library, fun loaded found => library ▸ reads.caret loaded (there ▸ found),
    fun run member => library ▸ reads.runs run (scheduled ▸ member)⟩

theorem of_desk (same : after.desk = before.desk) : Reads before after :=
  onward ⟨.inl rfl, fun _ => .inl, fun _ => .inl⟩ same

theorem looked {loaded : Loaded} (found : Found before after loaded)
    (there : ∀ held ∈ after.playback.loaded, held ∈ before.playback.loaded ∨ held = loaded) : Reads before after := by
  obtain ⟨name, required, scheduled⟩ := found
  refine ⟨.inr ⟨loaded, .found name required⟩, fun held here => ?_, fun _ member => .inl (scheduled ▸ member)⟩
  rcases there held here with old | rfl
  · exact .inl old
  · exact .inr ⟨name, required⟩

theorem landed {loaded : Loaded} (found : Found before between loaded)
    (same : after.desk = (between.library, between.scheduled, some loaded)) : Reads before after := by
  obtain ⟨library, rest⟩ := Prod.mk.inj same
  obtain ⟨scheduled, there⟩ := Prod.mk.inj rest
  have here : Found before after loaded := by
    rw [Found, library, scheduled]
    exact found
  exact looked here fun held under => .inr (Option.some.inj (there.symm.trans under)).symm

theorem beside (library : Library) (run : Run) (activity : Activity) (takes : before.library.Takes run.loaded library)
    (plays : activity.plays? = some run) : Reads before ((before.withLibrary library).tell (.spawned activity)) := by
  refine ⟨.inr ⟨run.loaded, takes⟩, fun _ => .inl, fun other member => ?_⟩
  simp only [Player.scheduled, Player.tell, List.filterMap_cons, Notice.plays?, Notice.spawned?, Option.bind_some, plays,
    List.mem_cons] at member
  rcases member with rfl | old
  · exact .inr takes
  · exact .inl old

end Reads

namespace Player

section Reading

variable (player : Player)

theorem resolve_reads (target : Target) : Reads player (player.resolve target).2 ∧
    ∀ loaded index, (player.resolve target).1 = .ok (some (loaded, index)) → Found player (player.resolve target).2 loaded := by
  unfold resolve
  split
  · exact ⟨.of_desk rfl, nofun⟩
  · next script _ =>
      split
      · exact ⟨.of_desk rfl, nofun⟩
      · next held library required =>
          have found : Found player (player.withLibrary library) held := ⟨script, required, rfl⟩
          have reads : Reads player (player.withLibrary library) := .looked found fun _ => .inl
          simp only
          split
          · exact ⟨reads.onward rfl, nofun⟩
          · split
            · exact ⟨reads.onward rfl, nofun⟩
            · split
              · exact ⟨reads, nofun⟩
              · refine ⟨reads, fun other index same => ?_⟩
                obtain ⟨rfl, _⟩ := Prod.mk.inj (Option.some.inj (Except.ok.inj same))
                exact found

theorem jump_reads (target : Target) : Reads player (player.jump target).2 := by
  obtain ⟨reads, finds⟩ := resolve_reads player target
  unfold jump
  split
  · next found => rw [found] at reads; exact reads
  · next found => rw [found] at reads; exact reads
  · next loaded index between found =>
      rw [found] at finds
      exact .landed (finds loaded index rfl) rfl

theorem call_reads (target : Target) (spot : Spot) : Reads player (player.call target spot).2 := by
  obtain ⟨returns, same⟩ := player.call_jumps target spot
  rw [same]
  exact (jump_reads player target).onward rfl

theorem go_back_reads : Reads player player.goBack := by
  unfold goBack
  split
  · exact .of_desk rfl
  · next spot _ =>
      simp only
      split
      · exact .of_desk rfl
      · next loaded library required =>
          have found : Found player (player.withLibrary library) loaded := ⟨spot.script, required, rfl⟩
          split
          · exact (Reads.looked found fun _ => .inl).onward rfl
          · exact .landed found rfl

theorem entry_reads (script : String) (label : Option String) : Reads player (player.entry script label).2 ∧
    ∀ loaded index, (player.entry script label).1 = .ok (loaded, index) → Found player (player.entry script label).2 loaded := by
  unfold entry
  split
  · exact ⟨.of_desk rfl, nofun⟩
  · next held library required =>
      have found : Found player (player.withLibrary library) held := ⟨script, required, rfl⟩
      refine ⟨.looked found fun _ => .inl, fun other index same => ?_⟩
      obtain ⟨place, _, checked⟩ := bind_ok same
      split at checked
      · cases checked
      · obtain ⟨rfl, _⟩ := Prod.mk.inj (Except.ok.inj checked)
        exact found

theorem start_desk : player.start.2.desk = player.desk :=
  ((Edit.start player).spares.wider rfl : Spares {} _ _).desk rfl (congrArg Caret.loaded ((Edit.start player).within.caret rfl))

theorem play_reads (script : String) (label : Option String) : Reads player (player.play script label).2 := by
  obtain ⟨reads, finds⟩ := entry_reads player script label
  unfold play
  split
  · next found => rw [found] at reads; exact reads
  · next loaded index between found =>
      rw [found] at finds
      have stopped : Spares {} between between.stop := (Edit.stop between .requested (by decide)).spares.wider rfl
      refine .landed (finds loaded index rfl) ?_
      rw [start_desk, ← stopped.library rfl, ← stopped.scheduled rfl]
      rfl

theorem place_reads (spot : Spot) : Reads player (player.place spot).2 ∧
    ∀ loaded index, (player.place spot).1 = .ok (loaded, index) → Found player (player.place spot).2 loaded := by
  unfold place
  split
  · exact ⟨.of_desk rfl, nofun⟩
  · next held library required =>
      have found : Found player (player.withLibrary library) held := ⟨spot.script, required, rfl⟩
      refine ⟨.looked found fun _ => .inl, fun other index same => ?_⟩
      simp only at same
      split at same
      · cases same
      · split at same
        · cases same
        · obtain ⟨rfl, _⟩ := Prod.mk.inj (Except.ok.inj same)
          exact found

theorem emptied_reads : Reads player { player with playback := player.playback.clear } :=
  ⟨.inl rfl, nofun, fun _ => .inl⟩

theorem restore_reads (save : Save) : Reads player (player.restore save).2 := by
  have adopted (player : Player) : (player.adopt save).2.desk = player.desk :=
    ((adopt_edits player save).spares rfl : Spares {} _ _).desk rfl (congrArg Caret.loaded (adopt_caret player save))
  unfold restore
  split
  · exact (emptied_reads player).onward (adopted _)
  · next spot _ =>
      obtain ⟨reads, finds⟩ := place_reads player spot
      split
      · next found => rw [found] at reads; exact reads
      · next loaded index between found =>
          rw [found] at finds
          exact .landed (finds loaded index rfl) (adopted _)

theorem replace_reads (replacement : Replacement) : Reads player (player.replace replacement).2 := by
  cases replacement with
  | reset =>
      have lowered := clear_all_visits_edits { player with playback := player.playback.clear } player.library.scripts
      exact (emptied_reads player).onward (lowered.spared.desk rfl (congrArg Caret.loaded (lowered.kept.caret rfl)))
  | load save rollback =>
      have restored := restore_reads player save
      rw [replace_load]
      exact restored

theorem schedule_reads (body : Playlist) (millis : UInt64) : Reads player (player.schedule body millis) := by
  refine .beside _ { name := body.script, loaded := (player.library.load body).1, full := player.abandoned } _
    (.loads body rfl) ?_
  by_cases now : millis = 0
  · simp only [now, if_true]
    rfl
  · simp only [now, if_false]
    rfl

theorem perform_reads (execution : Execution) (effect : Effect) : Reads player (execution.perform effect player).2 := by
  have same (still : effect.reach.library = false) (caret : effect.footprint.caret = false) :
      Reads player (execution.perform effect player).2 :=
    .of_desk ((execution.perform_spares effect player).desk still
      (congrArg Caret.loaded ((execution.perform_within effect player).caret caret)))
  cases effect with
  | jump target =>
      simp only [Execution.perform, Execution.unless_failed_player]
      exact jump_reads player target
  | call target =>
      simp only [Execution.perform, Execution.unless_failed_player]
      exact call_reads player target _
  | goBack => exact go_back_reads player
  | schedule millis =>
      simp only [Execution.perform]
      split
      · exact .of_desk rfl
      · exact schedule_reads player _ millis
  | _ => exact same rfl rfl

theorem running_reads (execution : Execution) (caller : Caller) (moved : Activity × Player)
    (step : (Activity.running execution caller).step? player = some moved) : Reads player moved.2 := by
  obtain ⟨⟨progress, between⟩, went, rest⟩ := Option.map_eq_some_iff.mp step
  have performed : Reads player between := by
    rcases execution.step_opens player progress between went with
      ⟨wait, woken, _, wakes, done⟩ | ⟨_, _, same, _⟩ | ⟨_, effect, rest, _, done⟩
    · have same : woken.2 = between := by rw [← Execution.unless_failed_player, done]
      rw [← same]
      exact .of_desk ((execution.wake_spares wait player woken wakes).desk (by cases wait <;> rfl)
        (congrArg Caret.loaded (((execution.wake_edits wait player woken wakes).within (by cases wait <;> rfl) : Within {} _ _).caret rfl)))
    · exact .of_desk (by rw [same])
    · have performed := perform_reads player { execution with effects := rest } effect
      rw [done] at performed
      exact performed
  subst rest
  cases progress with
  | going next => exact performed
  | ended result =>
      have finished : (between.finish execution result).2.desk = between.desk :=
        (finish_edits between execution result).spared.desk rfl
          (congrArg Caret.loaded (((finish_edits between execution result).within rfl : Within {} _ _).caret rfl))
      refine performed.onward (Eq.trans (Spares.desk (resume_caller_spares _ caller _) (by cases caller <;> rfl) ?_) finished)
      rcases resume_caller_settles (between.finish execution result).2 caller (between.finish execution result).1 with
        still | ⟨_, settled, _⟩
      · exact congrArg Caret.loaded still
      · exact congrArg Caret.loaded settled

end Reading

end Player

include step in
theorem step_reads (keeps : activity.inserts = false) : Reads player moved.2 := by
  have same (still : activity.reach.library = false) (stays : activity.lands = false) : Reads player moved.2 := by
    refine .of_desk ((activity.step_spares player moved step).desk still ?_)
    cases step_shift step with
    | still caret => exact congrArg Caret.loaded caret
    | settled passed caret => exact congrArg Caret.loaded caret
    | advanced pilot loaded next mover current there ran leads bound caret =>
        rw [there]
        exact congrArg Caret.loaded caret
    | landed loaded index executed mover => exact absurd (stays.symm.trans mover) Bool.false_ne_true
    | cleared mover => exact absurd (stays.symm.trans mover) Bool.false_ne_true
  cases activity with
  | asked request =>
      obtain rfl := Option.some.inj step
      cases request with
      | play script label =>
          simp only [Player.ask, Player.answer_player]
          exact Player.play_reads player script label
      | jump target =>
          simp only [Player.ask, Player.answer_player]
          exact Player.jump_reads player target
      | call target spot =>
          simp only [Player.ask, Player.answer_player]
          exact Player.call_reads player target spot
      | goBack => exact Player.go_back_reads player
      | transient name playlist => exact .beside _ _ _ (.loads playlist rfl) rfl
      | transientNamed name script =>
          simp only [Player.ask]
          split
          · exact .of_desk rfl
          · next loaded library required => exact .beside _ _ _ (.found script required) rfl
      | insert playlist => cases keeps
      | _ => exact same rfl rfl
  | running execution caller => exact Player.running_reads player execution caller moved step
  | draining replacement =>
      obtain rfl := Activity.draining_step step
      exact Player.replace_reads player replacement
  | _ => exact same rfl rfl

include step in
theorem step_inserts (inserts : activity.inserts = true) :
    ∃ playlist, activity = .asked (.insert playlist) ∧ moved.2 = player.withLibrary (player.library.insert playlist).2 := by
  unfold Activity.inserts at inserts
  split at inserts
  · next playlist => exact ⟨playlist, rfl, (Option.some.inj step ▸ rfl)⟩
  · cases inserts

-- What is put in by hand fits too.
def Activity.Brings (fit : Playlist → Prop) (activity : Activity) : Prop :=
  ∀ playlist, activity = .asked (.insert playlist) → fit playlist

def World.Brings (fit : Playlist → Prop) (world : World) : List Move → Prop
  | [] => True
  | move :: moves => (∀ activity, world.mover? move = some activity → activity.Brings fit) ∧ (world.move move).Brings fit moves

theorem World.shelved_brings (fit : Playlist → Prop) (world : World) (moves : List Move) (shelved : world.Shelved moves) :
    world.Brings fit moves := by
  induction moves generalizing world with
  | nil => trivial
  | cons move moves ih =>
      refine ⟨fun activity mover playlist asked => ?_, ih (world.move move) shelved.2⟩
      have inserts := shelved.1 activity mover
      rw [asked] at inserts
      cases inserts

end Storyline
