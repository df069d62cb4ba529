import Storyline.Proofs.Course
import Storyline.Proofs.Skipping

set_option autoImplicit false

/-!
The footing of the caret. Wherever the caret is taken, by a jump, a call, the way back from one, a save or the next step of a
loop, there is a command under it in the playlist that it is in. That playlist is held by the caret itself, so a script that
is put into the library in its place takes nothing away. What is put down as played is the command under the caret.
-/

namespace Storyline

def Player.Stands (player : Player) : Prop :=
  ∀ loaded, player.playback.loaded = some loaded → player.playback.index < loaded.playlist.length

namespace Player

theorem stands_spot (player : Player) (stands : player.Stands) :
    player.playback.spot? = none ↔ player.playback.loaded = none := by
  cases there : player.playback.loaded with
  | none => simp [Playback.spot?, Playback.command?, there]
  | some loaded =>
      have found := Array.getElem?_eq_getElem (stands loaded there)
      simp [Playback.spot?, Playback.command?, Playlist.command?, there, found]

-- Playback cannot be resumed exactly when the caret is in no script.
theorem start_fails_iff (player : Player) (stands : player.Stands) (cause : Error) :
    player.start.1 = .error cause ↔
      player.playback.playing = false ∧ player.playback.loaded = none ∧ cause = .script (.empty "") := by
  unfold start
  split
  · next playing => simp [playing]
  · next idle =>
      have off : player.playback.playing = false := Bool.eq_false_iff.mpr idle
      split
      · next nowhere =>
          have none_ := (stands_spot player stands).mp nowhere
          simp [off, none_, Playback.script?, eq_comm]
      · next spot somewhere =>
          have held : player.playback.loaded ≠ none := by
            rw [Ne, ← stands_spot player stands, somewhere]
            exact Option.some_ne_none spot
          simp [held]

end Player

/-! ### Every run -/

namespace World

variable (start : World)

theorem stands_after (numbered : start.Numbered) (stands : start.player.Stands) (moves : List Move) :
    (start.after moves).player.Stands := by
  induction moves using List.reverseRecOn with
  | nil => exact stands
  | append_singleton moves move ih =>
      rw [after_concat]
      cases (move_comes _ (after_numbered start numbered moves) move).1 with
      | stays clock requests player => rw [player]; exact ih
      | moves activity successor others player stage _ _ _ step told _ =>
          rw [told]
          exact (step_shift step).bound ih

-- One of the moves put the command down, which was under the caret then.
def PutDown (moves : List Move) (script : String) (index : Nat) : Prop :=
  ∃ earlier move later loaded, moves = earlier ++ move :: later ∧
    (start.after earlier).player.playback.loaded = some loaded ∧ loaded.playlist.script = script ∧
    (start.after earlier).player.playback.index = index ∧ index < loaded.playlist.length ∧
    ((start.after earlier).move move).player.played = (start.after earlier).player.played.add script index

theorem PutDown.concat {start : World} {moves : List Move} {script : String} {index : Nat}
    (put : start.PutDown moves script index) (move : Move) : start.PutDown (moves ++ [move]) script index := by
  obtain ⟨earlier, other, later, loaded, rfl, rest⟩ := put
  exact ⟨earlier, other, later ++ [move], loaded, by simp, rest⟩

theorem played_put_down (numbered : start.Numbered) (unplayed : start.player.played = {}) (moves : List Move) :
    ∃ visits, (start.after moves).player.played.Records visits ∧
      ∀ visit ∈ visits, start.PutDown moves visit.1 visit.2 := by
  induction moves using List.reverseRecOn with
  | nil => exact ⟨[], by rw [after_nil, unplayed]; exact Played.records_nothing, fun _ member => (List.not_mem_nil member).elim⟩
  | append_singleton moves move ih =>
      obtain ⟨visits, records, put⟩ := ih
      have kept (same : ((start.after moves).move move).player.played = (start.after moves).player.played) :
          ∃ visits, ((start.after moves).move move).player.played.Records visits ∧
            ∀ visit ∈ visits, start.PutDown (moves ++ [move]) visit.1 visit.2 :=
        ⟨visits, same ▸ records, fun visit member => (put visit member).concat move⟩
      rw [after_concat]
      cases (move_comes _ (after_numbered start numbered moves) move).1 with
      | stays clock requests player => exact kept (by rw [player])
      | moves activity successor others player stage _ _ _ step told _ =>
          have played : ((start.after moves).move move).player.played = player.played := by rw [told]
          cases step_enters activity _ _ step with
          | kept same => exact kept (played.trans same)
          | forgot none_ =>
              refine ⟨[], ?_, fun _ member => (List.not_mem_nil member).elim⟩
              rw [played, none_]
              exact Played.records_nothing
          | put loaded there bound put_ =>
              refine ⟨_, by rw [played, put_]; exact Played.records_add _ visits records _ _, fun visit member => ?_⟩
              rcases List.mem_append.mp member with old | new
              · exact (put visit old).concat move
              · obtain rfl := List.mem_singleton.mp new
                exact ⟨moves, move, [], loaded, rfl, there, rfl, rfl, bound, played.trans put_⟩

theorem caret_stands_on_command (numbered : start.Numbered) (unloaded : start.player.playback.loaded = none)
    (unplayed : start.player.played = {}) (moves : List Move) :
    let player := (start.after moves).player
    (∀ loaded, player.playback.loaded = some loaded → player.playback.index < loaded.playlist.length) ∧
      (∀ cause, player.start.1 = .error cause ↔
        player.playback.playing = false ∧ player.playback.loaded = none ∧ cause = .script (.empty "")) ∧
      ∀ script index, player.played.contains script index = true → start.PutDown moves script index := by
  intro player
  have first : start.player.Stands := by
    intro loaded there
    cases unloaded.symm.trans there
  have stands := stands_after start numbered first moves
  obtain ⟨visits, records, put⟩ := played_put_down start numbered unplayed moves
  refine ⟨stands, player.start_fails_iff stands, fun script index contains => ?_⟩
  exact put (script, index) ((Played.contains_iff_visited _ _ records script index).mp contains)

-- The script under the caret is put into the library anew with nothing in it.
def emptied : World where
  player :=
    { draws := ⟨fun _ => 0, 0⟩
      library :=
        { scripts := [⟨0, "road", #[⟨0, ⟨"road", 0, 0⟩, none, true, .label "top"⟩, ⟨0, ⟨"road", 1, 0⟩, none, true, .stop⟩]⟩]
          nextHandle := 1 } }

def emptying : List Move :=
  [.ask (.play "road" none), .front, .leave] ++ List.replicate 12 (.thread 0) ++
    [.ask (.insert ⟨"road", #[]⟩), .front, .leave]

theorem caret_keeps_replaced_playlist :
    let player := (emptied.after emptying).player
    emptied.player.playback.loaded = none ∧ emptied.player.played = {} ∧
      player.library.scripts.map (fun loaded => loaded.playlist.length) = [0] ∧
      player.playback.loaded.map (fun loaded => loaded.playlist.length) = some 2 ∧ player.playback.index = 1 ∧
      player.playback.playing = false ∧ (∀ cause, player.start.1 ≠ .error cause) ∧ emptied.PutDown emptying "road" 1 := by
  have stands := caret_stands_on_command emptied (numbered_new _ rfl) rfl rfl emptying
  refine ⟨rfl, rfl, by decide +kernel, by decide +kernel, by decide +kernel, by decide +kernel, fun cause fails => ?_, ?_⟩
  · have nowhere : (emptied.after emptying).player.playback.loaded.isNone = true :=
      Option.isNone_iff_eq_none.mpr ((stands.2.1 cause).mp fails).2.1
    exact absurd nowhere (by decide +kernel)
  · exact stands.2.2 "road" 1 (by decide +kernel)

end World

end Storyline
