import Storyline.Proofs.Reading

set_option autoImplicit false

/-!
The course of the caret. Scripts come into the library only if their nesting is accepted, so along every run the caret is
inside an accepted one.
-/

namespace Storyline

variable {activity : Activity} {player : Player} {moved : Activity × Player} (step : activity.step? player = some moved)

/-! ### Anchored carets -/

theorem Reads.grows {before after : Player} (reads : Reads before after) (addressed : before.library.Addressed) :
    after.library.Addressed ∧ before.library.Grows after.library := by
  rcases reads.library with same | ⟨loaded, takes⟩
  · rw [same]
    exact ⟨addressed, fun _ => id⟩
  · cases takes with
    | found name required =>
        obtain ⟨kept, _, grows⟩ := before.library.require_spec addressed name loaded _ required
        exact ⟨kept, grows⟩
    | loads playlist same =>
        have library : (before.library.load playlist).2 = after.library := congrArg Prod.snd same
        rw [← library]
        exact ⟨before.library.load_addressed addressed playlist, fun _ => id⟩

theorem Shift.bound {activity : Activity} {before after : Player} (shift : Shift activity before after)
    (bound : ∀ loaded ∈ before.playback.loaded, before.playback.index < loaded.playlist.length) :
    ∀ loaded ∈ after.playback.loaded, after.playback.index < loaded.playlist.length := by
  have on {loaded : Loaded} {index : Nat} (there : after.playback.loaded = some loaded)
      (here : after.playback.index = index) (bound : index < loaded.playlist.length) :
      ∀ loaded ∈ after.playback.loaded, after.playback.index < loaded.playlist.length := by
    intro other found
    obtain rfl : loaded = other := Option.some.inj (there.symm.trans found)
    exact here ▸ bound
  have stays (there : after.playback.loaded = before.playback.loaded) (here : after.playback.index = before.playback.index) :
      ∀ loaded ∈ after.playback.loaded, after.playback.index < loaded.playlist.length := by
    rw [there, here]
    exact bound
  cases shift with
  | still caret => exact stays (congrArg Caret.loaded caret) (congrArg Caret.index caret)
  | settled passed caret => exact stays (congrArg Caret.loaded caret) (congrArg Caret.index caret)
  | advanced pilot loaded next _ _ _ _ _ bound caret =>
      exact on (congrArg Caret.loaded caret) (congrArg Caret.index caret) bound
  | landed loaded index executed _ reaches _ caret =>
      obtain ⟨_, _, _, bound⟩ := reaches
      exact on (congrArg Caret.loaded caret) (congrArg Caret.index caret) bound
  | cleared _ caret =>
      have nowhere : after.playback.loaded = none := congrArg Caret.loaded caret
      exact fun other found => absurd (nowhere ▸ found) (Option.not_mem_none other)

-- The caret stays anchored, unless a script is put into the library.
include step in
theorem Activity.step_anchored (keeps : activity.inserts = false) (anchored : player.Anchored) : moved.2.Anchored := by
  have reads := step_reads step keeps
  obtain ⟨addressed, grows⟩ := reads.grows anchored.1
  have bound := (step_shift step).bound fun loaded there => (anchored.2 loaded there).2
  refine ⟨addressed, fun held there => ⟨?_, bound held there⟩⟩
  rcases reads.caret held there with old | ⟨name, required⟩
  · exact grows held (anchored.2 held old).1
  · exact (player.library.require_spec anchored.1 name held _ required).2.1

/-! ### The library stays sound -/

-- A script is put into the library whose nesting is malformed.
def Activity.spoils : Activity → Bool
  | .asked (.insert playlist) => playlist.fault?.isSome
  | _ => false

include step in
theorem step_library (fair : activity.spoils = false) (sound : player.library.Sound) : moved.2.library.Sound := by
  cases inserts : activity.inserts with
  | true =>
      obtain ⟨playlist, rfl, after⟩ := step_inserts step inserts
      have accepted := (Playlist.fault_none_iff playlist).mp (by simpa [Activity.spoils] using fair)
      rw [after]
      exact player.library.insert_sound sound playlist accepted
  | false =>
      rcases (step_reads step inserts).library with same | ⟨loaded, takes⟩
      · exact same ▸ sound
      · cases takes with
        | found name required => exact (player.library.require_sound sound name loaded _ required).2
        | loads playlist same =>
            have library : (player.library.load playlist).2 = moved.2.library := congrArg Prod.snd same
            rw [← library]
            exact sound

-- The caret is on a command of an accepted script.
structure Player.Sound (player : Player) : Prop where
  library : player.library.Sound
  accepted : ∀ loaded ∈ player.playback.loaded, loaded.playlist.Accepted
  bound : ∀ loaded ∈ player.playback.loaded, player.playback.index < loaded.playlist.length

include step in
theorem step_sound (fair : activity.spoils = false) (sound : player.Sound) : moved.2.Sound := by
  refine ⟨step_library step fair sound.library, fun loaded there => ?_,
    (step_shift step).bound sound.bound⟩
  cases inserts : activity.inserts with
  | true =>
      obtain ⟨playlist, _, after⟩ := step_inserts step inserts
      rw [after] at there
      exact sound.accepted loaded there
  | false =>
      rcases (step_reads step inserts).caret loaded there with old | ⟨name, required⟩
      · exact sound.accepted loaded old
      · exact (player.library.require_sound sound.library name loaded _ required).1

-- As long as the caret does not move, only what becomes of its command may change.
theorem Shift.settles {activity : Activity} {before after : Player} (shift : Shift activity before after)
    (still : after.playback.epoch = before.playback.epoch) : Settles before after := by
  have moved (caret : after.playback.epoch = before.playback.epoch + 1) : Settles before after :=
    absurd (still.symm.trans caret) (Nat.ne_of_lt (Nat.lt_succ_self _))
  cases shift with
  | still caret => exact .inl caret
  | settled passed caret first => exact .inr ⟨passed, caret, first⟩
  | advanced _ _ _ _ _ _ _ _ _ caret => exact moved (congrArg Caret.epoch caret)
  | landed _ _ _ _ _ _ caret => exact moved (congrArg Caret.epoch caret)
  | cleared _ caret => exact moved (congrArg Caret.epoch caret)

theorem Shift.epoch_le {activity : Activity} {before after : Player} (shift : Shift activity before after) :
    before.playback.epoch ≤ after.playback.epoch := by
  cases shift with
  | still caret => exact Nat.le_of_eq (congrArg Caret.epoch caret).symm
  | settled passed caret => exact Nat.le_of_eq (congrArg Caret.epoch caret).symm
  | advanced pilot loaded next _ _ _ _ _ _ caret =>
      exact Nat.le_of_lt (Nat.lt_of_lt_of_eq (Nat.lt_succ_self _) (congrArg Caret.epoch caret).symm)
  | landed loaded index executed _ _ _ caret =>
      exact Nat.le_of_lt (Nat.lt_of_lt_of_eq (Nat.lt_succ_self _) (congrArg Caret.epoch caret).symm)
  | cleared _ caret => exact Nat.le_of_lt (Nat.lt_of_lt_of_eq (Nat.lt_succ_self _) (congrArg Caret.epoch caret).symm)

namespace World

variable (world : World)

theorem move_anchored (numbered : world.Numbered) (move : Move)
    (keeps : ∀ activity ∈ world.mover? move, activity.inserts = false) (anchored : world.player.Anchored) :
    (world.move move).player.Anchored := by
  cases (move_comes world numbered move).1 with
  | stays clock requests player =>
      rw [player]
      exact anchored
  | moves activity successor others player stage mover _ _ step told _ =>
      rw [told]
      exact Activity.step_anchored step (keeps activity mover) anchored

theorem anchored_after (numbered : world.Numbered) (moves : List Move) (shelved : world.Shelved moves)
    (anchored : world.player.Anchored) : (world.after moves).player.Anchored := by
  induction moves generalizing world with
  | nil => exact anchored
  | cons move moves ih =>
      exact ih _ (move_comes world numbered move).2 shelved.2 (move_anchored world numbered move shelved.1 anchored)

-- All scripts that are put into the library along the way are accepted ones.
def Supplied (world : World) : List Move → Prop
  | [] => True
  | move :: moves => (∀ activity ∈ world.mover? move, activity.spoils = false) ∧ (world.move move).Supplied moves

instance decidableSupplied (world : World) : (moves : List Move) → Decidable (world.Supplied moves)
  | [] => .isTrue trivial
  | move :: moves =>
      have := decidableSupplied (world.move move) moves
      inferInstanceAs (Decidable
        ((∀ activity ∈ world.mover? move, activity.spoils = false) ∧ (world.move move).Supplied moves))

theorem supplied_append (first second : List Move) :
    world.Supplied (first ++ second) ↔ world.Supplied first ∧ (world.after first).Supplied second := by
  induction first generalizing world with
  | nil => simp [Supplied, after_nil]
  | cons move moves ih =>
      rw [List.cons_append, Supplied, ih, Supplied, after_cons, and_assoc]

theorem move_sound (numbered : world.Numbered) (move : Move)
    (fair : ∀ activity ∈ world.mover? move, activity.spoils = false) (sound : world.player.Sound) :
    (world.move move).player.Sound := by
  cases (move_comes world numbered move).1 with
  | stays clock requests player =>
      rw [player]
      exact ⟨sound.library, sound.accepted, sound.bound⟩
  | moves activity successor others player stage mover _ _ step told _ =>
      have stepped := step_sound step (fair activity mover) sound
      rw [told]
      exact ⟨stepped.library, stepped.accepted, stepped.bound⟩

theorem sound_after (numbered : world.Numbered) (moves : List Move) (supplied : world.Supplied moves)
    (sound : world.player.Sound) : (world.after moves).player.Sound := by
  induction moves generalizing world with
  | nil => exact sound
  | cons move moves ih =>
      exact ih _ (move_comes world numbered move).2 supplied.2 (move_sound world numbered move supplied.1 sound)

theorem epoch_after (numbered : world.Numbered) (moves : List Move) :
    world.player.playback.epoch ≤ (world.after moves).player.playback.epoch :=
  world.after_relates (fun before after => before.playback.epoch ≤ after.playback.epoch) Nat.le_trans
    (fun _ _ _ _ => Nat.le_refl _) (fun step => (step_shift step).epoch_le) numbered moves

theorem epoch_move (numbered : world.Numbered) (move : Move) :
    world.player.playback.epoch ≤ (world.move move).player.playback.epoch := epoch_after world numbered [move]

end World

end Storyline
