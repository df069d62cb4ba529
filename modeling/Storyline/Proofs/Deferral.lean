import Storyline.Proofs.Course
import Storyline.Proofs.Leaving
import Storyline.Proofs.Skipping

set_option autoImplicit false

/-!
Where the caret rests. Delay blocks are played beside the main caret, so the caret is kept out of them: it is refused where it
would land inside one, and along a playlist it is never led into one. Only the way back from a call is not checked. A command
of a delay block can call, and then the caret comes back into the block.
-/

namespace Storyline

namespace Playlist

variable (p : Playlist)

/-! ### The nearest delay block -/

theorem delay_iff (index : Nat) : ((p.kind? index).map Kind.isDelay).getD false = true ↔ p.IsDelay index := by
  cases known : p.kind? index with
  | none => simp [IsDelay, known]
  | some kind => cases kind <;> simp [IsDelay, known, Kind.isDelay]

theorem deferred_of_host (index host : Nat) (encloses : p.Encloses host index)
    (level : p.indentAt index = p.indentAt host + 1) : p.Deferred index ↔ p.IsDelay host ∨ p.Deferred host := by
  constructor
  · rintro ⟨outer, delay, around⟩
    have shallow := around.2 index around.1 (Nat.le_refl _)
    rcases Nat.lt_trichotomy outer host with before | same | within
    · exact .inr ⟨outer, delay, encloses_between p outer index host around before (Nat.le_of_lt encloses.1)⟩
    · exact .inl (same ▸ delay)
    · have deep := encloses.2 outer within (Nat.le_of_lt around.1)
      omega
  · rintro (delay | ⟨outer, delay, around⟩)
    · exact ⟨host, delay, encloses⟩
    · exact ⟨outer, delay, encloses_trans p outer host index around encloses⟩

-- The induction is on the level of the command, which every host on the way is one short of.
theorem deferred_within_iff (accepted : p.Accepted) (levels index : Nat) (inside : index < p.length)
    (level : p.indentAt index = levels) : (p.deferredWithin? levels index).isSome = true ↔ p.Deferred index := by
  induction levels generalizing index with
  | zero =>
      refine iff_of_false Bool.false_ne_true ?_
      rintro ⟨host, _, around⟩
      have shallow := around.2 index around.1 (Nat.le_refl _)
      omega
  | succ levels ih =>
      obtain ⟨host, hosted, hosts, below, encloses⟩ := host_of_nested p accepted index (by omega)
      rw [deferredWithin?, hosted, deferred_of_host p index host encloses below, ← delay_iff]
      simp only
      split
      · next delay => simp [delay]
      · next other =>
          rw [ih host (p.host_bound host hosts) (by omega)]
          simp [other]

theorem navigable_iff (accepted : p.Accepted) (index : Nat) (inside : index < p.length) :
    p.ensureNavigable index = .ok () ↔ ¬p.Deferred index := by
  rw [← deferred_within_iff p accepted _ index inside rfl, ensureNavigable, deferredHost?]
  cases p.deferredWithin? (p.indentAt index) index <;> simp

theorem advance_safe (accepted : p.Accepted) (lookup : String → Option Value) (index : Nat) (passed : Bool)
    (trail : Trail) (inside : index < p.length) (free : ¬p.Deferred index) :
    p.LeadsOpen (p.advance lookup index passed trail).1 := by
  rw [advance]
  split
  · exact (skip_safe p accepted index inside).2 free
  · exact (move_safe p accepted lookup index trail inside).2 free

theorem advance_open (accepted : p.Accepted) (lookup : String → Option Value) (index : Nat) (passed : Bool)
    (trail : Trail) (inside : index < p.length) (free : ¬p.Deferred index) (next : Nat)
    (leads : (p.advance lookup index passed trail).1 = .ok next) (bound : next < p.length) : ¬p.Deferred next := by
  obtain ⟨other, led, _, rests⟩ := advance_safe p accepted lookup index passed trail inside free
  obtain rfl : other = next := Except.ok.inj (led.symm.trans leads)
  exact rests bound

end Playlist

/-! ### The caret -/

def Player.Navigable (player : Player) : Prop :=
  ∀ loaded ∈ player.playback.loaded, ¬loaded.playlist.Deferred player.playback.index

theorem navigable_still (before after : Player) (there : after.playback.loaded = before.playback.loaded)
    (here : after.playback.index = before.playback.index) (navigable : before.Navigable) : after.Navigable := by
  rw [Player.Navigable, there, here]
  exact navigable

theorem navigable_at (player : Player) (loaded : Loaded) (there : player.playback.loaded = some loaded)
    (open_ : ¬loaded.playlist.Deferred player.playback.index) : player.Navigable := by
  intro other found
  obtain rfl : loaded = other := Option.some.inj (there.symm.trans found)
  exact open_

theorem landing_navigable (player : Player) (sound : player.Sound) (loaded : Loaded) (index : Nat)
    (reaches : player.Reaches loaded index) (admitted : loaded.playlist.ensureNavigable index = .ok ()) :
    ¬loaded.playlist.Deferred index := by
  obtain ⟨name, library, required, bound⟩ := reaches
  have accepted := (player.library.require_sound sound.library name loaded library required).1
  exact (loaded.playlist.navigable_iff accepted index bound).mp admitted

-- A move keeps the caret out of delay blocks, unless it goes back from a call.
theorem step_navigable (activity : Activity) (player : Player) (moved : Activity × Player)
    (step : activity.step? player = some moved) (sound : player.Sound) (onward : activity.goesBack = false)
    (navigable : player.Navigable) : moved.2.Navigable := by
  cases step_shift step with
  | still caret => exact navigable_still player moved.2 (congrArg Caret.loaded caret) (congrArg Caret.index caret) navigable
  | settled passed caret =>
      exact navigable_still player moved.2 (congrArg Caret.loaded caret) (congrArg Caret.index caret) navigable
  | advanced pilot loaded next _ _ there _ leads bound caret =>
      have here : moved.2.playback.index = next := congrArg Caret.index caret
      refine navigable_at moved.2 loaded (congrArg Caret.loaded caret) (here ▸ ?_)
      exact loaded.playlist.advance_open (sound.accepted loaded there) _ _ _ _ (sound.bound loaded there)
        (navigable loaded there) next leads bound
  | landed loaded index executed _ reaches admitted caret =>
      have here : moved.2.playback.index = index := congrArg Caret.index caret
      refine navigable_at moved.2 loaded (congrArg Caret.loaded caret) (here ▸ ?_)
      exact landing_navigable player sound loaded index reaches (admitted.resolve_left (Bool.eq_false_iff.mp onward))
  | cleared _ caret =>
      have nowhere : moved.2.playback.loaded = none := congrArg Caret.loaded caret
      exact fun other found => absurd (nowhere ▸ found) (Option.not_mem_none other)

-- A caret that is in a delay block stays there only where it is or is taken on along the playlist.
theorem step_strays (activity : Activity) (player : Player) (moved : Activity × Player)
    (step : activity.step? player = some moved) (sound : player.Sound) (onward : activity.goesBack = false) :
    moved.2.Navigable ∨ moved.2.playback.epoch = player.playback.epoch ∨ ∃ pilot, activity = .advancing pilot := by
  cases step_shift step with
  | still caret => exact .inr (.inl (congrArg Caret.epoch caret))
  | settled passed caret => exact .inr (.inl (congrArg Caret.epoch caret))
  | advanced pilot _ _ mover _ _ _ _ _ _ => exact .inr (.inr ⟨pilot, mover⟩)
  | landed loaded index executed _ reaches admitted caret =>
      have here : moved.2.playback.index = index := congrArg Caret.index caret
      refine .inl (navigable_at moved.2 loaded (congrArg Caret.loaded caret) (here ▸ ?_))
      exact landing_navigable player sound loaded index reaches (admitted.resolve_left (Bool.eq_false_iff.mp onward))
  | cleared _ caret =>
      have nowhere : moved.2.playback.loaded = none := congrArg Caret.loaded caret
      exact .inl fun other found => absurd (nowhere ▸ found) (Option.not_mem_none other)

namespace World

-- The caret stays, or a pilot takes it on along the playlist.
def Drifts (world : World) : List Move → Prop
  | [] => True
  | move :: moves =>
      ((world.move move).player.playback.epoch = world.player.playback.epoch ∨
        ∃ pilot, world.mover? move = some (.advancing pilot)) ∧ (world.move move).Drifts moves

theorem drifts_concat (world : World) (moves : List Move) (move : Move) (drifts : world.Drifts moves)
    (last : ((world.after moves).move move).player.playback.epoch = (world.after moves).player.playback.epoch ∨
      ∃ pilot, (world.after moves).mover? move = some (.advancing pilot)) : world.Drifts (moves ++ [move]) := by
  induction moves generalizing world with
  | nil => exact ⟨last, trivial⟩
  | cons first moves ih => exact ⟨drifts.1, ih _ drifts.2 last⟩

-- The caret has come back from a call into a delay block, and has not leapt elsewhere since.
def Strayed (start : World) (moves : List Move) : Prop :=
  ∃ earlier back later activity, moves = earlier ++ back :: later ∧ (start.after earlier).mover? back = some activity ∧
    activity.goesBack = true ∧ ¬((start.after earlier).move back).player.Navigable ∧
    ((start.after earlier).move back).Drifts later

theorem strayed_concat (start : World) (moves : List Move) (move : Move) (strayed : start.Strayed moves)
    (last : ((start.after moves).move move).player.playback.epoch = (start.after moves).player.playback.epoch ∨
      ∃ pilot, (start.after moves).mover? move = some (.advancing pilot)) : start.Strayed (moves ++ [move]) := by
  obtain ⟨earlier, back, later, activity, rfl, mover, returns, inside, drifts⟩ := strayed
  refine ⟨earlier, back, later ++ [move], activity, by simp, mover, returns, inside, drifts_concat _ later move drifts ?_⟩
  rw [after_append, after_cons] at last
  exact last

-- The induction is on the run from its end: only the last move matters once the caret is out of delay blocks.
theorem navigable_or_strayed (start : World) (numbered : start.Numbered) (sound : start.player.Sound)
    (nowhere : start.player.playback.loaded = none) (moves : List Move) (supplied : start.Supplied moves) :
    (start.after moves).player.Sound ∧ ((start.after moves).player.Navigable ∨ start.Strayed moves) := by
  induction moves using List.reverseRecOn with
  | nil => exact ⟨sound, .inl fun other found => absurd (nowhere ▸ found) (Option.not_mem_none other)⟩
  | append_singleton moves move ih =>
      obtain ⟨before, fair, _⟩ := (supplied_append start moves [move]).mp supplied
      obtain ⟨sound, place⟩ := ih before
      have there := after_numbered start numbered moves
      rw [after_concat]
      refine ⟨move_sound _ there move fair sound, ?_⟩
      cases (move_comes _ there move).1 with
      | stays clock requests player =>
          refine place.imp (fun navigable => player ▸ navigable) fun strayed => ?_
          exact strayed_concat start moves move strayed (.inl (by rw [player]))
      | moves activity successor others player stage mover _ _ step told _ =>
          have playback : ((start.after moves).move move).player.playback = player.playback := by rw [told]
          have same : ((start.after moves).move move).player.Navigable ↔ player.Navigable := by
            rw [Player.Navigable, playback, Player.Navigable]
          cases returns : activity.goesBack with
          | true =>
              by_cases navigable : ((start.after moves).move move).player.Navigable
              · exact .inl navigable
              · exact .inr ⟨moves, move, [], activity, rfl, mover, returns, navigable, trivial⟩
          | false =>
              rcases place with navigable | strayed
              · exact .inl (same.mpr (step_navigable activity _ _ step sound returns navigable))
              · rcases step_strays activity _ _ step sound returns with navigable | still | ⟨pilot, advances⟩
                · exact .inl (same.mpr navigable)
                · exact .inr (strayed_concat start moves move strayed (.inl (by rw [playback]; exact still)))
                · exact .inr (strayed_concat start moves move strayed (.inr ⟨pilot, advances ▸ mover⟩))

-- Whatever is asked of a player whose scripts are accepted, and in whatever order its activities go on: the caret is outside
-- all delay blocks, unless it has come back from a call into one.
theorem caret_navigable_unless_strayed (start : World) (numbered : start.Numbered) (library : start.player.library.Sound)
    (nowhere : start.player.playback.loaded = none) (moves : List Move) (supplied : start.Supplied moves) :
    let player := (start.after moves).player
    (∀ loaded, player.playback.loaded = some loaded →
      loaded.playlist.ensureNavigable player.playback.index = .ok () ∧
        ¬∃ host, loaded.playlist.IsDelay host ∧ loaded.playlist.Encloses host player.playback.index) ∨
    start.Strayed moves := by
  intro player
  have nothing : start.player.Sound :=
    ⟨library, fun other found => absurd (nowhere ▸ found) (Option.not_mem_none other),
      fun other found => absurd (nowhere ▸ found) (Option.not_mem_none other)⟩
  obtain ⟨sound, place⟩ := navigable_or_strayed start numbered nothing nowhere moves supplied
  refine place.imp_left fun navigable loaded there => ?_
  have accepted := sound.accepted loaded there
  exact ⟨(loaded.playlist.navigable_iff accepted _ (sound.bound loaded there)).mpr (navigable loaded there),
    navigable loaded there⟩

-- A delay block calls another script, which returns.
def calling : World where
  player :=
    { draws := ⟨fun _ => 0, 0⟩
      library :=
        { scripts :=
            [⟨0, "road", #[⟨0, ⟨"road", 0, 0⟩, none, true, .delay 10⟩,
                ⟨1, ⟨"road", 1, 0⟩, none, true, .gosub ⟨some "wood", none⟩⟩,
                ⟨0, ⟨"road", 2, 0⟩, none, true, .waitInput⟩, ⟨0, ⟨"road", 3, 0⟩, none, true, .stop⟩]⟩,
              ⟨1, "wood", #[⟨0, ⟨"wood", 0, 0⟩, none, true, .waitInput⟩, ⟨0, ⟨"wood", 1, 0⟩, none, true, .ret⟩]⟩]
          nextHandle := 2 } }

def thereAndBack : List Move :=
  List.flatten
    [[.ask (.play "road" none), .front, .leave], List.replicate 11 (.thread 0), [.pass 10], List.replicate 6 (.thread 1),
      [.ask (.input .continue), .front, .leave], List.replicate 7 (.thread 0),
      [.ask (.input .continue), .front, .leave], List.replicate 4 (.thread 0)]

theorem calling_sound : calling.player.library.Sound := by
  intro loaded member
  refine (Playlist.fault_none_iff _).mp (Option.isNone_iff_eq_none.mp ?_)
  exact (by decide : ∀ loaded ∈ calling.player.library.scripts, loaded.playlist.fault?.isNone = true) loaded member

theorem returned_caret_strayed :
    calling.player.library.Sound ∧ calling.Supplied thereAndBack ∧ calling.Strayed thereAndBack := by
  have supplied : calling.Supplied thereAndBack := by decide +kernel
  refine ⟨calling_sound, supplied,
    (caret_navigable_unless_strayed calling (numbered_new _ rfl) calling_sound rfl thereAndBack supplied).resolve_left ?_⟩
  intro navigable
  have inside : (calling.after thereAndBack).player.playback.loaded.all (fun loaded =>
      (loaded.playlist.ensureNavigable (calling.after thereAndBack).player.playback.index).isOk) = false := by
    decide +kernel
  cases there : (calling.after thereAndBack).player.playback.loaded with
  | none =>
      rw [there] at inside
      cases inside
  | some loaded =>
      rw [there, Option.all_some, (navigable loaded there).1] at inside
      cases inside

-- The caret is back at the call, inside the delay block, and playback goes on.
theorem return_leads_into_delay_block :
    let player := (calling.after thereAndBack).player
    calling.Orderly thereAndBack ∧ (calling.player.library.scripts.all fun loaded => loaded.playlist.fault?.isNone) = true ∧
      (player.playback.script?, player.playback.index, player.playback.playing) = (some "road", 1, true) ∧
      (player.playback.loaded.all fun loaded => (loaded.playlist.ensureNavigable player.playback.index).isOk) = false ∧
      (player.playback.loaded.bind fun loaded => loaded.playlist.deferredHost? player.playback.index) = some 0 := by
  decide +kernel

end World

end Storyline
