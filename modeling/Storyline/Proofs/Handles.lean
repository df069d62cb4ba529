import Storyline.Proofs.ReturnVisits

set_option autoImplicit false

/-!
Handles. Every playlist that is put to use gets a handle of its own, under which its visit flags are kept. All handles that are
in use were given out before, wherever the playlists are: in the library, under the caret, or played beside it. So a playlist
that is put to use has no flags yet. Along the way every script keeps what all scripts have that are let in.
-/

namespace Storyline

/-! ### The library -/

namespace Library

def Holds (fit : Playlist → Prop) (library : Library) (loaded : Loaded) : Prop :=
  loaded.handle < library.nextHandle ∧ fit loaded.playlist

def Issued (fit : Playlist → Prop) (library : Library) : Prop := ∀ loaded ∈ library.scripts, library.Holds fit loaded

variable {fit : Playlist → Prop}

theorem Holds.later {before after : Library} {loaded : Loaded} (holds : before.Holds fit loaded)
    (grows : before.nextHandle ≤ after.nextHandle) : after.Holds fit loaded :=
  ⟨Nat.lt_of_lt_of_le holds.1 grows, holds.2⟩

theorem insert_issued (library : Library) (issued : library.Issued fit) (playlist : Playlist) (fits : fit playlist) :
    (library.insert playlist).2.Issued fit := by
  intro loaded member
  rcases Tables.mem_put put_places member with rfl | old
  · exact ⟨Nat.lt_succ_self _, fits⟩
  · exact (issued loaded old).later (Nat.le_succ _)

theorem require_issued (reads : ∀ registry compiled playlist, Registry.playlist registry compiled = .ok playlist → fit playlist)
    (library : Library) (name : String) (loaded : Loaded) (after : Library)
    (found : library.require name = .ok (loaded, after)) :
    library.nextHandle ≤ after.nextHandle ∧ (library.Issued fit → after.Issued fit ∧ after.Holds fit loaded) := by
  rcases library.require_cases name loaded after found with ⟨here, rfl⟩ | ⟨_, text, playlist, _, read, added⟩
  · exact ⟨Nat.le_refl _, fun issued => ⟨issued, issued loaded (List.mem_of_find?_eq_some here)⟩⟩
  · obtain ⟨rfl, rfl⟩ := Prod.mk.inj added
    obtain ⟨compiled, built⟩ := Registry.text_accepted library.registry text playlist read
    have fits := reads library.registry compiled playlist built
    exact ⟨Nat.le_succ _, fun issued => ⟨insert_issued library issued playlist fits, Nat.lt_succ_self _, fits⟩⟩

theorem Takes.issued (reads : ∀ registry compiled playlist, Registry.playlist registry compiled = .ok playlist → fit playlist)
    {before after : Library} {loaded : Loaded} (takes : before.Takes loaded after) :
    before.nextHandle ≤ after.nextHandle ∧ (before.Issued fit → after.Issued fit ∧ loaded.handle < after.nextHandle) := by
  cases takes with
  | found name required =>
      obtain ⟨grows, issued⟩ := before.require_issued reads name loaded after required
      exact ⟨grows, fun held => ⟨(issued held).1, (issued held).2.1⟩⟩
  | loads playlist same =>
      obtain ⟨rfl, rfl⟩ := Prod.mk.inj same
      exact ⟨Nat.le_succ _, fun held => ⟨fun other member => (held other member).later (Nat.le_succ _), Nat.lt_succ_self _⟩⟩

end Library

/-! ### The player -/

namespace Player

structure Issued (fit : Playlist → Prop) (player : Player) : Prop where
  library : player.library.Issued fit
  caret : ∀ loaded ∈ player.playback.loaded, player.library.Holds fit loaded
  scheduled : ∀ run ∈ player.scheduled, run.loaded.handle < player.library.nextHandle

structure Issues (fit : Playlist → Prop) (before after : Player) : Prop where
  grows : before.library.nextHandle ≤ after.library.nextHandle
  issued : before.Issued fit → after.Issued fit

end Player

/-! ### One move -/

section Steps

variable {fit : Playlist → Prop}
  (reads : ∀ registry compiled playlist, Registry.playlist registry compiled = .ok playlist → fit playlist)

include reads in
theorem step_issues (activity : Activity) (player : Player) (moved : Activity × Player)
    (step : activity.step? player = some moved) (brings : activity.Brings fit) : Player.Issues fit player moved.2 := by
  cases inserts : activity.inserts with
  | true =>
      obtain ⟨playlist, own, after⟩ := step_inserts step inserts
      rw [after]
      refine ⟨Nat.le_succ _, fun issued => ⟨player.library.insert_issued issued.library playlist (brings playlist own),
        fun loaded there => (issued.caret loaded there).later (Nat.le_succ _),
        fun run member => Nat.lt_succ_of_lt (issued.scheduled run member)⟩⟩
  | false =>
      have step := step_reads step inserts
      have grows : player.library.nextHandle ≤ moved.2.library.nextHandle := by
        rcases step.library with same | ⟨loaded, takes⟩
        · exact Nat.le_of_eq (by rw [same])
        · exact (takes.issued reads).1
      refine ⟨grows, fun issued => ⟨?_, fun loaded there => ?_, fun run member => ?_⟩⟩
      · rcases step.library with same | ⟨loaded, takes⟩
        · exact same ▸ issued.library
        · exact ((takes.issued reads).2 issued.library).1
      · rcases step.caret loaded there with old | ⟨name, required⟩
        · exact (issued.caret loaded old).later grows
        · exact ((player.library.require_issued reads name loaded _ required).2 issued.library).2
      · rcases step.runs run member with old | takes
        · exact Nat.lt_of_lt_of_le (issued.scheduled run old) grows
        · exact ((takes.issued reads).2 issued.library).2

end Steps

-- Whoever plays a playlist beside the caret has played it before, under the same layer.
theorem step_plays {activity : Activity} {player : Player} {moved : Activity × Player}
    (step : activity.step? player = some moved) (run : Run) (plays : moved.1.plays? = some run) :
    ∃ own, activity.plays? = some own ∧ run.loaded = own.loaded ∧ run.full = own.full := by
  obtain ⟨successor, after⟩ := moved
  cases activity.step_becomes player _ step with
  | rests _ _ rests =>
      cases successor with
      | deferred _ _ | transient _ | running _ _ => cases rests
      | _ => cases plays
  | holds _ _ _ _ _ hold idle =>
      cases successor with
      | deferred _ _ | transient _ => cases hold
      | running _ _ => cases idle
      | _ => cases plays
  | goes _ _ caller =>
      cases caller with
      | run own =>
          obtain rfl := Option.some.inj plays
          exact ⟨own, rfl, rfl, rfl⟩
      | _ => cases plays
  | plays _ own _ played same =>
      obtain rfl := Option.some.inj plays
      exact ⟨own, played, by rw [same], by rw [same]⟩
  | starts own =>
      obtain rfl := Option.some.inj plays
      exact ⟨own, rfl, rfl, rfl⟩
  | listens _ _ _ _ again =>
      cases successor with
      | deferred _ _ | transient _ | running _ _ => cases again
      | _ => cases plays
  | _ => cases plays

/-! ### Whole runs -/

namespace World

-- Every handle in use was given out.
structure Issued (fit : Playlist → Prop) (world : World) : Prop where
  player : world.player.Issued fit
  played : ∀ activity ∈ world.activities, ∀ run, activity.plays? = some run →
    run.loaded.handle < world.player.library.nextHandle
  raised : ∀ flag ∈ world.player.raised, flag.1 < world.player.library.nextHandle

theorem brings_anything (world : World) (moves : List Move) : world.Brings (fun _ => True) moves := by
  induction moves generalizing world with
  | nil => trivial
  | cons move moves ih => exact ⟨fun _ _ _ _ => trivial, ih _⟩

theorem mem_scheduled (player : Player) (activity : Activity) (spawned : activity ∈ player.spawns) (run : Run)
    (plays : activity.plays? = some run) : run ∈ player.scheduled := by
  obtain ⟨notice, told, same⟩ := List.mem_filterMap.mp spawned
  refine List.mem_filterMap.mpr ⟨notice, List.mem_reverse.mp told, ?_⟩
  simp [Notice.plays?, same, plays]

theorem raised_issued {fit : Playlist → Prop} (world : World) (issued : world.Issued fit) (activity : Activity)
    (member : activity ∈ world.activities) (moved : Activity × Player) (step : activity.step? world.player = some moved)
    (flag : Nat × Nat) (raised : flag ∈ moved.2.raised) : flag.1 < world.player.library.nextHandle := by
  by_cases old : flag ∈ world.player.raised
  · exact issued.raised flag old
  · have within (inside : world.player.Inside flag) : flag.1 < world.player.library.nextHandle := by
      obtain ⟨loaded, there, own, _⟩ := inside
      exact own ▸ (issued.player.caret loaded there).1
    rcases step_raises step flag old raised with abandons | ⟨inside, _⟩
    · cases abandons with
      | leapt _ inside _ => exact within inside
      | omitted _ _ inside _ _ _ => exact within inside
      | beside run mover own _ =>
          have plays : activity.plays? = some run := by
            cases activity with
            | transient other => exact mover
            | running execution caller =>
                cases caller with
                | run other => exact mover
                | _ => cases mover
            | _ => cases mover
          rw [own]
          exact issued.played activity member run plays
    · exact within inside

section Runs

variable {fit : Playlist → Prop}
  (reads : ∀ registry compiled playlist, Registry.playlist registry compiled = .ok playlist → fit playlist)
include reads

theorem move_issued (world : World) (numbered : world.Numbered) (issued : world.Issued fit) (move : Move)
    (brings : ∀ activity, world.mover? move = some activity → activity.Brings fit) : (world.move move).Issued fit := by
  cases (move_comes world numbered move).1 with
  | stays clock requests player activities =>
      obtain ⟨⟨library, caret, scheduled⟩, played, raised⟩ := issued
      refine ⟨by rw [player]; exact ⟨library, caret, scheduled⟩, fun activity member run plays => ?_,
        by rw [player]; exact raised⟩
      rw [player]
      rcases asked_or_before activities member with ⟨request, rfl⟩ | old
      · cases plays
      · exact played activity old run plays
  | moves activity successor others player stage mover there _ step told activities =>
      have here : activity ∈ world.activities := there.mem_iff.mpr List.mem_cons_self
      have issues := step_issues reads activity world.player _ step (brings activity mover)
      obtain ⟨library, caret, scheduled⟩ := issues.issued issued.player
      refine ⟨by rw [told]; exact ⟨library, caret, fun _ none_told => absurd none_told List.not_mem_nil⟩,
        fun other member run plays => ?_, fun flag raised => ?_⟩
      · rw [told]
        rcases List.mem_cons.mp (activities.subset member) with rfl | member
        · obtain ⟨own, played, same, _⟩ := step_plays step run plays
          rw [same]
          exact Nat.lt_of_lt_of_le (issued.played activity here own played) issues.grows
        · rcases List.mem_append.mp member with old | spawned
          · have before := issued.played other (there.mem_iff.mpr (List.mem_cons_of_mem _ old)) run plays
            exact Nat.lt_of_lt_of_le before issues.grows
          · exact scheduled run (mem_scheduled player other spawned run plays)
      · rw [told] at raised ⊢
        exact Nat.lt_of_lt_of_le (raised_issued world issued activity here _ step flag raised) issues.grows

theorem issued_after (world : World) (numbered : world.Numbered) (issued : world.Issued fit) (moves : List Move)
    (brings : world.Brings fit moves) : (world.after moves).Issued fit := by
  induction moves generalizing world with
  | nil => exact issued
  | cons move moves ih =>
      exact ih _ (move_comes world numbered move).2 (move_issued reads world numbered issued move brings.1) brings.2

end Runs

end World

theorem Player.load_clear (player : Player) (raised : ∀ flag ∈ player.raised, flag.1 < player.library.nextHandle)
    (playlist : Playlist) : (player.trail (player.library.load playlist).1).raised = [] := by
  simp only [trail, List.map_eq_nil_iff, List.filter_eq_nil_iff, decide_eq_true_eq]
  intro flag member
  exact Nat.ne_of_lt (raised flag member)

theorem World.clear_after (start : World) (moves : List Move) (numbered : start.Numbered) (nobody : start.activities = [])
    (unraised : start.player.raised = []) (nowhere : start.player.playback.loaded = none)
    (handles : ∀ loaded ∈ start.player.library.scripts, loaded.handle < start.player.library.nextHandle)
    (playlist : Playlist) :
    let player := (start.after moves).player
    (player.trail (player.library.load playlist).1).raised = [] := by
  have untold : start.player.scheduled = [] := by rw [Player.scheduled, numbered.told]; rfl
  have issued : start.Issued fun _ => True := by
    refine ⟨⟨fun loaded member => ⟨handles loaded member, trivial⟩, ?_, ?_⟩, ?_, ?_⟩
    · intro loaded here
      rw [nowhere] at here
      cases here
    · rw [untold]
      exact fun _ member => absurd member List.not_mem_nil
    · rw [nobody]
      exact fun _ member => absurd member List.not_mem_nil
    · rw [unraised]
      exact fun _ member => absurd member List.not_mem_nil
  have after := issued_after (fun _ _ _ _ => trivial) start numbered issued moves (start.brings_anything moves)
  exact (start.after moves).player.load_clear after.raised playlist

end Storyline
