import Storyline.Proofs.Footprint
import Storyline.Proofs.Retention

set_option autoImplicit false

/-!
What else the operations of a player leave alone: its scripts, the hosts that are due for their return visit, the commands in
flight and what was announced of them. The two layers that end commands early are only ever raised. Playback is on as
announced, a new loop has a new number, and nothing but the visit of a command adds to what can be rolled back to.
-/

namespace Storyline

def Notice.execution? (notice : Notice) : Option Execution := notice.spawned?.bind Activity.execution?

-- Commands that were started for nobody and that are not under way yet, newest first.
def Player.flights (player : Player) : List Execution := player.outbox.filterMap Notice.execution?

def Notice.plays? (notice : Notice) : Option Run := notice.spawned?.bind Activity.plays?

-- Playlists that are to be played beside the caret and that are not under way yet, newest first.
def Player.scheduled (player : Player) : List Run := player.outbox.filterMap Notice.plays?

-- What goes on by itself. Everything else is made by a request, and lasts as long as the request does.
def Activity.isMinor : Activity → Bool
  | .steering (.trip _) | .advancing (.trip _) | .running _ (.pilot (.trip _) _) => false
  | .completing _ (.travel _) | .asked _ | .draining _ | .sleeping _ | .untilStopped => false
  | _ => true

-- Activities of any other sort that were started.
def Player.strays (player : Player) : List Activity :=
  player.outbox.filterMap fun notice => notice.spawned?.filter fun activity => !activity.isNew

def Event.ended? : Event → Option (Spot × Lane)
  | .commandExecuted spot _ lane => some (spot, lane)
  | _ => none

-- Commands that have come to their end, newest first.
def Player.endings (player : Player) : List (Spot × Lane) := player.events.filterMap Event.ended?

def Event.turn? : Event → Option Bool
  | .started _ => some true
  | .stopped _ _ => some false
  | _ => none

-- When playback was announced to be on or off, newest first.
def Player.turns (player : Player) : List Bool := player.events.filterMap Event.turn?

-- Playback is as last announced, and off at first.
def Player.Mirrored (player : Player) : Prop := player.playback.playing = (player.turns.head?).getD false

-- What a snapshot tells, wherever it is kept.
def Snapshot.memory (snapshot : Snapshot) : Snapshot := { snapshot with id := 0, permitted := false }

def Player.memories (player : Player) : List Snapshot :=
  (player.playback.pending.toList ++ player.history.snapshots).map Snapshot.memory

-- The place that can be rolled back to as soon as the input wait is raised.
def Player.latest? (player : Player) : Option Spot :=
  match player.rollbackConfig.captureEveryCommand, player.playback.pending with
  | false, some snapshot => some snapshot.spot
  | _, _ => player.history.snapshots.getLast?.map Snapshot.spot

-- Playback is turned on by nothing but a new loop.
structure Rises (before after : Player) : Prop where
  grows : before.playback.generation ≤ after.playback.generation
  loop : after.playback.playing = true →
    before.playback.playing = true ∨ before.playback.generation < after.playback.generation

structure Stock where
  library : Library
  scheduled : List Run
  raised : List (Nat × Nat)
  executing : Executing
  flights : List Execution
  launches : List (Spot × Lane)
  endings : List (Spot × Lane)
  abandoned : Nat
  rendezvous : Rendezvous String
  strays : List Activity

structure Mood where
  playing : Bool
  generation : Nat
  turns : List Bool
  pending : Option Snapshot
  snapshots : List Snapshot
  captureEvery : Bool

def Player.mood (player : Player) : Mood where
  playing := player.playback.playing
  generation := player.playback.generation
  turns := player.turns
  pending := player.playback.pending
  snapshots := player.history.snapshots
  captureEvery := player.rollbackConfig.captureEveryCommand

def Player.stock (player : Player) : Stock where
  library := player.library
  scheduled := player.scheduled
  raised := player.raised
  executing := player.executing
  flights := player.flights
  launches := player.launches
  endings := player.endings
  abandoned := player.abandoned
  rendezvous := player.rendezvous
  strays := player.strays

-- What an operation may change.
structure Reach where
  library : Bool := false
  raised : Bool := false
  executing : Bool := false
  captures : Bool := false
  clears : Bool := false
  forgets : Bool := false
  meets : Bool := false

def Reach.le (small large : Reach) : Bool :=
  (!small.library || large.library) && (!small.raised || large.raised) && (!small.executing || large.executing) &&
    (!small.captures || large.captures) && (!small.clears || large.clears) && (!small.forgets || large.forgets) &&
    (!small.meets || large.meets)

structure Spares (reach : Reach) (before after : Player) : Prop where
  library : reach.library = false → after.library = before.library
  scheduled : reach.library = false → after.scheduled = before.scheduled
  raised : reach.raised = false → after.raised = before.raised
  executing : reach.executing = false → after.executing = before.executing ∧ after.flights = before.flights
  layers : ∀ token, after.interrupt? token = none → before.interrupt? token = none
  journal : reach.executing = false → after.launches = before.launches ∧ after.endings = before.endings
  recalls : reach.captures = false → after.memories ⊆ before.memories
  mirrors : reach.clears = false → before.Mirrored → after.Mirrored
  rises : Rises before after
  strays : after.strays = before.strays
  latest : reach.captures = false → reach.forgets = false → after.latest? = before.latest?
  layered : ∀ run ∈ after.scheduled, run ∈ before.scheduled ∨ run.full ≤ after.abandoned
  meets : reach.meets = false → after.rendezvous = before.rendezvous
  ages : before.rendezvous.generation ≤ after.rendezvous.generation

theorem Rises.trans {before between after : Player} (first : Rises before between) (second : Rises between after) :
    Rises before after := by
  refine ⟨Nat.le_trans first.grows second.grows, fun playing => ?_⟩
  rcases second.loop playing with before | later
  · exact (first.loop before).imp_right fun less => Nat.lt_of_lt_of_le less second.grows
  · exact .inr (Nat.lt_of_le_of_lt first.grows later)

theorem Player.interrupt_none (player : Player) (token : Token) :
    player.interrupt? token = none ↔ ¬token.full < player.abandoned ∧ player.rendezvous.raised token.completion = false := by
  unfold interrupt? Interrupt.of? isCompleting isAbandoned
  by_cases given : token.full < player.abandoned
  · simp [given]
  · by_cases raised : player.rendezvous.raised token.completion = true <;> simp [given, raised]

namespace Spares

variable {reach : Reach} {before between after : Player}

theorem apart (stock : after.stock = before.stock) (recalls : after.memories ⊆ before.memories)
    (mirrors : before.Mirrored → after.Mirrored) (rises : Rises before after)
    (latest : reach.forgets = false → after.latest? = before.latest?) : Spares reach before after := by
  have abandoned : after.abandoned = before.abandoned := congrArg Stock.abandoned stock
  have rendezvous : after.rendezvous = before.rendezvous := congrArg Stock.rendezvous stock
  have scheduled : after.scheduled = before.scheduled := congrArg Stock.scheduled stock
  refine ⟨fun _ => congrArg Stock.library stock, fun _ => scheduled, fun _ => congrArg Stock.raised stock,
    fun _ => ⟨congrArg Stock.executing stock, congrArg Stock.flights stock⟩, fun token quiet => ?_,
    fun _ => ⟨congrArg Stock.launches stock, congrArg Stock.endings stock⟩, fun _ => recalls, fun _ => mirrors, rises,
    congrArg Stock.strays stock, fun _ => latest, fun run member => .inl (scheduled ▸ member),
    fun _ => rendezvous, Nat.le_of_eq (congrArg Rendezvous.generation rendezvous.symm)⟩
  rw [Player.interrupt_none, abandoned, rendezvous] at quiet
  exact (before.interrupt_none token).mpr quiet

end Spares

section Mood

variable {before after : Player} (mood : after.mood = before.mood)
include mood

theorem recalls_of_mood : after.memories ⊆ before.memories := by
  have pending : after.playback.pending = before.playback.pending := congrArg Mood.pending mood
  have snapshots : after.history.snapshots = before.history.snapshots := congrArg Mood.snapshots mood
  rw [Player.memories, pending, snapshots]
  exact List.Subset.refl _

theorem latest_of_mood : after.latest? = before.latest? := by
  have pending : after.playback.pending = before.playback.pending := congrArg Mood.pending mood
  have snapshots : after.history.snapshots = before.history.snapshots := congrArg Mood.snapshots mood
  have captureEvery : after.rollbackConfig.captureEveryCommand = before.rollbackConfig.captureEveryCommand :=
    congrArg Mood.captureEvery mood
  rw [Player.latest?, Player.latest?, captureEvery, pending, snapshots]

theorem mirrors_of_mood (mirrored : before.Mirrored) : after.Mirrored := by
  have playing : after.playback.playing = before.playback.playing := congrArg Mood.playing mood
  have turns : after.turns = before.turns := congrArg Mood.turns mood
  rw [Player.Mirrored, playing, turns]
  exact mirrored

theorem rises_of_mood : Rises before after := by
  have playing : after.playback.playing = before.playback.playing := congrArg Mood.playing mood
  have generation : after.playback.generation = before.playback.generation := congrArg Mood.generation mood
  exact ⟨Nat.le_of_eq generation.symm, fun on => .inl (playing ▸ on)⟩

end Mood

namespace Spares

variable {reach : Reach} {before between after : Player}

theorem beside (same : (after.stock, after.mood) = (before.stock, before.mood)) : Spares reach before after :=
  have mood := congrArg Prod.snd same
  .apart (congrArg Prod.fst same) (recalls_of_mood mood) (mirrors_of_mood mood) (rises_of_mood mood)
    fun _ => latest_of_mood mood

-- A change of what is held in stock only.
theorem of_stock (library : reach.library = false → after.library = before.library)
    (scheduled : reach.library = false → after.scheduled = before.scheduled)
    (raised : reach.raised = false → after.raised = before.raised)
    (executing : reach.executing = false → after.executing = before.executing ∧ after.flights = before.flights)
    (layers : ∀ token, after.interrupt? token = none → before.interrupt? token = none)
    (journal : reach.executing = false → after.launches = before.launches ∧ after.endings = before.endings)
    (same : (after.strays, after.mood) = (before.strays, before.mood))
    (layered : ∀ run ∈ after.scheduled, run ∈ before.scheduled ∨ run.full ≤ after.abandoned)
    (meets : reach.meets = false → after.rendezvous = before.rendezvous)
    (ages : before.rendezvous.generation ≤ after.rendezvous.generation) : Spares reach before after :=
  have mood := congrArg Prod.snd same
  ⟨library, scheduled, raised, executing, layers, journal, fun _ => recalls_of_mood mood, fun _ => mirrors_of_mood mood,
    rises_of_mood mood, congrArg Prod.fst same, fun _ _ => latest_of_mood mood, layered, meets, ages⟩

theorem refl (player : Player) : Spares reach player player := beside rfl

theorem abandons (spares : Spares reach before after) : before.abandoned ≤ after.abandoned := by
  have quiet : after.interrupt? ⟨after.abandoned, after.rendezvous.generation + 1⟩ = none := by
    refine (after.interrupt_none _).mpr ⟨Nat.lt_irrefl _, ?_⟩
    simp [Rendezvous.raised]
  exact Nat.le_of_not_lt ((before.interrupt_none _).mp (spares.layers _ quiet)).1

theorem trans (first : Spares reach before between) (second : Spares reach between after) : Spares reach before after where
  library still := (second.library still).trans (first.library still)
  scheduled still := (second.scheduled still).trans (first.scheduled still)
  raised still := (second.raised still).trans (first.raised still)
  executing still :=
    ⟨(second.executing still).1.trans (first.executing still).1, (second.executing still).2.trans (first.executing still).2⟩
  layers token quiet := first.layers token (second.layers token quiet)
  journal still :=
    ⟨(second.journal still).1.trans (first.journal still).1, (second.journal still).2.trans (first.journal still).2⟩
  recalls still := fun _ member => first.recalls still (second.recalls still member)
  mirrors still mirrored := second.mirrors still (first.mirrors still mirrored)
  rises := first.rises.trans second.rises
  strays := second.strays.trans first.strays
  latest still keeps := (second.latest still keeps).trans (first.latest still keeps)
  layered run member :=
    (second.layered run member).elim
      (fun old => (first.layered run old).imp_right fun below => Nat.le_trans below second.abandons) .inr
  meets still := (second.meets still).trans (first.meets still)
  ages := Nat.le_trans first.ages second.ages

theorem wider {small large : Reach} (spares : Spares small before after) (le : small.le large = true) :
    Spares large before after := by
  have narrow {one other : Bool} (below : (!one || other) = true) (still : other = false) : one = false := by
    simpa [still] using below
  simp only [Reach.le, Bool.and_eq_true] at le
  obtain ⟨⟨⟨⟨⟨⟨library, raised⟩, executing⟩, captures⟩, clears⟩, forgets⟩, meets⟩ := le
  exact ⟨fun still => spares.library (narrow library still), fun still => spares.scheduled (narrow library still),
    fun still => spares.raised (narrow raised still), fun still => spares.executing (narrow executing still), spares.layers,
    fun still => spares.journal (narrow executing still), fun still => spares.recalls (narrow captures still),
    fun still => spares.mirrors (narrow clears still), spares.rises, spares.strays,
    fun still keeps => spares.latest (narrow captures still) (narrow forgets keeps), spares.layered,
    fun still => spares.meets (narrow meets still), spares.ages⟩

end Spares

/-! ### Edits -/

def Facet.reach : Facet → Reach
  | .library | .playlists => { library := true }
  | .visits => { raised := true }
  | .flights | .launch | .ending | .parking => { executing := true }
  | .snapshot => { captures := true }
  | .history => { forgets := true }
  | .rendezvous => { meets := true }
  | .playback => { clears := true, forgets := true }
  | .everything => { raised := true, clears := true, forgets := true }
  | _ => {}

namespace Player

variable {reach : Reach} (player : Player)

theorem permit_last_memories (snapshots : List Snapshot) :
    (History.permitLast snapshots).map Snapshot.memory = snapshots.map Snapshot.memory :=
  History.permit_last_map Snapshot.memory (fun _ => rfl) snapshots

theorem push_memories (history : History) (snapshot : Snapshot) (memory : Snapshot)
    (member : memory ∈ (history.push snapshot).snapshots.map Snapshot.memory) :
    memory = snapshot.memory ∨ memory ∈ history.snapshots.map Snapshot.memory := by
  simp only [History.push, List.map_append, List.mem_append, List.map_cons, List.map_nil, List.mem_singleton] at member
  rcases member with old | new
  · obtain ⟨kept, there, rfl⟩ := List.mem_map.mp old
    refine .inr (List.mem_map_of_mem ?_)
    split at there
    · exact List.mem_of_mem_drop there
    · exact there
  · exact .inl new

theorem permit_last_newest (snapshots : List Snapshot) :
    (History.permitLast snapshots).getLast? = snapshots.getLast?.map fun newest => { newest with permitted := true } := by
  rcases List.eq_nil_or_concat snapshots with rfl | ⟨older, newest, rfl⟩
  · rfl
  · simp [History.permit_last_append]

theorem permit_rollback_newest (spot : Spot) (latest : player.latest? = some spot) :
    ∃ snapshot, player.permitRollback.history.snapshots.getLast? = some snapshot ∧ snapshot.permitted = true ∧
      snapshot.spot = spot := by
  rw [latest?] at latest
  split at latest
  · next snapshot every kept =>
      refine ⟨{ snapshot with id := player.history.nextId, permitted := true }, ?_, rfl, Option.some.inj latest⟩
      rw [permitRollback, every, kept]
      simp only [History.permit, permit_last_newest, History.push, List.getLast?_concat]
      rfl
  · next other =>
      obtain ⟨newest, last, same⟩ := Option.map_eq_some_iff.mp latest
      refine ⟨{ newest with permitted := true }, ?_, rfl, same⟩
      rw [permitRollback]
      split
      · next snapshot every kept => exact (other snapshot every kept).elim
      · simp only [History.permit, permit_last_newest, last, Option.map_some]

theorem permit_rollback_latest : player.permitRollback.latest? = player.latest? := by
  rw [permitRollback]
  split
  · next snapshot every kept =>
      simp only [latest?, every, kept, History.permit, permit_last_newest, History.push, List.getLast?_concat, Option.map_some]
  · next other =>
      simp only [latest?, History.permit, permit_last_newest, Option.map_map]
      rfl

theorem permit_rollback_spares : Spares reach player player.permitRollback := by
  have stock : player.permitRollback.stock = player.stock := by
    unfold permitRollback
    split <;> rfl
  have mirrors : player.Mirrored → player.permitRollback.Mirrored := by
    unfold permitRollback
    split <;> exact id
  have rises : Rises player player.permitRollback := by
    unfold permitRollback
    split <;> exact ⟨Nat.le_refl _, .inl⟩
  refine .apart stock (fun memory member => ?_) mirrors rises fun _ => permit_rollback_latest player
  unfold permitRollback at member
  split at member
  · next snapshot _ kept =>
      simp only [memories, Option.toList_none, List.nil_append, History.permit, permit_last_memories] at member
      simp only [memories, kept, Option.toList_some, List.map_append, List.map_cons, List.map_nil, List.mem_append,
        List.mem_singleton]
      exact push_memories player.history snapshot memory member
  · simpa only [memories, History.permit, List.map_append, permit_last_memories] using member

theorem with_mode_spares (changed : ModeChange × Mode) : Spares reach player (player.withMode changed) := by
  rw [with_mode_eq]
  refine .beside (Prod.ext ?_ ?_)
  · simp only [stock, scheduled, flights, launches, endings, strays]
    rw [changed.1.notices_silent _ _ rfl, changed.1.notices_silent _ _ rfl, changed.1.notices_silent _ _ rfl,
      changed.1.news_silent _ _ fun _ => ⟨rfl, rfl, rfl⟩, changed.1.news_silent _ _ fun _ => ⟨rfl, rfl, rfl⟩]
  · simp only [mood, turns]
    rw [changed.1.news_silent _ _ fun _ => ⟨rfl, rfl, rfl⟩]

theorem tell_spares (notice : Notice) (nobody : notice.spawned? = none) : Spares reach player (player.tell notice) := by
  have nothing : notice.execution? = none ∧ notice.plays? = none := by simp [Notice.execution?, Notice.plays?, nobody]
  exact .beside (Prod.ext (by simp [stock, flights, scheduled, launches, endings, strays, tell, nobody, nothing]) rfl)

theorem tell_run_spares (activity : Activity) (nobody : activity.execution? = none) (new : activity.isNew = true)
    (own : ∀ run, activity.plays? = some run → run.full ≤ player.abandoned) :
    Spares { library := true } player (player.tell (.spawned activity)) := by
  refine .of_stock nofun nofun (fun _ => rfl)
    (fun _ => ⟨rfl, by simp [flights, tell, Notice.execution?, Notice.spawned?, nobody]⟩) (fun _ => id)
    (fun _ => ⟨rfl, rfl⟩) (Prod.ext (by simp [strays, tell, Notice.spawned?, new]) rfl) (fun run member => ?_)
    (fun _ => rfl) (Nat.le_refl _)
  obtain ⟨notice, told, plays⟩ := List.mem_filterMap.mp member
  rcases List.mem_cons.mp told with rfl | before
  · exact .inr (own run plays)
  · exact .inl (List.mem_filterMap.mpr ⟨notice, before, plays⟩)

theorem memories_rewound (snapshot : Snapshot) :
    Player.memories { player with history := player.history.restore snapshot } ⊆ player.memories := by
  intro memory member
  simp only [memories, History.restore, List.map_append, List.mem_append] at member ⊢
  exact member.imp_right fun old => List.map_subset _ (List.filter_sublist.subset) old

theorem stop_spares (reason : StopReason) : Spares Facet.stop.reach player (player.stopFor reason) := by
  unfold stopFor
  split
  · next on => exact .apart rfl (List.Subset.refl _) (fun _ => rfl) ⟨Nat.le_refl _, fun _ => .inl on⟩ fun _ => rfl
  · exact .refl _

theorem start_spares : Spares Facet.loop.reach player player.start.2 := by
  unfold start
  split
  · exact .refl _
  · split
    · exact .refl _
    · exact .apart rfl (List.Subset.refl _) (fun _ => rfl) ⟨Nat.le_succ _, fun _ => .inr (Nat.lt_succ_self _)⟩ fun _ => rfl

theorem enter_layers (rendezvous : Rendezvous String) (callback : Option String) (signal : Nat)
    (quiet : (rendezvous.enter callback).2.raised signal = false) : rendezvous.raised signal = false := by
  unfold Rendezvous.enter at quiet
  simp only [Rendezvous.raised, Bool.or_eq_false_iff, Bool.and_eq_false_iff, decide_eq_false_iff_not] at quiet ⊢
  split at quiet
  · exact quiet
  · next idle => exact ⟨quiet.1, .inr (Bool.eq_false_iff.mpr idle)⟩

theorem conclude_layers (rendezvous : Rendezvous String) (signal : Nat)
    (quiet : rendezvous.conclude.2.raised signal = false) : rendezvous.raised signal = false := by
  have later : rendezvous.conclude.2.generation = rendezvous.generation + 1 := rfl
  simp only [Rendezvous.raised, later, Bool.or_eq_false_iff, Bool.and_eq_false_iff, decide_eq_false_iff_not] at quiet ⊢
  exact ⟨by omega, .inl (by omega)⟩

theorem enter_ages (rendezvous : Rendezvous String) (callback : Option String) :
    (rendezvous.enter callback).2.generation = rendezvous.generation := by
  unfold Rendezvous.enter
  split <;> rfl

end Player

theorem Edit.spares {facet : Facet} {before after : Player} (edit : Edit facet before after) :
    Spares facet.reach before after := by
  cases edit with
  | publish _ event plain =>
      cases event with
      | completed | transientFinished _ => exact .beside rfl
      | _ => cases plain
  | tell _ notice nobody => exact before.tell_spares notice nobody
  | library _ library =>
      exact .of_stock nofun nofun (fun _ => rfl) (fun _ => ⟨rfl, rfl⟩) (fun _ => id) (fun _ => ⟨rfl, rfl⟩) rfl
        (fun _ => .inl) (fun _ => rfl) (Nat.le_refl _)
  | playlist _ activity _ idle new own => exact before.tell_run_spares activity idle new own
  | visits _ raised draws =>
      exact .of_stock (fun _ => rfl) (fun _ => rfl) nofun (fun _ => ⟨rfl, rfl⟩) (fun _ => id) (fun _ => ⟨rfl, rfl⟩) rfl
        (fun _ => .inl) (fun _ => rfl) (Nat.le_refl _)
  | detach | launch | ending | parking =>
      exact .of_stock (fun _ => rfl) (fun _ => rfl) (fun _ => rfl) nofun (fun _ => id) nofun rfl (fun _ => .inl)
        (fun _ => rfl) (Nat.le_refl _)
  | enter _ callback =>
      refine .of_stock (fun _ => rfl) (fun _ => rfl) (fun _ => rfl) (fun _ => ⟨rfl, rfl⟩) (fun token quiet => ?_)
        (fun _ => ⟨rfl, rfl⟩) rfl (fun _ => .inl) nofun (Nat.le_of_eq (Player.enter_ages _ callback).symm)
      obtain ⟨upheld, idle⟩ := (Player.interrupt_none _ token).mp quiet
      exact (before.interrupt_none token).mpr ⟨upheld, Player.enter_layers _ _ _ idle⟩
  | conclude =>
      refine .of_stock (fun _ => rfl) (fun _ => rfl) (fun _ => rfl) (fun _ => ⟨rfl, rfl⟩) (fun token quiet => ?_)
        (fun _ => ⟨rfl, rfl⟩) rfl (fun _ => .inl) nofun (Nat.le_succ _)
      obtain ⟨upheld, idle⟩ := (Player.interrupt_none _ token).mp quiet
      exact (before.interrupt_none token).mpr ⟨upheld, Player.conclude_layers _ _ idle⟩
  | abandon =>
      refine .of_stock (fun _ => rfl) (fun _ => rfl) (fun _ => rfl) (fun _ => ⟨rfl, rfl⟩) (fun token quiet => ?_)
        (fun _ => ⟨rfl, rfl⟩) rfl (fun _ => .inl) (fun _ => rfl) (Nat.le_refl _)
      obtain ⟨upheld, idle⟩ := (Player.interrupt_none _ token).mp quiet
      exact (before.interrupt_none token).mpr ⟨fun given => upheld (Nat.lt_succ_of_lt given), idle⟩
  | capture _ spot =>
      have other (history : History) (pending : Option Snapshot) : Spares { captures := true } before
          { before with history := history, playback := { before.playback with pending := pending } } :=
        ⟨fun _ => rfl, fun _ => rfl, fun _ => rfl, fun _ => ⟨rfl, rfl⟩, fun _ => id, fun _ => ⟨rfl, rfl⟩, nofun, fun _ => id,
          ⟨Nat.le_refl _, .inl⟩, rfl, nofun, fun _ => .inl, fun _ => rfl, Nat.le_refl _⟩
      unfold Player.capture
      simp only
      split
      · exact other _ before.playback.pending
      · exact other before.history _
  | permit => exact before.permit_rollback_spares
  | rewind _ snapshot => exact .apart rfl (before.memories_rewound snapshot) id ⟨Nat.le_refl _, .inl⟩ nofun
  | mode _ changed => exact before.with_mode_spares changed
  | skip _ changed => exact before.with_mode_spares changed
  | stop _ reason => exact before.stop_spares reason
  | start => exact before.start_spares
  | helm => exact .apart rfl (List.Subset.refl _) id ⟨Nat.le_succ _, .inl⟩ fun _ => rfl
  | playback =>
      refine ⟨fun _ => rfl, fun _ => rfl, fun _ => rfl, fun _ => ⟨rfl, rfl⟩, fun _ => id, fun _ => ⟨rfl, rfl⟩,
        fun _ memory member => ?_, nofun, ⟨Nat.le_succ _, fun on => by cases on⟩, rfl, nofun, fun _ => .inl, fun _ => rfl,
        Nat.le_refl _⟩
      exact List.map_subset _ (List.subset_append_right _ _) member
  | everything _ raised =>
      exact ⟨fun _ => rfl, fun _ => rfl, nofun, fun _ => ⟨rfl, rfl⟩, fun _ => id, fun _ => ⟨rfl, rfl⟩,
        fun _ => List.nil_subset _, nofun, ⟨Nat.le_succ _, fun on => by cases on⟩, rfl, nofun, fun _ => .inl, fun _ => rfl,
        Nat.le_refl _⟩
  | _ => exact .beside rfl

theorem Edits.spares {facets : List Facet} {reach : Reach} {before after : Player} (edits : Edits facets before after)
    (le : facets.all (fun facet => facet.reach.le reach) = true) : Spares reach before after :=
  edits.lift (Spares reach) le rfl .refl .trans fun edit le => edit.spares.wider le

def Reach.of (facets : List Facet) : Reach where
  library := facets.any fun facet => facet.reach.library
  raised := facets.any fun facet => facet.reach.raised
  executing := facets.any fun facet => facet.reach.executing
  captures := facets.any fun facet => facet.reach.captures
  clears := facets.any fun facet => facet.reach.clears
  forgets := facets.any fun facet => facet.reach.forgets
  meets := facets.any fun facet => facet.reach.meets

theorem Edits.spared {facets : List Facet} {before after : Player} (edits : Edits facets before after) :
    Spares (.of facets) before after := by
  refine edits.spares (List.all_eq_true.mpr fun facet member => ?_)
  have below (field : Reach → Bool) : (!field facet.reach || facets.any fun facet => field facet.reach) = true := by
    cases set : field facet.reach with
    | false => rfl
    | true => exact List.any_eq_true.mpr ⟨facet, member, set⟩
  simp only [Reach.le, Bool.and_eq_true]
  exact ⟨⟨⟨⟨⟨⟨below _, below _⟩, below _⟩, below _⟩, below _⟩, below _⟩, below _⟩

/-! ### Moves -/

def Effect.reach : Effect → Reach
  | .jump _ | .call _ | .goBack | .schedule _ => { library := true }
  | .completeOthers => { executing := true, meets := true }
  | _ => {}

def Wait.reach : Wait → Reach
  | .rendezvous _ => { executing := true, meets := true }
  | _ => {}

namespace Execution

theorem perform_spares (execution : Execution) (effect : Effect) (player : Player) :
    Spares effect.reach player (execution.perform effect player).2 :=
  (execution.perform_edits effect player).spares (by cases effect <;> rfl)

theorem wake_spares (execution : Execution) (wait : Wait) (player : Player) (woken : Except Error Unit × Player)
    (wakes : execution.wake? wait player = some woken) : Spares wait.reach player woken.2 :=
  (execution.wake_edits wait player woken wakes).spares (by cases wait <;> rfl)

theorem step_spares (execution : Execution) (player : Player) (progress : Progress) (after : Player)
    (step : execution.step? player = some (progress, after)) :
    Spares { library := true, executing := true, meets := true } player after :=
  (execution.step_edits player progress after step).spares
    (execution.facets_all _ (fun wait => by cases wait <;> rfl) fun effect _ => by cases effect <;> rfl)

end Execution

def Request.reach : Request → Reach
  | .play .. => { library := true, raised := true }
  | .jump _ | .call .. | .goBack | .transient .. | .transientNamed .. | .insert _ => { library := true }
  | .rewindLine _ | .rewindSpot _ => { forgets := true, meets := true }
  | .complete _ | .input _ => { meets := true }
  | _ => {}

theorem Player.ask_spares (player : Player) (request : Request) : Spares request.reach player (player.ask request).2 :=
  (player.ask_edits request).spares (by cases request <;> rfl)

def Caller.reach : Caller → Reach
  | .run _ => { raised := true }
  | _ => {}

def Activity.reach : Activity → Reach
  | .asked request => request.reach
  | .steering _ => { executing := true, captures := true }
  | .advancing _ => { raised := true }
  | .running _ caller => { caller.reach with library := true, executing := true, meets := true }
  | .transient _ => { raised := true, executing := true }
  | .draining _ => { library := true, raised := true, clears := true, forgets := true }
  | .listening _ | .completing .. => { meets := true }
  | _ => {}

theorem Player.resume_caller_spares (player : Player) (caller : Caller) (result : Except Error Unit) :
    Spares caller.reach player (player.resumeCaller caller result).2 :=
  (player.resume_caller_edits caller result).spares (by cases caller <;> rfl)

theorem Replacement.spared (replacement : Replacement) :
    replacement.facets.all
      (·.reach.le { library := true, raised := true, clears := true, forgets := true }) = true := by
  cases replacement with
  | reset => rfl
  | load save rollback =>
      simp only [facets, Save.facets]
      cases save.spot <;> rfl

theorem Player.replace_spares (player : Player) (replacement : Replacement) :
    Spares { library := true, raised := true, clears := true, forgets := true } player (player.replace replacement).2 :=
  (player.replace_edits replacement).spares replacement.spared

theorem Activity.step_spares (activity : Activity) (player : Player) (moved : Activity × Player)
    (step : activity.step? player = some moved) : Spares activity.reach player moved.2 := by
  have edits := activity.step_edits player moved step
  cases activity with
  | asked request => exact edits.spares (by cases request <;> rfl)
  | steering pilot => cases pilot <;> exact edits.spares rfl
  | completing role sequel => cases sequel <;> exact edits.spares rfl
  | draining replacement => exact edits.spares replacement.spared
  | running execution caller =>
      refine edits.spares ?_
      rw [facets, List.all_append]
      cases caller <;> exact Bool.and_eq_true_iff.mpr
        ⟨execution.facets_all _ (fun wait => by cases wait <;> rfl) fun effect _ => by cases effect <;> rfl, rfl⟩
  | _ => exact edits.spares rfl

end Storyline
