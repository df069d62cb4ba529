import Storyline.Proofs.Announced

set_option autoImplicit false

/-!
The books on commands in flight. A command is in flight from when its start is announced until its end is.
-/

namespace Storyline

variable {activity : Activity} {player : Player} {moved : Activity × Player} (step : activity.step? player = some moved)

/-! ### The books on commands in flight -/

-- What is written down of a command in flight, and what is announced of it.
def Execution.entry (execution : Execution) : Executing.Entry := ⟨execution.id, execution.command.spot, execution.lane⟩

def Executing.Entry.announced (entry : Executing.Entry) : Spot × Lane := (entry.spot, entry.lane)

theorem Execution.entry_same {execution next : Execution} (same : next.origin = execution.origin) :
    next.entry = execution.entry := by
  obtain ⟨id, command, lane, _⟩ := origin_same same
  rw [entry, id, command, lane]
  rfl

namespace Executing

-- No entry comes or goes, and only what is in flight is parked.
structure Kept (before after : Executing) : Prop where
  nextId : after.nextId = before.nextId
  entries : after.entries = before.entries
  parked : ∀ id ∈ after.parked, id ∈ before.parked ∨ id ∈ before.entries.map Entry.id

theorem kept_same {before after : Executing} (same : after = before) : Kept before after := by
  subst same
  exact ⟨rfl, rfl, fun _ => .inl⟩

theorem park_kept (executing : Executing) (id : Nat) : Kept executing (executing.park id) := by
  rw [park]
  by_cases flies : (executing.inFlight id && !executing.parked.contains id) = true
  · rw [if_pos flies]
    refine ⟨rfl, rfl, fun other member => ?_⟩
    rcases List.mem_cons.mp member with rfl | old
    · obtain ⟨entry, there, same⟩ := List.any_eq_true.mp (Bool.and_eq_true_iff.mp flies).1
      exact .inr (List.mem_map.mpr ⟨entry, there, of_decide_eq_true same⟩)
    · exact .inl old
  · rw [if_neg flies]
    exact kept_same rfl

theorem unpark_kept (executing : Executing) (id : Nat) : Kept executing (executing.unpark id) :=
  ⟨rfl, rfl, fun _ member => .inl (List.mem_of_mem_filter member)⟩

theorem perm_others (executing : Executing) (tidy : executing.Tidy) (entry : Entry) (there : entry ∈ executing.entries) :
    executing.entries.Perm (entry :: executing.entries.filter fun other => other.id ≠ entry.id) := by
  have distinct : executing.entries.Nodup := tidy.distinct.of_map _
  refine (List.perm_cons_erase there).trans (.of_eq ?_)
  rw [distinct.erase_eq_filter]
  congr 1
  apply List.filter_congr
  intro other member
  by_cases same : other = entry
  · simp [same]
  · have different : other.id ≠ entry.id := fun equal => same (List.inj_on_of_nodup_map tidy.distinct member there equal)
    simp [same, different]

end Executing

namespace Execution

theorem step_kept (execution : Execution) (player : Player) (progress : Progress) (after : Player)
    (step : execution.step? player = some (progress, after)) :
    Executing.Kept player.executing after.executing ∧ after.launches = player.launches ∧ after.endings = player.endings := by
  obtain ⟨same | parks | unparks, _, journal⟩ := execution.step_minds player progress after step
  · exact ⟨Executing.kept_same same, journal⟩
  · exact ⟨parks ▸ player.executing.park_kept execution.id, journal⟩
  · exact ⟨unparks ▸ player.executing.unpark_kept execution.id, journal⟩

end Execution

-- What a move does to the books, and to the commands that are there afterwards.
inductive Books (activity : Activity) (before after : Player) (changed : List Execution) : Prop where
  | nothing (idle : activity.execution? = none) (executing : after.executing = before.executing)
      (journal : after.launches = before.launches ∧ after.endings = before.endings) (only : changed = [])
  | starts (execution : Execution) (idle : activity.execution? = none)
      (ids : execution.id = before.executing.nextId ∧ after.executing.nextId = before.executing.nextId + 1)
      (entries : after.executing.entries = before.executing.entries ++ [execution.entry])
      (parked : after.executing.parked = before.executing.parked)
      (journal : after.launches = execution.entry.announced :: before.launches ∧ after.endings = before.endings)
      (only : changed = [execution]) (new : execution.Launched after)
  | goes (execution next : Execution) (own : activity.execution? = some execution)
      (kept : Executing.Kept before.executing after.executing)
      (journal : after.launches = before.launches ∧ after.endings = before.endings) (only : changed = [next])
      (same : next.origin = execution.origin) (went : execution.step? before = some (.going next, after))
  | ends (execution : Execution) (own : activity.execution? = some execution)
      (nextId : after.executing.nextId = before.executing.nextId)
      (entries : after.executing.entries = before.executing.entries.filter fun entry => entry.id ≠ execution.id)
      (parked : ∀ id ∈ after.executing.parked,
        id ≠ execution.id ∧ (id ∈ before.executing.parked ∨ id ∈ before.executing.entries.map Executing.Entry.id))
      (journal : after.launches = before.launches ∧ after.endings = execution.entry.announced :: before.endings)
      (only : changed = [])

namespace Books

variable {activity : Activity} {before after : Player} {changed : List Execution} (books : Books activity before after changed)
include books

theorem enters (entered : ∀ execution, activity.execution? = some execution → execution.entry ∈ before.executing.entries)
    (execution : Execution) (member : execution ∈ changed) : execution.entry ∈ after.executing.entries := by
  cases books with
  | nothing _ _ _ only | ends _ _ _ _ _ _ only =>
      rw [only] at member
      cases member
  | starts started _ _ entries _ _ only =>
      rw [only] at member
      rw [entries, List.mem_singleton.mp member]
      exact List.mem_append_right _ List.mem_cons_self
  | goes old now own kept _ only same =>
      rw [only] at member
      rw [kept.entries, List.mem_singleton.mp member, Execution.entry_same same]
      exact entered old own

theorem keeps (entry : Executing.Entry) (listed : entry ∈ before.executing.entries)
    (apart : ∀ execution, activity.execution? = some execution → entry.id ≠ execution.id) :
    entry ∈ after.executing.entries := by
  cases books with
  | nothing _ executing => exact executing ▸ listed
  | starts _ _ _ entries => exact entries ▸ List.mem_append_left _ listed
  | goes _ _ _ kept => exact kept.entries ▸ listed
  | ends execution own _ entries => exact entries ▸ List.mem_filter.mpr ⟨listed, decide_eq_true (apart execution own)⟩

theorem ranks (ranked : ∀ execution, activity.execution? = some execution →
      before.launches[before.executing.nextId - (execution.id + 1)]? = some execution.entry.announced)
    (execution : Execution) (member : execution ∈ changed) :
    after.launches[after.executing.nextId - (execution.id + 1)]? = some execution.entry.announced := by
  cases books with
  | nothing _ _ _ only | ends _ _ _ _ _ _ only =>
      rw [only] at member
      cases member
  | starts started _ ids _ _ journal only =>
      rw [only] at member
      rw [journal.1, List.mem_singleton.mp member, ids.1, ids.2, Nat.sub_self]
      rfl
  | goes old now own kept journal only same =>
      rw [only] at member
      rw [journal.1, kept.nextId, List.mem_singleton.mp member, Execution.entry_same same, (Execution.origin_same same).1]
      exact ranked old own

theorem outranks (entry : Executing.Entry) (earlier : entry.id < before.executing.nextId)
    (ranked : before.launches[before.executing.nextId - (entry.id + 1)]? = some entry.announced) :
    after.launches[after.executing.nextId - (entry.id + 1)]? = some entry.announced := by
  cases books with
  | nothing _ executing journal => rwa [journal.1, executing]
  | starts _ _ ids _ _ journal =>
      rwa [journal.1, ids.2, show before.executing.nextId + 1 - (entry.id + 1) = before.executing.nextId - (entry.id + 1) + 1 by
        omega, List.getElem?_cons_succ]
  | goes _ _ _ kept journal => rwa [journal.1, kept.nextId]
  | ends _ _ nextId _ _ journal => rwa [journal.1, nextId]

theorem announced (tidy : before.executing.Tidy)
    (entered : ∀ execution, activity.execution? = some execution → execution.entry ∈ before.executing.entries)
    (even : before.launches.Perm (before.executing.entries.map Executing.Entry.announced ++ before.endings)) :
    after.launches.Perm (after.executing.entries.map Executing.Entry.announced ++ after.endings) := by
  cases books with
  | nothing _ executing journal => rwa [executing, journal.1, journal.2]
  | starts _ _ _ entries _ journal =>
      rw [entries, journal.1, journal.2, List.map_append, List.append_assoc]
      exact (even.cons _).trans List.perm_middle.symm
  | goes _ _ _ kept journal => rwa [kept.entries, journal.1, journal.2]
  | ends execution own _ entries _ journal =>
      rw [entries, journal.1, journal.2]
      have split := (before.executing.perm_others tidy execution.entry (entered execution own)).map Executing.Entry.announced
      exact even.trans ((split.append_right _).trans List.perm_middle.symm)

theorem parked (within : ∀ id ∈ before.executing.parked, id ∈ before.executing.entries.map Executing.Entry.id) :
    ∀ id ∈ after.executing.parked, id ∈ after.executing.entries.map Executing.Entry.id := by
  cases books with
  | nothing _ executing => rwa [executing]
  | starts _ _ _ entries still =>
      rw [still, entries, List.map_append]
      exact fun id member => List.mem_append_left _ (within id member)
  | goes _ _ _ kept =>
      rw [kept.entries]
      exact fun id member => (kept.parked id member).elim (within id) fun listed => listed
  | ends execution _ _ entries fewer =>
      rw [entries]
      intro id member
      obtain ⟨apart, earlier⟩ := fewer id member
      obtain ⟨entry, listed, rfl⟩ := List.mem_map.mp (earlier.elim (within id) fun listed => listed)
      exact List.mem_map_of_mem (List.mem_filter.mpr ⟨listed, decide_eq_true apart⟩)

end Books

theorem running_books (execution : Execution) (caller : Caller) (player : Player) (successor : Activity) (after : Player)
    (silent : player.flights = []) (step : (Activity.running execution caller).step? player = some (successor, after)) :
    Books (.running execution caller) player after (successor.execution?.toList ++ after.flights) := by
  obtain ⟨⟨progress, between⟩, went, rest⟩ := Option.map_eq_some_iff.mp step
  obtain ⟨kept, launches, endings⟩ := execution.step_kept player progress between went
  have quiet := (execution.step_besides player progress between went).2.trans silent
  cases progress with
  | going next =>
      obtain ⟨rfl, rfl⟩ := Prod.mk.inj rest
      refine .goes execution next rfl kept ⟨launches, endings⟩ ?_ (execution.step_going next player _ went).1 went
      rw [quiet]
      rfl
  | ended result =>
      have moved : (between.finish execution result).2.resumeCaller caller (between.finish execution result).1 =
          (successor, after) := rest
      obtain ⟨ended, flights, started, finished⟩ := between.finish_unregisters execution result
      have resumed := Player.resume_caller_spares (between.finish execution result).2 caller (between.finish execution result).1
      have idle := Player.resume_caller_idle (between.finish execution result).2 caller (between.finish execution result).1
      rw [moved] at resumed idle
      have still : caller.reach.executing = false := by cases caller <;> rfl
      obtain ⟨stays, told⟩ := resumed.executing still
      obtain ⟨nothing, announced⟩ := resumed.journal still
      refine .ends execution rfl ?_ ?_ (fun id member => ?_) ⟨nothing.trans (started.trans launches), ?_⟩ ?_
      · rw [show after.executing = _ from stays, ended]
        exact kept.nextId
      · rw [show after.executing = _ from stays, ended, Executing.unregister, kept.entries]
      · rw [show after.executing = _ from stays, ended] at member
        obtain ⟨old, different⟩ := List.mem_filter.mp member
        exact ⟨of_decide_eq_true different, kept.parked id old⟩
      · rw [show after.endings = _ from announced, finished, endings]
        rfl
      · rw [show successor.execution? = none from idle, show after.flights = _ from told, flights, quiet]
        rfl

theorem step_books {activity successor : Activity} {player after : Player} (told : player.outbox = [])
    (step : activity.step? player = some (successor, after)) :
    Books activity player after (successor.execution?.toList ++ after.flights) := by
  have silent : player.flights = [] := by
    rw [Player.flights, told]
    rfl
  cases flies : activity.execution? with
  | some execution =>
      cases activity with
      | running own caller => exact running_books own caller player successor after silent step
      | _ => cases flies
  | none =>
      cases step_flies step with
      | goes execution own => rw [flies] at own; cases own
      | starts idle traffic =>
          cases traffic with
          | nothing same flights nobody journal =>
              refine .nothing idle same journal ?_
              rw [show successor.execution? = none from nobody, flights, silent]
              rfl
          | starts spot lane execution same fresh started own journal new =>
              have entry : execution.entry = ⟨player.executing.nextId, spot, lane⟩ := by
                rw [Execution.entry, fresh, own.1, own.2]
              refine .starts execution idle ⟨fresh, ?_⟩ ?_ ?_ ?_ ?_ new
              · rw [same]
                rfl
              · rw [same, entry]
                rfl
              · rw [same]
                rfl
              · rw [entry]
                exact journal
              · rw [silent] at started
                exact started

namespace World

variable (world : World)

-- The commands that are under way.
def executions (world : World) : List Execution := world.activities.filterMap Activity.execution?

theorem mem_executions (execution : Execution) :
    execution ∈ world.executions ↔ ∃ activity ∈ world.activities, activity.execution? = some execution := List.mem_filterMap

-- Every command under way has its entry, and its number tells how many were started since.
structure Listed (world : World) : Prop where
  entered : ∀ execution ∈ world.executions, execution.entry ∈ world.player.executing.entries
  ranked : ∀ execution ∈ world.executions,
    world.player.launches[world.player.executing.nextId - (execution.id + 1)]? = some execution.entry.announced
  announced : world.player.launches.Perm
    (world.player.executing.entries.map Executing.Entry.announced ++ world.player.endings)
  parked : ∀ id ∈ world.player.executing.parked, id ∈ world.player.executing.entries.map Executing.Entry.id

-- Every entry has its command.
def Flying (world : World) : Prop :=
  ∀ entry ∈ world.player.executing.entries, ∃ execution ∈ world.executions, execution.entry = entry

theorem count_executions (id : Nat) :
    (world.executions.map Execution.id).count id = world.activities.countP fun activity => activity.flies id := by
  rw [executions]
  induction world.activities with
  | nil => rfl
  | cons activity activities ih =>
      rw [List.countP_cons, ← ih]
      cases flies : activity.execution? with
      | none => simp [flies, Activity.flies]
      | some execution => simp [flies, Activity.flies, List.count_cons]

theorem executions_distinct (flight : world.InFlight) : (world.executions.map Execution.id).Nodup := by
  apply List.nodup_iff_count_le_one.mpr
  intro id
  rw [count_executions]
  exact flight.single id

theorem entries_perm (flight : world.InFlight) (listed : world.Listed) (flying : world.Flying) :
    world.player.executing.entries.Perm (world.executions.map Execution.entry) := by
  have ids : (world.executions.map Execution.entry).map Executing.Entry.id = world.executions.map Execution.id := by
    rw [List.map_map]
    rfl
  have distinct : (world.executions.map Execution.entry).Nodup := by
    apply List.Nodup.of_map Executing.Entry.id
    rw [ids]
    exact executions_distinct world flight
  refine (List.perm_ext_iff_of_nodup (flight.tidy.distinct.of_map _) distinct).mpr fun entry => ?_
  constructor
  · intro there
    obtain ⟨execution, flies, same⟩ := flying entry there
    exact List.mem_map.mpr ⟨execution, flies, same⟩
  · intro member
    obtain ⟨execution, flies, rfl⟩ := List.mem_map.mp member
    exact listed.entered execution flies

section Listed

variable {world next : World} {activity successor : Activity} {others : List Activity} {player : Player}

theorem executions_within (activities : next.activities.Subperm (successor :: (others ++ player.spawns)))
    (execution : Execution) (under : execution ∈ next.executions) :
    execution ∈ successor.execution?.toList ++ player.flights ∨ ∃ other ∈ others, other.execution? = some execution := by
  obtain ⟨other, member, flies⟩ := (mem_executions next execution).mp under
  rcases List.mem_cons.mp (activities.subset member) with rfl | member
  · exact .inl (List.mem_append_left _ (Option.mem_toList.mpr flies))
  · rcases List.mem_append.mp member with old | spawned
    · exact .inr ⟨other, old, flies⟩
    · exact .inl (List.mem_append_right _ (mem_flights spawned flies))

theorem executions_stay {requests : List Request}
    (activities : next.activities.Subperm (requests.map Activity.asked ++ world.activities)) (execution : Execution)
    (under : execution ∈ next.executions) : execution ∈ world.executions := by
  obtain ⟨activity, member, flies⟩ := (mem_executions next execution).mp under
  rcases asked_or_before activities member with ⟨request, rfl⟩ | old
  · cases flies
  · exact (mem_executions world execution).mpr ⟨activity, old, flies⟩

theorem going_of_flies (activity : Activity) (execution : Execution) (flies : activity.execution? = some execution) :
    activity.isOver = false := by
  cases activity with
  | finished reply => cases flies
  | _ => rfl

theorem executions_kept
    (kept : ∀ other ∈ successor :: (others ++ player.spawns), other.isOver = false → other ∈ next.activities)
    (execution : Execution)
    (there : execution ∈ successor.execution?.toList ++ player.flights ∨ ∃ other ∈ others, other.execution? = some execution) :
    execution ∈ next.executions := by
  have stays (other : Activity) (member : other ∈ successor :: (others ++ player.spawns))
      (flies : other.execution? = some execution) : execution ∈ next.executions :=
    (mem_executions next execution).mpr ⟨other, kept other member (going_of_flies other execution flies), flies⟩
  rcases there with changed | ⟨other, old, flies⟩
  · rcases List.mem_append.mp changed with own | started
    · exact stays successor List.mem_cons_self (Option.mem_toList.mp own)
    · obtain ⟨notice, told, flies⟩ := List.mem_filterMap.mp started
      obtain ⟨other, spawned, flies⟩ := Option.bind_eq_some_iff.mp flies
      have new : other ∈ player.spawns := List.mem_filterMap.mpr ⟨notice, List.mem_reverse.mpr told, spawned⟩
      exact stays other (List.mem_cons_of_mem _ (List.mem_append_right _ new)) flies
  · exact stays other (List.mem_cons_of_mem _ (List.mem_append_left _ old)) flies

theorem executions_before (there : world.activities.Perm (activity :: others)) (execution : Execution) :
    execution ∈ world.executions ↔
      activity.execution? = some execution ∨ ∃ other ∈ others, other.execution? = some execution := by
  simp only [mem_executions, there.mem_iff, List.mem_cons, or_and_right, exists_or, exists_eq_left]

theorem others_apart (flight : world.InFlight) (there : world.activities.Perm (activity :: others)) (execution : Execution)
    (own : activity.execution? = some execution) (other : Activity) (member : other ∈ others) (second : Execution)
    (flies : other.execution? = some second) : second.id ≠ execution.id := by
  intro same
  have most := flight.single execution.id
  rw [there.countP_eq, List.countP_cons, if_pos ((flies_iff activity _).mpr ⟨execution, own, rfl⟩)] at most
  have some_other : 0 < others.countP fun activity => activity.flies execution.id :=
    List.countP_pos_iff.mpr ⟨other, member, (flies_iff other _).mpr ⟨second, flies, same⟩⟩
  omega

theorem listed_moves (flight : world.InFlight) (listed : world.Listed) (told : world.player.outbox = [])
    (there : world.activities.Perm (activity :: others)) (step : activity.step? world.player = some (successor, player))
    (same : next.player.executing = player.executing ∧ next.player.launches = player.launches ∧
      next.player.endings = player.endings)
    (activities : next.activities.Subperm (successor :: (others ++ player.spawns))) : next.Listed := by
  obtain ⟨entered, ranked, announced, parked⟩ := listed
  have within := executions_within activities
  have old (execution : Execution) (held : ∃ other ∈ others, other.execution? = some execution) :
      execution ∈ world.executions := (executions_before there execution).mpr (.inr held)
  have mine (execution : Execution) (own : activity.execution? = some execution) : execution ∈ world.executions :=
    (executions_before there execution).mpr (.inl own)
  have books := step_books told step
  obtain ⟨executing, launches, endings⟩ := same
  refine ⟨fun other under => ?_, fun other under => ?_, ?_, ?_⟩
  · rw [executing]
    rcases within other under with changed | ⟨holder, member, flies⟩
    · exact books.enters (fun execution own => entered execution (mine execution own)) other changed
    · exact books.keeps other.entry (entered other (old other ⟨holder, member, flies⟩))
        fun execution own => others_apart flight there execution own holder member other flies
  · rw [executing, launches]
    rcases within other under with changed | ⟨holder, member, flies⟩
    · exact books.ranks (fun execution own => ranked execution (mine execution own)) other changed
    · exact books.outranks other.entry (flight.below holder (there.mem_iff.mpr (List.mem_cons_of_mem _ member)) other flies)
        (ranked other (old other ⟨holder, member, flies⟩))
  · rw [executing, launches, endings]
    exact books.announced flight.tidy (fun execution own => entered execution (mine execution own)) announced
  · rw [executing]
    exact books.parked parked

theorem flying_moves (flying : world.Flying) (told : world.player.outbox = [])
    (there : world.activities.Perm (activity :: others)) (step : activity.step? world.player = some (successor, player))
    (executing : next.player.executing = player.executing)
    (kept : ∀ other ∈ successor :: (others ++ player.spawns), other.isOver = false → other ∈ next.activities) :
    next.Flying := by
  intro entry listed
  rw [executing] at listed
  have after := executions_kept kept
  -- the command of an old entry is that of another activity, or the one that moves
  have holder (listed : entry ∈ world.player.executing.entries) :
      (∃ execution ∈ next.executions, execution.entry = entry) ∨
        ∃ execution, activity.execution? = some execution ∧ execution.entry = entry := by
    obtain ⟨execution, under, same⟩ := flying entry listed
    rcases (executions_before there execution).mp under with own | held
    · exact .inr ⟨execution, own, same⟩
    · exact .inl ⟨execution, after execution (.inr held), same⟩
  cases step_books told step with
  | nothing idle stays journal only =>
      rw [stays] at listed
      rcases holder listed with found | ⟨execution, own, _⟩
      · exact found
      · rw [idle] at own
        cases own
  | starts execution idle ids entries still journal only new =>
      rw [entries] at listed
      rcases List.mem_append.mp listed with earlier | new
      · rcases holder earlier with found | ⟨execution, own, _⟩
        · exact found
        · rw [idle] at own
          cases own
      · exact ⟨execution, after execution (.inl (only ▸ List.mem_cons_self)), (List.mem_singleton.mp new).symm⟩
  | goes execution now own entries journal only same =>
      rw [entries.entries] at listed
      rcases holder listed with found | ⟨other, mine, equal⟩
      · exact found
      · obtain rfl : execution = other := Option.some.inj (own.symm.trans mine)
        exact ⟨now, after now (.inl (only ▸ List.mem_cons_self)), (Execution.entry_same same).trans equal⟩
  | ends execution own nextId entries fewer journal only =>
      rw [entries] at listed
      obtain ⟨earlier, apart⟩ := List.mem_filter.mp listed
      rcases holder earlier with found | ⟨other, mine, equal⟩
      · exact found
      · obtain rfl : execution = other := Option.some.inj (own.symm.trans mine)
        exact absurd (congrArg Executing.Entry.id equal.symm) (of_decide_eq_true apart)

end Listed

section Move

variable (world : World) (numbered : world.Numbered) (move : Move)
include numbered

theorem move_listed (flight : world.InFlight) (listed : world.Listed) : (world.move move).Listed := by
  cases (move_comes world numbered move).1 with
  | moves activity successor others player stage _ there _ step told activities =>
      refine listed_moves flight listed numbered.told there step ?_ activities
      rw [told]
      exact ⟨rfl, rfl, rfl⟩
  | stays clock requests player activities =>
      have before := executions_stay activities
      obtain ⟨entered, ranked, announced, parked⟩ := listed
      constructor
      · intro execution under
        rw [player]
        exact entered execution (before execution under)
      · intro execution under
        rw [player]
        exact ranked execution (before execution under)
      · rw [player]
        exact announced
      · rw [player]
        exact parked

theorem move_flying (flying : world.Flying) (awaits : world.Awaits move) : (world.move move).Flying := by
  cases (move_comes world numbered move).1 with
  | moves activity successor others player stage _ there _ step told activities kept =>
      exact flying_moves flying numbered.told there step (by rw [told]) kept
  | stays clock requests player activities kept =>
      intro entry listed
      rw [player] at listed
      obtain ⟨execution, under, same⟩ := flying entry listed
      obtain ⟨activity, member, flies⟩ := (mem_executions world execution).mp under
      refine ⟨execution, (mem_executions _ execution).mpr ⟨activity, ?_, flies⟩, same⟩
      exact kept awaits activity member (going_of_flies activity execution flies)

end Move

-- A world in which nothing has happened yet.
structure Fresh (world : World) : Prop where
  numbered : world.Numbered
  nobody : world.activities = []
  unheard : world.player.events = []
  idle : world.player.executing.entries = [] ∧ world.player.executing.parked = []
  off : world.player.playback.playing = false

section Fresh

variable (world : World) (fresh : world.Fresh)
include fresh

theorem fresh_mirroring : world.Mirroring := by
  have threads : world.threads.map Thread.activity = [] := (List.append_eq_nil_iff.mp fresh.nobody).1
  have front : world.front.toList = [] := (List.append_eq_nil_iff.mp fresh.nobody).2
  refine ⟨?_, fun activity member => ?_, fun _ drains => ?_⟩
  · rw [Player.Mirrored, fresh.off, Player.turns, fresh.unheard]
    rfl
  · rw [threads] at member
    cases member
  · rw [drains] at front
    cases front

theorem fresh_in_flight : world.InFlight := by
  refine ⟨⟨?_, fun id member => ?_⟩, fun activity member => ?_, fun id => ?_⟩
  · rw [fresh.idle.1]
    exact List.nodup_nil
  · rw [fresh.idle.1] at member
    cases member
  · rw [fresh.nobody] at member
    cases member
  · rw [fresh.nobody]
    exact Nat.zero_le _

theorem fresh_executions : world.executions = [] := by
  rw [executions, fresh.nobody]
  rfl

theorem fresh_listed : world.Listed := by
  have nothing := fresh_executions world fresh
  constructor
  · intro execution under
    rw [nothing] at under
    cases under
  · intro execution under
    rw [nothing] at under
    cases under
  · rw [fresh.idle.1, Player.launches, Player.endings, fresh.unheard]
    exact .refl _
  · rw [fresh.idle.2]
    exact fun _ member => absurd member List.not_mem_nil

theorem fresh_flying : world.Flying := by
  intro entry listed
  rw [fresh.idle.1] at listed
  cases listed

end Fresh

theorem listed_after (numbered : world.Numbered) (flight : world.InFlight) (listed : world.Listed)
    (moves : List Move) : (world.after moves).Listed := by
  induction moves generalizing world with
  | nil => exact listed
  | cons move moves ih =>
      apply ih (world.move move) (move_comes world numbered move).2
      · exact in_flight_after world numbered flight [move]
      · exact move_listed world numbered move flight listed

theorem awaited_after (numbered : world.Numbered) (mirroring : world.Mirroring) (flying : world.Flying)
    (moves : List Move) (awaited : world.Awaited moves) : (world.after moves).Mirroring ∧ (world.after moves).Flying := by
  induction moves generalizing world with
  | nil => exact ⟨mirroring, flying⟩
  | cons move moves ih =>
      apply ih (world.move move) (move_comes world numbered move).2
      · exact move_mirroring world numbered mirroring move awaited.1
      · exact move_flying world numbered move flying awaited.1
      · exact awaited.2

-- However the activities of a player interleave, as long as it is asked one thing after another: it plays exactly if the last
-- word on that was that it has started; the commands under way are those of the executing set, and these are the ones whose
-- start was announced but not their end; no two of them have the same number, the next number is none of theirs, and only
-- they are parked. Numbers are counted without a bound, so none comes up again.
theorem announcements_mirror_player (start : World) (fresh : start.Fresh) (moves : List Move) (awaited : start.Awaited moves) :
    let world := start.after moves
    let player := world.player
    let ids := player.executing.entries.map Executing.Entry.id
    (player.playback.playing = true ↔ player.turns.head? = some true) ∧
      player.executing.entries.Perm (world.executions.map Execution.entry) ∧
      player.launches.Perm (player.executing.entries.map Executing.Entry.announced ++ player.endings) ∧
      player.executing.count + player.endings.length = player.launches.length ∧
      ids.Nodup ∧ player.executing.nextId ∉ ids ∧ player.executing.parked ⊆ ids := by
  intro world player ids
  have flight : world.InFlight := in_flight_after start fresh.numbered (fresh_in_flight start fresh) moves
  have listed : world.Listed := listed_after start fresh.numbered (fresh_in_flight start fresh) (fresh_listed start fresh) moves
  obtain ⟨mirroring, flying⟩ := awaited_after start fresh.numbered (fresh_mirroring start fresh) (fresh_flying start fresh)
    moves awaited
  refine ⟨?_, entries_perm world flight listed flying, listed.announced, ?_, flight.tidy.distinct, fun member => ?_,
    fun id => listed.parked id⟩
  · have mirrored : player.playback.playing = player.turns.head?.getD false := mirroring.mirrored
    rw [mirrored]
    cases player.turns.head? with
    | none => simp
    | some turn => simp
  · have lengths := listed.announced.length_eq
    rw [List.length_append, List.length_map] at lengths
    exact lengths.symm
  · exact Nat.lt_irrefl _ (flight.tidy.below _ member)

-- Both barriers are given up, and one of them has noticed.
def calledOff : List Move := bothArrive ++ [.ask .reset, .front, .thread 0]

theorem crossing_announced :
    crossing.Fresh ∧ crossing.Awaited calledOff ∧
      (let player := (crossing.after calledOff).player
       player.playback.playing = false ∧ player.turns.head? ≠ some true ∧
        player.executing.entries = [⟨3, ⟨"road", 2, 0⟩, .transient⟩] ∧
        player.executing.entries.Perm ((crossing.after calledOff).executions.map Execution.entry) ∧
        player.launches.Perm ((⟨"road", 2, 0⟩, .transient) :: player.endings) ∧
        1 + player.endings.length = player.launches.length) := by
  have fresh : crossing.Fresh := ⟨numbered_new _ rfl, rfl, rfl, ⟨rfl, rfl⟩, rfl⟩
  have awaited : crossing.Awaited calledOff := by decide +kernel
  have left : (crossing.after calledOff).player.executing.entries = [⟨3, ⟨"road", 2, 0⟩, .transient⟩] := by decide +kernel
  have off : (crossing.after calledOff).player.playback.playing = false := by decide +kernel
  obtain ⟨turned, perm, announced, count, _⟩ := announcements_mirror_player crossing fresh calledOff awaited
  rw [Executing.count] at count
  rw [left] at announced count
  refine ⟨fresh, awaited, off, fun on => ?_, left, perm, announced, count⟩
  rw [turned.mpr on] at off
  cases off

end World

end Storyline
