import Storyline.History

set_option autoImplicit false

/-!
What a history keeps. Ids are given out in order and never twice, and no operation moves a snapshot past another one. So the
ids grow from the oldest snapshot to the newest, whatever was pushed out, forgotten or cleared in between, and going back by
comparing ids forgets exactly what came later.
-/

namespace Storyline

namespace History

inductive Operation where
  | push (snapshot : Snapshot)
  | permit
  | find (test : Spot → Bool)
  -- of any snapshot: found just now, found long ago or never
  | restore (snapshot : Snapshot)
  | clear

def apply (history : History) : Operation → History
  | .push snapshot => history.push snapshot
  | .permit => history.permit
  | .find _ => history
  | .restore snapshot => history.restore snapshot
  | .clear => history.clear

def after (history : History) (operations : List Operation) : History := operations.foldl apply history

def ids (history : History) : List Nat := history.snapshots.map Snapshot.id

structure Orderly (capacity : Nat) (history : History) : Prop where
  room : history.capacity = max capacity 1
  fits : history.ids.length ≤ max capacity 1
  ascending : history.ids.Pairwise (· < ·)
  fresh : ∀ id ∈ history.ids, id < history.nextId

section Operations

variable {capacity : Nat} {history : History}

theorem Orderly.fewer (orderly : Orderly capacity history) (later : History) (room : later.capacity = history.capacity)
    (next : later.nextId = history.nextId) (kept : later.ids.Sublist history.ids) : Orderly capacity later where
  room := room.trans orderly.room
  fits := Nat.le_trans kept.length_le orderly.fits
  ascending := orderly.ascending.sublist kept
  fresh := fun id member => next ▸ orderly.fresh id (kept.subset member)

theorem permit_last_append (older : List Snapshot) (newest : Snapshot) :
    permitLast (older ++ [newest]) = older ++ [{ newest with permitted := true }] := by
  induction older with
  | nil => rfl
  | cons oldest older ih =>
      rw [List.cons_append, permitLast, ih, List.cons_append]
      simp

theorem permit_last_map {α : Type} (view : Snapshot → α)
    (blind : ∀ snapshot : Snapshot, view { snapshot with permitted := true } = view snapshot) (snapshots : List Snapshot) :
    (permitLast snapshots).map view = snapshots.map view := by
  induction snapshots using permitLast.induct with
  | case1 => rfl
  | case2 newest => rw [permitLast, List.map_singleton, List.map_singleton, blind]
  | case3 snapshot rest several ih =>
      rw [permitLast, List.map_cons, ih, List.map_cons]
      exact several

theorem push_full (snapshot : Snapshot) (full : history.capacity ≤ history.snapshots.length) :
    (history.push snapshot).snapshots = history.snapshots.drop 1 ++ [{ snapshot with id := history.nextId }] := by
  simp only [push, if_pos full]

theorem push_roomy (snapshot : Snapshot) (roomy : history.snapshots.length < history.capacity) :
    (history.push snapshot).snapshots = history.snapshots ++ [{ snapshot with id := history.nextId }] := by
  simp only [push, if_neg (Nat.not_le_of_gt roomy)]

-- What is kept at a push is older than the snapshot that comes to it, because its id is the next one.
theorem push_orderly (orderly : Orderly capacity history) (snapshot : Snapshot) :
    Orderly capacity (history.push snapshot) := by
  obtain ⟨kept, fits, sublist, pushed⟩ : ∃ kept : List Nat, kept.length + 1 ≤ max capacity 1 ∧
      kept.Sublist history.ids ∧ (history.push snapshot).ids = kept ++ [history.nextId] := by
    have fits := orderly.fits
    have room := orderly.room
    rw [ids, List.length_map] at fits
    by_cases full : history.capacity ≤ history.snapshots.length
    · refine ⟨history.ids.drop 1, ?_, List.drop_sublist 1 _, ?_⟩
      · rw [ids, List.length_drop, List.length_map]
        omega
      · simp only [ids, push_full snapshot full, List.map_append, List.map_drop, List.map_cons, List.map_nil]
    · refine ⟨history.ids, ?_, List.Sublist.refl _, ?_⟩
      · rw [ids, List.length_map]
        omega
      · simp only [ids, push_roomy snapshot (Nat.lt_of_not_le full), List.map_append, List.map_cons, List.map_nil]
  refine ⟨orderly.room, ?_, ?_, ?_⟩
  · rwa [pushed, List.length_append, List.length_singleton]
  · rw [pushed, List.pairwise_append]
    refine ⟨orderly.ascending.sublist sublist, List.pairwise_singleton _ _, fun older member newest last => ?_⟩
    rw [List.mem_singleton.mp last]
    exact orderly.fresh older (sublist.subset member)
  · intro id member
    rw [pushed] at member
    rcases List.mem_append.mp member with before | last
    · exact Nat.lt_succ_of_lt (orderly.fresh id (sublist.subset before))
    · rw [List.mem_singleton.mp last]
      exact Nat.lt_succ_self _

theorem apply_orderly (orderly : Orderly capacity history) (operation : Operation) :
    Orderly capacity (history.apply operation) := by
  cases operation with
  | push snapshot => exact push_orderly orderly snapshot
  | permit =>
      have same : history.permit.ids = history.ids := permit_last_map Snapshot.id (fun _ => rfl) history.snapshots
      exact orderly.fewer _ rfl rfl (same ▸ List.Sublist.refl _)
  | find test => exact orderly
  | restore snapshot => exact orderly.fewer _ rfl rfl (List.filter_sublist.map Snapshot.id)
  | clear => exact orderly.fewer _ rfl rfl (List.nil_sublist _)

theorem after_orderly (orderly : Orderly capacity history) (operations : List Operation) :
    Orderly capacity (history.after operations) := by
  induction operations generalizing history with
  | nil => exact orderly
  | cons operation operations ih => exact ih (apply_orderly orderly operation)

end Operations

theorem of_capacity_orderly (capacity : Nat) : Orderly capacity (ofCapacity capacity) :=
  ⟨rfl, Nat.zero_le _, List.Pairwise.nil, fun _ member => absurd member List.not_mem_nil⟩

/-! ### Finding and going back -/

def Answers (test : Spot → Bool) (snapshot : Snapshot) : Prop := snapshot.permitted = true ∧ test snapshot.spot = true

-- The search comes from the newest side, so what it leaves unseen is older.
theorem find_some_iff (history : History) (test : Spot → Bool) (found : Snapshot) :
    history.find? test = some found ↔ ∃ older newer, history.snapshots = older ++ found :: newer ∧ Answers test found ∧
      ∀ later ∈ newer, ¬Answers test later := by
  rw [find?, List.find?_eq_some_iff_append]
  simp only [Bool.and_eq_true, Bool.not_eq_true', ← Bool.not_eq_true]
  constructor
  · rintro ⟨answers, newer, older, split, passed⟩
    refine ⟨older.reverse, newer.reverse, ?_, answers, fun later member => passed later (List.mem_reverse.mp member)⟩
    rw [← List.reverse_reverse history.snapshots, split]
    simp
  · rintro ⟨older, newer, split, answers, passed⟩
    refine ⟨answers, newer.reverse, older.reverse, ?_, fun later member => passed later (List.mem_reverse.mp member)⟩
    rw [split]
    simp

theorem find_none_iff (history : History) (test : Spot → Bool) :
    history.find? test = none ↔ ∀ snapshot ∈ history.snapshots, ¬Answers test snapshot := by
  simp only [find?, List.find?_eq_none, List.mem_reverse, Bool.and_eq_true, Answers]

theorem restore_split (history : History) (older newer : List Snapshot) (found : Snapshot)
    (ascending : history.ids.Pairwise (· < ·)) (split : history.snapshots = older ++ found :: newer) :
    (history.restore found).snapshots = older ++ [found] := by
  rw [ids, split, List.map_append, List.map_cons, List.pairwise_append, List.pairwise_cons] at ascending
  obtain ⟨_, ⟨after, _⟩, across⟩ := ascending
  have before : older.filter (fun kept => kept.id ≤ found.id) = older :=
    List.filter_eq_self.mpr fun kept member =>
      decide_eq_true (Nat.le_of_lt (across kept.id (List.mem_map_of_mem member) found.id List.mem_cons_self))
  have beyond : newer.filter (fun kept => kept.id ≤ found.id) = [] :=
    List.filter_eq_nil_iff.mpr fun kept member below =>
      Nat.not_le_of_gt (after kept.id (List.mem_map_of_mem member)) (of_decide_eq_true below)
  simp only [restore, split, List.filter_append, before, List.filter_cons, Nat.le_refl, decide_true, if_true, beyond]

-- Ids are counted without a bound, so none comes up again.
theorem bounded_ordered_history (capacity : Nat) (operations : List Operation) :
    let history := (ofCapacity capacity).after operations
    let given (snapshot : Snapshot) : Snapshot := { snapshot with id := history.nextId }
    history.snapshots.Pairwise (fun older newer => older.id < newer.id) ∧
    (∀ snapshot ∈ history.snapshots, snapshot.id < history.nextId) ∧
    history.snapshots.length ≤ max capacity 1 ∧
    (∀ snapshot, history.snapshots.length < max capacity 1 →
      (history.push snapshot).snapshots = history.snapshots ++ [given snapshot]) ∧
    (∀ snapshot, history.snapshots.length = max capacity 1 →
      ∃ oldest kept, history.snapshots = oldest :: kept ∧ (history.push snapshot).snapshots = kept ++ [given snapshot]) ∧
    (∀ test found, history.find? test = some found ↔
      ∃ older newer, history.snapshots = older ++ found :: newer ∧ Answers test found ∧ ∀ later ∈ newer, ¬Answers test later) ∧
    (∀ test, history.find? test = none ↔ ∀ snapshot ∈ history.snapshots, ¬Answers test snapshot) ∧
    (∀ test found, history.find? test = some found →
      ∃ older newer, history.snapshots = older ++ found :: newer ∧
        (history.restore found).snapshots = older ++ [found] ∧ (history.restore found).find? test = some found) ∧
    (∀ older newest, history.snapshots = older ++ [newest] →
      history.permit.snapshots = older ++ [{ newest with permitted := true }]) ∧
    (history.permit.snapshots = [] ↔ history.snapshots = []) ∧ history.clear.snapshots = [] := by
  intro history given
  have orderly : Orderly capacity history := after_orderly (of_capacity_orderly capacity) operations
  have room := orderly.room
  refine ⟨List.pairwise_map.mp orderly.ascending, fun snapshot member => ?_, ?_, fun snapshot roomy => ?_,
    fun snapshot full => ?_, find_some_iff history, find_none_iff history, fun test found answer => ?_,
    fun older newest split => ?_, ?_, rfl⟩
  · exact orderly.fresh snapshot.id (List.mem_map_of_mem member)
  · exact List.length_map Snapshot.id ▸ orderly.fits
  · exact push_roomy snapshot (room ▸ roomy)
  · have pushed := push_full snapshot (Nat.le_of_eq (room.trans full.symm))
    cases kept : history.snapshots with
    | nil =>
        rw [kept, List.length_nil] at full
        omega
    | cons oldest kept' =>
        rw [kept] at pushed
        exact ⟨oldest, kept', rfl, pushed⟩
  · obtain ⟨older, newer, split, answers, _⟩ := (find_some_iff history test found).mp answer
    have restored := restore_split history older newer found orderly.ascending split
    refine ⟨older, newer, split, restored, ?_⟩
    exact (find_some_iff _ test found).mpr ⟨older, [], restored, answers, fun _ member => absurd member List.not_mem_nil⟩
  · rw [permit, split, permit_last_append]
  · rw [permit, ← List.length_eq_zero_iff, ← List.length_map Snapshot.id, permit_last_map Snapshot.id fun _ => rfl,
      List.length_map, List.length_eq_zero_iff]

end History

end Storyline
