import Mathlib.Order.Interval.Finset.Nat
import Storyline.Played
import Storyline.Proofs.Tables

set_option autoImplicit false

/-!
The played register is a set of indices for each script. However the visits come, the ranges of a script are the one sorted
and separated list that covers what was visited.
-/

namespace Storyline

namespace Ranges

-- Sorted, none of them empty, with an index left out between any two.
def Apart : List IndexRange → Prop
  | [] => True
  | range :: rest => range.start ≤ range.stop ∧ (∀ later ∈ rest, range.stop + 1 < later.start) ∧ Apart rest

def Covers (ranges : List IndexRange) (index : Nat) : Prop := ∃ range ∈ ranges, range.start ≤ index ∧ index ≤ range.stop

theorem covers_nil (index : Nat) : ¬ Covers [] index := by
  rintro ⟨range, member, _⟩
  cases member

theorem covers_cons (range : IndexRange) (rest : List IndexRange) (index : Nat) :
    Covers (range :: rest) index ↔ (range.start ≤ index ∧ index ≤ range.stop) ∨ Covers rest index := by
  simp [Covers]

theorem covers_append (front back : List IndexRange) (index : Nat) :
    Covers (front ++ back) index ↔ Covers front index ∨ Covers back index := by
  simp [Covers, or_and_right, exists_or]

theorem apart_append (front back : List IndexRange) :
    Apart (front ++ back) ↔
      Apart front ∧ Apart back ∧ ∀ range ∈ front, ∀ later ∈ back, range.stop + 1 < later.start := by
  induction front with
  | nil => simp [Apart]
  | cons range rest ih =>
      simp only [List.cons_append, Apart, ih, List.mem_append, List.mem_cons]
      constructor
      · rintro ⟨filled, gaps, rest, back, across⟩
        refine ⟨⟨filled, fun later member => gaps later (.inl member), rest⟩, back, ?_⟩
        rintro other (rfl | member) later behind
        · exact gaps later (.inr behind)
        · exact across other member later behind
      · rintro ⟨⟨filled, gaps, rest⟩, back, across⟩
        refine ⟨filled, ?_, rest, back, fun other member => across other (.inr member)⟩
        rintro later (member | member)
        · exact gaps later member
        · exact across range (.inl rfl) later member

theorem apart_filled (ranges : List IndexRange) (apart : Apart ranges) (range : IndexRange) (member : range ∈ ranges) :
    range.start ≤ range.stop := by
  induction ranges with
  | nil => cases member
  | cons first rest ih =>
      cases member with
      | head => exact apart.1
      | tail _ later => exact ih apart.2.2 later

theorem covers_beyond {range : IndexRange} {rest : List IndexRange} (apart : Apart (range :: rest)) {index : Nat}
    (covers : Covers rest index) : range.stop + 1 < index := by
  obtain ⟨later, member, low, _⟩ := covers
  have gap := apart.2.1 later member
  omega

/-! ### Bisection -/

theorem bisect_eq (ranges : List IndexRange) (before : IndexRange → Bool) (place size low : Nat)
    (splits : ∀ index range, ranges[index]? = some range → (before range = true ↔ index < place))
    (above : low ≤ place) (below : place ≤ low + size) (inside : low + size ≤ ranges.length) :
    bisect ranges before size low = place := by
  fun_induction bisect ranges before size low with
  | case1 low => omega
  | case2 size low small filled range found holds =>
      have := (splits low range found).mp holds
      omega
  | case3 size low small filled range found fails =>
      have := (splits low range found).not.mp fails
      omega
  | case4 size low small filled missing =>
      have := List.getElem?_eq_none_iff.mp missing
      omega
  | case5 size low large half range found ih =>
      by_cases holds : before range = true
      · have := (splits _ range found).mp holds
        simp only [dif_pos holds] at ih
        rw [if_pos holds]
        exact ih (by omega) (by omega) (by omega)
      · have := (splits _ range found).not.mp holds
        simp only [dif_neg holds] at ih
        rw [if_neg holds]
        exact ih (by omega) (by omega) (by omega)
  | case6 size low large half missing =>
      have := List.getElem?_eq_none_iff.mp missing
      omega

theorem partition_point_split (front back : List IndexRange) (before : IndexRange → Bool)
    (first : ∀ range ∈ front, before range = true) (then_ : ∀ range ∈ back, before range = false) :
    partitionPoint (front ++ back) before = front.length := by
  refine bisect_eq _ before front.length _ 0 (fun index range found => ?_) (Nat.zero_le _) (by simp) (by simp)
  by_cases inside : index < front.length
  · rw [List.getElem?_append_left inside] at found
    exact ⟨fun _ => inside, fun _ => first range (List.mem_of_getElem? found)⟩
  · rw [List.getElem?_append_right (Nat.le_of_not_lt inside)] at found
    have fails := then_ range (List.mem_of_getElem? found)
    exact ⟨fun holds => absurd (holds.symm.trans fails) nofun, fun less => absurd less inside⟩

theorem apart_split (ranges : List IndexRange) (apart : Apart ranges) (slack bound : Nat) :
    ∃ front back, ranges = front ++ back ∧ (∀ range ∈ front, range.stop + slack < bound) ∧
      ∀ range ∈ back, ¬ range.stop + slack < bound := by
  induction ranges with
  | nil => exact ⟨[], [], rfl, nofun, nofun⟩
  | cons range rest ih =>
      by_cases ends : range.stop + slack < bound
      · obtain ⟨front, back, rfl, before, after⟩ := ih apart.2.2
        exact ⟨range :: front, back, rfl, by simpa [ends] using before, after⟩
      · refine ⟨[], range :: rest, rfl, nofun, ?_⟩
        rintro later (_ | ⟨_, member⟩)
        · exact ends
        · have gap := apart.2.1 later member
          have filled := apart_filled rest apart.2.2 later member
          omega

theorem contains_iff_covers (ranges : List IndexRange) (apart : Apart ranges) (index : Nat) :
    contains ranges index = true ↔ Covers ranges index := by
  obtain ⟨front, back, rfl, before, after⟩ := apart_split ranges apart 0 index
  have place : partitionPoint (front ++ back) (fun range => decide (range.stop < index)) = front.length :=
    partition_point_split front back _ (by simpa using before) (by simpa using after)
  have passed : ¬ Covers front index := by
    rintro ⟨range, member, _, high⟩
    have := before range member
    omega
  rw [contains, place, covers_append]
  cases back with
  | nil => simp [passed, covers_nil]
  | cons range rest =>
      have reaches := after range List.mem_cons_self
      simp only [List.getElem?_append_right (Nat.le_refl _), Nat.sub_self, List.getElem?_cons_zero, IndexRange.contains,
        Bool.and_eq_true, decide_eq_true_eq, covers_cons, passed, false_or]
      constructor
      · exact .inl
      · rintro (here | later)
        · exact here
        · have := covers_beyond ((apart_append front _).mp apart).2.1 later
          omega

/-! ### Recording an index -/

-- How an index goes into ranges of which none ends before the index before it.
def absorb (index : Nat) : List IndexRange → List IndexRange
  | [] => [IndexRange.single index]
  | range :: rest =>
      if range.contains index then range :: rest
      else if range.stop + 1 = index then
        match rest with
        | next :: later =>
            if next.start = index + 1 then ⟨range.start, next.stop⟩ :: later else ⟨range.start, index⟩ :: rest
        | [] => [⟨range.start, index⟩]
      else if index + 1 = range.start then ⟨index, range.stop⟩ :: rest
      else IndexRange.single index :: range :: rest

theorem set_behind (front rest : List IndexRange) (old new : IndexRange) :
    (front ++ old :: rest).set front.length new = front ++ new :: rest := by
  simp [List.set_append_right]

theorem insert_behind (front back : List IndexRange) (new : IndexRange) :
    (front ++ back).insertIdx front.length new = front ++ new :: back := by
  induction front with
  | nil => simp
  | cons range rest ih => simp [ih]

theorem add_split (front back : List IndexRange) (index : Nat) (before : ∀ range ∈ front, range.stop + 1 < index)
    (after : ∀ range ∈ back, ¬ range.stop + 1 < index) : add (front ++ back) index = front ++ absorb index back := by
  have place : partitionPoint (front ++ back) (fun range => decide (range.stop + 1 < index)) = front.length :=
    partition_point_split front back _ (by simpa using before) (by simpa using after)
  unfold add
  simp only [place]
  cases back with
  | nil => simp [absorb]
  | cons range rest =>
      have here : (front ++ range :: rest)[front.length]? = some range := by simp
      have next : (front ++ range :: rest)[front.length + 1]? = rest[0]? := by
        rw [List.getElem?_append_right (Nat.le_succ _)]
        simp
      simp only [here, next, absorb, set_behind, insert_behind]
      cases rest with
      | nil => split_ifs <;> rfl
      | cons follower later =>
          simp only [List.getElem?_cons_zero]
          split_ifs with inside touches bridges starts
          · rfl
          · rw [List.eraseIdx_append_of_length_le (Nat.le_succ _)]
            simp
          all_goals rfl

theorem absorb_start (index : Nat) (back : List IndexRange) (range : IndexRange) (member : range ∈ absorb index back) :
    range.start = index ∨ ∃ old ∈ back, old.start = range.start := by
  cases back with
  | nil =>
      obtain rfl := List.mem_singleton.mp member
      exact .inl rfl
  | cons first rest =>
      cases rest with
      | nil =>
          simp only [absorb] at member
          split_ifs at member <;> grind [IndexRange.single]
      | cons next later =>
          simp only [absorb] at member
          split_ifs at member <;> grind [IndexRange.single]

theorem absorb_apart (index : Nat) (back : List IndexRange) (apart : Apart back)
    (after : ∀ range ∈ back, ¬ range.stop + 1 < index) : Apart (absorb index back) := by
  cases back with
  | nil => exact ⟨Nat.le_refl _, nofun, trivial⟩
  | cons range rest =>
      have reaches := after range List.mem_cons_self
      obtain ⟨filled, gaps, later⟩ := apart
      simp only [absorb, IndexRange.contains, Bool.and_eq_true, decide_eq_true_eq]
      by_cases inside : range.start ≤ index ∧ index ≤ range.stop
      · rw [if_pos inside]
        exact ⟨filled, gaps, later⟩
      rw [if_neg inside]
      by_cases touches : range.stop + 1 = index
      · rw [if_pos touches]
        cases rest with
        | nil => exact ⟨by simp only; omega, nofun, trivial⟩
        | cons next beyond =>
            have gap := gaps next List.mem_cons_self
            by_cases bridges : next.start = index + 1
            · simp only [if_pos bridges]
              have nextFilled := later.1
              exact ⟨by simp only; omega, later.2.1, later.2.2⟩
            · simp only [if_neg bridges]
              refine ⟨by simp only; omega, ?_, later⟩
              rintro other (_ | ⟨_, member⟩)
              · simp only
                omega
              · have := later.2.1 other member
                have := later.1
                simp only
                omega
      rw [if_neg touches]
      by_cases starts : index + 1 = range.start
      · rw [if_pos starts]
        exact ⟨by simp only; omega, gaps, later⟩
      · rw [if_neg starts]
        refine ⟨Nat.le_refl _, ?_, filled, gaps, later⟩
        rintro other (_ | ⟨_, member⟩)
        · simp only [IndexRange.single]
          omega
        · have := gaps other member
          simp only [IndexRange.single]
          omega

theorem absorb_covers (index : Nat) (back : List IndexRange) (apart : Apart back)
    (after : ∀ range ∈ back, ¬ range.stop + 1 < index) (other : Nat) :
    Covers (absorb index back) other ↔ other = index ∨ Covers back other := by
  cases back with
  | nil =>
      simp only [absorb, covers_cons, covers_nil, IndexRange.single, or_false]
      omega
  | cons range rest =>
      have reaches := after range List.mem_cons_self
      have filled := apart.1
      simp only [absorb, IndexRange.contains, Bool.and_eq_true, decide_eq_true_eq]
      by_cases inside : range.start ≤ index ∧ index ≤ range.stop
      · rw [if_pos inside, covers_cons]
        constructor
        · exact .inr
        · rintro (rfl | covers)
          · exact .inl inside
          · exact covers
      rw [if_neg inside]
      by_cases touches : range.stop + 1 = index
      · rw [if_pos touches]
        cases rest with
        | nil =>
            simp only [covers_cons, covers_nil, or_false]
            omega
        | cons next beyond =>
            have nextFilled := apart.2.2.1
            by_cases bridges : next.start = index + 1
            · simp only [if_pos bridges, covers_cons, ← or_assoc]
              exact or_congr_left (by omega)
            · simp only [if_neg bridges, covers_cons, ← or_assoc]
              exact or_congr_left (or_congr_left (by omega))
      rw [if_neg touches]
      by_cases starts : index + 1 = range.start
      · simp only [if_pos starts, covers_cons, ← or_assoc]
        exact or_congr_left (by omega)
      · simp only [if_neg starts, covers_cons, IndexRange.single]
        exact or_congr_left (by omega)

theorem add_apart (ranges : List IndexRange) (apart : Apart ranges) (index : Nat) : Apart (add ranges index) := by
  obtain ⟨front, back, rfl, before, after⟩ := apart_split ranges apart 1 index
  obtain ⟨first, behind, across⟩ := (apart_append front back).mp apart
  rw [add_split front back index before after, apart_append]
  refine ⟨first, absorb_apart index back behind after, fun range member later new => ?_⟩
  rcases absorb_start index back later new with same | ⟨old, kept, same⟩
  · exact same ▸ before range member
  · exact same ▸ across range member old kept

theorem add_covers (ranges : List IndexRange) (apart : Apart ranges) (index other : Nat) :
    Covers (add ranges index) other ↔ other = index ∨ Covers ranges other := by
  obtain ⟨front, back, rfl, before, after⟩ := apart_split ranges apart 1 index
  have behind := ((apart_append front back).mp apart).2.1
  rw [add_split front back index before after, covers_append, covers_append, absorb_covers index back behind after]
  exact or_left_comm

/-! ### One list for one set -/

theorem first_start_le (a b : IndexRange) (rest others : List IndexRange) (apart : Apart (a :: rest))
    (other : Apart (b :: others)) (same : ∀ index, Covers (a :: rest) index → Covers (b :: others) index) :
    b.start ≤ a.start := by
  have filled := apart.1
  rcases (covers_cons b others _).mp (same a.start ((covers_cons _ _ _).mpr (.inl ⟨Nat.le_refl _, filled⟩))) with
    inside | beyond
  · exact inside.1
  · have := covers_beyond other beyond
    have := other.1
    omega

theorem first_stop_le (a b : IndexRange) (rest others : List IndexRange) (other : Apart (b :: others))
    (starts : a.start = b.start) (same : ∀ index, Covers (a :: rest) index → Covers (b :: others) index) : a.stop ≤ b.stop := by
  -- else the index after the shorter range is covered by the longer one, and by nothing of the other list
  by_contra longer
  have inside : Covers (a :: rest) (b.stop + 1) := (covers_cons _ _ _).mpr (.inl ⟨by have := other.1; omega, by omega⟩)
  rcases (covers_cons b others _).mp (same _ inside) with first | beyond
  · omega
  · have := covers_beyond other beyond
    omega

theorem apart_ext (ranges others : List IndexRange) (apart : Apart ranges) (other : Apart others)
    (same : ∀ index, Covers ranges index ↔ Covers others index) : ranges = others := by
  induction ranges generalizing others with
  | nil =>
      cases others with
      | nil => rfl
      | cons b later =>
          exact absurd ((same b.start).mpr ((covers_cons _ _ _).mpr (.inl ⟨Nat.le_refl _, other.1⟩))) (covers_nil _)
  | cons a rest ih =>
      cases others with
      | nil =>
          exact absurd ((same a.start).mp ((covers_cons _ _ _).mpr (.inl ⟨Nat.le_refl _, apart.1⟩))) (covers_nil _)
      | cons b later =>
          have forward := fun index => (same index).mp
          have backward := fun index => (same index).mpr
          have starts : a.start = b.start := Nat.le_antisymm
            (first_start_le b a later rest other apart backward) (first_start_le a b rest later apart other forward)
          have stops : a.stop = b.stop := Nat.le_antisymm
            (first_stop_le a b rest later other starts forward)
            (first_stop_le b a later rest apart starts.symm backward)
          obtain rfl : a = b := by
            cases a
            cases b
            simp_all
          refine congrArg (a :: ·) (ih later apart.2.2 other.2.2 fun index => ?_)
          have whole := same index
          simp only [covers_cons] at whole
          constructor
          · intro covers
            have := covers_beyond apart covers
            exact (whole.mp (.inr covers)).resolve_left (by omega)
          · intro covers
            have := covers_beyond other covers
            exact (whole.mpr (.inr covers)).resolve_left (by omega)

theorem count_eq_card (ranges : List IndexRange) (apart : Apart ranges) (indices : Finset Nat)
    (same : ∀ index, index ∈ indices ↔ Covers ranges index) : count ranges = indices.card := by
  induction ranges generalizing indices with
  | nil =>
      have empty : indices = ∅ := Finset.eq_empty_of_forall_notMem fun index member =>
        covers_nil index ((same index).mp member)
      rw [empty]
      rfl
  | cons range rest ih =>
      have behind : ∀ index, index ∈ indices \ Finset.Icc range.start range.stop ↔ Covers rest index := by
        intro index
        rw [Finset.mem_sdiff, Finset.mem_Icc, same, covers_cons]
        constructor
        · rintro ⟨inside | covers, outside⟩
          · exact absurd inside outside
          · exact covers
        · intro covers
          have := covers_beyond apart covers
          exact ⟨.inr covers, by omega⟩
      have inside : Finset.Icc range.start range.stop ⊆ indices := by
        intro index member
        rw [same, covers_cons]
        exact .inl (Finset.mem_Icc.mp member)
      have split := Finset.card_sdiff_add_card_eq_card inside
      rw [Nat.card_Icc] at split
      rw [count, ih apart.2.2 _ behind, IndexRange.count]
      omega

end Ranges

namespace Played

/-! ### Scripts by name -/

theorem put_places : Tables.Places Prod.fst fun entry : String × List IndexRange => put entry.1 entry.2 :=
  ⟨fun _ => rfl, fun _ _ _ => rfl⟩

-- In order of the names and without empty entries, so that the ranges of all scripts determine the register.
structure Tidy (played : Played) : Prop where
  sorted : played.scripts.Pairwise fun a b => a.1 < b.1
  filled : ∀ entry ∈ played.scripts, entry.2 ≠ []

theorem find_of_mem (entries : List (String × List IndexRange)) (sorted : entries.Pairwise fun a b => a.1 < b.1)
    (entry : String × List IndexRange) (member : entry ∈ entries) :
    entries.find? (fun other => other.1 = entry.1) = some entry := by
  induction entries with
  | nil => cases member
  | cons first rest ih =>
      obtain ⟨above, behind⟩ := List.pairwise_cons.mp sorted
      cases member with
      | head => simp
      | tail _ later =>
          have different : first.1 ≠ entry.1 := ne_of_lt (above entry later)
          simpa [List.find?_cons, different] using ih behind later

theorem mem_iff_ranges (played : Played) (tidy : Tidy played) (entry : String × List IndexRange) :
    entry ∈ played.scripts ↔ played.ranges entry.1 = entry.2 ∧ entry.2 ≠ [] := by
  constructor
  · intro member
    exact ⟨by simp [Played.ranges, find_of_mem _ tidy.sorted entry member], tidy.filled entry member⟩
  · rintro ⟨found, filled⟩
    rw [Played.ranges] at found
    cases search : played.scripts.find? (fun other => other.1 = entry.1) with
    | none =>
        rw [search] at found
        exact absurd found.symm filled
    | some other =>
        rw [search] at found
        have name : other.1 = entry.1 := by simpa using List.find?_some search
        have whole : other = entry := Prod.ext name found
        exact whole ▸ List.mem_of_find?_eq_some search

theorem tidy_ext (a b : Played) (first : Tidy a) (second : Tidy b) (same : ∀ script, a.ranges script = b.ranges script) :
    a = b := by
  have antisymm : Std.Antisymm fun a b : String × List IndexRange => a.1 < b.1 :=
    ⟨fun _ _ less greater => absurd greater (lt_asymm less)⟩
  have irrefl : Std.Irrefl fun a b : String × List IndexRange => a.1 < b.1 := ⟨fun _ => lt_irrefl _⟩
  have entries := first.sorted.eq_of_mem_iff second.sorted fun entry => by
    rw [mem_iff_ranges a first, mem_iff_ranges b second, same]
  cases a
  cases b
  exact congrArg Played.mk entries

/-! ### Every sequence of visits -/

-- The register holds the visits and nothing else.
structure Records (played : Played) (visits : List (String × Nat)) : Prop where
  tidy : Tidy played
  apart : ∀ script, Ranges.Apart (played.ranges script)
  covers : ∀ script index, Ranges.Covers (played.ranges script) index ↔ (script, index) ∈ visits

theorem records_nothing : Records {} [] :=
  ⟨⟨List.Pairwise.nil, nofun⟩, fun _ => trivial,
    fun _ index => ⟨fun covers => absurd covers (Ranges.covers_nil index), nofun⟩⟩

theorem ranges_add (played : Played) (script other : String) (index : Nat) :
    (played.add script index).ranges other =
      if script = other then Ranges.add (played.ranges script) index else played.ranges other := by
  rw [ranges, add, Tables.find_put put_places (script, _)]
  split_ifs <;> rfl

theorem records_add (played : Played) (visits : List (String × Nat)) (records : Records played visits) (script : String)
    (index : Nat) : Records (played.add script index) (visits ++ [(script, index)]) := by
  have grown := Ranges.add_covers _ (records.apart script) index
  refine ⟨⟨Tables.put_sorted put_places (script, _) _ records.tidy.sorted, fun entry member => ?_⟩, fun other => ?_,
    fun other j => ?_⟩
  · rcases @Tables.mem_put _ _ _ put_places (script, _) _ _ member with rfl | old
    · intro empty
      have here := (grown index).mpr (.inl rfl)
      rw [show Ranges.add (played.ranges script) index = [] from empty] at here
      exact Ranges.covers_nil index here
    · exact records.tidy.filled entry old
  · rw [ranges_add]
    by_cases same : script = other
    · rw [if_pos same]
      exact Ranges.add_apart _ (records.apart script) index
    · rw [if_neg same]
      exact records.apart other
  · rw [ranges_add]
    by_cases same : script = other
    · rw [if_pos same, grown j, records.covers, same]
      simp [or_comm]
    · rw [if_neg same, records.covers]
      simp [Ne.symm same]

-- The register of a player that made the visits one after another.
def ofVisits (visits : List (String × Nat)) : Played :=
  visits.foldl (fun played visit => played.add visit.1 visit.2) {}

theorem records_visits (visits : List (String × Nat)) : Records (ofVisits visits) visits := by
  induction visits using List.reverseRecOn with
  | nil => exact records_nothing
  | append_singleton earlier visit ih =>
      have last : ofVisits (earlier ++ [visit]) = (ofVisits earlier).add visit.1 visit.2 := by simp [ofVisits]
      exact last ▸ records_add _ _ ih visit.1 visit.2

theorem contains_iff_visited (played : Played) (visits : List (String × Nat)) (records : Records played visits)
    (script : String) (index : Nat) : played.contains script index = true ↔ (script, index) ∈ visits := by
  rw [Played.contains, Ranges.contains_iff_covers _ (records.apart script), records.covers]

def visitsOf (script : String) (visits : List (String × Nat)) : Finset Nat :=
  ((visits.filter fun visit => visit.1 = script).map Prod.snd).toFinset

theorem mem_visitsOf (script : String) (visits : List (String × Nat)) (index : Nat) :
    index ∈ visitsOf script visits ↔ (script, index) ∈ visits := by
  simp [visitsOf]

theorem register_is_visited_set (visits : List (String × Nat)) :
    -- for each script, separated ranges of exactly the visited indices
    (∀ script, Ranges.Apart ((ofVisits visits).ranges script) ∧
      (∀ index, (ofVisits visits).contains script index = true ↔ (script, index) ∈ visits) ∧
      (ofVisits visits).count script = (visitsOf script visits).card) ∧
    -- neither order nor repetition shows
    ∀ others : List (String × Nat), (∀ visit, visit ∈ visits ↔ visit ∈ others) → ofVisits visits = ofVisits others := by
  have records := records_visits visits
  refine ⟨fun script => ⟨records.apart script, contains_iff_visited _ visits records script, ?_⟩, fun others same => ?_⟩
  · refine Ranges.count_eq_card _ (records.apart script) _ fun index => ?_
    rw [mem_visitsOf, records.covers]
  · have again := records_visits others
    refine tidy_ext _ _ records.tidy again.tidy fun script => ?_
    refine Ranges.apart_ext _ _ (records.apart script) (again.apart script) fun index => ?_
    rw [records.covers, again.covers, same]

-- The last index closes the gap between two ranges; a repeated one changes nothing.
example :
    (ofVisits [("s", 3), ("s", 1), ("t", 0), ("s", 3), ("s", 5), ("s", 2)]).scripts =
      [("s", [⟨1, 3⟩, ⟨5, 5⟩]), ("t", [⟨0, 0⟩])] := by
  decide +kernel

end Played

end Storyline
