import Mathlib.Data.List.Sort
import Mathlib.Data.String.Basic

set_option autoImplicit false

/-!
Tables in order of the names: what is put in stands at the place of its name, instead of what stood there before.
-/

namespace Storyline.Tables

variable {α : Type}

structure Places (name : α → String) (put : α → List α → List α) : Prop where
  nil : ∀ item, put item [] = [item]
  cons : ∀ item first rest, put item (first :: rest) =
    if name item < name first then item :: first :: rest
    else if name item = name first then item :: rest
    else first :: put item rest

variable {name : α → String} {put : α → List α → List α} (places : Places name put)
include places

theorem mem_put {item : α} {items : List α} {other : α} (member : other ∈ put item items) : other = item ∨ other ∈ items := by
  induction items with
  | nil => exact .inl (List.mem_singleton.mp (places.nil item ▸ member))
  | cons first rest ih =>
      rw [places.cons] at member
      split_ifs at member <;> grind

-- A name that is already there is met before the place where it would be put in, or there.
theorem find_put (item : α) (items : List α) (wanted : String) :
    (put item items).find? (fun other => name other = wanted) =
      if name item = wanted then some item else items.find? fun other => name other = wanted := by
  induction items with
  | nil => by_cases here : name item = wanted <;> simp [places.nil, here]
  | cons first rest ih =>
      rw [places.cons]
      split_ifs <;> grind

theorem put_sorted (item : α) (items : List α) (sorted : items.Pairwise fun a b => name a < name b) :
    (put item items).Pairwise fun a b => name a < name b := by
  induction items with
  | nil => exact places.nil item ▸ List.pairwise_singleton _ _
  | cons first rest ih =>
      obtain ⟨above, behind⟩ := List.pairwise_cons.mp sorted
      rw [places.cons]
      split_ifs with before same
      · refine List.pairwise_cons.mpr ⟨fun other member => ?_, sorted⟩
        rcases List.mem_cons.mp member with rfl | later
        · exact before
        · exact lt_trans before (above other later)
      · exact List.pairwise_cons.mpr ⟨fun other member => same ▸ above other member, behind⟩
      · refine List.pairwise_cons.mpr ⟨fun other member => ?_, ih behind⟩
        rcases mem_put places member with rfl | later
        · exact lt_of_le_of_ne (not_lt.mp before) (Ne.symm same)
        · exact above other later

theorem put_last (item : α) (items : List α) (above : ∀ other ∈ items, name other < name item) :
    put item items = items ++ [item] := by
  induction items with
  | nil => exact places.nil item
  | cons first rest ih =>
      obtain ⟨here, behind⟩ := List.forall_mem_cons.mp above
      rw [places.cons, if_neg here.asymm, if_neg here.ne', ih behind, List.cons_append]

theorem put_in_order (items before : List α) (sorted : (before ++ items).Pairwise fun a b => name a < name b) :
    items.foldl (fun all item => put item all) before = before ++ items := by
  induction items generalizing before with
  | nil => exact (List.append_nil before).symm
  | cons item items ih =>
      have above := fun other member => (List.pairwise_append.mp sorted).2.2 other member item List.mem_cons_self
      rw [List.foldl_cons, put_last places item before above, ih _ (by simpa using sorted), List.append_assoc]
      rfl

end Storyline.Tables
