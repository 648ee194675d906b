import Mathlib.Data.List.Basic
import Mathlib.Data.List.Induction

/-!
# `EchoBench.Proofs.History`: lists of what has happened

What has happened so far is a list here: the moves of a run, the calls of a sink, the calls of a
client. It grows by one item at its end. These lemmas say what becomes of a place in such a list
(`getElem?_append_singleton_iff`), of a split at one of its items (`append_singleton_cases`), of
what stands before the first of some items, and of a list that is put together from several
histories (`perm_flatMap_append`).
-/

set_option autoImplicit false

namespace EchoBench.Proofs

variable {α : Type}

/-- A list with an item put at its end is split at this item, or before it as without it. -/
theorem append_singleton_cases {l before after : List α} {x y : α}
    (h : l ++ [x] = before ++ y :: after) :
    (l = before ∧ x = y ∧ after = []) ∨ ∃ rest, after = rest ++ [x] ∧ l = before ++ y :: rest := by
  rcases List.eq_nil_or_concat after with rfl | ⟨rest, last, rfl⟩
  · obtain ⟨rfl, hlast⟩ := List.append_inj' h rfl
    exact .inl ⟨rfl, List.singleton_inj.mp hlast, rfl⟩
  · rw [List.concat_eq_append, ← List.cons_append, ← List.append_assoc] at h
    obtain ⟨rfl, hlast⟩ := List.append_inj' h rfl
    obtain rfl := List.singleton_inj.mp hlast
    exact .inr ⟨rest, List.concat_eq_append, rfl⟩

/-- What stands in a list with one item more at its end: what stood there before, or the new item at
the last place. Histories of calls and of moves grow in this way. -/
theorem getElem?_append_singleton_iff {l : List α} {a b : α} {k : Nat} :
    (l ++ [a])[k]? = some b ↔ l[k]? = some b ∨ (k = l.length ∧ a = b) := by
  rcases Nat.lt_trichotomy k l.length with hlt | rfl | hgt
  · rw [List.getElem?_append_left hlt]
    simp [Nat.ne_of_lt hlt]
  · simp
  · have hnone : l[k]? = none := List.getElem?_eq_none_iff.mpr (Nat.le_of_lt hgt)
    have hnone' : (l ++ [a])[k]? = none := by
      rw [List.getElem?_eq_none_iff, List.length_append, List.length_singleton]
      exact hgt
    simp [hnone, hnone', Nat.ne_of_gt hgt]

/-- What comes after the first of some items does not matter to the items before it. -/
theorem takeWhile_append_of_mem [DecidableEq α] {l : List α} {a : α} (h : a ∈ l)
    (rest : List α) : (l ++ rest).takeWhile (· ≠ a) = l.takeWhile (· ≠ a) := by
  induction l with
  | nil => cases h
  | cons b l ih =>
    by_cases hb : b = a
    · simp [hb]
    · have hmem : a ∈ l := (List.mem_cons.mp h).resolve_left (Ne.symm hb)
      have hrest := ih hmem
      simp_all

/-- Where an item comes for the first time at the end of a list, everything before it stands in
front of its first occurrence. -/
theorem takeWhile_append_self [DecidableEq α] {l : List α} {a : α} (h : a ∉ l) :
    (l ++ [a]).takeWhile (· ≠ a) = l := by
  have hall : ∀ b ∈ l, decide (b ≠ a) = true := by
    intro b hb
    rw [decide_eq_true_eq]
    rintro rfl
    exact h hb
  rw [List.takeWhile_append_of_pos hall]
  simp

/-- An item put at the end of one part of a list comes to the end of the list, up to the order. -/
theorem perm_flatMap_append {f g : Nat → List α} {indices : List Nat} {i : Nat} {a : α}
    (hnodup : indices.Nodup) (hmem : i ∈ indices) (hi : g i = f i ++ [a])
    (hne : ∀ j, j ≠ i → g j = f j) : (indices.flatMap g).Perm (indices.flatMap f ++ [a]) := by
  induction indices with
  | nil => cases hmem
  | cons j indices ih =>
    obtain ⟨hj, hnodup⟩ := List.nodup_cons.mp hnodup
    simp only [List.flatMap_cons]
    rcases List.mem_cons.mp hmem with rfl | hmem
    · -- The new item is pushed past everything that comes after its part.
      have hrest : indices.flatMap g = indices.flatMap f := by
        rw [List.flatMap_def, List.flatMap_def]
        refine congrArg List.flatten (List.map_congr_left fun k hk => hne k ?_)
        rintro rfl
        exact hj hk
      rw [hi, hrest, List.append_assoc, List.append_assoc]
      exact List.Perm.append_left _ List.perm_append_comm
    · have hji : j ≠ i := by
        rintro rfl
        exact hj hmem
      rw [hne j hji, List.append_assoc]
      exact List.Perm.append_left _ (ih hnodup hmem)

end EchoBench.Proofs
