import Mathlib

/-!
# Groups by a key

The elements of a list by a key, as a loop collects them in a map: the groups stand in the order in
which their keys first occur, and a group has its elements in their order in the list.

The groups are a rearrangement of the list (`perm_flatMap_groupBy`), so that a sum over all groups
is the sum over the list.
-/

namespace Grouping

open scoped List

variable {α κ : Type*} [DecidableEq κ]

/-- Put an element into the group of its key, a new one if there is none. -/
def insertGroup (k : κ) (a : α) : List (κ × List α) → List (κ × List α)
  | [] => [(k, [a])]
  | g :: gs => if g.1 = k then (k, g.2 ++ [a]) :: gs else g :: insertGroup k a gs

/-- The keys that occur, each with its elements. -/
def groupBy (key : α → κ) (l : List α) : List (κ × List α) :=
  l.foldl (fun gs a ↦ insertGroup (key a) a gs) []

section

variable {k : κ} {a : α} {g : κ × List α} {gs : List (κ × List α)}

theorem perm_flatMap_insertGroup :
    (insertGroup k a gs).flatMap Prod.snd ~ gs.flatMap Prod.snd ++ [a] := by
  induction gs with
  | nil => exact List.Perm.refl _
  | cons g gs ih =>
    rw [insertGroup]
    split
    · rw [List.flatMap_cons, List.flatMap_cons, List.append_assoc, List.append_assoc]
      exact List.Perm.append_left g.2 List.perm_append_comm
    · rw [List.flatMap_cons, List.flatMap_cons, List.append_assoc]
      exact List.Perm.append_left g.2 ih

theorem mem_keys_insertGroup {k' : κ} :
    k' ∈ (insertGroup k a gs).map Prod.fst ↔ k' = k ∨ k' ∈ gs.map Prod.fst := by
  induction gs with
  | nil => simp [insertGroup]
  | cons g gs ih =>
    rw [insertGroup]
    split
    · rename_i h
      rw [List.map_cons, List.map_cons, List.mem_cons, List.mem_cons, h, ← or_assoc, or_self]
    · rw [List.map_cons, List.map_cons, List.mem_cons, List.mem_cons, ih, or_left_comm]

theorem nodup_keys_insertGroup (h : (gs.map Prod.fst).Nodup) :
    ((insertGroup k a gs).map Prod.fst).Nodup := by
  induction gs with
  | nil => exact List.nodup_singleton k
  | cons g gs ih =>
    obtain ⟨hnot, htail⟩ := List.nodup_cons.mp h
    rw [insertGroup]
    split
    · rename_i heq
      exact List.nodup_cons.mpr ⟨heq ▸ hnot, htail⟩
    · rename_i hne
      refine List.nodup_cons.mpr ⟨fun hmem ↦ ?_, ih htail⟩
      exact (mem_keys_insertGroup.mp hmem).elim hne hnot

/-- What a group of the result consists of. -/
theorem mem_insertGroup (hg : g ∈ insertGroup k a gs) :
    g ∈ gs ∨ g.1 = k ∧ ∀ b ∈ g.2, b = a ∨ ∃ g' ∈ gs, g'.1 = k ∧ b ∈ g'.2 := by
  induction gs with
  | nil =>
    rw [insertGroup, List.mem_singleton] at hg
    subst hg
    exact .inr ⟨rfl, fun b hb ↦ .inl (List.mem_singleton.mp hb)⟩
  | cons g' gs ih =>
    rw [insertGroup] at hg
    split at hg
    · rename_i heq
      rcases List.mem_cons.mp hg with rfl | hg
      · refine .inr ⟨rfl, fun b hb ↦ ?_⟩
        rcases List.mem_append.mp hb with hb | hb
        · exact .inr ⟨g', List.mem_cons_self, heq, hb⟩
        · exact .inl (List.mem_singleton.mp hb)
      · exact .inl (List.mem_cons_of_mem _ hg)
    · rcases List.mem_cons.mp hg with rfl | hg
      · exact .inl List.mem_cons_self
      · refine (ih hg).imp (List.mem_cons_of_mem _) (And.imp_right fun h b hb ↦ ?_)
        refine (h b hb).imp_right ?_
        rintro ⟨g'', hg'', hrest⟩
        exact ⟨g'', List.mem_cons_of_mem _ hg'', hrest⟩

end

section

variable {key : α → κ} {l : List α} {g : κ × List α}

/-- **The groups are a rearrangement of the list.** -/
theorem perm_flatMap_groupBy (key : α → κ) (l : List α) :
    (groupBy key l).flatMap Prod.snd ~ l := by
  induction l using List.reverseRecOn with
  | nil => exact List.Perm.refl _
  | append_singleton l a ih =>
    rw [groupBy, List.foldl_append, List.foldl_cons, List.foldl_nil, ← groupBy]
    exact perm_flatMap_insertGroup.trans (ih.append_right [a])

theorem nodup_keys_groupBy (key : α → κ) (l : List α) :
    ((groupBy key l).map Prod.fst).Nodup := by
  induction l using List.reverseRecOn with
  | nil => exact List.nodup_nil
  | append_singleton l a ih =>
    rw [groupBy, List.foldl_append, List.foldl_cons, List.foldl_nil, ← groupBy]
    exact nodup_keys_insertGroup ih

/-- The keys of the groups are those of the elements. -/
theorem mem_keys_groupBy {k : κ} :
    k ∈ (groupBy key l).map Prod.fst ↔ ∃ a ∈ l, key a = k := by
  induction l using List.reverseRecOn with
  | nil => simp [groupBy]
  | append_singleton l b ih =>
    rw [groupBy, List.foldl_append, List.foldl_cons, List.foldl_nil, ← groupBy,
      mem_keys_insertGroup, ih]
    simp only [List.mem_append, List.mem_singleton, or_and_right, exists_or, exists_eq_left]
    rw [or_comm, eq_comm]

theorem key_of_mem_groupBy (hg : g ∈ groupBy key l) : ∀ a ∈ g.2, key a = g.1 := by
  induction l using List.reverseRecOn generalizing g with
  | nil => exact absurd hg List.not_mem_nil
  | append_singleton l b ih =>
    rw [groupBy, List.foldl_append, List.foldl_cons, List.foldl_nil, ← groupBy] at hg
    intro a ha
    rcases mem_insertGroup hg with hg | ⟨hkey, hmem⟩
    · exact ih hg a ha
    · rcases hmem a ha with rfl | ⟨g', hg', hkey', ha'⟩
      · exact hkey.symm
      · exact (ih hg' a ha').trans (hkey'.trans hkey.symm)

theorem mem_of_mem_groupBy (hg : g ∈ groupBy key l) {a : α} (ha : a ∈ g.2) : a ∈ l :=
  (perm_flatMap_groupBy key l).mem_iff.mp (List.mem_flatMap.mpr ⟨g, hg, ha⟩)

/-- Every element is in a group. -/
theorem exists_mem_groupBy {a : α} (ha : a ∈ l) : ∃ g ∈ groupBy key l, a ∈ g.2 :=
  List.mem_flatMap.mp ((perm_flatMap_groupBy key l).mem_iff.mpr ha)

/-- A group has the elements of its key. -/
theorem snd_of_mem_groupBy (hg : g ∈ groupBy key l) :
    g.2 ~ l.filter fun a ↦ decide (key a = g.1) := by
  have hgroups : ∀ gs : List (κ × List α), (gs.map Prod.fst).Nodup →
      (∀ g ∈ gs, ∀ a ∈ g.2, key a = g.1) → g ∈ gs →
      (gs.flatMap Prod.snd).filter (fun a ↦ decide (key a = g.1)) = g.2 := by
    intro gs hnodup hkeys hmem
    induction gs with
    | nil => exact absurd hmem List.not_mem_nil
    | cons g' gs ih =>
      obtain ⟨hnot, hrest⟩ := List.nodup_cons.mp hnodup
      have hkeys' := fun g hg ↦ hkeys g (List.mem_cons_of_mem g' hg)
      rw [List.flatMap_cons, List.filter_append]
      rcases List.mem_cons.mp hmem with rfl | hmem
      · -- the other groups have other keys
        have hothers : (gs.flatMap Prod.snd).filter (fun a ↦ decide (key a = g.1)) = [] := by
          refine List.filter_eq_nil_iff.mpr fun a ha ↦ ?_
          obtain ⟨g'', hg'', ha⟩ := List.mem_flatMap.mp ha
          rw [decide_eq_true_eq, hkeys' g'' hg'' a ha]
          exact fun heq ↦ hnot (heq ▸ List.mem_map_of_mem hg'')
        have hown : g.2.filter (fun a ↦ decide (key a = g.1)) = g.2 :=
          List.filter_eq_self.mpr fun a ha ↦ decide_eq_true (hkeys g List.mem_cons_self a ha)
        rw [hown, hothers, List.append_nil]
      · have hnone : g'.2.filter (fun a ↦ decide (key a = g.1)) = [] := by
          refine List.filter_eq_nil_iff.mpr fun a ha ↦ ?_
          rw [decide_eq_true_eq, hkeys g' List.mem_cons_self a ha]
          exact fun heq ↦ hnot (heq ▸ List.mem_map_of_mem hmem)
        rw [hnone, List.nil_append]
        exact ih hrest hkeys' hmem
  have hperm := (perm_flatMap_groupBy key l).filter fun a ↦ decide (key a = g.1)
  rw [hgroups _ (nodup_keys_groupBy key l) (fun g hg ↦ key_of_mem_groupBy hg) hg] at hperm
  exact hperm

/-- A sum over all groups is the sum over the list. -/
theorem sum_groupBy {M : Type*} [AddCommMonoid M] (key : α → κ) (f : α → M) (l : List α) :
    ((groupBy key l).map fun g ↦ (g.2.map f).sum).sum = (l.map f).sum := by
  have hperm := ((perm_flatMap_groupBy key l).map f).sum_eq
  rw [← hperm, List.map_flatMap, List.flatMap_def, List.sum_flatten, List.map_map]
  rfl

end

end Grouping
