import Mathlib

/-!
# Sums over a join

A join has a row of the left table once for each row of the right table that it is joined with, so
a sum of a column of the left table counts each row as often as it has partners (`sum_join`), and is
the sum over the left table iff what the other partners add cancels out.

Where a table is read key by key, the reads have no row in common (`nodup_flatMap_of_keys`).
-/

namespace Relational

variable {ρ τ M : Type*}

/-- `JOIN .. ON`. -/
def join (left : List ρ) (right : List τ) (on : ρ → τ → Bool) : List (ρ × τ) :=
  left.flatMap fun r ↦ (right.filter (on r)).map fun s ↦ (r, s)

variable {left : List ρ} {right : List τ} {on : ρ → τ → Bool}

/-- **A row counts as often as it has partners.** -/
theorem sum_join [AddCommMonoid M] (g : ρ → M) :
    ((join left right on).map fun p ↦ g p.1).sum
      = (left.map fun r ↦ right.countP (on r) • g r).sum := by
  rw [join]
  induction left with
  | nil => rfl
  | cons r left ih =>
    have hpartners : (((right.filter (on r)).map fun s ↦ (r, s)).map fun p ↦ g p.1).sum
        = right.countP (on r) • g r := by
      rw [List.map_map, List.countP_eq_length_filter, ← List.sum_replicate, ← List.map_const']
      rfl
    rw [List.flatMap_cons, List.map_append, List.sum_append, ih, hpartners, List.map_cons,
      List.sum_cons]

/-- What the partners beyond the first add to a sum. -/
theorem sum_join_eq_iff [Ring M] (g : ρ → M) :
    ((join left right on).map fun p ↦ g p.1).sum = (left.map g).sum ↔
      (left.map fun r ↦ ((right.countP (on r) : M) - 1) * g r).sum = 0 := by
  have hsub : (left.map fun r ↦ ((right.countP (on r) : M) - 1) * g r).sum
      = (left.map fun r ↦ right.countP (on r) • g r).sum - (left.map g).sum := by
    rw [eq_sub_iff_add_eq, ← List.sum_map_add]
    congr 1
    refine List.map_congr_left fun r _ ↦ ?_
    rw [sub_mul, one_mul, sub_add_cancel, nsmul_eq_mul]
  rw [sum_join, hsub, sub_eq_zero]

/-- Where each row has a partner and nothing is negative, each row that adds anything has one. -/
theorem sum_join_eq_iff_of_nonneg [Ring M] [LinearOrder M] [IsStrictOrderedRing M] {g : ρ → M}
    (hpartner : ∀ r ∈ left, 0 < right.countP (on r)) (hg : ∀ r ∈ left, 0 ≤ g r) :
    ((join left right on).map fun p ↦ g p.1).sum = (left.map g).sum ↔
      ∀ r ∈ left, right.countP (on r) = 1 ∨ g r = 0 := by
  have hcount : ∀ r ∈ left, (0 : M) ≤ (right.countP (on r) : M) - 1 := fun r hr ↦
    sub_nonneg.mpr (Nat.one_le_cast.mpr (hpartner r hr))
  rw [sum_join_eq_iff]
  constructor
  · intro hsum r hr
    have hnonneg : ∀ x ∈ left.map fun r ↦ ((right.countP (on r) : M) - 1) * g r, 0 ≤ x := by
      intro x hx
      obtain ⟨r', hr', rfl⟩ := List.mem_map.mp hx
      exact mul_nonneg (hcount r' hr') (hg r' hr')
    have hzero := List.all_zero_of_le_zero_le_of_sum_eq_zero hnonneg hsum (List.mem_map_of_mem hr)
    refine (mul_eq_zero.mp hzero).imp_left fun h ↦ ?_
    exact Nat.cast_eq_one.mp (sub_eq_zero.mp h)
  · intro h
    refine List.sum_eq_zero fun x hx ↦ ?_
    obtain ⟨r, hr, rfl⟩ := List.mem_map.mp hx
    rcases h r hr with hone | hzero
    · rw [hone, Nat.cast_one, sub_self, zero_mul]
    · rw [hzero, mul_zero]

/-- Reads for different keys have no row in common. -/
theorem nodup_flatMap_of_keys {α β κ : Type*} {l : List α} {key : α → κ} {f : α → List β}
    (tag : β → κ) (hl : (l.map key).Nodup) (hf : ∀ a ∈ l, (f a).Nodup)
    (htag : ∀ a ∈ l, ∀ b ∈ f a, tag b = key a) : (l.flatMap f).Nodup := by
  refine List.pairwise_flatMap.mpr ⟨hf, ?_⟩
  refine (List.pairwise_map.mp hl).imp_of_mem fun {a a'} ha ha' hne b hb b' hb' heq ↦ hne ?_
  subst heq
  exact (htag a ha b hb).symm.trans (htag a' ha' b hb')

end Relational
