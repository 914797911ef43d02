import Mathlib

/-!
# Copies of a view with a version

Something has a view for each key, and a version for each key that is raised when its view changes.
Copies of views are kept elsewhere, each with a version that was read before the view was. The write
and the raise are separate steps, so between them a view has changed and its version has not: such a
key is pending.

`Fresh` is what makes the version of a copy tell whether it is current, and the lemmas say how the
steps keep it: a write that changes views of pending keys only (`Fresh.write`), a raise
(`Fresh.raise`), and a new copy (`Fresh.copy`), whose version may be an old one.
-/

namespace VersionedView

variable {K V : Type*}

/-- No copy has a version that is yet to come, and one that has the version of its key is the view,
unless the key is pending. -/
structure Fresh (view : K → V) (version : K → ℕ) (pending : K → Prop)
    (copies : K → ℕ → V → Prop) : Prop where
  version_le : ∀ k n v, copies k n v → n ≤ version k
  current : ∀ k v, copies k (version k) v → ¬ pending k → v = view k

variable {view view' : K → V} {version : K → ℕ} {pending pending' : K → Prop}
  {copies copies' : K → ℕ → V → Prop}

theorem fresh_of_no_copies (h : ∀ k n v, ¬ copies k n v) : Fresh view version pending copies where
  version_le k n v hcopy := absurd hcopy (h k n v)
  current k v hcopy := absurd hcopy (h k _ v)

/-- Copies may be lost, and more keys become pending. -/
theorem Fresh.mono (h : Fresh view version pending copies)
    (hcopies : ∀ k n v, copies' k n v → copies k n v) (hpending : ∀ k, pending k → pending' k) :
    Fresh view version pending' copies' where
  version_le k n v hcopy := h.version_le k n v (hcopies k n v hcopy)
  current k v hcopy hnot := h.current k v (hcopies k _ v hcopy) fun hp ↦ hnot (hpending k hp)

/-- A write changes the views of keys that are pending after it. -/
theorem Fresh.write (h : Fresh view version pending copies)
    (hchanged : ∀ k, view' k ≠ view k → pending' k) (hpending : ∀ k, pending k → pending' k) :
    Fresh view' version pending' copies where
  version_le := h.version_le
  current k v hcopy hnot := by
    by_contra hne
    have hold := h.current k v hcopy fun hp ↦ hnot (hpending k hp)
    exact hnot (hchanged k fun hview ↦ hne (hold.trans hview.symm))

/-- A raise of the version of `k`, which may end that `k` is pending: no copy has the new
version. -/
theorem Fresh.raise [DecidableEq K] (h : Fresh view version pending copies) (k : K)
    (hpending : ∀ j, j ≠ k → pending j → pending' j) :
    Fresh view (Function.update version k (version k + 1)) pending' copies where
  version_le j n v hcopy := by
    have hle := h.version_le j n v hcopy
    by_cases hj : j = k
    · subst hj
      rw [Function.update_self]
      exact hle.trans (Nat.le_succ _)
    · rwa [Function.update_of_ne hj]
  current j v hcopy hnot := by
    by_cases hj : j = k
    · subst hj
      rw [Function.update_self] at hcopy
      exact absurd (h.version_le _ _ _ hcopy) (Nat.not_succ_le_self _)
    · rw [Function.update_of_ne hj] at hcopy
      exact h.current j v hcopy fun hp ↦ hnot (hpending j hj hp)

/-- A new copy of a view, with a version that has been read before. -/
theorem Fresh.copy (h : Fresh view version pending copies) {k : K} {n : ℕ} (hn : n ≤ version k)
    (hcopies : ∀ j m v, copies' j m v → copies j m v ∨ (j = k ∧ m = n ∧ v = view k)) :
    Fresh view version pending copies' where
  version_le j m v hcopy := by
    rcases hcopies j m v hcopy with hold | ⟨rfl, rfl, -⟩
    · exact h.version_le j m v hold
    · exact hn
  current j v hcopy hnot := by
    rcases hcopies j _ v hcopy with hold | ⟨rfl, -, rfl⟩
    · exact h.current j v hold hnot
    · rfl

end VersionedView
