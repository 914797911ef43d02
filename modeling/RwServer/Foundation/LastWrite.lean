import Mathlib

/-!
# Writes under keys

Writes are carried out one after the other, each under its key, and replace what the key stands
for. Afterwards a key stands for the value of the last write under it, or for what it stood for
before if there is none.
-/

namespace LastWrite

variable {σ α κ β : Type*}

/-- A write replaces what its key stands for, and nothing else. -/
structure WritesUnder (view : σ → κ → Option β) (step : σ → α → σ) (key : α → κ)
    (value : α → β) : Prop where
  self : ∀ s a, view (step s a) (key a) = some (value a)
  of_ne : ∀ s a k, k ≠ key a → view (step s a) k = view s k

variable [DecidableEq κ] {view : σ → κ → Option β} {step : σ → α → σ} {key : α → κ}
  {value : α → β}

/-- The last write under a key. -/
def lastUnder (key : α → κ) (l : List α) (k : κ) : Option α :=
  (l.filter fun a ↦ decide (key a = k)).getLast?

theorem lastUnder_cons (a : α) (l : List α) (k : κ) : lastUnder key (a :: l) k
    = (lastUnder key l k).or (if key a = k then some a else none) := by
  rw [lastUnder, lastUnder, List.filter_cons]
  by_cases hk : key a = k
  · rw [decide_eq_true hk, if_pos rfl, List.getLast?_cons, if_pos hk]
    cases (l.filter fun a ↦ decide (key a = k)).getLast? <;> rfl
  · rw [decide_eq_false hk, if_neg hk, Option.or_none]
    rfl

/-- **The last write wins.** -/
theorem WritesUnder.view_foldl (h : WritesUnder view step key value) (l : List α) (s : σ) (k : κ) :
    view (l.foldl step s) k = ((lastUnder key l k).map value).or (view s k) := by
  induction l generalizing s with
  | nil => rfl
  | cons a l ih =>
    rw [List.foldl_cons, ih, lastUnder_cons]
    by_cases hk : key a = k
    · subst hk
      rw [h.self, if_pos rfl]
      cases lastUnder key l (key a) <;> rfl
    · rw [h.of_ne s a k (Ne.symm hk), if_neg hk, Option.or_none]

end LastWrite
