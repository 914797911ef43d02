import Mathlib.Data.List.Basic
import Mathlib.Order.Nat

/-!
# Histories

A history is a list of events in the order in which they happened. What an event does can depend
on the events before it, so a property of events is a relation between a history and the event that
comes next, and `HoldsAt P l i` says that the event at `i` has the property.

`Since P Q l` says that an event has had the property `P` and none after it the property `Q`. A
further event either is such an event, or leaves the one there was as long as it has not `Q`.
-/

namespace History

variable {α : Type*} {P Q : List α → α → Prop} {l : List α} {a : α} {i : ℕ}

/-- The event at `i` has the property. -/
def HoldsAt (P : List α → α → Prop) (l : List α) (i : ℕ) : Prop :=
  ∃ a, l[i]? = some a ∧ P (l.take i) a

/-- An event has had the property `P`, and none since the property `Q`. -/
def Since (P Q : List α → α → Prop) (l : List α) : Prop :=
  ∃ i, HoldsAt P l i ∧ ∀ j, i < j → ¬HoldsAt Q l j

theorem HoldsAt.lt_length (h : HoldsAt P l i) : i < l.length := by
  obtain ⟨a, hget, -⟩ := h
  exact (List.getElem?_eq_some_iff.mp hget).1

theorem not_since_nil : ¬Since P Q [] := by
  rintro ⟨i, hi, -⟩
  exact absurd hi.lt_length (Nat.not_lt_zero i)

/-- The events of a longer history are the earlier ones, with the same events before them, and the
last one. -/
theorem holdsAt_snoc : HoldsAt P (l ++ [a]) i ↔ HoldsAt P l i ∨ i = l.length ∧ P l a := by
  rcases lt_trichotomy i l.length with hlt | rfl | hgt
  · have htake : (l ++ [a]).take i = l.take i := List.take_append_of_le_length hlt.le
    rw [HoldsAt, htake, List.getElem?_append_left hlt]
    exact (or_iff_left fun h ↦ hlt.ne h.1).symm
  · have hget : (l ++ [a])[l.length]? = some a := List.getElem?_concat_length
    rw [HoldsAt, List.take_left, hget]
    constructor
    · rintro ⟨b, hb, hP⟩
      cases hb
      exact Or.inr ⟨rfl, hP⟩
    · rintro (h | ⟨-, hP⟩)
      · exact absurd h.lt_length (lt_irrefl _)
      · exact ⟨a, rfl, hP⟩
  · refine iff_of_false (fun h ↦ ?_) ?_
    · have hlength := h.lt_length
      rw [List.length_append, List.length_singleton] at hlength
      omega
    · rintro (h | ⟨h, -⟩)
      · exact absurd h.lt_length (by omega)
      · omega

/-- **One more event.** -/
theorem since_snoc : Since P Q (l ++ [a]) ↔ P l a ∨ Since P Q l ∧ ¬Q l a := by
  constructor
  · rintro ⟨i, hi, hsince⟩
    rcases holdsAt_snoc.mp hi with hold | ⟨-, hP⟩
    · refine Or.inr ⟨⟨i, hold, fun j hj hQ ↦ ?_⟩, fun hQ ↦ ?_⟩
      · exact hsince j hj (holdsAt_snoc.mpr (Or.inl hQ))
      · exact hsince l.length hold.lt_length (holdsAt_snoc.mpr (Or.inr ⟨rfl, hQ⟩))
    · exact Or.inl hP
  · rintro (hP | ⟨⟨i, hi, hsince⟩, hQ⟩)
    · refine ⟨l.length, holdsAt_snoc.mpr (Or.inr ⟨rfl, hP⟩), fun j hj hj' ↦ ?_⟩
      have hlength := hj'.lt_length
      rw [List.length_append, List.length_singleton] at hlength
      omega
    · refine ⟨i, holdsAt_snoc.mpr (Or.inl hi), fun j hj hj' ↦ ?_⟩
      rcases holdsAt_snoc.mp hj' with hold | ⟨-, hlast⟩
      · exact hsince j hj hold
      · exact hQ hlast

end History
