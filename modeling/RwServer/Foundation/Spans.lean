import Mathlib.Data.List.Basic
import Mathlib.Data.List.Range
import Mathlib.Data.Int.Cast.Basic
import Mathlib.Algebra.Order.Ring.Int

/-!
# Spans of indices

A round goes through the indices of a span, from the first to the last, and keeps the first value
that it finds. Rounds whose spans overlap find, one after the other, what a single round over all of
their indices finds: what a later round is the first to visit comes after everything that has been
visited (`or_findSome?_span`).
-/

namespace Spans

variable {β : Type*} {g : ℤ → Option β} {start x : ℤ} {m n k : ℕ}

/-- Consecutive indices. -/
def span (start : ℤ) (length : ℕ) : List ℤ := (List.range length).map fun i : ℕ ↦ start + i

@[simp] theorem mem_span : x ∈ span start n ↔ start ≤ x ∧ x < start + n := by
  rw [span, List.mem_map]
  constructor
  · rintro ⟨i, hi, rfl⟩
    rw [List.mem_range] at hi
    omega
  · rintro ⟨hle, hlt⟩
    exact ⟨(x - start).toNat, List.mem_range.mpr (by omega), by omega⟩

theorem span_add (start : ℤ) (m n : ℕ) :
    span start (m + n) = span start m ++ span (start + m) n := by
  rw [span, span, span, List.range_add, List.map_append, List.map_map]
  refine congrArg _ (List.map_congr_left fun i _ ↦ ?_)
  rw [Function.comp_apply, Nat.cast_add, add_assoc]

theorem findSome?_span_eq_none_iff :
    (span start n).findSome? g = none ↔ ∀ x, start ≤ x → x < start + n → g x = none := by
  rw [List.findSome?_eq_none_iff]
  simp only [mem_span, and_imp]

theorem findSome?_span_add :
    (span start (m + n)).findSome? g
      = ((span start m).findSome? g).or ((span (start + m) n).findSome? g) := by
  rw [span_add, List.findSome?_append]

/-- Indices without a value add nothing to a round. -/
theorem findSome?_span_of_le (hmn : m ≤ n) (h : ∀ x, start + m ≤ x → g x = none) :
    (span start n).findSome? g = (span start m).findSome? g := by
  obtain ⟨k, rfl⟩ := Nat.exists_eq_add_of_le hmn
  rw [findSome?_span_add, findSome?_span_eq_none_iff.mpr fun x hx _ ↦ h x hx, Option.or_none]

/-- **Two rounds** of which the second begins no later than right after the first find what one
round over both spans finds. -/
theorem or_findSome?_span (hk : k ≤ m) :
    ((span start m).findSome? g).or ((span (start + k) n).findSome? g)
      = (span start (max m (k + n))).findSome? g := by
  obtain ⟨j, rfl⟩ := Nat.exists_eq_add_of_le hk
  cases hfirst : (span start (k + j)).findSome? g with
  | some b =>
    obtain ⟨i, hi⟩ := Nat.exists_eq_add_of_le (le_max_left (k + j) (k + n))
    rw [hi, findSome?_span_add, hfirst, Option.some_or, Option.some_or]
  | none =>
    rw [Option.none_or]
    have hnone := findSome?_span_eq_none_iff.mp hfirst
    rcases le_total n j with hnj | hjn
    · -- the second round visits nothing new
      rw [max_eq_left (Nat.add_le_add_left hnj k), hfirst, findSome?_span_eq_none_iff]
      intro x hle hlt
      exact hnone x (by omega) (by omega)
    · obtain ⟨i, rfl⟩ := Nat.exists_eq_add_of_le hjn
      have hold : (span (start + k) j).findSome? g = none :=
        findSome?_span_eq_none_iff.mpr fun x hle hlt ↦ hnone x (by omega) (by omega)
      have hnew : (span (start + k) (j + i)).findSome? g
          = (span (start + k + j) i).findSome? g := by
        rw [findSome?_span_add, hold, Option.none_or]
      rw [hnew, max_eq_right (Nat.add_le_add_left hjn k), ← Nat.add_assoc, findSome?_span_add,
        hfirst, Option.none_or, Nat.cast_add, add_assoc]

/-- Where one index alone has a value, a round finds it, in any order. -/
theorem findSome?_eq_of_forall_ne {α : Type*} {f : α → Option β} {l : List α} {a : α}
    (ha : a ∈ l) (h : ∀ b ∈ l, b ≠ a → f b = none) : l.findSome? f = f a := by
  induction l with
  | nil => exact absurd ha List.not_mem_nil
  | cons b l ih =>
    rw [List.findSome?_cons]
    by_cases hb : b = a
    · subst hb
      cases hfb : f b with
      | some => rfl
      | none =>
        rw [List.findSome?_eq_none_iff]
        intro c hc
        by_cases hcb : c = b
        · rw [hcb, hfb]
        · exact h c (List.mem_cons_of_mem b hc) hcb
    · rw [h b List.mem_cons_self hb]
      exact ih (List.mem_of_ne_of_mem (Ne.symm hb) ha) fun c hc ↦ h c (List.mem_cons_of_mem b hc)

end Spans
