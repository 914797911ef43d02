import Mathlib
import RwServer.Foundation.Timeline

/-!
# Measuring a timeline in parts

The length of a span inside a window is additive in both: a window may be cut into adjacent ones
(`sum_clippedLength`), and a span may be cut at an instant (`clippedLength_before_add_after`).
A span that does not meet the window has no length in it.

Where lengths are rounded, a sum of rounded parts is off the rounded sum by half a unit for each
rounding.
-/

namespace Timeline

namespace Span

variable {lo m hi now x : ℤ}

/-- A window that is cut in two. -/
theorem clippedLength_add (s : Span ℤ) (hlo : lo ≤ m) (hhi : m ≤ hi) (now : ℤ) :
    s.clippedLength lo m now + s.clippedLength m hi now = s.clippedLength lo hi now := by
  simp only [clippedLength]
  omega

theorem clippedLength_self (s : Span ℤ) (lo now : ℤ) : s.clippedLength lo lo now = 0 := by
  simp only [clippedLength]
  omega

/-- **A window that is cut into adjacent ones**: the lengths inside them add up. -/
theorem sum_clippedLength (s : Span ℤ) (now : ℤ) {cut : ℕ → ℤ} {n : ℕ}
    (hcut : ∀ i < n, cut i ≤ cut (i + 1)) :
    ∑ i ∈ Finset.range n, s.clippedLength (cut i) (cut (i + 1)) now
      = s.clippedLength (cut 0) (cut n) now := by
  induction n with
  | zero => rw [Finset.range_zero, Finset.sum_empty, clippedLength_self]
  | succ n ih =>
    have hle : ∀ k ≤ n, cut 0 ≤ cut k := by
      intro k
      induction k with
      | zero => exact fun _ ↦ le_rfl
      | succ k ihk => exact fun hk ↦ (ihk (by omega)).trans (hcut k (by omega))
    rw [Finset.sum_range_succ, ih fun i hi ↦ hcut i (hi.trans n.lt_succ_self)]
    exact s.clippedLength_add (hle n le_rfl) (hcut n n.lt_succ_self) now

/-- **A span that is cut in two**, where an open one begins its second part before now. -/
theorem clippedLength_before_add_after {s : Span ℤ} (hx : s.CutAt x)
    (hnow : s.stop = none → x ≤ now) (lo hi : ℤ) :
    (s.before x).clippedLength lo hi now + (s.after x).clippedLength lo hi now
      = s.clippedLength lo hi now := by
  have hstart := hx.1
  have hstop : x ≤ s.stop.getD now := by
    cases hs : s.stop with
    | none => exact hnow hs
    | some e => exact hx.2 e hs
  simp only [clippedLength, before, after, Option.getD_some]
  omega

/-- A span that does not meet the window, or a wider one, has no length in it. -/
theorem clippedLength_eq_zero {s : Span ℤ} {lo' hi' : ℤ} (hlo : lo' ≤ lo) (hhi : hi ≤ hi')
    (h : ¬(s.start < hi' ∧ ∀ e ∈ s.stop, lo' < e)) : s.clippedLength lo hi now = 0 := by
  rw [clippedLength, max_eq_left]
  by_cases hstart : s.start < hi'
  · obtain ⟨e, he, hle⟩ : ∃ e, s.stop = some e ∧ e ≤ lo' := by
      by_contra! hmeets
      exact h ⟨hstart, hmeets⟩
    rw [he, Option.getD_some]
    omega
  · omega

end Span

end Timeline

/-! ## Rounding -/

namespace Rounding

section

variable {K : Type*} [Field K] [LinearOrder K] [IsStrictOrderedRing K] [FloorRing K]

/-- **A sum of rounded parts** is off the rounded sum by half a unit for each rounding. -/
theorem abs_sum_round_sub_round_sum_le {ι : Type*} (s : Finset ι) (f : ι → K) :
    |((∑ i ∈ s, round (f i) - round (∑ i ∈ s, f i) : ℤ) : K)| ≤ (s.card + 1) / 2 := by
  have hparts : |∑ i ∈ s, ((round (f i) : K) - f i)| ≤ s.card / 2 :=
    calc |∑ i ∈ s, ((round (f i) : K) - f i)|
        ≤ ∑ i ∈ s, |(round (f i) : K) - f i| := Finset.abs_sum_le_sum_abs _ _
      _ ≤ ∑ _i ∈ s, (1 / 2 : K) :=
        Finset.sum_le_sum fun i _ ↦ abs_sub_comm (f i) _ ▸ abs_sub_round (f i)
      _ = s.card / 2 := by rw [Finset.sum_const, nsmul_eq_mul, mul_one_div]
  have hsplit : ((∑ i ∈ s, round (f i) - round (∑ i ∈ s, f i) : ℤ) : K)
      = ∑ i ∈ s, ((round (f i) : K) - f i) + (∑ i ∈ s, f i - round (∑ i ∈ s, f i)) := by
    rw [Int.cast_sub, Int.cast_sum, Finset.sum_sub_distrib]
    ring
  calc |((∑ i ∈ s, round (f i) - round (∑ i ∈ s, f i) : ℤ) : K)|
      ≤ |∑ i ∈ s, ((round (f i) : K) - f i)| + |∑ i ∈ s, f i - round (∑ i ∈ s, f i)| := by
        rw [hsplit]
        exact abs_add_le _ _
    _ ≤ s.card / 2 + 1 / 2 := add_le_add hparts (abs_sub_round _)
    _ = (s.card + 1) / 2 := by ring

end

/-- Rounding a quotient by an even number is an integer division. -/
theorem round_div_two_mul (a : ℤ) {n : ℕ} (hn : 0 < n) :
    round ((a : ℚ) / ((2 * n : ℕ) : ℚ)) = (a + n) / ((2 * n : ℕ) : ℤ) := by
  have hne : (n : ℚ) ≠ 0 := Nat.cast_ne_zero.mpr hn.ne'
  have heq : (a : ℚ) / ((2 * n : ℕ) : ℚ) + 1 / 2 = ((a + n : ℤ) : ℚ) / ((2 * n : ℕ) : ℚ) := by
    push_cast
    field_simp
  rw [round_eq, heq, Rat.floor_intCast_div_natCast]

end Rounding
