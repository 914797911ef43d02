import Mathlib

/-!
# The leading row

`ORDER BY .. LIMIT 1` yields a row that no other comes before; of several such rows, a loop that
only changes its mind for a better row yields the first (`leading_eq_some_iff`). The rows of an order
by two columns are led by a row of those that lead in the first column (`leading_filter`).
-/

namespace Relational

variable {ρ : Type*}

/-- `ORDER BY .. LIMIT 1`: a row is kept until one comes before it. -/
def leading (before : ρ → ρ → Bool) (rows : List ρ) : Option ρ :=
  rows.foldl (fun best r ↦ match best with
    | none => some r
    | some b => if before r b then some r else some b) none

/-- The row comes before the rows above it, and no row below it comes before it. -/
def Leads (before : ρ → ρ → Bool) (rows : List ρ) (r : ρ) : Prop :=
  ∃ above below, rows = above ++ r :: below ∧ (∀ a ∈ above, before r a = true) ∧
    ∀ a ∈ below, before a r = false

/-- A strict weak order: rows that do not come before one another are equals. -/
structure IsOrder (before : ρ → ρ → Bool) : Prop where
  trans : ∀ {a b c}, before a b = true → before b c = true → before a c = true
  not_trans : ∀ {a b c}, before a b = false → before b c = false → before a c = false

variable {before : ρ → ρ → Bool} {rows : List ρ} {r a : ρ}

theorem Leads.mem (h : Leads before rows r) : r ∈ rows := by
  obtain ⟨above, below, rfl, -, -⟩ := h
  exact List.mem_append_right _ List.mem_cons_self

/-- At most one row leads. -/
theorem Leads.unique (h : Leads before rows r) (h' : Leads before rows a) : r = a := by
  obtain ⟨above, below, rfl, habove, hbelow⟩ := h
  obtain ⟨above', below', heq, habove', hbelow'⟩ := h'
  rcases List.append_eq_append_iff.mp heq with ⟨l, rfl, hl⟩ | ⟨l, rfl, hl⟩
  · cases l with
    | nil => exact (List.cons.inj hl).1
    | cons b l =>
      -- `a` is below `r`, and comes before it
      obtain ⟨rfl, rfl⟩ := List.cons.inj hl
      have hyes := habove' r (List.mem_append_right _ List.mem_cons_self)
      have hno := hbelow a (List.mem_append_right _ List.mem_cons_self)
      rw [hyes] at hno
      cases hno
  · cases l with
    | nil => exact (List.cons.inj hl).1.symm
    | cons b l =>
      obtain ⟨rfl, rfl⟩ := List.cons.inj hl
      have hyes := habove a (List.mem_append_right _ List.mem_cons_self)
      have hno := hbelow' r (List.mem_append_right _ List.mem_cons_self)
      rw [hyes] at hno
      cases hno

theorem leading_append_singleton (before : ρ → ρ → Bool) (rows : List ρ) (r : ρ) :
    leading before (rows ++ [r]) = match leading before rows with
      | none => some r
      | some b => if before r b then some r else some b := by
  rw [leading, List.foldl_append]
  rfl

/-- Rows in an order have a leading one. -/
theorem exists_leading (h : IsOrder before) (hrows : rows ≠ []) :
    ∃ r, leading before rows = some r ∧ Leads before rows r := by
  induction rows using List.reverseRecOn with
  | nil => exact absurd rfl hrows
  | append_singleton rows x ih =>
    rw [leading_append_singleton]
    cases rows with
    | nil => exact ⟨x, rfl, [], [], rfl, by simp, by simp⟩
    | cons y rows =>
      obtain ⟨b, hb, above, below, hsplit, habove, hbelow⟩ := ih (List.cons_ne_nil y rows)
      rw [hb]
      dsimp only
      cases hx : before x b with
      | true =>
        refine ⟨x, if_pos rfl, y :: rows, [], rfl, fun a ha ↦ ?_, by simp⟩
        rw [hsplit, List.mem_append, List.mem_cons] at ha
        rcases ha with ha | rfl | ha
        · exact h.trans hx (habove a ha)
        · exact hx
        · -- a row that `x` does not come before is none that `b` leads
          by_contra hno
          rw [Bool.not_eq_true] at hno
          rw [h.not_trans hno (hbelow a ha)] at hx
          cases hx
      | false =>
        refine ⟨b, if_neg Bool.false_ne_true, above, below ++ [x], ?_, habove, fun a ha ↦ ?_⟩
        · rw [hsplit, List.append_assoc, List.cons_append]
        · rcases List.mem_append.mp ha with ha | ha
          · exact hbelow a ha
          · rw [List.mem_singleton.mp ha, hx]

/-- **The row that a query yields** is the one that leads. -/
theorem leading_eq_some_iff (h : IsOrder before) :
    leading before rows = some r ↔ Leads before rows r := by
  have hlead : rows ≠ [] → ∃ b, leading before rows = some b ∧ Leads before rows b :=
    exists_leading h
  constructor
  · intro hr
    have hrows : rows ≠ [] := by
      rintro rfl
      cases hr
    obtain ⟨b, hb, hleads⟩ := hlead hrows
    rw [hb] at hr
    cases hr
    exact hleads
  · intro hr
    obtain ⟨b, hb, hleads⟩ := hlead (List.ne_nil_of_mem hr.mem)
    rw [hb, hleads.unique hr]

theorem leading_eq_none_iff (h : IsOrder before) : leading before rows = none ↔ rows = [] := by
  constructor
  · intro hnone
    by_contra hrows
    obtain ⟨r, hr, -⟩ := exists_leading h hrows
    rw [hnone] at hr
    cases hr
  · rintro rfl
    rfl

/-- A row that leads leads among those of a condition it meets. -/
theorem Leads.filter {p : ρ → Bool} (h : Leads before rows r) (hr : p r = true) :
    Leads before (rows.filter p) r := by
  obtain ⟨above, below, rfl, habove, hbelow⟩ := h
  refine ⟨above.filter p, below.filter p, ?_, fun a ha ↦ habove a (List.mem_filter.mp ha).1,
    fun a ha ↦ hbelow a (List.mem_filter.mp ha).1⟩
  rw [List.filter_append, List.filter_cons_of_pos hr]

/-- Orders that agree on the rows have the same leading one. -/
theorem Leads.congr {before' : ρ → ρ → Bool} (h : Leads before rows r)
    (heq : ∀ a ∈ rows, ∀ b ∈ rows, before a b = before' a b) : Leads before' rows r := by
  obtain ⟨above, below, rfl, habove, hbelow⟩ := h
  have hr : r ∈ above ++ r :: below := List.mem_append_right _ List.mem_cons_self
  refine ⟨above, below, rfl, fun a ha ↦ ?_, fun a ha ↦ ?_⟩
  · rw [← heq r hr a (List.mem_append_left _ ha)]
    exact habove a ha
  · rw [← heq a (List.mem_append_right _ (List.mem_cons_of_mem r ha)) r hr]
    exact hbelow a ha

/-- **The first column decides first**: where some rows meet a condition, and these come before all
others, one of them leads. -/
theorem leading_filter {p : ρ → Bool} (h : IsOrder before)
    (hp : ∀ a ∈ rows, ∀ b ∈ rows, p a = true → p b = false → before a b = true)
    (hp' : ∀ a ∈ rows, ∀ b ∈ rows, p a = false → p b = true → before a b = false)
    (hsome : rows.filter p ≠ []) : leading before rows = leading before (rows.filter p) := by
  obtain ⟨a, ha⟩ := List.exists_mem_of_ne_nil _ hsome
  obtain ⟨hamem, hap⟩ := List.mem_filter.mp ha
  obtain ⟨r, hr, hleads⟩ := exists_leading h (List.ne_nil_of_mem hamem)
  have hrp : p r = true := by
    by_contra hno
    rw [Bool.not_eq_true] at hno
    have hyes := hp a hamem r hleads.mem hap hno
    have hnot := hp' r hleads.mem a hamem hno hap
    obtain ⟨above, below, hsplit, habove, hbelow⟩ := hleads
    rw [hsplit, List.mem_append, List.mem_cons] at hamem
    rcases hamem with hmem | rfl | hmem
    · rw [habove a hmem] at hnot
      cases hnot
    · rw [hap] at hno
      cases hno
    · rw [hbelow a hmem] at hyes
      cases hyes
  rw [hr, (leading_eq_some_iff h).mpr (hleads.filter hrp)]

/-- Orders that agree on the rows have the same leading one. -/
theorem leading_congr {before' : ρ → ρ → Bool} (h : IsOrder before) (h' : IsOrder before')
    (heq : ∀ a ∈ rows, ∀ b ∈ rows, before a b = before' a b) :
    leading before rows = leading before' rows := by
  by_cases hrows : rows = []
  · rw [hrows]
    rfl
  · obtain ⟨r, hr, hleads⟩ := exists_leading h hrows
    rw [hr, (leading_eq_some_iff h').mpr (hleads.congr heq)]

/-- `ORDER BY .. DESC`. -/
theorem isOrder_desc {τ : Type*} [LinearOrder τ] (column : ρ → τ) :
    IsOrder fun a b ↦ decide (column b < column a) where
  trans hab hbc := decide_eq_true ((of_decide_eq_true hbc).trans (of_decide_eq_true hab))
  not_trans hab hbc := by
    rw [decide_eq_false_iff_not, not_lt] at hab hbc ⊢
    exact hab.trans hbc

end Relational
