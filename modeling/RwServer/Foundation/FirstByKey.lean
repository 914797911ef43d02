import Mathlib.Data.List.Sort
import Mathlib.Logic.Function.Basic

/-!
# The first row of each key

A query orders its rows by several columns, and a loop over them keeps the first row of each key
that it meets. Such a row is the least of its key in the order of the query (`rel_of_firstByKey`),
so that an order by a descending column selects the greatest.
-/

namespace Relational

variable {ρ κ τ : Type*}

/-- `ORDER BY`. -/
def orderBy [LinearOrder τ] (column : ρ → τ) (rows : List ρ) : List ρ :=
  rows.insertionSort fun a b ↦ column a ≤ column b

@[simp] theorem mem_orderBy [LinearOrder τ] {column : ρ → τ} {rows : List ρ} {r : ρ} :
    r ∈ orderBy column rows ↔ r ∈ rows :=
  List.mem_insertionSort _

theorem pairwise_orderBy [LinearOrder τ] (column : ρ → τ) (rows : List ρ) :
    (orderBy column rows).Pairwise fun a b ↦ column a ≤ column b :=
  haveI : Std.Total fun a b : ρ ↦ column a ≤ column b := ⟨fun a b ↦ le_total (column a) (column b)⟩
  haveI : IsTrans ρ fun a b ↦ column a ≤ column b := ⟨fun _ _ _ hab hbc ↦ hab.trans hbc⟩
  List.pairwise_insertionSort _ rows

/-- Where one row meets a condition, it is the only one that does in any order. -/
theorem filter_orderBy_eq_singleton [LinearOrder τ] {column : ρ → τ} {rows : List ρ}
    {p : ρ → Bool} {r : ρ} (h : rows.filter p = [r]) : (orderBy column rows).filter p = [r] :=
  List.perm_singleton.mp (h ▸ (List.perm_insertionSort _ rows).filter p)

/-- A loop that keeps the first row of each key. -/
def firstByKey [DecidableEq κ] (key : ρ → κ) (rows : List ρ) : κ → Option ρ :=
  rows.foldl (fun found r ↦ if (found (key r)).isSome then found
    else Function.update found (key r) (some r)) fun _ ↦ none

theorem foldl_firstByKey [DecidableEq κ] {key : ρ → κ} {rows : List ρ} {found : κ → Option ρ}
    {k : κ} :
    rows.foldl (fun found r ↦ if (found (key r)).isSome then found
      else Function.update found (key r) (some r)) found k
      = (found k).or (rows.find? fun r ↦ decide (key r = k)) := by
  induction rows generalizing found with
  | nil => simp
  | cons r rows ih =>
    rw [List.foldl_cons, ih, List.find?_cons]
    by_cases hk : key r = k
    · subst hk
      cases hfound : found (key r) with
      | none => simp
      | some => simp [hfound]
    · have hne : k ≠ key r := fun h ↦ hk h.symm
      split <;> simp [hk, hne, Function.update_of_ne]

theorem firstByKey_eq_find [DecidableEq κ] (key : ρ → κ) (rows : List ρ) (k : κ) :
    firstByKey key rows k = rows.find? fun r ↦ decide (key r = k) :=
  foldl_firstByKey

theorem isSome_firstByKey_iff [DecidableEq κ] {key : ρ → κ} {rows : List ρ} {k : κ} :
    (firstByKey key rows k).isSome = true ↔ ∃ r ∈ rows, key r = k := by
  rw [firstByKey_eq_find, List.find?_isSome]
  simp only [decide_eq_true_eq]

/-- The first row of a key comes before the others in the order of the rows. -/
theorem rel_of_firstByKey [DecidableEq κ] {key : ρ → κ} {rows : List ρ} {k : κ} {a : ρ}
    {rel : ρ → ρ → Prop} (hrows : rows.Pairwise rel) (h : firstByKey key rows k = some a) :
    a ∈ rows ∧ key a = k ∧ ∀ b ∈ rows, key b = k → b = a ∨ rel a b := by
  rw [firstByKey_eq_find] at h
  refine ⟨List.mem_of_find?_eq_some h, by simpa using List.find?_some h, fun b hb hbk ↦ ?_⟩
  induction rows with
  | nil => exact absurd hb List.not_mem_nil
  | cons r rows ih =>
    obtain ⟨hr, hrows⟩ := List.pairwise_cons.mp hrows
    rw [List.find?_cons] at h
    split at h
    · cases h
      exact (List.mem_cons.mp hb).imp id (hr b)
    · rename_i hne
      rcases List.mem_cons.mp hb with rfl | hb
      · exact absurd hbk (of_decide_eq_false hne)
      · exact ih hrows h hb

end Relational
