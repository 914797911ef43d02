import Mathlib.Algebra.BigOperators.Group.Finset.Piecewise
import Mathlib.Data.List.Basic

/-!
# Runs of a partial step function

A system is a partial function `step : α → σ → Option σ`: from a state, a label either leads to
one next state or is not enabled. A `Run` is a finite sequence of labels together with the state
it leads to, where every step meets a condition `ok` on the state it starts from. Taking
`ok := fun _ _ ↦ True` gives all runs; a proper condition gives the runs in which a branch that
goes wrong is not taken.

`Run.invariant` is the one induction on runs, and `run_iff_run_keeping` says when a condition on the
steps is exact for a property of the states. `execute` replays a concrete list of labels, and
`run_of_execute` turns such a replay into a run, so that a trace can be evaluated.

Where the state is a family of phases, one for each process, what the processes contribute is a sum,
and a step of one of them changes one summand (`sum_update`).
-/

namespace Transition

variable {σ α : Type*} {step : α → σ → Option σ} {ok : σ → α → Prop} {s₀ s s' : σ} {as : List α}

/-- `Run step ok s₀ as s`: the labels `as`, taken in order from `s₀`, lead to `s`, and every step
meets `ok`. -/
inductive Run (step : α → σ → Option σ) (ok : σ → α → Prop) (s₀ : σ) : List α → σ → Prop
  | nil : Run step ok s₀ [] s₀
  | snoc {as : List α} {s : σ} {a : α} {s' : σ} :
      Run step ok s₀ as s → ok s a → step a s = some s' → Run step ok s₀ (as ++ [a]) s'

/-- **The invariant rule.** What holds at the start and is kept by every step that meets `ok`
holds in every state a run reaches. -/
theorem Run.invariant {inv : σ → Prop} (h₀ : inv s₀)
    (hstep : ∀ s a s', inv s → ok s a → step a s = some s' → inv s')
    (h : Run step ok s₀ as s) : inv s := by
  induction h with
  | nil => exact h₀
  | snoc _ hok hs ih => exact hstep _ _ _ ih hok hs

/-- A run under a condition is a run under any weaker one. -/
theorem Run.mono {ok' : σ → α → Prop} (himp : ∀ s a, ok s a → ok' s a)
    (h : Run step ok s₀ as s) : Run step ok' s₀ as s := by
  induction h with
  | nil => exact .nil
  | snoc _ hok hs ih => exact ih.snoc (himp _ _ hok) hs

/-- What holds of every label of a run can be asked of its steps. -/
theorem Run.of_forall_mem {p : α → Prop} (h : Run step ok s₀ as s) (hp : ∀ a ∈ as, p a) :
    Run step (fun _ a ↦ p a) s₀ as s := by
  induction h with
  | nil => exact .nil
  | snoc _ _ hs ih =>
    exact (ih fun a ha ↦ hp a (List.mem_append_left _ ha)).snoc
      (hp _ (List.mem_append_right _ List.mem_cons_self)) hs

/-- **The exact condition.** Where every step of a state that meets `inv` and `P` keeps `inv`, and
keeps `P` exactly when it meets `ok`, the runs under `ok` are those that keep `P` throughout. -/
theorem run_iff_run_keeping {inv P : σ → Prop} (h₀ : inv s₀ ∧ P s₀)
    (hinv : ∀ s a s', inv s → step a s = some s' → inv s')
    (hiff : ∀ s a s', inv s → P s → step a s = some s' → (P s' ↔ ok s a)) :
    Run step ok s₀ as s ↔ Run step (fun s a ↦ ∀ s', step a s = some s' → P s') s₀ as s := by
  have hkeeps : ∀ {ok' : σ → α → Prop}, (∀ s a s', inv s → P s → step a s = some s' →
      ok' s a → P s') → ∀ {as s}, Run step ok' s₀ as s → inv s ∧ P s := by
    intro ok' hok' as s h
    induction h with
    | nil => exact h₀
    | snoc _ hok hstep ih => exact ⟨hinv _ _ _ ih.1 hstep, hok' _ _ _ ih.1 ih.2 hstep hok⟩
  constructor
  · intro h
    induction h with
    | nil => exact .nil
    | snoc hrun hok hstep ih =>
      obtain ⟨hs, hP⟩ :=
        hkeeps (fun s a s' hs hP hstep hok ↦ (hiff s a s' hs hP hstep).mpr hok) hrun
      exact ih.snoc (fun s' hs' ↦ (hiff _ _ s' hs hP hs').mpr hok) hstep
  · intro h
    induction h with
    | nil => exact .nil
    | snoc hrun hok hstep ih =>
      obtain ⟨hs, hP⟩ := hkeeps (fun s a s' _ _ hstep hok ↦ hok s' hstep) hrun
      exact ih.snoc ((hiff _ _ _ hs hP hstep).mp (hok _ hstep)) hstep

/-- Runs compose. -/
theorem Run.trans {bs : List α} (h : Run step ok s₀ as s) (h' : Run step ok s bs s') :
    Run step ok s₀ (as ++ bs) s' := by
  induction h' with
  | nil => rwa [List.append_nil]
  | snoc _ hok hs ih =>
    rw [← List.append_assoc]
    exact ih.snoc hok hs

/-- Replay a list of labels, stopping where a label is not enabled or does not meet `ok`. -/
def execute (step : α → σ → Option σ) (ok : σ → α → Prop) [∀ s a, Decidable (ok s a)] :
    List α → σ → Option σ
  | [], s => some s
  | a :: as, s => if ok s a then (step a s).bind (execute step ok as) else none

/-- A replay that goes through is a run. -/
theorem run_of_execute [∀ s a, Decidable (ok s a)] : ∀ {as : List α} {s₀ s : σ},
    execute step ok as s₀ = some s → Run step ok s₀ as s := by
  intro as
  induction as with
  | nil =>
    intro s₀ s h
    cases h
    exact .nil
  | cons a as ih =>
    intro s₀ s h
    rw [execute] at h
    split at h
    · rename_i hok
      obtain ⟨s₁, hs₁, h'⟩ := Option.bind_eq_some_iff.mp h
      exact (Run.snoc .nil hok hs₁).trans (ih h')
    · exact absurd h (by simp)

/-- A step of one process changes one summand. -/
theorem sum_update {ι β M : Type*} [Fintype ι] [DecidableEq ι] [AddCommGroup M] (g : ι → β → M)
    (phases : ι → β) (i : ι) (phase : β) : ∑ j, g j (Function.update phases i phase j)
      = ∑ j, g j (phases j) - g i (phases i) + g i phase := by
  have hupdate : ∀ j, g j (Function.update phases i phase j)
      = Function.update (fun k ↦ g k (phases k)) i (g i phase) j := fun j ↦
    Function.apply_update g phases i phase j
  have hsplit := Finset.add_sum_erase Finset.univ (fun k ↦ g k (phases k)) (Finset.mem_univ i)
  rw [Finset.sum_congr rfl fun j _ ↦ hupdate j, Finset.sum_update_of_mem (Finset.mem_univ i),
    Finset.sdiff_singleton_eq_erase, ← hsplit, add_sub_cancel_left, add_comm]

end Transition
