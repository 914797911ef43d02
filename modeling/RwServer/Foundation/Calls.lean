import RwServer.Foundation.Run
import Mathlib.Logic.Function.Basic

/-!
# Calls on a shared store

Several calls work on one store. A call is in a phase, and its next statement, which is atomic,
depends on the phase and on the store and leaves both changed; between two statements of a call
those of the others may come. What comes from outside at a statement (the time, a fresh key, the
outcome of something that is not part of the store) is an input of the step.

`Calls.invariant` is the rule for what holds in every interleaving: a property of the store, and for
each call an assertion that its own statements establish and those of the others leave true. A
relation that every statement keeps holds between any two states of a run (`Run.relation`).

A call that runs alone, from its first phase to its last (`whole`), is one step of the store; where
calls come one after the other, these are the steps.
-/

namespace Transition

/-- A relation that holds across every step that meets the condition, and composes, holds between
the two ends of a run. -/
theorem Run.relation {σ α : Type*} {step : α → σ → Option σ} {ok : σ → α → Prop} {s₀ s : σ}
    {as : List α} {r : σ → σ → Prop} (hrefl : ∀ s, r s s)
    (htrans : ∀ {s t u}, r s t → r t u → r s u)
    (hstep : ∀ s a s', ok s a → step a s = some s' → r s s') (h : Run step ok s₀ as s) :
    r s₀ s := by
  induction h with
  | nil => exact hrefl s₀
  | snoc _ hok hs ih => exact htrans ih (hstep _ _ _ hok hs)

/-- Calls on a store, each in a phase. -/
structure Calls (ι σ φ : Type*) where
  store : σ
  phase : ι → φ

namespace Calls

variable {ι ε σ φ : Type*} [DecidableEq ι] {statement : ι → ε → σ → φ → Option (σ × φ)}

/-- The next statement of the call `a.1`, with the input `a.2` from outside. -/
def step (statement : ι → ε → σ → φ → Option (σ × φ)) (a : ι × ε) (s : Calls ι σ φ) :
    Option (Calls ι σ φ) :=
  (statement a.1 a.2 s.store (s.phase a.1)).map fun next ↦
    ⟨next.1, Function.update s.phase a.1 next.2⟩

/-- What a step is: a statement of one call, which changes the store and the phase of that call. -/
theorem step_eq_some_iff {a : ι × ε} {s s' : Calls ι σ φ} : step statement a s = some s' ↔
    ∃ store phase, statement a.1 a.2 s.store (s.phase a.1) = some (store, phase) ∧
      s' = ⟨store, Function.update s.phase a.1 phase⟩ := by
  rw [step, Option.map_eq_some_iff]
  constructor
  · rintro ⟨⟨store, phase⟩, hstatement, rfl⟩
    exact ⟨store, phase, hstatement, rfl⟩
  · rintro ⟨store, phase, hstatement, rfl⟩
    exact ⟨(store, phase), hstatement, rfl⟩

/-- After a step, its call has what its statement has left, and the others are where they were. -/
theorem of_step {a : ι × ε} {s s' : Calls ι σ φ} (h : step statement a s = some s') :
    statement a.1 a.2 s.store (s.phase a.1) = some (s'.store, s'.phase a.1) ∧
      ∀ j ≠ a.1, s'.phase j = s.phase j := by
  obtain ⟨store, phase, hstatement, rfl⟩ := step_eq_some_iff.mp h
  refine ⟨?_, fun j hj ↦ Function.update_of_ne hj _ _⟩
  dsimp only
  rw [hstatement, Function.update_self]

/-- **The invariant rule.** The property `I` of the store and the assertion `A` of each call hold
throughout a run if a statement keeps `I` and establishes the assertion of its own call, and leaves
the assertions of the other calls true. -/
theorem invariant {ok : Calls ι σ φ → ι × ε → Prop} {I : σ → Prop} {A : ι → σ → φ → Prop}
    {s₀ s : Calls ι σ φ} {as : List (ι × ε)} (h₀ : I s₀.store)
    (hA₀ : ∀ i, A i s₀.store (s₀.phase i))
    (hstep : ∀ (s : Calls ι σ φ) (i : ι) (x : ε) (store : σ) (phase : φ), ok s (i, x) →
      I s.store → A i s.store (s.phase i) →
      statement i x s.store (s.phase i) = some (store, phase) →
      I store ∧ A i store phase ∧ ∀ j ≠ i, A j s.store (s.phase j) → A j store (s.phase j))
    (h : Run (step statement) ok s₀ as s) : I s.store ∧ ∀ i, A i s.store (s.phase i) := by
  have hrule := @Run.invariant (Calls ι σ φ) (ι × ε) (step statement) ok s₀ s as
    (fun s ↦ I s.store ∧ ∀ i, A i s.store (s.phase i)) ⟨h₀, hA₀⟩
  refine hrule ?_ h
  rintro s ⟨i, x⟩ s' ⟨hI, hA⟩ hok hs
  obtain ⟨store, phase, hstatement, rfl⟩ := step_eq_some_iff.mp hs
  obtain ⟨hI', hown, hothers⟩ := hstep s i x store phase hok hI (hA i) hstatement
  refine ⟨hI', fun j ↦ ?_⟩
  dsimp only
  by_cases hj : j = i
  · subst hj
    rwa [Function.update_self]
  · rw [Function.update_of_ne hj]
    exact hothers j hj (hA j)

/-- A relation between stores that every statement keeps holds between the stores of any two states
of a run. -/
theorem store_relation {ok : Calls ι σ φ → ι × ε → Prop} {r : σ → σ → Prop} {s₀ s : Calls ι σ φ}
    {as : List (ι × ε)} (hrefl : ∀ store, r store store)
    (htrans : ∀ {store₁ store₂ store₃}, r store₁ store₂ → r store₂ store₃ → r store₁ store₃)
    (hstep : ∀ (s : Calls ι σ φ) (i : ι) (x : ε) (store : σ) (phase : φ), ok s (i, x) →
      statement i x s.store (s.phase i) = some (store, phase) → r s.store store)
    (h : Run (step statement) ok s₀ as s) : r s₀.store s.store := by
  refine h.relation (r := fun s s' ↦ r s.store s'.store) (fun s ↦ hrefl s.store) htrans ?_
  rintro s ⟨i, x⟩ s' hok hs
  obtain ⟨store, phase, hstatement, rfl⟩ := step_eq_some_iff.mp hs
  exact hstep s i x store phase hok hstatement

/-! ## A call that runs alone -/

section

variable {statement : ε → σ → φ → Option (σ × φ)} {start : φ} {isLast : φ → Bool}

/-- A call from its first phase to its end, with no statement of another call in between: the store
it leaves. -/
def whole (statement : ε → σ → φ → Option (σ × φ)) (start : φ) (isLast : φ → Bool) (xs : List ε)
    (store : σ) : Option σ :=
  ((execute (fun x s ↦ statement x s.1 s.2) (fun _ _ ↦ True) xs (store, start)).filter
    fun s ↦ isLast s.2).map Prod.fst

/-- What holds when the call begins, and is kept by each of its statements, holds when it ends. -/
theorem whole_invariant (A : σ → φ → Prop) {xs : List ε} {store store' : σ} (h₀ : A store start)
    (hstep : ∀ x store phase store' phase', A store phase →
      statement x store phase = some (store', phase') → A store' phase')
    (h : whole statement start isLast xs store = some store') :
    ∃ phase, isLast phase = true ∧ A store' phase := by
  obtain ⟨⟨last, phase⟩, hlast, rfl⟩ := Option.map_eq_some_iff.mp h
  obtain ⟨hexecute, hphase⟩ := Option.filter_eq_some_iff.mp hlast
  have hrule := @Run.invariant (σ × φ) ε (fun x s ↦ statement x s.1 s.2) (fun _ _ ↦ True)
    (store, start) (last, phase) xs (fun s ↦ A s.1 s.2) h₀
  exact ⟨phase, hphase, hrule (fun s x s' hA _ hs ↦ hstep x s.1 s.2 s'.1 s'.2 hA hs)
    (run_of_execute hexecute)⟩

end

end Calls

end Transition
