import Mathlib.Data.Fintype.Basic
import RwServer.Foundation.Calls

/-!
# Tokens that are used once

Calls on a shared store use tokens, of which the store has one at a time that is good. A call checks
its token, begins some time later, and has used the token when it is done; the store then has no
good token. A new token, which nobody has had before, may be put in place of the one that was good.

A call that does not look at its token again may use one that another call has used, or that has
been replaced. Where the good token is taken away from no call that has checked it, and from none
that has begun with it by another one that is done, no token is used twice (`TokenUse.sound_step`).
-/

namespace Transition

/-- Where a store keeps its tokens, and what the phase of a call says about the token of the
call. -/
structure TokenUse (σ φ τ : Type*) where
  /-- The token that is good. -/
  current : σ → Option τ
  /-- The tokens there have been. -/
  issued : σ → List τ
  /-- The call has found this token good, and has not begun. -/
  checked : φ → Option τ
  /-- The call has begun with this token, and is not done. -/
  opened : φ → Option τ
  used : φ → Option τ
  /-- The next statement of the call puts a new token in place of the good one. -/
  replaces : φ → Bool
  /-- With its next statement the call is done. -/
  finishes : φ → Bool

namespace TokenUse

variable {ι ε σ φ τ : Type*} (P : TokenUse σ φ τ)

/-- What a statement may do with the tokens. -/
inductive Moves (store : σ) (phase : φ) (store' : σ) (phase' : φ) : Prop
  /-- Nothing, or the call gives up. -/
  | stays (hcurrent : P.current store' = P.current store)
      (hissued : P.issued store ⊆ P.issued store')
      (hchecked : ∀ t, P.checked phase' = some t → P.checked phase = some t)
      (hopened : ∀ t, P.opened phase' = some t → P.opened phase = some t)
      (hused : ∀ t, P.used phase' = some t → P.used phase = some t) :
      Moves store phase store' phase'
  | checks {t : τ} (ht : P.current store = some t) (hcurrent : P.current store' = P.current store)
      (hissued : P.issued store ⊆ P.issued store') (hchecked : P.checked phase' = some t)
      (hopened : P.opened phase' = none) (hused : P.used phase' = none) :
      Moves store phase store' phase'
  | begins {t : τ} (ht : P.checked phase = some t) (hcurrent : P.current store' = P.current store)
      (hissued : P.issued store ⊆ P.issued store') (hchecked : P.checked phase' = none)
      (hopened : P.opened phase' = some t) (hused : P.used phase' = none) :
      Moves store phase store' phase'
  | issues {t : τ} (hreplaces : P.replaces phase = true) (hnew : t ∉ P.issued store)
      (hcurrent : P.current store' = some t) (ht : t ∈ P.issued store')
      (hissued : P.issued store ⊆ P.issued store') (hchecked : P.checked phase' = none)
      (hopened : P.opened phase' = none) (hused : P.used phase' = none) :
      Moves store phase store' phase'
  | uses {t : τ} (hfinishes : P.finishes phase = true) (ht : P.opened phase = some t)
      (hcurrent : P.current store' = none) (hissued : P.issued store ⊆ P.issued store')
      (hchecked : P.checked phase' = none) (hopened : P.opened phase' = none)
      (hused : P.used phase' = some t) : Moves store phase store' phase'

/-- The condition on a step of a call: it takes the good token away from no call that has checked
it, nor, when it is done, its own one from another call that has begun with it. -/
def Admits (s : Calls ι σ φ) (i : ι) : Prop :=
  (P.replaces (s.phase i) = true ∨ P.finishes (s.phase i) = true →
    ∀ j ≠ i, P.checked (s.phase j) = none) ∧
  (P.finishes (s.phase i) = true → ∀ j ≠ i, P.opened (s.phase j) ≠ P.opened (s.phase i))

instance decidableAdmits [Fintype ι] [DecidableEq ι] [DecidableEq τ] (s : Calls ι σ φ) (i : ι) :
    Decidable (P.Admits s i) :=
  inferInstanceAs (Decidable ((_ → ∀ _ : ι, _) ∧ (_ → ∀ _ : ι, _)))

/-- No token is used by two calls, or after it has been replaced. -/
structure Sound (s : Calls ι σ φ) : Prop where
  current_issued : ∀ t, P.current s.store = some t → t ∈ P.issued s.store
  checked_current : ∀ i t, P.checked (s.phase i) = some t → P.current s.store = some t
  opened_issued : ∀ i t, P.opened (s.phase i) = some t → t ∈ P.issued s.store
  opened_unused : ∀ i j t, P.opened (s.phase i) = some t → P.used (s.phase j) ≠ some t
  used_issued : ∀ i t, P.used (s.phase i) = some t → t ∈ P.issued s.store
  used_gone : ∀ i t, P.used (s.phase i) = some t → P.current s.store ≠ some t
  once : ∀ i j t, P.used (s.phase i) = some t → P.used (s.phase j) = some t → i = j

variable {P}

/-- Before any call has checked its token. -/
theorem sound_start {s : Calls ι σ φ}
    (hcurrent : ∀ t, P.current s.store = some t → t ∈ P.issued s.store)
    (hchecked : ∀ i, P.checked (s.phase i) = none) (hopened : ∀ i, P.opened (s.phase i) = none)
    (hused : ∀ i, P.used (s.phase i) = none) : P.Sound s where
  current_issued := hcurrent
  checked_current i _ ht := absurd (ht.symm.trans (hchecked i)) nofun
  opened_issued i _ ht := absurd (ht.symm.trans (hopened i)) nofun
  opened_unused i _ _ ht := absurd (ht.symm.trans (hopened i)) nofun
  used_issued i _ ht := absurd (ht.symm.trans (hused i)) nofun
  used_gone i _ ht := absurd (ht.symm.trans (hused i)) nofun
  once i _ _ ht := absurd (ht.symm.trans (hused i)) nofun

variable {s s' : Calls ι σ φ} {i : ι}

/-- What holds of the call that has moved, and of each other one, holds of all. -/
theorem forall_of_others {A : ι → φ → Prop} (hothers : ∀ j ≠ i, s'.phase j = s.phase j)
    (hi : A i (s'.phase i)) (hj : ∀ j ≠ i, A j (s.phase j)) : ∀ j, A j (s'.phase j) := by
  intro j
  by_cases hji : j = i
  · exact hji ▸ hi
  · rw [hothers j hji]
    exact hj j hji

/-- A step with which no token is used. -/
theorem Sound.of_unused (h : P.Sound s) (hothers : ∀ j ≠ i, s'.phase j = s.phase j)
    (hissued : P.issued s.store ⊆ P.issued s'.store)
    (hcurrent : ∀ t, P.current s'.store = some t →
      t ∈ P.issued s'.store ∧ ∀ j, P.used (s.phase j) ≠ some t)
    (hchecked : ∀ t, P.checked (s'.phase i) = some t → P.current s'.store = some t)
    (hkept : ∀ j ≠ i, ∀ t, P.checked (s.phase j) = some t → P.current s'.store = some t)
    (hopened : ∀ t, P.opened (s'.phase i) = some t →
      P.opened (s.phase i) = some t ∨ P.current s.store = some t)
    (hused : ∀ t, P.used (s'.phase i) = some t → P.used (s.phase i) = some t) :
    P.Sound s' := by
  have hopen : ∀ j t, P.opened (s'.phase j) = some t →
      P.opened (s.phase j) = some t ∨ P.current s.store = some t :=
    forall_of_others (A := fun j phase ↦ ∀ t, P.opened phase = some t →
      P.opened (s.phase j) = some t ∨ P.current s.store = some t) hothers hopened
      fun _ _ _ ht ↦ .inl ht
  have hwas : ∀ j t, P.used (s'.phase j) = some t → P.used (s.phase j) = some t :=
    forall_of_others (A := fun j phase ↦ ∀ t, P.used phase = some t →
      P.used (s.phase j) = some t) hothers hused fun _ _ _ ht ↦ ht
  have hgood : ∀ j t, P.checked (s'.phase j) = some t → P.current s'.store = some t :=
    forall_of_others (A := fun _ phase ↦ ∀ t, P.checked phase = some t →
      P.current s'.store = some t) hothers hchecked hkept
  refine ⟨fun t ht ↦ (hcurrent t ht).1, hgood, fun a t ht ↦ ?_, fun a b t ht hb ↦ ?_,
    fun a t ht ↦ ?_, fun a t ht hgood ↦ ?_, fun a b t ha hb ↦ ?_⟩
  · rcases hopen a t ht with hold | hgood
    · exact hissued (h.opened_issued a t hold)
    · exact hissued (h.current_issued t hgood)
  · rcases hopen a t ht with hold | hgood
    · exact h.opened_unused a b t hold (hwas b t hb)
    · exact h.used_gone b t (hwas b t hb) hgood
  · exact hissued (h.used_issued a t (hwas a t ht))
  · exact (hcurrent t hgood).2 a (hwas a t ht)
  · exact h.once a b t (hwas a t ha) (hwas b t hb)

/-- **One step** that takes no token away from another call uses no token twice. -/
theorem sound_step (h : P.Sound s) (hadmits : P.Admits s i)
    (hothers : ∀ j ≠ i, s'.phase j = s.phase j)
    (hmoves : P.Moves s.store (s.phase i) s'.store (s'.phase i)) : P.Sound s' := by
  have hsame : P.current s'.store = P.current s.store → P.issued s.store ⊆ P.issued s'.store →
      ∀ t, P.current s'.store = some t → t ∈ P.issued s'.store ∧
        ∀ j, P.used (s.phase j) ≠ some t := by
    intro hcurrent hissued t ht
    rw [hcurrent] at ht
    exact ⟨hissued (h.current_issued t ht), fun j hj ↦ h.used_gone j t hj ht⟩
  cases hmoves with
  | stays hcurrent hissued hchecked hopened hused =>
    exact h.of_unused hothers hissued (hsame hcurrent hissued)
      (fun t ht ↦ hcurrent ▸ h.checked_current i t (hchecked t ht))
      (fun j _ t ht ↦ hcurrent ▸ h.checked_current j t ht) (fun t ht ↦ .inl (hopened t ht)) hused
  | @checks u hu hcurrent hissued hchecked hopened hused =>
    exact h.of_unused hothers hissued (hsame hcurrent hissued)
      (fun t ht ↦ Option.some_inj.mp (hchecked.symm.trans ht) ▸ hcurrent.trans hu)
      (fun j _ t ht ↦ hcurrent ▸ h.checked_current j t ht)
      (fun t ht ↦ absurd (ht.symm.trans hopened) nofun)
      fun t ht ↦ absurd (ht.symm.trans hused) nofun
  | @begins u hu hcurrent hissued hchecked hopened hused =>
    exact h.of_unused hothers hissued (hsame hcurrent hissued)
      (fun t ht ↦ absurd (ht.symm.trans hchecked) nofun)
      (fun j _ t ht ↦ hcurrent ▸ h.checked_current j t ht)
      (fun t ht ↦ .inr (Option.some_inj.mp (hopened.symm.trans ht) ▸ h.checked_current i u hu))
      fun t ht ↦ absurd (ht.symm.trans hused) nofun
  | @issues u hreplaces hnew hcurrent hu hissued hchecked hopened hused =>
    refine h.of_unused hothers hissued (fun t ht ↦ ?_)
      (fun t ht ↦ absurd (ht.symm.trans hchecked) nofun) (fun j hj t ht ↦ ?_)
      (fun t ht ↦ absurd (ht.symm.trans hopened) nofun)
      fun t ht ↦ absurd (ht.symm.trans hused) nofun
    · obtain rfl := Option.some_inj.mp (hcurrent.symm.trans ht)
      exact ⟨hu, fun j hj ↦ hnew (h.used_issued j u hj)⟩
    · exact absurd (ht.symm.trans (hadmits.1 (.inl hreplaces) j hj)) nofun
  | @uses u hfinishes hu hcurrent hissued hchecked hopened hused =>
    have hwas : ∀ j t, P.used (s'.phase j) = some t →
        P.used (s.phase j) = some t ∨ j = i ∧ t = u :=
      forall_of_others (A := fun j phase ↦ ∀ t, P.used phase = some t →
        P.used (s.phase j) = some t ∨ j = i ∧ t = u) hothers
        (fun t ht ↦ .inr ⟨rfl, Option.some_inj.mp (ht.symm.trans hused)⟩) fun _ _ _ ht ↦ .inl ht
    have hopen : ∀ j t, P.opened (s'.phase j) = some t →
        P.opened (s.phase j) = some t ∧ t ≠ u := by
      refine forall_of_others (A := fun j phase ↦ ∀ t, P.opened phase = some t →
        P.opened (s.phase j) = some t ∧ t ≠ u) hothers
        (fun t ht ↦ absurd (ht.symm.trans hopened) nofun) fun j hj t ht ↦ ⟨ht, ?_⟩
      rintro rfl
      exact hadmits.2 hfinishes j hj (ht.trans hu.symm)
    have hnone : ∀ j t, P.checked (s'.phase j) ≠ some t :=
      forall_of_others (A := fun _ phase ↦ ∀ t, P.checked phase ≠ some t) hothers
        (fun t ht ↦ absurd (ht.symm.trans hchecked) nofun)
        fun j hj t ht ↦ absurd (ht.symm.trans (hadmits.1 (.inr hfinishes) j hj)) nofun
    refine ⟨fun t ht ↦ absurd (ht.symm.trans hcurrent) nofun, fun a t ht ↦ absurd ht (hnone a t),
      fun a t ht ↦ hissued (h.opened_issued a t (hopen a t ht).1), fun a b t ht hb ↦ ?_,
      fun a t ht ↦ ?_, fun a t _ hgood ↦ absurd (hgood.symm.trans hcurrent) nofun,
      fun a b t ha hb ↦ ?_⟩
    · obtain ⟨hwasopen, hne⟩ := hopen a t ht
      rcases hwas b t hb with hold | ⟨-, rfl⟩
      · exact h.opened_unused a b t hwasopen hold
      · exact hne rfl
    · rcases hwas a t ht with hold | ⟨-, rfl⟩
      · exact hissued (h.used_issued a t hold)
      · exact hissued (h.opened_issued i t hu)
    · rcases hwas a t ha with hold | ⟨rfl, rfl⟩
      · rcases hwas b t hb with hold' | ⟨rfl, rfl⟩
        · exact h.once a b t hold hold'
        · exact absurd hold (h.opened_unused b a t hu)
      · rcases hwas b t hb with hold' | ⟨rfl, -⟩
        · exact absurd hold' (h.opened_unused a b t hu)
        · rfl

end TokenUse

end Transition
