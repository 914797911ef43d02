import RwServer.Foundation.Calls
import Mathlib.Data.List.Basic

/-!
# Rows that count their edits

Calls on a shared store edit rows that carry a version: an edit makes a new content of the one it
finds, and puts the version one higher; a new row has the version `1`. What an edit does depends on
its call only, and each call edits at most one row, once.

Then the versions are a record of the edits (`Recorded`): the calls that have edited a row, in the
order of the versions they have given it, are its `writers`, there is one for each version since the
start, and the content of the row is what these edits make of the one at the start, one after the
other. No edit is lost or made twice, and an edit that has given the version `n + 1` has found what
the writer of `n` left. `recorded_of_run` is the rule: it asks of each statement which of three
things it does (`Edits`).
-/

namespace Transition

/-- Where a store keeps its rows, and what the phase of a call says about its edit. -/
structure EditedRows (ι σ φ κ γ : Type*) where
  /-- A row, as its version and its content. -/
  row : σ → κ → Option (ℕ × γ)
  /-- The keys there have been. -/
  issued : σ → κ → Prop
  /-- The call has given this row this version. -/
  wrote : ι → φ → Option (κ × ℕ)
  /-- The content that the call makes of the one it finds; it finds `none` where it makes the
  row. -/
  edit : ι → Option γ → Option γ

namespace EditedRows

variable {ι ε σ φ κ γ : Type*} (P : EditedRows ι σ φ κ γ)

/-- What a statement of the call `i` may do with the rows. -/
inductive Edits (i : ι) (store : σ) (phase : φ) (store' : σ) (phase' : φ) : Prop
  /-- Nothing, or it deletes rows. -/
  | stays (hrow : ∀ k, P.row store' k = P.row store k ∨ P.row store' k = none)
      (hissued : ∀ k, P.issued store k → P.issued store' k)
      (hwrote : P.wrote i phase' = P.wrote i phase) : Edits i store phase store' phase'
  | edits {k : κ} {version : ℕ} {content content' : γ} (hfresh : P.wrote i phase = none)
      (hfound : P.row store k = some (version, content))
      (hedit : P.edit i (some content) = some content')
      (hrow : P.row store' k = some (version + 1, content'))
      (hother : ∀ j ≠ k, P.row store' j = P.row store j)
      (hissued : ∀ k, P.issued store k → P.issued store' k)
      (hwrote : P.wrote i phase' = some (k, version + 1)) : Edits i store phase store' phase'
  | creates {k : κ} {content : γ} (hfresh : P.wrote i phase = none) (hnew : ¬P.issued store k)
      (hedit : P.edit i none = some content) (hrow : P.row store' k = some (1, content))
      (hother : ∀ j ≠ k, P.row store' j = P.row store j) (hkey : P.issued store' k)
      (hissued : ∀ k, P.issued store k → P.issued store' k)
      (hwrote : P.wrote i phase' = some (k, 1)) : Edits i store phase store' phase'

/-- The edits of `writers`, one after the other. -/
def replay (writers : List ι) (content : Option γ) : Option γ :=
  writers.foldl (fun c i ↦ P.edit i c) content

@[simp] theorem replay_nil (content : Option γ) : P.replay [] content = content := rfl

theorem replay_concat (writers : List ι) (i : ι) (content : Option γ) :
    P.replay (writers ++ [i]) content = P.edit i (P.replay writers content) := by
  rw [replay, List.foldl_append]
  rfl

/-- The version a row has in `store`; a row that is not there yet is about to get the first one. -/
def versionIn (store : σ) (k : κ) : ℕ := ((P.row store k).map Prod.fst).getD 0

/-- The content of a row. -/
def contentIn (store : σ) (k : κ) : Option γ := (P.row store k).map Prod.snd

theorem versionIn_of_row {store : σ} {k : κ} {version : ℕ} {content : γ}
    (h : P.row store k = some (version, content)) : P.versionIn store k = version := by
  rw [versionIn, h]
  rfl

theorem contentIn_of_row {store : σ} {k : κ} {version : ℕ} {content : γ}
    (h : P.row store k = some (version, content)) : P.contentIn store k = some content := by
  rw [contentIn, h]
  rfl

/-- `writers` are the calls that have edited the row `k` since `start`: the one at the place `m` has
given it the version `m + 1` further, and the row is what their edits make of it. -/
structure Recorded (start : σ) (s : Calls ι σ φ) (k : κ) (writers : List ι) : Prop where
  wrote : ∀ i n, P.wrote i (s.phase i) = some (k, n) ↔
    ∃ m, n = P.versionIn start k + m + 1 ∧ writers[m]? = some i
  row : ∀ version content, P.row s.store k = some (version, content) →
    version = P.versionIn start k + writers.length ∧
      P.replay writers (P.contentIn start k) = some content
  fresh : ¬P.issued s.store k → P.row start k = none ∧ writers = []

variable {P}

/-- A version is given by one call. -/
theorem Recorded.writer_unique {start : σ} {s : Calls ι σ φ} {k : κ} {writers : List ι}
    (h : P.Recorded start s k writers) {i j : ι} {n : ℕ}
    (hi : P.wrote i (s.phase i) = some (k, n)) (hj : P.wrote j (s.phase j) = some (k, n)) :
    i = j := by
  obtain ⟨m, rfl, hm⟩ := (h.wrote i n).mp hi
  obtain ⟨m', heq, hm'⟩ := (h.wrote j _).mp hj
  obtain rfl : m = m' := by omega
  exact Option.some.inj (hm.symm.trans hm')

/-- Before any call has edited a row. -/
theorem recorded_start {s : Calls ι σ φ}
    (hissued : ∀ k, ¬P.issued s.store k → P.row s.store k = none)
    (hwrote : ∀ i, P.wrote i (s.phase i) = none) (k : κ) : P.Recorded s.store s k [] where
  wrote i n := by
    rw [hwrote]
    simp
  row version content h := by
    rw [P.versionIn_of_row h, P.contentIn_of_row h]
    exact ⟨rfl, rfl⟩
  fresh h := ⟨hissued k h, rfl⟩

variable {start : σ} {s s' : Calls ι σ φ} {i : ι} {k : κ} {writers : List ι}

/-- A statement that does not edit the row `k` leaves its writers as they are. -/
theorem Recorded.keep (h : P.Recorded start s k writers) (hphase : ∀ j ≠ i, s'.phase j = s.phase j)
    (hwrote : ∀ n, P.wrote i (s'.phase i) = some (k, n) ↔ P.wrote i (s.phase i) = some (k, n))
    (hrow : P.row s'.store k = P.row s.store k ∨ P.row s'.store k = none)
    (hissued : P.issued s.store k → P.issued s'.store k) : P.Recorded start s' k writers where
  wrote j n := by
    by_cases hj : j = i
    · rw [hj, hwrote]
      exact h.wrote i n
    · rw [hphase j hj]
      exact h.wrote j n
  row version content hfound := by
    rcases hrow with hrow | hrow
    · exact h.row version content (hrow ▸ hfound)
    · rw [hrow] at hfound
      cases hfound
  fresh hnot := h.fresh fun hk ↦ hnot (hissued hk)

/-- An edit of the row `k` adds its call to the writers. -/
theorem Recorded.snoc {version : ℕ} {content' : γ} (h : P.Recorded start s k writers)
    (hphase : ∀ j ≠ i, s'.phase j = s.phase j) (hfresh : P.wrote i (s.phase i) = none)
    (hversion : version = P.versionIn start k + writers.length)
    (hedit : P.edit i (P.replay writers (P.contentIn start k)) = some content')
    (hrow : P.row s'.store k = some (version + 1, content')) (hkey : P.issued s'.store k)
    (hwrote : P.wrote i (s'.phase i) = some (k, version + 1)) :
    P.Recorded start s' k (writers ++ [i]) where
  wrote j n := by
    have hbefore : ∀ m : ℕ, writers[m]? = some j → j ≠ i := by
      rintro m hm rfl
      have hwrote' := (h.wrote j _).mpr ⟨m, rfl, hm⟩
      rw [hfresh] at hwrote'
      cases hwrote'
    by_cases hj : j = i
    · subst hj
      rw [hwrote]
      constructor
      · intro heq
        cases heq
        exact ⟨writers.length, by omega, List.getElem?_concat_length⟩
      · rintro ⟨m, rfl, hm⟩
        rcases Nat.lt_trichotomy m writers.length with hlt | rfl | hgt
        · rw [List.getElem?_append_left hlt] at hm
          exact absurd rfl (hbefore m hm)
        · rw [hversion]
        · rw [List.getElem?_eq_none (by simp; omega)] at hm
          cases hm
    · rw [hphase j hj, h.wrote j n]
      refine exists_congr fun m ↦ and_congr_right fun _ ↦ ?_
      rcases Nat.lt_trichotomy m writers.length with hlt | rfl | hgt
      · rw [List.getElem?_append_left hlt]
      · rw [List.getElem?_eq_none (le_refl _), List.getElem?_concat_length]
        refine ⟨fun heq ↦ ?_, fun heq ↦ absurd (Option.some.inj heq).symm hj⟩
        cases heq
      · rw [List.getElem?_eq_none hgt.le, List.getElem?_eq_none (by simp; omega)]
  row version' content hfound := by
    rw [hrow] at hfound
    cases hfound
    rw [P.replay_concat, List.length_append]
    exact ⟨by rw [hversion]; rfl, hedit⟩
  fresh hnot := absurd hkey hnot

/-- A statement that edits another row than `k`. -/
private theorem wrote_iff_of_ne {j : κ} {version : ℕ} (hj : j ≠ k)
    (hfresh : P.wrote i (s.phase i) = none) (hwrote : P.wrote i (s'.phase i) = some (j, version))
    (n : ℕ) : P.wrote i (s'.phase i) = some (k, n) ↔ P.wrote i (s.phase i) = some (k, n) := by
  rw [hfresh, hwrote]
  refine ⟨fun heq ↦ ?_, fun heq ↦ ?_⟩
  · cases heq
    exact absurd rfl hj
  · cases heq

/-- **One statement.** -/
theorem Recorded.step (h : ∃ writers, P.Recorded start s k writers)
    (hphase : ∀ j ≠ i, s'.phase j = s.phase j)
    (hedits : P.Edits i s.store (s.phase i) s'.store (s'.phase i)) :
    ∃ writers, P.Recorded start s' k writers := by
  obtain ⟨writers, h⟩ := h
  cases hedits with
  | stays hrow hissued hwrote =>
    exact ⟨writers, h.keep hphase (fun n ↦ by rw [hwrote]) (hrow k) (hissued k)⟩
  | @edits j version content content' hfresh hfound hedit hrow hother hissued hwrote =>
    by_cases hj : j = k
    · subst hj
      obtain ⟨hversion, hreplay⟩ := h.row version content hfound
      have hkey : P.issued s.store j := by
        by_contra hnot
        obtain ⟨hrow₀, rfl⟩ := h.fresh hnot
        rw [replay_nil, contentIn, hrow₀] at hreplay
        cases hreplay
      exact ⟨_, h.snoc hphase hfresh hversion (hreplay ▸ hedit) hrow (hissued j hkey) hwrote⟩
    · exact ⟨writers, h.keep hphase (wrote_iff_of_ne hj hfresh hwrote)
        (.inl (hother k (Ne.symm hj))) (hissued k)⟩
  | @creates j content hfresh hnew hedit hrow hother hkey hissued hwrote =>
    by_cases hj : j = k
    · subst hj
      obtain ⟨hrow₀, rfl⟩ := h.fresh hnew
      refine ⟨_, h.snoc hphase hfresh (?_ : 0 = _) ?_ hrow hkey hwrote⟩
      · rw [versionIn, hrow₀]
        rfl
      · rw [replay_nil, contentIn, hrow₀]
        exact hedit
    · exact ⟨writers, h.keep hphase (wrote_iff_of_ne hj hfresh hwrote)
        (.inl (hother k (Ne.symm hj))) (hissued k)⟩

/-- **The rule.** In every run whose stores meet `I`, and whose statements are edits of these kinds
there, each row has its writers: the versions are a record of the edits. -/
theorem recorded_of_run [DecidableEq ι] {statement : ι → ε → σ → φ → Option (σ × φ)}
    {ok : Calls ι σ φ → ι × ε → Prop} {s₀ : Calls ι σ φ} {as : List (ι × ε)} {I : σ → Prop}
    (hI : ∀ as s, Run (Calls.step statement) ok s₀ as s → I s.store)
    (hissued : ∀ k, ¬P.issued s₀.store k → P.row s₀.store k = none)
    (hwrote : ∀ i, P.wrote i (s₀.phase i) = none)
    (hstep : ∀ i x store phase store' phase', I store →
      statement i x store phase = some (store', phase') → P.Edits i store phase store' phase')
    (h : Run (Calls.step statement) ok s₀ as s) (k : κ) :
    ∃ writers, P.Recorded s₀.store s k writers := by
  induction h with
  | nil => exact ⟨[], recorded_start hissued hwrote k⟩
  | @snoc as s a s' hrun _ hs ih =>
    obtain ⟨hstatement, hothers⟩ := Calls.of_step hs
    exact Recorded.step ih hothers (hstep a.1 a.2 _ _ _ _ (hI as s hrun) hstatement)

end EditedRows

end Transition
