import Mathlib
import RwServer.Foundation.Timeline
import RwServer.Foundation.Windows

/-!
# Walking through windows

Each instant has a window that contains it. A walk goes from an instant to the end of its window,
and on from there until it leaves a range. It meets the window of each instant of the range, or one
that begins earlier (`exists_visits`).

A loop that keeps one window of each start keeps those of *fresh* instants. They cover the range as
soon as they cover the instants of the walk (`walkCovers_iff`).

The loop itself looks a window up in each round, and may find none. `Rounds` is a loop that has come
to its end; where every instant is in the window that is found for it, there is one
(`exists_rounds`), and each round leaves a window behind that no later one comes to
(`Rounds.pairwise_stop`).
-/

namespace Windows

section

variable (win : ℤ → Window ℤ) (start stop : ℤ)

/-- The instants of the walk, one after the other. -/
def cursorAt (n : ℕ) : ℤ := (fun c ↦ (win c).stop)^[n] start

/-- An instant of the walk through the range. -/
def Visits (c : ℤ) : Prop := c < stop ∧ ∃ n, cursorAt win start n = c

/-- No earlier window of the walk has the same start. -/
def Fresh (c : ℤ) : Prop :=
  ∀ u, Visits win start stop u → u < c → (win u).start ≠ (win c).start

/-- Each instant of the range is in a window that is kept. -/
def WalkCovers : Prop :=
  ∀ t, start ≤ t → t < stop →
    ∃ c, Visits win start stop c ∧ Fresh win start stop c ∧ (win c).Contains t

end

section

variable {win : ℤ → Window ℤ} {start stop c u t : ℤ}

@[simp] theorem cursorAt_zero : cursorAt win start 0 = start := rfl

theorem cursorAt_succ (n : ℕ) : cursorAt win start (n + 1) = (win (cursorAt win start n)).stop :=
  Function.iterate_succ_apply' _ _ _

theorem strictMono_cursorAt (hwin : ∀ t, (win t).Contains t) : StrictMono (cursorAt win start) :=
  strictMono_nat_of_lt_succ fun n ↦ (hwin (cursorAt win start n)).2.trans_eq (cursorAt_succ n).symm

theorem add_le_cursorAt (hwin : ∀ t, (win t).Contains t) (n : ℕ) :
    start + n ≤ cursorAt win start n := by
  induction n with
  | zero => simp
  | succ n ih =>
    have hlt : cursorAt win start n < cursorAt win start (n + 1) :=
      strictMono_cursorAt hwin n.lt_add_one
    push_cast
    omega

theorem Visits.start_le (hwin : ∀ t, (win t).Contains t) (hc : Visits win start stop c) :
    start ≤ c := by
  obtain ⟨-, n, rfl⟩ := hc
  exact (strictMono_cursorAt hwin).monotone n.zero_le

/-- A later instant of the walk comes after the window. -/
theorem Visits.stop_le (hwin : ∀ t, (win t).Contains t) (hu : Visits win start stop u)
    (hc : Visits win start stop c) (huc : u < c) : (win u).stop ≤ c := by
  obtain ⟨-, m, rfl⟩ := hu
  obtain ⟨-, n, rfl⟩ := hc
  rw [← cursorAt_succ]
  exact (strictMono_cursorAt hwin).monotone ((strictMono_cursorAt hwin).lt_iff_lt.mp huc)

/-- **The walk passes each instant of the range** with a window that it has come to before. -/
theorem exists_visits (hwin : ∀ t, (win t).Contains t) (hstart : start ≤ t) (hstop : t < stop) :
    ∃ c, Visits win start stop c ∧ c ≤ t ∧ t < (win c).stop := by
  have hpast : ∃ n, t < cursorAt win start (n + 1) := by
    refine ⟨(t - start).toNat, ?_⟩
    have hle : start + ((t - start).toNat + 1 : ℕ) ≤ cursorAt win start ((t - start).toNat + 1) :=
      add_le_cursorAt hwin _
    push_cast at hle
    omega
  have hle : cursorAt win start (Nat.find hpast) ≤ t := by
    cases hn : Nat.find hpast with
    | zero => exact hstart
    | succ n => exact not_lt.mp (Nat.find_min hpast (hn ▸ n.lt_succ_self))
  refine ⟨_, ⟨hle.trans_lt hstop, _, rfl⟩, hle, ?_⟩
  rw [← cursorAt_succ]
  exact Nat.find_spec hpast

theorem contains_of_le (hwin : ∀ t, (win t).Contains t) (hle : c ≤ t) (hlt : t < (win c).stop) :
    (win c).Contains t :=
  ⟨(hwin c).1.trans hle, hlt⟩

/-- **The kept windows cover the range** as soon as they cover the instants of the walk. -/
theorem walkCovers_iff (hwin : ∀ t, (win t).Contains t) : WalkCovers win start stop ↔
    ∀ c u, Visits win start stop c → Visits win start stop u → u < c →
      (win u).start = (win c).start →
      ∃ v, Visits win start stop v ∧ Fresh win start stop v ∧ c < v ∧ (win v).Contains c := by
  constructor
  · intro hcovers c u hc hu huc hsame
    obtain ⟨v, hv, hfresh, hcontains⟩ := hcovers c (hc.start_le hwin) hc.1
    refine ⟨v, hv, hfresh, ?_, hcontains⟩
    by_contra! hle
    rcases hle.eq_or_lt with rfl | hlt
    · exact hfresh u hu huc hsame
    · exact absurd hcontains.2 (not_lt.mpr (hv.stop_le hwin hc hlt))
  · intro h t hstart hstop
    obtain ⟨c, hc, hct, htc⟩ := exists_visits hwin hstart hstop
    by_cases hfresh : Fresh win start stop c
    · exact ⟨c, hc, hfresh, contains_of_le hwin hct htc⟩
    · rw [Fresh] at hfresh
      push Not at hfresh
      obtain ⟨u, hu, huc, hsame⟩ := hfresh
      obtain ⟨v, hv, hvfresh, hcv, hcontains⟩ := h c u hc hu huc hsame
      -- a window that begins by `c` and is met after it contains what is between
      exact ⟨v, hv, hvfresh, hcontains.1.trans hct,
        htc.trans_le ((hc.stop_le hwin hv hcv).trans (hwin v).2.le)⟩

end

/-! ## The rounds of a loop -/

section

variable {β : Type*} {resolve : ℤ → Option β} {window : β → Window ℤ} {stop cursor : ℤ}
  {rounds rounds' : List (ℤ × β)}

/-- The rounds of a loop from a cursor on, each with its cursor and what is found for it: the loop
goes on while the cursor is before `stop`, and puts the cursor to the end of the window. -/
inductive Rounds (resolve : ℤ → Option β) (window : β → Window ℤ) (stop : ℤ) :
    ℤ → List (ℤ × β) → Prop
  | done {cursor : ℤ} : ¬cursor < stop → Rounds resolve window stop cursor []
  | round {cursor : ℤ} {b : β} {rounds : List (ℤ × β)} : cursor < stop →
      resolve cursor = some b → Rounds resolve window stop (window b).stop rounds →
      Rounds resolve window stop cursor ((cursor, b) :: rounds)

/-- The loop does one thing only. -/
theorem Rounds.unique (h : Rounds resolve window stop cursor rounds)
    (h' : Rounds resolve window stop cursor rounds') : rounds' = rounds := by
  induction h generalizing rounds' with
  | done hdone =>
    cases h' with
    | done => rfl
    | round hlt => exact absurd hlt hdone
  | round hlt hresolve _ ih =>
    cases h' with
    | done hdone => exact absurd hlt hdone
    | round _ hresolve' hrest =>
      obtain rfl := Option.some_inj.mp (hresolve.symm.trans hresolve')
      rw [ih hrest]

theorem Rounds.resolve_eq (h : Rounds resolve window stop cursor rounds) :
    ∀ x ∈ rounds, resolve x.1 = some x.2 := by
  induction h with
  | done => exact fun x hx ↦ absurd hx List.not_mem_nil
  | round _ hresolve _ ih =>
    intro x hx
    rcases List.mem_cons.mp hx with rfl | hx
    · exact hresolve
    · exact ih x hx

/-- A round begins where the one before it ends. -/
theorem Rounds.isChain (h : Rounds resolve window stop cursor rounds) :
    rounds.IsChain fun x y ↦ y.1 = (window x.2).stop := by
  induction h with
  | done => exact .nil
  | round _ _ hrest ih =>
    cases hrest with
    | done => exact .singleton _
    | round => exact .cons_cons rfl ih

variable (hwin : ∀ t b, resolve t = some b → (window b).Contains t)

include hwin

/-- The windows of the rounds end after the cursor. -/
theorem Rounds.lt_stop (h : Rounds resolve window stop cursor rounds) :
    ∀ x ∈ rounds, cursor < (window x.2).stop := by
  induction h with
  | done => exact fun x hx ↦ absurd hx List.not_mem_nil
  | round _ hresolve _ ih =>
    have hlt := (hwin _ _ hresolve).2
    intro x hx
    rcases List.mem_cons.mp hx with rfl | hx
    · exact hlt
    · exact hlt.trans (ih x hx)

/-- **Each round ends later than those before it**, so that none comes to a window again. -/
theorem Rounds.pairwise_stop (h : Rounds resolve window stop cursor rounds) :
    rounds.Pairwise fun x y ↦ (window x.2).stop < (window y.2).stop := by
  induction h with
  | done => exact .nil
  | round _ _ hrest ih => exact .cons (hrest.lt_stop hwin) ih

/-- **The loop comes to its end**, after no more rounds than there are instants in the range. -/
theorem exists_rounds (hresolve : ∀ t, ∃ b, resolve t = some b) (cursor : ℤ) :
    ∃ rounds, Rounds resolve window stop cursor rounds ∧
      rounds.length ≤ (stop - cursor).toNat := by
  induction hn : (stop - cursor).toNat using Nat.strong_induction_on generalizing cursor with
  | _ n ih =>
    by_cases hlt : cursor < stop
    · obtain ⟨b, hb⟩ := hresolve cursor
      have hforward := (hwin _ _ hb).2
      obtain ⟨rounds, hrounds, hlength⟩ := ih _ (by omega) (window b).stop rfl
      refine ⟨(cursor, b) :: rounds, .round hlt hb hrounds, ?_⟩
      rw [List.length_cons]
      omega
    · exact ⟨[], .done hlt, Nat.zero_le n⟩

end

end Windows
