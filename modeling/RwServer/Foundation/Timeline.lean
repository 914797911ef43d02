import Mathlib

/-!
# Timelines of half-open spans

A span is a half-open interval `[start, stop)` of a linear order, or `[start, ∞)` when it has no
stop. A *timeline* is a list of spans, and two laws about it are compared here:

- `Chain`: the spans, in this order, link up — every stop is the next start, and only the last
  span is open. `Tiling` is the same up to the order of the list.
- `Tiles`: the spans are pairwise apart and leave no gap from the first start on. This one speaks
  of instants only, so it tolerates empty spans anywhere.

A tiling tiles (`Tiling.tiles`). Both laws survive *cutting* a span at an instant inside it
(`Tiling.cut`, `Tiles.cut`), and that is the only surgery a timeline needs: closing an open span
at `x` and opening a new one there is cutting it at `x`.
-/

open scoped List

namespace Timeline

/-- A half-open span of time; `stop = none` means that it is still open. -/
@[ext] structure Span (τ : Type*) where
  start : τ
  stop : Option τ
deriving DecidableEq, Repr

namespace Span

variable {τ : Type*}

/-- The part of the span before `x`. -/
def before (s : Span τ) (x : τ) : Span τ := ⟨s.start, some x⟩

/-- The part of the span from `x` on. -/
def after (s : Span τ) (x : τ) : Span τ := ⟨x, s.stop⟩

@[simp] theorem before_start (s : Span τ) (x : τ) : (s.before x).start = s.start := rfl

@[simp] theorem before_stop (s : Span τ) (x : τ) : (s.before x).stop = some x := rfl

@[simp] theorem after_stop (s : Span τ) (x : τ) : (s.after x).stop = s.stop := rfl

variable [LinearOrder τ]

/-- The instant `t` lies in the span. -/
def Covers (s : Span τ) (t : τ) : Prop := s.start ≤ t ∧ ∀ e ∈ s.stop, t < e

/-- The span does not stop before it starts. -/
def WellFormed (s : Span τ) : Prop := ∀ e ∈ s.stop, s.start ≤ e

/-- `x` lies in the span or on its border: the span can be cut there. -/
def CutAt (s : Span τ) (x : τ) : Prop := s.start ≤ x ∧ ∀ e ∈ s.stop, x ≤ e

/-- No instant lies in both spans. -/
def Apart (s s' : Span τ) : Prop := ∀ t, s.Covers t → ¬s'.Covers t

/-- `s` is closed, and stops no later than `s'` starts. -/
def Precedes (s s' : Span τ) : Prop := ∃ e ∈ s.stop, e ≤ s'.start

instance (s : Span τ) (t : τ) : Decidable (s.Covers t) :=
  inferInstanceAs (Decidable (_ ∧ _))

theorem covers_closed {s : Span τ} {e t : τ} (h : s.stop = some e) :
    s.Covers t ↔ s.start ≤ t ∧ t < e := by
  rw [Covers, h]
  simp

theorem covers_open {s : Span τ} {t : τ} (h : s.stop = none) : s.Covers t ↔ s.start ≤ t := by
  rw [Covers, h]
  simp

theorem Apart.symm {s s' : Span τ} (h : s.Apart s') : s'.Apart s := fun t h' hs ↦ h t hs h'

theorem Precedes.apart {s s' : Span τ} (h : s.Precedes s') : s.Apart s' := by
  obtain ⟨e, he, hle⟩ := h
  intro t hs hs'
  exact absurd (hs.2 e he) (not_lt.mpr (hle.trans hs'.1))

/-- Two open spans always meet, at the later of their starts. -/
theorem not_apart_of_open {s s' : Span τ} (h : s.stop = none) (h' : s'.stop = none) :
    ¬s.Apart s' := by
  intro hap
  exact hap (max s.start s'.start) ((covers_open h).mpr (le_max_left _ _))
    ((covers_open h').mpr (le_max_right _ _))

/-- Cutting a span keeps its instants: each lies in exactly one of the two parts. -/
theorem covers_cut {s : Span τ} {x : τ} (h : s.CutAt x) (t : τ) :
    s.Covers t ↔ (s.before x).Covers t ∨ (s.after x).Covers t := by
  constructor
  · intro hs
    rcases lt_or_ge t x with hlt | hge
    · exact Or.inl ((covers_closed rfl).mpr ⟨hs.1, hlt⟩)
    · exact Or.inr ⟨hge, hs.2⟩
  · rintro (hb | ha)
    · obtain ⟨hst, hlt⟩ := (covers_closed rfl).mp hb
      exact ⟨hst, fun e he ↦ lt_of_lt_of_le hlt (h.2 e he)⟩
    · exact ⟨h.1.trans ha.1, ha.2⟩

theorem before_apart_after (s : Span τ) (x : τ) : (s.before x).Apart (s.after x) :=
  Precedes.apart ⟨x, rfl, le_rfl⟩

end Span

open Timeline.Span

variable {τ : Type*} [LinearOrder τ]

/-! ## Timelines that tile -/

/-- The spans are pairwise apart, and from any start on there is no gap. -/
structure Tiles (l : List (Span τ)) : Prop where
  apart : l.Pairwise Apart
  gapless : ∀ s ∈ l, ∀ t, s.start ≤ t → ∃ s' ∈ l, s'.Covers t

theorem Tiles.perm {l l' : List (Span τ)} (hp : l.Perm l') (h : Tiles l) : Tiles l' where
  apart := (hp.pairwise_iff fun h ↦ h.symm).mp h.apart
  gapless s hs t ht := by
    obtain ⟨s', hs', hc⟩ := h.gapless s (hp.mem_iff.mpr hs) t ht
    exact ⟨s', hp.mem_iff.mp hs', hc⟩

theorem tiles_singleton (x : τ) : Tiles [(⟨x, none⟩ : Span τ)] where
  apart := List.pairwise_singleton _ _
  gapless s hs t ht := by
    rw [List.mem_singleton] at hs
    exact ⟨s, List.mem_singleton.mpr hs, (covers_open (by rw [hs])).mpr ht⟩

/-- In a timeline that tiles at most one span is open. -/
theorem Tiles.open_unique {l : List (Span τ)} (h : Tiles l) :
    l.Pairwise fun s s' ↦ ¬(s.stop = none ∧ s'.stop = none) :=
  h.apart.imp fun hap ⟨h₁, h₂⟩ ↦ not_apart_of_open h₁ h₂ hap

/-- **Cutting a span of a timeline that tiles** leaves a timeline that tiles. -/
theorem Tiles.cut {l : List (Span τ)} {s : Span τ} {x : τ} (h : Tiles (s :: l))
    (hx : s.CutAt x) : Tiles (s.before x :: s.after x :: l) := by
  obtain ⟨hs, hl⟩ := List.pairwise_cons.mp h.apart
  have hbl : ∀ s' ∈ l, (s.before x).Apart s' := fun s' hs' t hb ↦
    hs s' hs' t ((covers_cut hx t).mpr (Or.inl hb))
  have hal : ∀ s' ∈ l, (s.after x).Apart s' := fun s' hs' t ha ↦
    hs s' hs' t ((covers_cut hx t).mpr (Or.inr ha))
  refine ⟨?_, ?_⟩
  · rw [List.pairwise_cons, List.pairwise_cons]
    refine ⟨?_, hal, hl⟩
    intro s' hs'
    rcases List.mem_cons.mp hs' with rfl | hs'
    · exact before_apart_after s x
    · exact hbl s' hs'
  · intro s' hs' t ht
    -- every start of the new timeline is at or after a start of the old one
    have hold : ∃ s₀ ∈ s :: l, s₀.start ≤ t := by
      rcases List.mem_cons.mp hs' with rfl | hs'
      · exact ⟨s, List.mem_cons_self, ht⟩
      · rcases List.mem_cons.mp hs' with rfl | hs'
        · exact ⟨s, List.mem_cons_self, hx.1.trans ht⟩
        · exact ⟨s', List.mem_cons_of_mem _ hs', ht⟩
    obtain ⟨s₀, hs₀, hle⟩ := hold
    obtain ⟨s₁, hs₁, hc⟩ := h.gapless s₀ hs₀ t hle
    rcases List.mem_cons.mp hs₁ with rfl | hs₁
    · rcases (covers_cut hx t).mp hc with hb | ha
      · exact ⟨_, List.mem_cons_self, hb⟩
      · exact ⟨_, List.mem_cons_of_mem _ List.mem_cons_self, ha⟩
    · exact ⟨s₁, List.mem_cons_of_mem _ (List.mem_cons_of_mem _ hs₁), hc⟩

/-- A finite timeline without a gap cannot consist of closed spans only. -/
theorem Tiles.exists_open [NoMaxOrder τ] {l : List (Span τ)} (h : Tiles l) (hne : l ≠ []) :
    ∃ s ∈ l, s.stop = none := by
  by_contra hcon
  push Not at hcon
  obtain ⟨s₀, hs₀⟩ := List.exists_mem_of_ne_nil l hne
  -- an instant after every stop
  obtain ⟨b, hb⟩ : ∃ b, s₀.start ≤ b ∧ ∀ s ∈ l, ∀ e ∈ s.stop, e ≤ b := by
    clear h hcon hne hs₀
    induction l with
    | nil => exact ⟨s₀.start, le_rfl, fun s hs ↦ absurd hs (by simp)⟩
    | cons a l ih =>
      obtain ⟨b, hb₀, hb⟩ := ih
      refine ⟨max b (a.stop.getD b), hb₀.trans (le_max_left _ _), ?_⟩
      intro s hs e he
      rcases List.mem_cons.mp hs with rfl | hs
      · rw [Option.mem_def] at he
        rw [he, Option.getD_some]
        exact le_max_right _ _
      · exact (hb s hs e he).trans (le_max_left _ _)
  obtain ⟨s, hs, hc⟩ := h.gapless s₀ hs₀ b hb.1
  obtain ⟨e, he⟩ := Option.ne_none_iff_exists'.mp (hcon s hs)
  exact absurd (hc.2 e he) (not_lt.mpr (hb.2 s hs e he))

/-! ## Chains -/

/-- The spans link up in the order of the list, and the last one is open. -/
structure Chain (l : List (Span τ)) : Prop where
  wellFormed : ∀ s ∈ l, s.WellFormed
  linked : l.IsChain fun s s' ↦ s.stop = some s'.start
  openEnd : ∀ s ∈ l.getLast?, s.stop = none

theorem Chain.tail {s : Span τ} {l : List (Span τ)} (h : Chain (s :: l)) : Chain l where
  wellFormed s' hs' := h.wellFormed s' (List.mem_cons_of_mem _ hs')
  linked := h.linked.tail
  openEnd s' hs' := by
    cases l with
    | nil => exact absurd hs' (by simp)
    | cons a l => exact h.openEnd s' (by rwa [List.getLast?_cons_cons])

theorem Chain.stop_eq {s s' : Span τ} {l : List (Span τ)} (h : Chain (s :: s' :: l)) :
    s.stop = some s'.start := by
  have := h.linked
  rw [List.isChain_cons_cons] at this
  exact this.1

/-- Every span of a chain precedes all the later ones. -/
theorem Chain.pairwise_precedes {l : List (Span τ)} (h : Chain l) : l.Pairwise Precedes := by
  induction l with
  | nil => exact .nil
  | cons s l ih =>
    have htail := ih h.tail
    refine List.pairwise_cons.mpr ⟨?_, htail⟩
    cases l with
    | nil => exact fun _ hs' ↦ absurd hs' (by simp)
    | cons a l =>
      intro s' hs'
      refine ⟨a.start, h.stop_eq, ?_⟩
      rcases List.mem_cons.mp hs' with rfl | hs'
      · exact le_rfl
      · obtain ⟨e, he, hle⟩ := (List.pairwise_cons.mp htail).1 s' hs'
        exact (h.wellFormed a (by simp) e he).trans hle

theorem Chain.sorted {l : List (Span τ)} (h : Chain l) :
    l.Pairwise fun s s' ↦ s.start ≤ s'.start := by
  refine h.pairwise_precedes.imp_of_mem ?_
  intro s s' hs _ hprec
  obtain ⟨e, he, hle⟩ := hprec
  exact (h.wellFormed s hs e he).trans hle

theorem Chain.gapless {l : List (Span τ)} (h : Chain l) :
    ∀ s ∈ l, ∀ t, s.start ≤ t → ∃ s' ∈ l, s'.Covers t := by
  induction l with
  | nil => exact fun _ hs ↦ absurd hs (by simp)
  | cons a l ih =>
    -- an instant from the first start on is in the first span, or from the next start on
    have hhead : ∀ t, a.start ≤ t → ∃ s' ∈ a :: l, s'.Covers t := by
      intro t ht
      cases l with
      | nil => exact ⟨a, List.mem_cons_self, (covers_open (h.openEnd a (by simp))).mpr ht⟩
      | cons b l =>
        rcases lt_or_ge t b.start with hlt | hge
        · exact ⟨a, List.mem_cons_self, (covers_closed h.stop_eq).mpr ⟨ht, hlt⟩⟩
        · obtain ⟨s', hs', hc⟩ := ih h.tail b List.mem_cons_self t hge
          exact ⟨s', List.mem_cons_of_mem _ hs', hc⟩
    intro s hs t ht
    rcases List.mem_cons.mp hs with rfl | hs
    · exact hhead t ht
    · obtain ⟨s', hs', hc⟩ := ih h.tail s hs t ht
      exact ⟨s', List.mem_cons_of_mem _ hs', hc⟩

theorem Chain.tiles {l : List (Span τ)} (h : Chain l) : Tiles l :=
  ⟨h.pairwise_precedes.imp Precedes.apart, h.gapless⟩

/-- **Cutting a span of a chain** leaves a chain. -/
theorem Chain.cut {p q : List (Span τ)} {s : Span τ} {x : τ} (h : Chain (p ++ s :: q))
    (hx : s.CutAt x) : Chain (p ++ s.before x :: s.after x :: q) := by
  obtain ⟨hps, hsq⟩ := List.isChain_split.mp h.linked
  rw [List.isChain_append] at hps
  rw [List.isChain_cons] at hsq
  refine ⟨?_, ?_, ?_⟩
  · intro s' hs'
    rw [List.mem_append, List.mem_cons, List.mem_cons] at hs'
    rcases hs' with hs' | rfl | rfl | hs'
    · exact h.wellFormed s' (by simp [hs'])
    · intro e he
      rw [before_stop, Option.mem_some_iff] at he
      exact he ▸ hx.1
    · exact hx.2
    · exact h.wellFormed s' (by simp [hs'])
  · rw [List.isChain_split, List.isChain_append, List.isChain_cons_cons]
    refine ⟨⟨hps.1, List.isChain_singleton _, ?_⟩, rfl, List.isChain_cons.mpr hsq⟩
    -- the first part starts where `s` did, so the spans before it still link up
    intro a ha b hb
    have hlink := hps.2.2 a ha s (by simp)
    rw [List.head?_cons, Option.mem_some_iff] at hb
    rw [← hb, hlink, before_start]
  · intro s' hs'
    -- the second part is the last span where `s` was
    rw [List.getLast?_append_cons] at hs'
    cases q with
    | nil =>
      rw [List.getLast?_cons_cons, List.getLast?_singleton, Option.mem_some_iff] at hs'
      rw [← hs', after_stop]
      exact h.openEnd s (by simp)
    | cons b q =>
      rw [List.getLast?_cons_cons, List.getLast?_cons_cons] at hs'
      exact h.openEnd s' (by rwa [List.getLast?_append_cons, List.getLast?_cons_cons])

/-- A list of spans that is a chain when put in the right order. -/
def Tiling (l : List (Span τ)) : Prop := ∃ c : List (Span τ), c.Perm l ∧ Chain c

theorem Tiling.perm {l l' : List (Span τ)} (hp : l.Perm l') : Tiling l → Tiling l'
  | ⟨c, hc, h⟩ => ⟨c, hc.trans hp, h⟩

theorem Tiling.tiles {l : List (Span τ)} : Tiling l → Tiles l
  | ⟨_, hc, h⟩ => h.tiles.perm hc

theorem tiling_nil : Tiling ([] : List (Span τ)) :=
  ⟨[], .refl _, ⟨fun _ h ↦ absurd h (by simp), .nil, fun _ h ↦ absurd h (by simp)⟩⟩

theorem tiling_singleton (x : τ) : Tiling [(⟨x, none⟩ : Span τ)] := by
  refine ⟨_, .refl _, ?_, List.isChain_singleton _, ?_⟩
  · intro s hs e he
    rw [List.mem_singleton.mp hs] at he
    exact absurd he (by simp)
  · intro s hs
    rw [List.getLast?_singleton, Option.mem_some_iff] at hs
    rw [← hs]

theorem Tiling.wellFormed {l : List (Span τ)} : Tiling l → ∀ s ∈ l, s.WellFormed
  | ⟨_, hc, h⟩ => fun s hs ↦ h.wellFormed s (hc.mem_iff.mpr hs)

/-- Of two spans of a tiling one precedes the other. -/
theorem Tiling.pairwise_precedes {l : List (Span τ)} :
    Tiling l → l.Pairwise fun s s' ↦ s.Precedes s' ∨ s'.Precedes s
  | ⟨_, hc, h⟩ => (hc.pairwise_iff fun h ↦ h.symm).mp (h.pairwise_precedes.imp Or.inl)

/-- Cutting one span of a tiling, wherever it stands in the list. -/
theorem Tiling.cut {l : List (Span τ)} {s : Span τ} {x : τ} (h : Tiling (s :: l))
    (hx : s.CutAt x) : Tiling (s.before x :: s.after x :: l) := by
  obtain ⟨c, hc, hch⟩ := h
  obtain ⟨p, q, rfl⟩ := List.append_of_mem (hc.mem_iff.mpr List.mem_cons_self)
  refine ⟨_, ?_, hch.cut hx⟩
  have hpq : (p ++ q).Perm l := (List.perm_middle.symm.trans hc).cons_inv
  calc p ++ s.before x :: s.after x :: q
      ~ s.before x :: (p ++ s.after x :: q) := List.perm_middle
    _ ~ s.before x :: s.after x :: (p ++ q) := List.perm_middle.cons _
    _ ~ s.before x :: s.after x :: l := (hpq.cons _).cons _

/-! ## Recording

What a recorder of a timeline does to it, up to the order of the list. A recorder works at a
clock; `Recorded x l l'` says that `l'` came from `l` by one piece of work at the time `x`. -/

/-- `l'` is `l` with its open span closed at `x` and a new one opened there; where no span of `l`
is open, `l'` only has the new one. -/
def ReopenedAt (x : τ) (l l' : List (Span τ)) : Prop :=
  (∃ s rest, s.stop = none ∧ l ~ s :: rest ∧ l' ~ s.before x :: s.after x :: rest) ∨
    (∀ s ∈ l, s.stop ≠ none) ∧ l' ~ ⟨x, none⟩ :: l

/-- `l'` is `l` with one of its spans cut at `y`; an open span is not cut after `x`. -/
def CutBy (x y : τ) (l l' : List (Span τ)) : Prop :=
  ∃ s rest, s.CutAt y ∧ (s.stop = none → y ≤ x) ∧ l ~ s :: rest ∧
    l' ~ s.before y :: s.after y :: rest

/-- One piece of work on a timeline at the time `x`. -/
inductive Recorded (x : τ) (l l' : List (Span τ)) : Prop
  | keep : l' ~ l → Recorded x l l'
  | reopen : ReopenedAt x l l' → Recorded x l l'
  | cut (y : τ) : CutBy x y l l' → Recorded x l l'

/-- An open span started by `x`. -/
def OpenedBy (x : τ) (l : List (Span τ)) : Prop := ∀ s ∈ l, s.stop = none → s.start ≤ x

theorem OpenedBy.mono {l : List (Span τ)} {x y : τ} (h : OpenedBy x l) (hle : x ≤ y) :
    OpenedBy y l := fun s hs hopen ↦ (h s hs hopen).trans hle

theorem OpenedBy.perm {l l' : List (Span τ)} {x : τ} (hp : l' ~ l) (h : OpenedBy x l) :
    OpenedBy x l' := fun s hs ↦ h s (hp.mem_iff.mp hs)

theorem cutAt_of_open {s : Span τ} {x : τ} (hs : s.stop = none) (hx : s.start ≤ x) : s.CutAt x :=
  ⟨hx, fun e he ↦ absurd he (by rw [hs]; simp)⟩

omit [LinearOrder τ] in
theorem ReopenedAt.ne_nil {l l' : List (Span τ)} {x : τ} : ReopenedAt x l l' → l' ≠ [] := by
  rintro (⟨s, rest, -, -, hl'⟩ | ⟨-, hl'⟩) rfl
  · exact List.cons_ne_nil _ _ hl'.symm.eq_nil
  · exact List.cons_ne_nil _ _ hl'.symm.eq_nil

/-- A timeline that tiles and has no open span is empty. -/
theorem Tiles.eq_nil [NoMaxOrder τ] {l : List (Span τ)} (h : Tiles l)
    (hclosed : ∀ s ∈ l, s.stop ≠ none) : l = [] := by
  by_contra hne
  obtain ⟨s, hs, hopen⟩ := h.exists_open hne
  exact hclosed s hs hopen

/-- **Work at a clock that does not go back keeps a tiling**, and its open span stays behind the
clock. Closing and opening at the clock is a cut of the open span, since it started by then. -/
theorem Recorded.tiling [NoMaxOrder τ] {l l' : List (Span τ)} {x : τ} (h : Tiling l)
    (hx : OpenedBy x l) : Recorded x l l' → Tiling l' ∧ OpenedBy x l' := by
  have hcut : ∀ {s rest y}, s.CutAt y → (s.stop = none → y ≤ x) → l ~ s :: rest →
      l' ~ s.before y :: s.after y :: rest → Tiling l' ∧ OpenedBy x l' := by
    intro s rest y hy hopen hl hl'
    refine ⟨((h.perm hl).cut hy).perm hl'.symm, OpenedBy.perm hl' ?_⟩
    intro s' hs'
    rcases List.mem_cons.mp hs' with rfl | hs'
    · exact fun hs ↦ absurd hs (by simp)
    · rcases List.mem_cons.mp hs' with rfl | hs'
      · exact hopen
      · exact hx s' (hl.mem_iff.mpr (List.mem_cons_of_mem _ hs'))
  intro hrec
  cases hrec with
  | keep hp => exact ⟨h.perm hp.symm, hx.perm hp⟩
  | cut y hc =>
    obtain ⟨s, rest, hy, hopen, hl, hl'⟩ := hc
    exact hcut hy hopen hl hl'
  | reopen hr =>
    rcases hr with ⟨s, rest, hs, hl, hl'⟩ | ⟨hclosed, hl'⟩
    · have hstart : s.start ≤ x := hx s (hl.mem_iff.mpr List.mem_cons_self) hs
      exact hcut (cutAt_of_open hs hstart) (fun _ ↦ le_rfl) hl hl'
    · rw [h.tiles.eq_nil hclosed] at hl'
      refine ⟨(tiling_singleton x).perm hl'.symm, OpenedBy.perm hl' fun s hs _ ↦ ?_⟩
      rw [List.mem_singleton.mp hs]

/-- Opening a span at `x` after closing the open one there, where the clock may have gone back:
it is enough that no span with an instant in it stops after `x`. -/
theorem Tiles.reopenedAt [NoMaxOrder τ] {l l' : List (Span τ)} {x : τ} (h : Tiles l)
    (hx : ∀ s ∈ l, ∀ e ∈ s.stop, s.start < e → e ≤ x) : ReopenedAt x l l' → Tiles l' := by
  rintro (⟨s, rest, hs, hl, hl'⟩ | ⟨hclosed, hl'⟩)
  · have htiles := h.perm hl
    obtain ⟨hsr, hrest⟩ := List.pairwise_cons.mp htiles.apart
    have hafter : ∀ {t}, (s.after x).Covers t ↔ x ≤ t := fun {t} ↦ covers_open hs
    -- the other spans are closed, so each is empty or stops by `x`
    have hright : ∀ r ∈ rest, r.Apart (s.after x) := by
      intro r hr t hrt hat
      have hclosed : r.stop ≠ none := fun hnone ↦ not_apart_of_open hs hnone (hsr r hr)
      obtain ⟨e, he⟩ := Option.ne_none_iff_exists'.mp hclosed
      obtain ⟨hst, hlt⟩ := (covers_closed he).mp hrt
      have hle := hx r (hl.mem_iff.mpr (List.mem_cons_of_mem _ hr)) e he (hst.trans_lt hlt)
      exact absurd (hlt.trans_le (hle.trans (hafter.mp hat))) (lt_irrefl _)
    refine Tiles.perm hl'.symm ⟨?_, ?_⟩
    · rw [List.pairwise_cons, List.pairwise_cons]
      refine ⟨?_, fun r hr ↦ (hright r hr).symm, hrest⟩
      intro r hr
      rcases List.mem_cons.mp hr with rfl | hr
      · exact before_apart_after s x
      · exact fun t hb ↦ hsr r hr t ((covers_open hs).mpr hb.1)
    · intro r hr t ht
      rcases le_or_gt x t with hle | hlt
      · exact ⟨s.after x, by simp, hafter.mpr hle⟩
      -- before `x` the old timeline decides
      have hold : ∃ r₀ ∈ s :: rest, r₀.start ≤ t := by
        rcases List.mem_cons.mp hr with rfl | hr
        · exact ⟨s, List.mem_cons_self, ht⟩
        · rcases List.mem_cons.mp hr with rfl | hr
          · exact absurd ht (not_le.mpr hlt)
          · exact ⟨r, List.mem_cons_of_mem _ hr, ht⟩
      obtain ⟨r₀, hr₀, hle⟩ := hold
      obtain ⟨r₁, hr₁, hc⟩ := htiles.gapless r₀ hr₀ t hle
      rcases List.mem_cons.mp hr₁ with rfl | hr₁
      · exact ⟨_, List.mem_cons_self, (covers_closed rfl).mpr ⟨hc.1, hlt⟩⟩
      · exact ⟨r₁, by simp [hr₁], hc⟩
  · rw [h.eq_nil hclosed] at hl'
    exact (tiles_singleton x).perm hl'.symm

/-! ## Measuring a timeline

Over the integers the length of a span inside a window is a number of instants, so spans that are
pairwise apart add up to the number of instants they cover. -/

/-- The order of the integers, found before the one that is part of a noncomputable structure. -/
instance intPartialOrder : PartialOrder ℤ := Int.instLinearOrder.toPartialOrder

/-- The instants of the span inside the window `[lo, hi)`, an open span being read as reaching up
to `now`. -/
def Span.clippedPart (lo hi now : ℤ) (s : Span ℤ) : Finset ℤ :=
  Finset.Ico (max s.start lo) (min (s.stop.getD now) hi)

/-- The length of the span inside the window `[lo, hi)`. -/
def Span.clippedLength (lo hi now : ℤ) (s : Span ℤ) : ℤ :=
  max 0 (min (s.stop.getD now) hi - max s.start lo)

theorem Span.card_clippedPart (lo hi now : ℤ) (s : Span ℤ) :
    ((s.clippedPart lo hi now).card : ℤ) = s.clippedLength lo hi now := by
  rw [clippedPart, clippedLength, Int.card_Ico, Int.toNat_eq_max, max_comm]

theorem Span.covers_of_mem_clippedPart {lo hi now t : ℤ} {s : Span ℤ}
    (h : t ∈ s.clippedPart lo hi now) : s.Covers t ∧ lo ≤ t ∧ t < hi := by
  rw [clippedPart, Finset.mem_Ico, max_le_iff, lt_min_iff] at h
  refine ⟨⟨h.1.1, fun e he ↦ ?_⟩, h.1.2, h.2.2⟩
  rw [Option.mem_def] at he
  rw [he, Option.getD_some] at h
  exact h.2.1

/-- **Spans pairwise apart add up to the number of instants they cover.** -/
theorem exists_card_eq_sum_clippedLength {l : List (Span ℤ)} (h : l.Pairwise Apart)
    (lo hi now : ℤ) : ∃ U : Finset ℤ, (U.card : ℤ) = (l.map (clippedLength lo hi now)).sum ∧
      ∀ t, t ∈ U ↔ ∃ s ∈ l, t ∈ s.clippedPart lo hi now := by
  induction l with
  | nil => exact ⟨∅, by simp⟩
  | cons a l ih =>
    obtain ⟨ha, hl⟩ := List.pairwise_cons.mp h
    obtain ⟨U, hcard, hmem⟩ := ih hl
    have hdisj : Disjoint (a.clippedPart lo hi now) U := by
      rw [Finset.disjoint_left]
      intro t hta htU
      obtain ⟨s, hs, hts⟩ := (hmem t).mp htU
      exact ha s hs t (covers_of_mem_clippedPart hta).1 (covers_of_mem_clippedPart hts).1
    refine ⟨a.clippedPart lo hi now ∪ U, ?_, ?_⟩
    · rw [Finset.card_union_of_disjoint hdisj, Nat.cast_add, card_clippedPart, hcard,
        List.map_cons, List.sum_cons]
    · intro t
      rw [Finset.mem_union, hmem]
      simp

end Timeline
