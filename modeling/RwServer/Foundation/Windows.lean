import Mathlib

/-!
# A stretch of time cut into windows

A half-open window contains its start and not its stop. A `Partition` of the stretch from `a` to
`b` is a list of nonempty windows, each beginning where the one before ends; its *cuts* are `a` and
the stops of its windows.

The windows of two partitions of overlapping stretches can lie across one another. `agree_iff` says
exactly when they do not: each cut of one that lies inside the stretch of the other has to be a cut
of the other, too.
-/

namespace Windows

/-- The half-open window from `start` to `stop`. -/
@[ext] structure Window (τ : Type*) where
  start : τ
  stop : τ
deriving DecidableEq, Repr

variable {τ : Type*} [LinearOrder τ]

namespace Window

variable {w w' : Window τ}

def Contains (w : Window τ) (t : τ) : Prop := w.start ≤ t ∧ t < w.stop

instance decidableContains (w : Window τ) (t : τ) : Decidable (w.Contains t) :=
  inferInstanceAs (Decidable (_ ∧ _))

/-- No instant is in both. -/
def Apart (w w' : Window τ) : Prop := ∀ t, w.Contains t → ¬w'.Contains t

instance decidableApart (w w' : Window τ) : Decidable (w.Apart w') :=
  decidable_of_iff (¬max w.start w'.start < min w.stop w'.stop) <| by
    constructor
    · exact fun h t hw hw' ↦ h ((max_le hw.1 hw'.1).trans_lt (lt_min hw.2 hw'.2))
    · intro h hlt
      exact h _ ⟨le_max_left _ _, hlt.trans_le (min_le_left _ _)⟩
        ⟨le_max_right _ _, hlt.trans_le (min_le_right _ _)⟩

theorem Apart.symm (h : w.Apart w') : w'.Apart w := fun t h' hw ↦ h t hw h'

theorem apart_of_le (h : w.stop ≤ w'.start) : w.Apart w' := fun _ hw hw' ↦
  absurd (hw.2.trans_le (h.trans hw'.1)) (lt_irrefl _)

/-- Two nonempty windows are apart iff one of them is over when the other begins. -/
theorem apart_iff (hw : w.start < w.stop) (hw' : w'.start < w'.stop) :
    w.Apart w' ↔ w.stop ≤ w'.start ∨ w'.stop ≤ w.start := by
  constructor
  · intro h
    by_contra hne
    push Not at hne
    exact h (max w.start w'.start) ⟨le_max_left _ _, max_lt hw hne.1⟩
      ⟨le_max_right _ _, max_lt hne.2 hw'⟩
  · rintro (h | h)
    · exact apart_of_le h
    · exact (apart_of_le h).symm

end Window

/-! ## Partitions -/

/-- `Partition a b ws`: the windows `ws` follow one another from `a` to `b`, and none is empty. -/
inductive Partition : τ → τ → List (Window τ) → Prop
  | nil (a : τ) : Partition a a []
  | cons {a m b : τ} {ws : List (Window τ)} (hlt : a < m) (h : Partition m b ws) :
      Partition a b (⟨a, m⟩ :: ws)

namespace Partition

variable {a b c d m x : τ} {ws vs : List (Window τ)} {w v : Window τ}

theorem le (h : Partition a b ws) : a ≤ b := by
  induction h with
  | nil => exact le_rfl
  | cons hlt _ ih => exact hlt.le.trans ih

theorem append (h : Partition a m ws) (h' : Partition m b vs) : Partition a b (ws ++ vs) := by
  induction h with
  | nil => exact h'
  | cons hlt _ ih => exact .cons hlt (ih h')

/-- A window is not empty, and lies in the stretch. -/
theorem bounds (h : Partition a b ws) (hw : w ∈ ws) :
    a ≤ w.start ∧ w.start < w.stop ∧ w.stop ≤ b := by
  induction h with
  | nil => exact absurd hw (by simp)
  | cons hlt h ih =>
    rcases List.mem_cons.mp hw with rfl | hw
    · exact ⟨le_rfl, hlt, h.le⟩
    · obtain ⟨h₁, h₂, h₃⟩ := ih hw
      exact ⟨hlt.le.trans h₁, h₂, h₃⟩

/-- What is in a window is in the stretch. -/
theorem contains_of_mem (h : Partition a b ws) (hw : w ∈ ws) (hx : w.Contains x) :
    (Window.mk a b).Contains x :=
  ⟨(h.bounds hw).1.trans hx.1, hx.2.trans_le (h.bounds hw).2.2⟩

/-- Every instant of the stretch is in a window. -/
theorem exists_contains (h : Partition a b ws) (ha : a ≤ x) (hb : x < b) :
    ∃ w ∈ ws, w.Contains x := by
  induction h with
  | nil => exact absurd (ha.trans_lt hb) (lt_irrefl _)
  | @cons a m b ws hlt h ih =>
    rcases lt_or_ge x m with hm | hm
    · exact ⟨⟨a, m⟩, List.mem_cons_self, ha, hm⟩
    · obtain ⟨w, hw, hx⟩ := ih hm hb
      exact ⟨w, List.mem_cons_of_mem _ hw, hx⟩

/-- Each window ends before the later ones begin. -/
theorem pairwise_le (h : Partition a b ws) : ws.Pairwise fun w w' ↦ w.stop ≤ w'.start := by
  induction h with
  | nil => exact .nil
  | cons hlt h ih => exact List.pairwise_cons.mpr ⟨fun w hw ↦ (h.bounds hw).1, ih⟩

theorem eq_or_apart (h : Partition a b ws) (hw : w ∈ ws) (hv : v ∈ ws) : w = v ∨ w.Apart v := by
  have : Std.Symm fun w w' : Window τ ↦ w.Apart w' := ⟨fun _ _ ↦ Window.Apart.symm⟩
  by_cases hne : w = v
  · exact .inl hne
  · exact .inr ((h.pairwise_le.imp Window.apart_of_le).forall hw hv hne)

/-- Windows with the same start are the same. -/
theorem eq_of_start_eq (h : Partition a b ws) (hw : w ∈ ws) (hv : v ∈ ws)
    (hs : w.start = v.start) : w = v := by
  rcases h.eq_or_apart hw hv with heq | hapart
  · exact heq
  · exact absurd ⟨hs ▸ le_rfl, hs ▸ (h.bounds hv).2.1⟩ (hapart w.start ⟨le_rfl, (h.bounds hw).2.1⟩)

/-! ## Cuts -/

/-- Where the stretch begins, or one of its windows ends. -/
def IsCut (a : τ) (ws : List (Window τ)) (x : τ) : Prop := x = a ∨ ∃ w ∈ ws, w.stop = x

omit [LinearOrder τ] in
theorem isCut_stop (hw : w ∈ ws) : IsCut a ws w.stop := .inr ⟨w, hw, rfl⟩

omit [LinearOrder τ] in
theorem isCut_cons_iff : IsCut a (⟨a, m⟩ :: ws) x ↔ x = a ∨ IsCut m ws x := by
  rw [IsCut, IsCut, List.exists_mem_cons_iff]
  exact or_congr_right (or_congr_left eq_comm)

theorem isCut_start (h : Partition a b ws) (hw : w ∈ ws) : IsCut a ws w.start := by
  induction h with
  | nil => exact absurd hw (by simp)
  | cons hlt h ih =>
    rcases List.mem_cons.mp hw with rfl | hw
    · exact .inl rfl
    · exact isCut_cons_iff.mpr (.inr (ih hw))

/-- A cut before the end is where a window begins. -/
theorem exists_start (h : Partition a b ws) (hx : IsCut a ws x) (hb : x < b) :
    ∃ w ∈ ws, w.start = x := by
  induction h with
  | nil =>
    rcases hx with rfl | ⟨w, hw, -⟩
    · exact absurd hb (lt_irrefl _)
    · exact absurd hw (by simp)
  | cons hlt h ih =>
    rcases isCut_cons_iff.mp hx with rfl | hx
    · exact ⟨_, List.mem_cons_self, rfl⟩
    · obtain ⟨w, hw, hs⟩ := ih hx hb
      exact ⟨w, List.mem_cons_of_mem _ hw, hs⟩

/-- No cut lies inside a window. -/
theorem not_isCut_inside (h : Partition a b ws) (hw : w ∈ ws) (hlo : w.start < x)
    (hhi : x < w.stop) : ¬IsCut a ws x := by
  intro hx
  obtain ⟨v, hv, rfl⟩ := h.exists_start hx (hhi.trans_le (h.bounds hw).2.2)
  rcases h.eq_or_apart hw hv with rfl | hapart
  · exact lt_irrefl _ hlo
  · exact hapart _ ⟨hlo.le, hhi⟩ ⟨le_rfl, (h.bounds hv).2.1⟩

/-- One half of `agree_iff`: overlapping windows begin and end together. -/
private theorem eq_of_overlap (h : Partition a b ws) (h' : Partition c d vs)
    (hcut : ∀ x, IsCut c vs x → a < x → x < b → IsCut a ws x)
    (hcut' : ∀ x, IsCut a ws x → c < x → x < d → IsCut c vs x)
    (hw : w ∈ ws) (hv : v ∈ vs) (hwv : w.start < v.stop) (hvw : v.start < w.stop) : w = v := by
  obtain ⟨hw₁, hw₂, hw₃⟩ := h.bounds hw
  obtain ⟨hv₁, hv₂, hv₃⟩ := h'.bounds hv
  refine Window.ext (le_antisymm ?_ ?_) (le_antisymm ?_ ?_) <;> by_contra! hlt
  · exact h'.not_isCut_inside hv hlt hwv
      (hcut' _ (h.isCut_start hw) (hv₁.trans_lt hlt) (hwv.trans_le hv₃))
  · exact h.not_isCut_inside hw hlt hvw
      (hcut _ (h'.isCut_start hv) (hw₁.trans_lt hlt) (hvw.trans_le hw₃))
  · exact h.not_isCut_inside hw hwv hlt
      (hcut _ (isCut_stop hv) (hw₁.trans_lt hwv) (hlt.trans_le hw₃))
  · exact h'.not_isCut_inside hv hvw hlt
      (hcut' _ (isCut_stop hw) (hv₁.trans_lt hvw) (hlt.trans_le hv₃))

/-- The other half: a cut inside the stretch of the other is a cut of the other. -/
private theorem isCut_of_agree (h : Partition a b ws) (h' : Partition c d vs) (hcd : c < d)
    (hagree : ∀ w ∈ ws, ∀ v ∈ vs, w = v ∨ w.Apart v) (hx : IsCut c vs x) (ha : a < x)
    (hb : x < b) : IsCut a ws x := by
  obtain ⟨w, hw, hxw⟩ := h.exists_contains ha.le hb
  by_contra hne
  have hlt : w.start < x := lt_of_le_of_ne hxw.1 fun hs ↦ hne (hs ▸ h.isCut_start hw)
  rcases lt_or_ge x d with hxd | hxd
  · -- a window of the other begins at the cut
    obtain ⟨v, hv, rfl⟩ := h'.exists_start hx hxd
    rcases hagree w hw v hv with rfl | hapart
    · exact lt_irrefl _ hlt
    · exact hapart _ hxw ⟨le_rfl, (h'.bounds hv).2.1⟩
  · -- the other ends at the cut, with a window
    rcases hx with rfl | ⟨v, hv, rfl⟩
    · exact absurd hcd (not_lt.mpr hxd)
    · rcases hagree w hw v hv with rfl | hapart
      · exact lt_irrefl _ hxw.2
      · rcases (Window.apart_iff (h.bounds hw).2.1 (h'.bounds hv).2.1).mp hapart with hle | hle
        · exact lt_irrefl _ (hxw.2.trans_le (hle.trans (h'.bounds hv).2.1.le))
        · exact lt_irrefl _ (hlt.trans_le hle)

/-- **Two partitions agree iff neither cuts a window of the other**: their windows are pairwise
equal or apart iff each cut of one inside the stretch of the other is a cut of the other. -/
theorem agree_iff (h : Partition a b ws) (h' : Partition c d vs) (hab : a < b) (hcd : c < d) :
    (∀ w ∈ ws, ∀ v ∈ vs, w = v ∨ w.Apart v) ↔
      (∀ x, IsCut c vs x → a < x → x < b → IsCut a ws x) ∧
        ∀ x, IsCut a ws x → c < x → x < d → IsCut c vs x := by
  constructor
  · intro hagree
    refine ⟨fun x ↦ isCut_of_agree h h' hcd hagree, fun x ↦ isCut_of_agree h' h hab ?_⟩
    intro v hv w hw
    exact (hagree w hw v hv).imp Eq.symm Window.Apart.symm
  · rintro ⟨hcut, hcut'⟩ w hw v hv
    rw [Window.apart_iff (h.bounds hw).2.1 (h'.bounds hv).2.1]
    rcases le_or_gt w.stop v.start with hle | hvw
    · exact .inr (.inl hle)
    · rcases le_or_gt v.stop w.start with hle | hwv
      · exact .inr (.inr hle)
      · exact .inl (eq_of_overlap h h' hcut hcut' hw hv hwv hvw)

end Partition

end Windows
