import Mathlib.Algebra.BigOperators.Group.Finset.Sigma
import RwServer.Foundation.ParentMap

/-!
# Sums over a forest

Items are placed at the elements of a forest, or nowhere. An item is below an element if it is
placed at it or at an element that hangs under it (`Below`). What is summed over the items below an
element is the sum over its own items, and over what is summed at the elements that hang right under
it (`sum_below`); and the sum over all items is the sum over those that are placed nowhere, and over
what is summed at the roots (`sum_roots`). So it does not matter whether a sum is taken at once or
level by level.

The number of steps from an item up to an element is unique (`climb_injective`), and so a query that
lists the items below an element round by round lists none of them twice.
-/

namespace ParentMap

variable {α : Type*} {parent : α → Option α}

/-! ## Chains -/

theorem atOrAbove_of_climb {n : ℕ} {a b : α} (h : climb parent n a = some b) :
    AtOrAbove parent a b := by
  induction n generalizing b with
  | zero =>
    cases h
    exact .refl
  | succ n ih =>
    obtain ⟨c, hc, hlink⟩ := climb_succ_eq_some h
    exact (ih hc).tail hlink

theorem exists_climb_of_atOrAbove {a b : α} (h : AtOrAbove parent a b) :
    ∃ n, climb parent n a = some b := by
  induction h with
  | refl => exact ⟨0, rfl⟩
  | tail _ hlink ih =>
    obtain ⟨n, hn⟩ := ih
    exact ⟨n + 1, Option.bind_eq_some_iff.mpr ⟨_, hn, hlink⟩⟩

/-- An element is above another one by one number of steps only. -/
theorem climb_injective (hacyclic : Acyclic parent) {n m : ℕ} {a b : α}
    (hn : climb parent n a = some b) (hm : climb parent m a = some b) : n = m := by
  have hnot : ∀ {n m}, climb parent n a = some b → climb parent m a = some b → ¬ n < m := by
    intro n m hn hm hlt
    obtain ⟨k, rfl⟩ := Nat.exists_eq_add_of_lt hlt
    exact hacyclic b (transGen_of_climb hn hm)
  exact le_antisymm (not_lt.mp (hnot hm hn)) (not_lt.mp (hnot hn hm))

/-- Of two elements above a third one, one is above the other. -/
theorem atOrAbove_total {a b c : α} (hb : AtOrAbove parent a b) (hc : AtOrAbove parent a c) :
    AtOrAbove parent b c ∨ AtOrAbove parent c b :=
  hb.total_of_right_unique (fun _ _ _ h h' ↦ Link.unique h h') hc

/-- Two elements that hang right under a third one have nothing below both. -/
theorem eq_of_siblings (hacyclic : Acyclic parent) {a b c p : α} (hb : parent b = some a)
    (hc : parent c = some a) (hpb : AtOrAbove parent p b) (hpc : AtOrAbove parent p c) :
    b = c := by
  have hnot : ∀ {b c}, parent b = some a → parent c = some a → AtOrAbove parent b c → b = c := by
    intro b c hb hc h
    by_contra hne
    exact hacyclic a (Relation.TransGen.tail' (atOrAbove_parent (Ne.symm hne) hb h) hc)
  rcases atOrAbove_total hpb hpc with h | h
  · exact hnot hb hc h
  · exact (hnot hc hb h).symm

/-- Where chains end, there is a root above every element. -/
theorem exists_root {n : ℕ} {a : α} (h : climb parent n a = none) :
    ∃ r, AtOrAbove parent a r ∧ parent r = none := by
  induction n with
  | zero => cases h
  | succ n ih =>
    cases hclimb : climb parent n a with
    | none => exact ih hclimb
    | some r =>
      rw [climb, hclimb, Option.bind_some] at h
      exact ⟨r, atOrAbove_of_climb hclimb, h⟩

theorem eq_of_roots {a r r' : α} (hr : AtOrAbove parent a r) (hr' : AtOrAbove parent a r')
    (hroot : parent r = none) (hroot' : parent r' = none) : r = r' := by
  rcases atOrAbove_total hr hr' with h | h
  · exact (eq_of_atOrAbove_of_none hroot h).symm
  · exact eq_of_atOrAbove_of_none hroot' h

/-! ## Items -/

variable {ι M : Type*} [AddCommMonoid M] {place : ι → Option α}

/-- The item is placed at `a`, or at an element under it. -/
def Below (parent : α → Option α) (place : ι → Option α) (a : α) (i : ι) : Prop :=
  ∃ p, place i = some p ∧ AtOrAbove parent p a

theorem below_iff {a : α} {i : ι} : Below parent place a i ↔
    place i = some a ∨ ∃ c, parent c = some a ∧ Below parent place c i := by
  constructor
  · rintro ⟨p, hp, habove⟩
    rcases Relation.ReflTransGen.cases_tail habove with rfl | ⟨c, hc, hlink⟩
    · exact .inl hp
    · exact .inr ⟨c, hlink, p, hp, hc⟩
  · rintro (hp | ⟨c, hlink, p, hp, hc⟩)
    · exact ⟨a, hp, .refl⟩
    · exact ⟨p, hp, hc.tail hlink⟩

/-- An item of an element is not below one that hangs under it. -/
theorem not_below_child (hacyclic : Acyclic parent) {a c : α} {i : ι} (hi : place i = some a)
    (hc : parent c = some a) : ¬ Below parent place c i := by
  rintro ⟨p, hp, habove⟩
  cases hi.symm.trans hp
  exact hacyclic a (Relation.TransGen.tail' habove hc)

section

variable [∀ a : α, DecidablePred (Below parent place a)]

/-- **Level by level.** What is summed below an element is the sum over its own items, and over what
is summed below the elements that hang right under it. -/
theorem sum_below [DecidableEq α] (hacyclic : Acyclic parent) {I : Finset ι} {C : Finset α} {a : α}
    (hC : ∀ c i, i ∈ I → Below parent place c i → parent c = some a → c ∈ C) (v : ι → M) :
    ∑ i ∈ I with Below parent place a i, v i = ∑ i ∈ I with place i = some a, v i +
      ∑ c ∈ C with parent c = some a, ∑ i ∈ I with Below parent place c i, v i := by
  classical
  have hunion : I.filter (Below parent place a) = I.filter (fun i ↦ place i = some a) ∪
      (C.filter fun c ↦ parent c = some a).biUnion fun c ↦ I.filter (Below parent place c) := by
    ext i
    simp only [Finset.mem_filter, Finset.mem_union, Finset.mem_biUnion]
    rw [below_iff]
    constructor
    · rintro ⟨hi, hown | ⟨c, hc, hbelow⟩⟩
      · exact .inl ⟨hi, hown⟩
      · exact .inr ⟨c, ⟨hC c i hi hbelow hc, hc⟩, hi, hbelow⟩
    · rintro (⟨hi, hown⟩ | ⟨c, ⟨-, hc⟩, hi, hbelow⟩)
      · exact ⟨hi, .inl hown⟩
      · exact ⟨hi, .inr ⟨c, hc, hbelow⟩⟩
  rw [hunion, Finset.sum_union, Finset.sum_biUnion]
  · intro b hb c hc hne
    refine Finset.disjoint_left.mpr fun i hi hi' ↦ hne ?_
    obtain ⟨p, hp, hpb⟩ := (Finset.mem_filter.mp hi).2
    obtain ⟨p', hp', hpc⟩ := (Finset.mem_filter.mp hi').2
    cases hp.symm.trans hp'
    exact eq_of_siblings hacyclic (Finset.mem_filter.mp hb).2 (Finset.mem_filter.mp hc).2 hpb hpc
  · refine Finset.disjoint_left.mpr fun i hi hi' ↦ ?_
    obtain ⟨c, hc, hbelow⟩ := Finset.mem_biUnion.mp hi'
    exact not_below_child hacyclic (Finset.mem_filter.mp hi).2 (Finset.mem_filter.mp hc).2
      (Finset.mem_filter.mp hbelow).2

/-- **From the top.** The sum over all items is the sum over those that are placed nowhere, and over
what is summed below the roots. -/
theorem sum_roots {I : Finset ι} {C : Finset α}
    (hends : ∀ i ∈ I, ∀ p, place i = some p → ∃ n, climb parent n p = none)
    (hC : ∀ r i, i ∈ I → Below parent place r i → parent r = none → r ∈ C) (v : ι → M) :
    ∑ i ∈ I, v i = ∑ i ∈ I with place i = none, v i +
      ∑ r ∈ C with parent r = none, ∑ i ∈ I with Below parent place r i, v i := by
  classical
  have hunion : I = I.filter (fun i ↦ place i = none) ∪
      (C.filter fun r ↦ parent r = none).biUnion fun r ↦ I.filter (Below parent place r) := by
    ext i
    simp only [Finset.mem_filter, Finset.mem_union, Finset.mem_biUnion]
    constructor
    · intro hi
      cases hplace : place i with
      | none => exact .inl ⟨hi, rfl⟩
      | some p =>
        obtain ⟨n, hn⟩ := hends i hi p hplace
        obtain ⟨r, hr, hroot⟩ := exists_root hn
        have hbelow : Below parent place r i := ⟨p, hplace, hr⟩
        exact .inr ⟨r, ⟨hC r i hi hbelow hroot, hroot⟩, hi, hbelow⟩
    · rintro (⟨hi, -⟩ | ⟨r, -, hi, -⟩)
      · exact hi
      · exact hi
  conv_lhs => rw [hunion]
  rw [Finset.sum_union, Finset.sum_biUnion]
  · intro r hr r' hr' hne
    refine Finset.disjoint_left.mpr fun i hi hi' ↦ hne ?_
    obtain ⟨p, hp, hpr⟩ := (Finset.mem_filter.mp hi).2
    obtain ⟨p', hp', hpr'⟩ := (Finset.mem_filter.mp hi').2
    cases hp.symm.trans hp'
    exact eq_of_roots hpr hpr' (Finset.mem_filter.mp hr).2 (Finset.mem_filter.mp hr').2
  · refine Finset.disjoint_left.mpr fun i hi hi' ↦ ?_
    obtain ⟨r, -, hbelow⟩ := Finset.mem_biUnion.mp hi'
    obtain ⟨p, hp, -⟩ := (Finset.mem_filter.mp hbelow).2
    cases (Finset.mem_filter.mp hi).2.symm.trans hp

end

end ParentMap
