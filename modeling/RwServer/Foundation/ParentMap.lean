import Mathlib

/-!
# Parent maps

A partial map `parent : α → Option α` is a forest drawn upwards, as long as no chain of parents
comes back to where it began. `Acyclic` says that; `acyclic_update_iff` says what it takes to hang
one element under another one: that it is neither the other one nor above it.

An acyclic map over finitely many elements ends every chain (`climb_eq_none`), so that a walk along
the parents, or a recursive query that follows them, comes to an end.
-/

namespace ParentMap

variable {α : Type*}

/-- `b` is the parent of `a`. -/
def Link (parent : α → Option α) (a b : α) : Prop := parent a = some b

/-- `b` is `a`, or above it. -/
abbrev AtOrAbove (parent : α → Option α) : α → α → Prop := Relation.ReflTransGen (Link parent)

/-- No chain of parents comes back to where it began. -/
def Acyclic (parent : α → Option α) : Prop := ∀ a, ¬ Relation.TransGen (Link parent) a a

variable {parent : α → Option α}

theorem Link.unique {a b c : α} (hb : Link parent a b) (hc : Link parent a c) : b = c :=
  Option.some.inj (hb.symm.trans hc)

/-- Above an element without a parent there is nothing. -/
theorem eq_of_atOrAbove_of_none {a b : α} (hnone : parent a = none) (h : AtOrAbove parent a b) :
    b = a := by
  rcases h.cases_head with rfl | ⟨c, hc, -⟩
  · rfl
  · rw [Link, hnone] at hc
    cases hc

/-- What is above an element is its parent or above that. -/
theorem atOrAbove_parent {a b c : α} (hne : b ≠ a) (hparent : parent a = some c)
    (h : AtOrAbove parent a b) : AtOrAbove parent c b := by
  rcases h.cases_head with rfl | ⟨d, hd, hrest⟩
  · exact absurd rfl hne
  · rwa [Link.unique hparent hd]

/-- A cycle goes through every element above one of its elements. -/
theorem cycle_of_atOrAbove {a b : α} (hcycle : Relation.TransGen (Link parent) a a)
    (h : AtOrAbove parent a b) : Relation.TransGen (Link parent) b b := by
  induction h with
  | refl => exact hcycle
  | tail _ hlink ih =>
    obtain ⟨d, hd, hrest⟩ := Relation.TransGen.head'_iff.mp ih
    rw [← Link.unique hlink hd] at hrest
    exact Relation.TransGen.tail' hrest hlink

section

variable [DecidableEq α]

theorem link_update_of_ne {a x y : α} {b : Option α} (hne : x ≠ a) :
    Link (Function.update parent a b) x y ↔ Link parent x y := by
  rw [Link, Link, Function.update_of_ne hne]

theorem link_update_self {a y : α} {b : Option α} :
    Link (Function.update parent a b) a y ↔ b = some y := by
  rw [Link, Function.update_self]

/-- The chains up to an element do not depend on the parent of that element. -/
theorem atOrAbove_of_agree {parent' : α → Option α} {a x : α}
    (hagree : ∀ y ≠ a, parent' y = parent y) (h : AtOrAbove parent x a) :
    AtOrAbove parent' x a := by
  induction h using Relation.ReflTransGen.head_induction_on with
  | refl => exact .refl
  | @head y z hlink _ ih =>
    by_cases hy : y = a
    · rw [hy]
    · exact ih.head ((hagree y hy).trans hlink)

theorem atOrAbove_update_iff {a x : α} {b : Option α} :
    AtOrAbove (Function.update parent a b) x a ↔ AtOrAbove parent x a :=
  ⟨atOrAbove_of_agree fun _ hy ↦ (Function.update_of_ne hy ..).symm,
    atOrAbove_of_agree fun _ hy ↦ Function.update_of_ne hy ..⟩

/-- A chain after an update is one before it, or has come by the updated element. -/
theorem transGen_of_update {a x y : α} {b : Option α}
    (h : Relation.TransGen (Link (Function.update parent a b)) x y) :
    Relation.TransGen (Link parent) x y ∨ AtOrAbove (Function.update parent a b) x a := by
  induction h with
  | @single z hlink =>
    by_cases hx : x = a
    · exact .inr (hx ▸ .refl)
    · exact .inl (.single ((link_update_of_ne hx).mp hlink))
  | @tail y z hchain hlink ih =>
    by_cases hy : y = a
    · exact .inr (hy ▸ hchain.to_reflTransGen)
    · exact ih.imp_left fun hold ↦ hold.tail ((link_update_of_ne hy).mp hlink)

/-- A cycle that an update makes goes through the updated element. -/
theorem cycle_at_update (hacyclic : Acyclic parent) {a x : α} {b : Option α}
    (h : Relation.TransGen (Link (Function.update parent a b)) x x) :
    Relation.TransGen (Link (Function.update parent a b)) a a :=
  cycle_of_atOrAbove h ((transGen_of_update h).resolve_left (hacyclic x))

/-- Taking a parent away makes no cycle. -/
theorem acyclic_update_none (hacyclic : Acyclic parent) (a : α) :
    Acyclic (Function.update parent a none) := by
  intro x h
  obtain ⟨c, hc, -⟩ := Relation.TransGen.head'_iff.mp (cycle_at_update hacyclic h)
  exact absurd (link_update_self.mp hc) (by simp)

/-- **Where an element can be hung.** Hanging `a` under `b` makes no cycle iff `a` is neither `b`
nor above it. -/
theorem acyclic_update_iff (hacyclic : Acyclic parent) (a b : α) :
    Acyclic (Function.update parent a (some b)) ↔ ¬ AtOrAbove parent b a := by
  constructor
  · intro hnew habove
    have hlink : Link (Function.update parent a (some b)) a b := link_update_self.mpr rfl
    exact hnew a (Relation.TransGen.head' hlink (atOrAbove_update_iff.mpr habove))
  · intro hnot x h
    obtain ⟨c, hc, hrest⟩ := Relation.TransGen.head'_iff.mp (cycle_at_update hacyclic h)
    obtain rfl := Option.some.inj (link_update_self.mp hc)
    exact hnot (atOrAbove_update_iff.mp hrest)

end

/-! ## Chains end -/

/-- The `n`-th parent of an element. -/
def climb (parent : α → Option α) : ℕ → α → Option α
  | 0, a => some a
  | n + 1, a => (climb parent n a).bind parent

theorem climb_succ_eq_some {n : ℕ} {a b : α} (h : climb parent (n + 1) a = some b) :
    ∃ c, climb parent n a = some c ∧ Link parent c b := Option.bind_eq_some_iff.mp h

/-- The parents of a higher degree are those of the parent. -/
theorem climb_succ (parent : α → Option α) (n : ℕ) (a : α) :
    climb parent (n + 1) a = (parent a).bind (climb parent n) := by
  induction n with
  | zero =>
    rw [climb, climb, Option.bind_some]
    cases parent a <;> rfl
  | succ n ih =>
    rw [climb, ih, Option.bind_assoc]
    rfl

/-- The parents of higher degree are above those of lower degree. -/
theorem transGen_of_climb {n k : ℕ} {a b c : α} (hb : climb parent n a = some b)
    (hc : climb parent (n + k + 1) a = some c) : Relation.TransGen (Link parent) b c := by
  induction k generalizing c with
  | zero =>
    obtain ⟨d, hd, hlink⟩ := climb_succ_eq_some hc
    rw [hb, Option.some.injEq] at hd
    exact .single (hd ▸ hlink)
  | succ k ih =>
    obtain ⟨d, hd, hlink⟩ := climb_succ_eq_some hc
    exact (ih hd).tail hlink

theorem climb_mono {n m : ℕ} (hnm : n ≤ m) {a : α} (h : (climb parent m a).isSome) :
    (climb parent n a).isSome := by
  induction hnm with
  | refl => exact h
  | @step m _ ih =>
    obtain ⟨b, hb⟩ := Option.isSome_iff_exists.mp h
    obtain ⟨c, hc, -⟩ := climb_succ_eq_some hb
    exact ih (hc ▸ rfl)

/-- **Chains end.** In an acyclic map whose elements with a parent are among `s`, no element has a
parent of a degree greater than the number of elements of `s`. -/
theorem climb_eq_none (hacyclic : Acyclic parent) {s : Finset α}
    (hs : ∀ a b, parent a = some b → a ∈ s) (a : α) : climb parent (s.card + 1) a = none := by
  by_contra hne
  have hsome : (climb parent (s.card + 1) a).isSome := Option.isSome_iff_ne_none.mpr hne
  -- the elements passed on the way are in `s`, and so two of them are the same
  have hpassed : ∀ n : ℕ, n ≤ s.card → ∃ b ∈ s, climb parent n a = some b := by
    intro n hn
    obtain ⟨c, hc⟩ := Option.isSome_iff_exists.mp (climb_mono (Nat.succ_le_succ hn) hsome)
    obtain ⟨b, hb, hlink⟩ := climb_succ_eq_some hc
    exact ⟨b, hs b c hlink, hb⟩
  have : Nonempty α := ⟨a⟩
  choose! f hf hclimb using hpassed
  have hmaps : ∀ n ∈ Finset.range (s.card + 1), f n ∈ s := fun n hn ↦
    hf n (Nat.lt_succ_iff.mp (Finset.mem_range.mp hn))
  obtain ⟨i, hi, j, hj, hij, heq⟩ := Finset.exists_ne_map_eq_of_card_lt_of_maps_to
    (by rw [Finset.card_range]; exact Nat.lt_succ_self _) hmaps
  have hcycle : ∀ {i j : ℕ}, i ≤ s.card → j ≤ s.card → i < j → f i = f j → False := by
    intro i j hi hj hlt heq
    obtain ⟨k, rfl⟩ := Nat.exists_eq_add_of_lt hlt
    have hchain := transGen_of_climb (hclimb i hi) (hclimb _ hj)
    rw [← heq] at hchain
    exact hacyclic _ hchain
  rw [Finset.mem_range, Nat.lt_succ_iff] at hi hj
  rcases lt_or_gt_of_ne hij with hlt | hlt
  · exact hcycle hi hj hlt heq
  · exact hcycle hj hi hlt heq.symm

/-- Among `n` elements, no one has a parent of degree `n`. -/
theorem climb_card_eq_none (hacyclic : Acyclic parent) {s : Finset α}
    (hs : ∀ a b, parent a = some b → a ∈ s ∧ b ∈ s) {a : α} (ha : a ∈ s) :
    climb parent s.card a = none := by
  classical
  by_contra hne
  obtain ⟨b, hb⟩ := Option.ne_none_iff_exists'.mp hne
  -- the last one is in `s`, and has no parent, as there would be one of a higher degree
  have hmem : b ∈ s := by
    cases hcard : s.card with
    | zero => exact absurd ha (Finset.card_eq_zero.mp hcard ▸ Finset.notMem_empty a)
    | succ n =>
      rw [hcard] at hb
      obtain ⟨c, -, hlink⟩ := climb_succ_eq_some hb
      exact (hs c b hlink).2
  have hlast : parent b = none := by
    have hend := climb_eq_none hacyclic (fun a b h ↦ (hs a b h).1) a
    rwa [climb, hb, Option.bind_some] at hend
  have hothers : ∀ c d, parent c = some d → c ∈ s.erase b := fun c d hc ↦ by
    refine Finset.mem_erase.mpr ⟨fun heq ↦ ?_, (hs c d hc).1⟩
    rw [heq, hlast] at hc
    cases hc
  have hshort := climb_eq_none hacyclic hothers a
  rw [Finset.card_erase_add_one hmem, hb] at hshort
  cases hshort

end ParentMap
