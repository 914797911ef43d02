import Mathlib
import RwServer.Foundation.OrderedMap

/-!
# Least recently used

What a map of bounded size whose values expire is for. An `LruMap` has at each key the value, when
it was set, and which call was the last to use the key; a use is a set, or a get that finds a value
which has not expired. A get of an expired value removes it, and where a new key finds the map full,
the key whose last use is the earliest goes. Nothing orders the keys.

`OrderedMap.Refines` is how an insertion-ordered map stores one: with the keys in the order of their
last uses. A use takes the key away and puts it back last, so the oldest key is the one to go.
-/

/-- What is stored at a key. -/
structure LruSlot (ν τ : Type*) where
  value : ν
  setAt : τ
  /-- The call that used the key last. -/
  usedAt : ℕ

/-- A slot for each key that is stored. No call uses two keys. -/
@[ext] structure LruMap (κ ν τ : Type*) where
  /-- How many calls there have been. -/
  calls : ℕ
  slot : κ → Option (LruSlot ν τ)
  usedAt_lt : ∀ {k s}, slot k = some s → s.usedAt < calls
  usedAt_inj : ∀ {k k' s s'}, slot k = some s → slot k' = some s' → s.usedAt = s'.usedAt → k = k'

namespace LruMap

variable {κ ν τ : Type*}

/-- The map without keys, before any call. -/
def empty : LruMap κ ν τ where
  calls := 0
  slot _ := none
  usedAt_lt h := by cases h
  usedAt_inj h := by cases h

/-- The keys that are stored. -/
def stored (r : LruMap κ ν τ) : Set κ := {k | (r.slot k).isSome = true}

/-- A stored key that no other has been used before. -/
def LeastRecent (r : LruMap κ ν τ) (k : κ) : Prop :=
  ∃ s, r.slot k = some s ∧ ∀ k' s', r.slot k' = some s' → s.usedAt ≤ s'.usedAt

/-- The last use of one key is earlier than that of the other. -/
def UsedBefore (r : LruMap κ ν τ) (k k' : κ) : Prop :=
  ∀ s s', r.slot k = some s → r.slot k' = some s' → s.usedAt < s'.usedAt

/-! ## The calls -/

/-- A call that leaves the keys as they are. -/
def tick (r : LruMap κ ν τ) : LruMap κ ν τ where
  calls := r.calls + 1
  slot := r.slot
  usedAt_lt h := (r.usedAt_lt h).trans (Nat.lt_succ_self _)
  usedAt_inj := r.usedAt_inj

@[simp] theorem slot_tick (r : LruMap κ ν τ) (k : κ) : r.tick.slot k = r.slot k := rfl

/-- Keep the keys with a property. -/
def restrict (r : LruMap κ ν τ) (p : κ → Prop) [DecidablePred p] : LruMap κ ν τ where
  calls := r.calls
  slot k := if p k then r.slot k else none
  usedAt_lt h := r.usedAt_lt (Option.ite_none_right_eq_some.mp h).2
  usedAt_inj h h' := r.usedAt_inj (Option.ite_none_right_eq_some.mp h).2
    (Option.ite_none_right_eq_some.mp h').2

theorem slot_restrict (r : LruMap κ ν τ) {p : κ → Prop} {_ : DecidablePred p} (k : κ) :
    (r.restrict p).slot k = if p k then r.slot k else none := rfl

theorem restrict_congr (r : LruMap κ ν τ) {p q : κ → Prop} {_ : DecidablePred p}
    {_ : DecidablePred q} (h : ∀ k, p k ↔ q k) : r.restrict p = r.restrict q := by
  ext1
  · rfl
  · funext k
    rw [slot_restrict, slot_restrict]
    exact if_congr (h k) rfl rfl

open Classical in
/-- Where as many keys are stored as may be, let the least recently used one go. -/
noncomputable def makeRoom (limit : ℕ) (r : LruMap κ ν τ) : LruMap κ ν τ :=
  if (limit : ℕ∞) ≤ r.stored.encard then r.restrict fun k ↦ ¬r.LeastRecent k else r

theorem calls_makeRoom (limit : ℕ) (r : LruMap κ ν τ) : (r.makeRoom limit).calls = r.calls := by
  rw [makeRoom]
  split <;> rfl

/-- Making room keeps a slot or empties it. -/
theorem slot_makeRoom (limit : ℕ) (r : LruMap κ ν τ) (k : κ) :
    (r.makeRoom limit).slot k = r.slot k ∨ (r.makeRoom limit).slot k = none := by
  rw [makeRoom]
  split
  · rw [slot_restrict]
    split
    · exact Or.inl rfl
    · exact Or.inr rfl
  · exact Or.inl rfl

variable [DecidableEq κ]

theorem update_eq_some {slot : κ → Option (LruSlot ν τ)} {k k' : κ} {s s' : LruSlot ν τ} :
    Function.update slot k (some s) k' = some s' ↔
      k' = k ∧ s = s' ∨ k' ≠ k ∧ slot k' = some s' := by
  rw [Function.update_apply]
  split_ifs with hk <;> simp [hk]

/-- Use a key, with the value that is stored at it from now on. -/
def put (r : LruMap κ ν τ) (k : κ) (value : ν) (setAt : τ) : LruMap κ ν τ where
  calls := r.calls + 1
  slot := Function.update r.slot k (some ⟨value, setAt, r.calls⟩)
  usedAt_lt h := by
    rcases update_eq_some.mp h with ⟨-, rfl⟩ | ⟨-, hold⟩
    · exact Nat.lt_succ_self _
    · exact (r.usedAt_lt hold).trans (Nat.lt_succ_self _)
  usedAt_inj h h' heq := by
    rcases update_eq_some.mp h with ⟨rfl, rfl⟩ | ⟨-, hold⟩ <;>
      rcases update_eq_some.mp h' with ⟨rfl, rfl⟩ | ⟨-, hold'⟩
    · rfl
    · exact absurd heq (r.usedAt_lt hold').ne'
    · exact absurd heq (r.usedAt_lt hold).ne
    · exact r.usedAt_inj hold hold' heq

/-- Get the value at a key, unless it has expired. -/
def get [Add τ] [LE τ] [DecidableLE τ] (ttl : τ) (r : LruMap κ ν τ) (k : κ) (now : τ) :
    Option ν × LruMap κ ν τ :=
  match r.slot k with
  | none => (none, r.tick)
  | some s =>
    if now ≤ s.setAt + ttl then (some s.value, r.put k s.value s.setAt)
    else (none, (r.restrict fun k' ↦ k' ≠ k).tick)

/-- Set the value at a key, with at most `limit` keys. -/
noncomputable def set (limit : ℕ) (r : LruMap κ ν τ) (k : κ) (value : ν) (now : τ) :
    LruMap κ ν τ :=
  ((r.restrict fun k' ↦ k' ≠ k).makeRoom limit).put k value now

/-- Remove all keys. -/
def clear (r : LruMap κ ν τ) : LruMap κ ν τ := (r.restrict fun _ ↦ False).tick

/-! ## What a call does to a slot -/

section

variable {r : LruMap κ ν τ} {k k' : κ}

@[simp] theorem slot_put_self {value : ν} {setAt : τ} :
    (r.put k value setAt).slot k = some ⟨value, setAt, r.calls⟩ := Function.update_self _ _ _

theorem slot_put_of_ne {value : ν} {setAt : τ} (hne : k' ≠ k) :
    (r.put k value setAt).slot k' = r.slot k' := Function.update_of_ne hne _ _

section

variable [Add τ] [LE τ] [DecidableLE τ] {ttl now : τ} {s : LruSlot ν τ}

theorem get_of_none (h : r.slot k = none) : r.get ttl k now = (none, r.tick) := by
  rw [get, h]

theorem get_of_le (h : r.slot k = some s) (hle : now ≤ s.setAt + ttl) :
    r.get ttl k now = (some s.value, r.put k s.value s.setAt) := by
  rw [get, h]
  exact if_pos hle

theorem get_of_not_le (h : r.slot k = some s) (hle : ¬now ≤ s.setAt + ttl) :
    r.get ttl k now = (none, (r.restrict fun k' ↦ k' ≠ k).tick) := by
  rw [get, h]
  exact if_neg hle

theorem calls_get : (r.get ttl k now).2.calls = r.calls + 1 := by
  rw [get]
  split
  · rfl
  · split <;> rfl

/-- A get leaves the other keys as they are. -/
theorem slot_get_of_ne (hne : k' ≠ k) : (r.get ttl k now).2.slot k' = r.slot k' := by
  cases hslot : r.slot k with
  | none => rw [get_of_none hslot, slot_tick]
  | some s =>
    by_cases hle : now ≤ s.setAt + ttl
    · rw [get_of_le hslot hle, slot_put_of_ne hne]
    · rw [get_of_not_le hslot hle, slot_tick, slot_restrict, if_pos hne]

end

/-- A use of a key does not depend on what was stored at it. -/
theorem restrict_put (value : ν) (setAt : τ) :
    (r.restrict fun k' ↦ k' ≠ k).put k value setAt = r.put k value setAt := by
  ext1
  · rfl
  · funext k'
    by_cases hk : k' = k
    · rw [hk, slot_put_self, slot_put_self]
      rfl
    · rw [slot_put_of_ne hk, slot_put_of_ne hk, slot_restrict, if_pos hk]

theorem calls_set {limit : ℕ} {value : ν} {now : τ} :
    (r.set limit k value now).calls = r.calls + 1 :=
  congrArg (· + 1) (calls_makeRoom limit _)

theorem slot_set_self {limit : ℕ} {value : ν} {now : τ} :
    (r.set limit k value now).slot k = some ⟨value, now, r.calls⟩ := by
  rw [set, slot_put_self, calls_makeRoom]
  rfl

/-- A set of another key keeps a slot or empties it. -/
theorem slot_set_of_ne {limit : ℕ} {value : ν} {now : τ} (hne : k' ≠ k) :
    (r.set limit k value now).slot k' = r.slot k' ∨
      (r.set limit k value now).slot k' = none := by
  rw [set, slot_put_of_ne hne]
  have hrestrict : (r.restrict fun k' ↦ k' ≠ k).slot k' = r.slot k' := by
    rw [slot_restrict, if_pos hne]
  rw [← hrestrict]
  exact slot_makeRoom _ _ _

end

end LruMap

/-! ## Insertion-ordered maps -/

namespace OrderedMap

open LruMap

variable {κ ν τ μ : Type*} [DecidableEq κ]

/-- The map has an entry, made of the value and of when it was set, for each key that is stored, and
the keys are in the order of their last uses. -/
structure Refines (entry : ν → τ → μ) (m : OrderedMap κ μ) (r : LruMap κ ν τ) : Prop where
  get?_eq : ∀ k, m.get? k = (r.slot k).map fun s ↦ entry s.value s.setAt
  pairwise : m.keys.Pairwise r.UsedBefore

namespace Refines

variable {entry : ν → τ → μ} {m : OrderedMap κ μ} {r : LruMap κ ν τ} {k k' : κ}

theorem empty : (OrderedMap.empty : OrderedMap κ μ).Refines entry (.empty : LruMap κ ν τ) :=
  ⟨fun _ ↦ rfl, List.Pairwise.nil⟩

theorem mem_keys_iff (h : m.Refines entry r) : k ∈ m.keys ↔ k ∈ r.stored := by
  rw [OrderedMap.mem_keys_iff, has, h.get?_eq, Option.isSome_map]
  rfl

/-- As many keys are stored as there are entries. -/
theorem encard_stored (h : m.Refines entry r) : r.stored.encard = m.size := by
  have hstored : r.stored = (m.keys.toFinset : Set κ) := by
    ext k
    rw [Finset.mem_coe, List.mem_toFinset, h.mem_keys_iff]
  have hcard : m.keys.toFinset.card = m.size :=
    (List.toFinset_card_of_nodup m.nodup).trans m.length_keys
  rw [hstored, Set.encard_coe_eq_coe_finsetCard, hcard]

/-- **The oldest key is the one to go.** -/
theorem leastRecent_iff (h : m.Refines entry r) {ks : List κ} (hkeys : m.keys = k :: ks) :
    r.LeastRecent k' ↔ k' = k := by
  have hpairwise := h.pairwise
  rw [hkeys, List.pairwise_cons] at hpairwise
  have hleast : r.LeastRecent k := by
    have hmem : k ∈ m.keys := hkeys ▸ List.mem_cons_self
    obtain ⟨s, hs⟩ := Option.isSome_iff_exists.mp (h.mem_keys_iff.mp hmem)
    refine ⟨s, hs, fun k' s' hs' ↦ ?_⟩
    have hmem' : k' ∈ m.keys := h.mem_keys_iff.mpr (Option.isSome_iff_exists.mpr ⟨s', hs'⟩)
    rw [hkeys, List.mem_cons] at hmem'
    rcases hmem' with rfl | hlater
    · cases hs.symm.trans hs'
      exact le_rfl
    · exact (hpairwise.1 k' hlater s s' hs hs').le
  refine ⟨fun hleast' ↦ ?_, fun heq ↦ heq ▸ hleast⟩
  obtain ⟨s, hs, hle⟩ := hleast
  obtain ⟨s', hs', hle'⟩ := hleast'
  exact r.usedAt_inj hs' hs ((hle' k s hs).antisymm (hle k' s' hs'))

/-! ### The calls -/

theorem tick (h : m.Refines entry r) : m.Refines entry r.tick :=
  ⟨h.get?_eq, h.pairwise⟩

/-- Deleting a key. -/
theorem delete (h : m.Refines entry r) (k : κ) :
    (m.delete k).Refines entry (r.restrict fun k' ↦ k' ≠ k) where
  get?_eq k' := by
    rw [get?_delete, slot_restrict, h.get?_eq]
    by_cases hk : k' = k
    · rw [if_pos hk, if_neg (not_not_intro hk), Option.map_none]
    · rw [if_neg hk, if_pos hk]
  pairwise := by
    rw [keys_delete]
    refine (h.pairwise.sublist List.filter_sublist).imp fun hbefore s s' hs hs' ↦ ?_
    exact hbefore s s' (Option.ite_none_right_eq_some.mp hs).2
      (Option.ite_none_right_eq_some.mp hs').2

/-- A key that is not there comes last, as the one that has just been used. -/
theorem put (h : m.Refines entry r) (hnone : m.get? k = none) (value : ν) (setAt : τ) :
    (m.set k (entry value setAt)).Refines entry (r.put k value setAt) where
  get?_eq k' := by
    rw [get?_set]
    split_ifs with hk
    · rw [hk, slot_put_self, Option.map_some]
    · rw [slot_put_of_ne hk, h.get?_eq]
  pairwise := by
    have hne : ∀ k' ∈ m.keys, k' ≠ k := by
      rintro k' hmem rfl
      rw [OrderedMap.mem_keys_iff, has, hnone] at hmem
      cases hmem
    rw [keys_set_of_get?_eq_none hnone, List.pairwise_append]
    refine ⟨?_, List.pairwise_singleton _ _, ?_⟩
    · refine h.pairwise.imp_of_mem fun hmem hmem' hbefore s s' hs hs' ↦ ?_
      rw [slot_put_of_ne (hne _ hmem)] at hs
      rw [slot_put_of_ne (hne _ hmem')] at hs'
      exact hbefore s s' hs hs'
    · intro k₁ hmem k₂ hlast s s' hs hs'
      cases List.mem_singleton.mp hlast
      rw [slot_put_of_ne (hne _ hmem)] at hs
      rw [slot_put_self] at hs'
      cases hs'
      exact r.usedAt_lt hs

/-- Taking the oldest key out of a map that is full. -/
theorem makeRoom (h : m.Refines entry r) {limit : ℕ} (hlimit : 1 ≤ limit)
    (hsize : m.size ≤ limit) : (m.evict limit).Refines entry (r.makeRoom limit) := by
  by_cases hfull : limit ≤ m.size
  · have hstored : (limit : ℕ∞) ≤ r.stored.encard := by
      rw [h.encard_stored]
      exact_mod_cast hfull
    obtain ⟨k, ks, hkeys⟩ := OrderedMap.exists_keys_eq_cons (hlimit.trans hfull)
    have hleast : ∀ k', ¬r.LeastRecent k' ↔ k' ≠ k := fun k' ↦
      not_congr (h.leastRecent_iff hkeys)
    rw [evict_eq_delete hkeys (hsize.antisymm hfull), LruMap.makeRoom, if_pos hstored,
      r.restrict_congr hleast]
    exact h.delete k
  · have hstored : ¬(limit : ℕ∞) ≤ r.stored.encard := by
      rw [h.encard_stored]
      exact_mod_cast hfull
    rw [evict_of_lt (not_le.mp hfull), LruMap.makeRoom, if_neg hstored]
    exact h

end Refines

end OrderedMap
