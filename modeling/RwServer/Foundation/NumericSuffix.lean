import Mathlib.Data.List.Basic
import Mathlib.Data.List.Induction
import Mathlib.Tactic.Common

/-!
# Names with a numeric suffix

A lazy pattern `(.*?)(\d+)` splits a word at the first place from which only digits follow, so its
prefix does not end in a digit (`lazySplit_eq_some_iff`). A numeral of a given width is read back as
its number whatever the width (`ofDigitChars_padded`); so a prefix that a split has yielded, followed
by a padded numeral, splits into the same prefix and the same number (`lazySplit_append_padded`).
-/

namespace NumericSuffix

variable {α : Type*} {p q : α → Bool} {l pre suf : List α}

/-- The first split of the word into characters of `q` and at least one character of `p`. -/
def lazySplit (p q : α → Bool) (l : List α) : Option (List α × List α) :=
  ((List.range l.length).find? fun i ↦ (l.take i).all q && (l.drop i).all p).map fun i ↦
    (l.take i, l.drop i)

/-- The word ends in a character of `p`. -/
def EndsIn (p : α → Bool) (l : List α) : Prop := ∃ init c, l = init ++ [c] ∧ p c = true

theorem endsIn_append_singleton_iff {c : α} : EndsIn p (l ++ [c]) ↔ p c = true := by
  constructor
  · rintro ⟨init, c', h, hc⟩
    obtain ⟨-, h⟩ := List.append_inj' h rfl
    rwa [(List.cons.inj h).1]
  · exact fun hc ↦ ⟨l, c, rfl, hc⟩

/-- **What a lazy split yields**: a prefix that does not end in a digit, and the digits behind. -/
theorem lazySplit_eq_some_iff : lazySplit p q l = some (pre, suf) ↔
    l = pre ++ suf ∧ suf ≠ [] ∧ (∀ c ∈ pre, q c = true) ∧ (∀ c ∈ suf, p c = true) ∧
      ¬EndsIn p pre := by
  rw [lazySplit, Option.map_eq_some_iff]
  constructor
  · rintro ⟨i, hfind, heq⟩
    obtain ⟨rfl, rfl⟩ := Prod.mk.inj heq
    obtain ⟨hi, hlt, hfirst⟩ := List.find?_range_eq_some.mp hfind
    rw [Bool.and_eq_true, List.all_eq_true, List.all_eq_true] at hi
    rw [List.mem_range] at hlt
    refine ⟨(List.take_append_drop i l).symm, ?_, hi.1, hi.2, ?_⟩
    · exact fun hnil ↦ absurd (List.drop_eq_nil_iff.mp hnil) (Nat.not_le.mpr hlt)
    · -- else the split one character earlier would have been found
      rintro ⟨init, c, hinit, hc⟩
      have hlen : init.length + 1 = i := by
        have := congrArg List.length hinit
        rw [List.length_take, Nat.min_eq_left (Nat.le_of_lt hlt), List.length_append,
          List.length_singleton] at this
        exact this.symm
      have hl : l = init ++ c :: l.drop i := by
        rw [List.append_cons, ← hinit, List.take_append_drop]
      have hno := hfirst init.length (by omega)
      have htake : l.take init.length = init := by
        rw [hl, List.take_left]
      have hdrop : l.drop init.length = c :: l.drop i := by
        conv_lhs => rw [hl, List.drop_left]
      rw [htake, hdrop, Bool.not_eq_true', Bool.and_eq_false_iff] at hno
      rcases hno with hno | hno
      · refine absurd (List.all_eq_true.mpr fun a ha ↦ hi.1 a ?_) (Bool.eq_false_iff.mp hno)
        rw [hinit]
        exact List.mem_append_left _ ha
      · refine absurd (List.all_eq_true.mpr fun a ha ↦ ?_) (Bool.eq_false_iff.mp hno)
        rcases List.mem_cons.mp ha with rfl | ha
        · exact hc
        · exact hi.2 a ha
  · rintro ⟨rfl, hsuf, hpre, hdigits, hend⟩
    refine ⟨pre.length, List.find?_range_eq_some.mpr ⟨?_, ?_, fun j hj ↦ ?_⟩, ?_⟩
    · rw [List.take_left, List.drop_left, Bool.and_eq_true, List.all_eq_true, List.all_eq_true]
      exact ⟨hpre, hdigits⟩
    · rw [List.mem_range, List.length_append]
      exact Nat.lt_add_of_pos_right (List.length_pos_iff.mpr hsuf)
    · -- the last character of the prefix follows, which is none of `p`
      rcases List.eq_nil_or_concat pre with rfl | ⟨init, c, rfl⟩
      · exact absurd hj (Nat.not_lt_zero j)
      · rw [Bool.not_eq_true', Bool.and_eq_false_iff]
        refine .inr (Bool.eq_false_iff.mpr fun hall ↦ hend ⟨init, c, List.concat_eq_append, ?_⟩)
        rw [List.concat_eq_append, List.length_append, List.length_singleton] at hj
        refine List.all_eq_true.mp hall c ?_
        rw [List.concat_eq_append, List.append_assoc, List.drop_append_of_le_length (by omega)]
        exact List.mem_append_right _ (List.mem_append_left _ List.mem_cons_self)
    · rw [List.take_left, List.drop_left]

/-- A word without characters outside `q` splits if it ends in a digit. -/
theorem exists_lazySplit_iff (hq : ∀ c ∈ l, q c = true) :
    (∃ x, lazySplit p q l = some x) ↔ EndsIn p l := by
  constructor
  · rintro ⟨⟨pre, suf⟩, h⟩
    obtain ⟨rfl, hsuf, -, hdigits, -⟩ := lazySplit_eq_some_iff.mp h
    rcases List.eq_nil_or_concat suf with rfl | ⟨init, c, rfl⟩
    · exact absurd rfl hsuf
    · refine ⟨pre ++ init, c, by rw [List.concat_eq_append, List.append_assoc], hdigits c ?_⟩
      rw [List.concat_eq_append]
      exact List.mem_append_right _ List.mem_cons_self
  · rintro ⟨init, c, rfl, hc⟩
    rw [← Option.isSome_iff_exists, lazySplit, Option.isSome_map, List.find?_isSome]
    refine ⟨init.length, ?_, ?_⟩
    · rw [List.mem_range, List.length_append, List.length_singleton]
      exact Nat.lt_succ_self _
    · rw [List.take_left, List.drop_left, Bool.and_eq_true, List.all_eq_true, List.all_eq_true]
      refine ⟨fun a ha ↦ hq a (List.mem_append_left _ ha), fun a ha ↦ ?_⟩
      rw [List.mem_singleton.mp ha]
      exact hc

/-! ## Numerals -/

/-- The decimal numeral, filled up with zeros. -/
def padded (width n : ℕ) : List Char := (Nat.toDigits 10 n).leftpad width '0'

theorem padded_ne_nil (width n : ℕ) : padded width n ≠ [] :=
  List.append_ne_nil_of_right_ne_nil _ Nat.toDigits_ne_nil

theorem isDigit_of_mem_padded {width n : ℕ} {c : Char} (hc : c ∈ padded width n) :
    c.isDigit = true := by
  rcases List.mem_append.mp hc with hc | hc
  · rw [(List.mem_replicate.mp hc).2]
    rfl
  · exact Nat.isDigit_of_mem_toDigits (by decide) (by decide) hc

/-- The zeros do not count. -/
theorem ofDigitChars_padded (width n : ℕ) : Nat.ofDigitChars 10 (padded width n) 0 = n := by
  rw [padded, List.leftpad, Nat.ofDigitChars_append, Nat.ofDigitChars_replicate_zero, Nat.mul_zero,
    Nat.ofDigitChars_ten_toDigits]

/-- **A prefix with a numeral behind it splits into the two.** -/
theorem lazySplit_append_padded {q : Char → Bool} {pre : List Char} (hpre : ∀ c ∈ pre, q c = true)
    (hend : ¬EndsIn Char.isDigit pre) (width n : ℕ) :
    lazySplit Char.isDigit q (pre ++ padded width n) = some (pre, padded width n) :=
  lazySplit_eq_some_iff.mpr ⟨rfl, padded_ne_nil width n, hpre, fun _ hc ↦ isDigit_of_mem_padded hc,
    hend⟩

end NumericSuffix
