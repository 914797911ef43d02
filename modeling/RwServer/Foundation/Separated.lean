import Mathlib.Data.List.DropRight
import Mathlib.Tactic.Common

/-!
# Words with separators

Parts that do not have the separator in them are read back from the word that joins them, also where
one separator stands in front of it and any number of them behind (`splitOn_trim_eq_iff`). Where
only the last part is known to be without separators, it can still be told apart from what comes
before it (`append_cons_inj`). A numeral is such a part.
-/

namespace Separated

variable {α : Type*} [DecidableEq α] {sep : α} {l l' part part' : List α} {parts : List (List α)}

/-- The word without the separators at its end and without one in front. -/
def trim (sep : α) (l : List α) : List α :=
  let normalized := l.rdropWhile (· = sep)
  if normalized.head? = some sep then normalized.tail else normalized

/-- No part has the separator in it. -/
theorem not_mem_of_mem_splitOn (h : part ∈ l.splitOn sep) : sep ∉ part := by
  induction l generalizing part with
  | nil =>
    rw [List.splitOn_nil, List.mem_singleton] at h
    rw [h]
    exact List.not_mem_nil
  | cons a l ih =>
    rw [List.splitOn_cons_eq_if_modifyHead] at h
    split at h
    · rcases List.mem_cons.mp h with rfl | h
      · exact List.not_mem_nil
      · exact ih h
    · rename_i hne
      obtain ⟨first, rest, hsplit⟩ := List.exists_cons_of_ne_nil (List.splitOn_ne_nil sep l)
      rw [hsplit, List.modifyHead_cons] at h
      rcases List.mem_cons.mp h with rfl | h
      · refine List.not_mem_cons_of_ne_of_not_mem (fun heq ↦ hne (heq ▸ beq_self_eq_true sep)) ?_
        exact ih (hsplit ▸ List.mem_cons_self)
      · exact ih (hsplit ▸ List.mem_cons_of_mem _ h)

/-- **The last part can be told apart** from what comes before it. -/
theorem append_cons_inj (hpart : sep ∉ part) (hpart' : sep ∉ part')
    (h : l ++ sep :: part = l' ++ sep :: part') : l = l' ∧ part = part' := by
  have hreverse := congrArg (fun word ↦ (List.reverse word).splitOn sep) h
  simp only [List.reverse_append, List.reverse_cons, List.append_assoc, List.singleton_append]
    at hreverse
  rw [List.splitOn_append_cons_self_of_not_mem (List.mem_reverse.not.mpr hpart),
    List.splitOn_append_cons_self_of_not_mem (List.mem_reverse.not.mpr hpart')] at hreverse
  have heq : part = part' := List.reverse_injective (List.cons.inj hreverse).1
  subst heq
  exact ⟨List.append_cancel_right h, rfl⟩

/-- A numeral has only digits. -/
theorem not_mem_repr_of_not_isDigit {c : Char} (hc : c.isDigit = false) (n : ℕ) :
    c ∉ n.repr.toList := by
  intro h
  rw [Nat.toList_repr] at h
  have hdigit := Nat.isDigit_of_mem_toDigits (by decide) (by decide) h
  rw [hc] at hdigit
  cases hdigit

/-! ## Separators at the ends -/

/-- What trimming takes away. -/
theorem exists_eq_append_trim (sep : α) (l : List α) : ∃ lead n, (lead = [] ∨ lead = [sep]) ∧
    l = lead ++ trim sep l ++ List.replicate n sep := by
  have hbehind : l.rtakeWhile (· = sep) = List.replicate (l.rtakeWhile (· = sep)).length sep :=
    List.eq_replicate_iff.mpr
      ⟨rfl, fun a ha ↦ of_decide_eq_true (List.mem_rtakeWhile_imp (p := (· = sep)) ha)⟩
  have hl : l = l.rdropWhile (· = sep) ++ List.replicate (l.rtakeWhile (· = sep)).length sep := by
    rw [← hbehind, List.rdropWhile_append_rtakeWhile]
  by_cases hhead : (l.rdropWhile (· = sep)).head? = some sep
  · refine ⟨[sep], (l.rtakeWhile (· = sep)).length, .inr rfl, hl.trans ?_⟩
    rw [trim, if_pos hhead]
    exact congrArg (· ++ _) (List.cons_head?_tail hhead).symm
  · refine ⟨[], (l.rtakeWhile (· = sep)).length, .inl rfl, hl.trans ?_⟩
    rw [trim, if_neg hhead, List.nil_append]

/-- A word that neither begins nor ends with a separator is what is left of it. -/
theorem trim_append_eq (hhead : sep ∉ l.head?) (hlast : sep ∉ l.getLast?) (hne : l ≠ [])
    {lead : List α} (hlead : lead = [] ∨ lead = [sep]) (n : ℕ) :
    trim sep (lead ++ l ++ List.replicate n sep) = l := by
  have hdrop : (lead ++ l ++ List.replicate n sep).rdropWhile (· = sep) = lead ++ l := by
    induction n with
    | zero =>
      rw [List.replicate_zero, List.append_nil, List.rdropWhile_eq_self_iff]
      intro hnil
      rw [List.getLast_append_of_ne_nil hnil hne, decide_eq_true_eq]
      exact fun heq ↦ hlast (heq ▸ List.getLast_mem_getLast? hne)
    | succ n ih =>
      rw [List.replicate_succ', ← List.append_assoc]
      exact (List.rdropWhile_concat_pos (· = sep) _ _ (decide_eq_true rfl)).trans ih
  rw [trim, hdrop]
  rcases hlead with rfl | rfl
  · rw [List.nil_append]
    exact if_neg hhead
  · exact if_pos rfl

omit [DecidableEq α] in
theorem head?_intercalate (hhead : part ∈ parts.head?) (hpart : part ≠ []) :
    ([sep].intercalate parts).head? = part.head? := by
  rcases parts with _ | ⟨first, _ | ⟨second, rest⟩⟩
  · cases hhead
  · rw [List.intercalate_singleton, Option.some.inj hhead]
  · rw [List.intercalate_cons_cons, List.append_assoc, Option.some.inj hhead]
    exact List.head?_append_of_ne_nil _ hpart

omit [DecidableEq α] in
theorem getLast?_intercalate (hlast : part ∈ parts.getLast?) (hpart : part ≠ []) :
    ([sep].intercalate parts).getLast? = part.getLast? := by
  induction parts with
  | nil => cases hlast
  | cons first rest ih =>
    rcases rest with _ | ⟨second, rest⟩
    · obtain rfl : first = part := Option.some.inj hlast
      rw [List.intercalate_singleton]
    · have hrest := ih hlast
      have hne : [sep].intercalate (second :: rest) ≠ [] := by
        intro hnil
        rw [hnil] at hrest
        exact hpart (List.getLast?_eq_none_iff.mp hrest.symm)
      rw [List.intercalate_cons_cons, List.getLast?_append_of_ne_nil _ hne, hrest]

/-- **Parts are read back** wherever separators have been added. -/
theorem splitOn_trim_eq_iff (hparts : ∀ p ∈ parts, sep ∉ p) (hhead : part ∈ parts.head?)
    (hlast : part' ∈ parts.getLast?) (hpart : part ≠ []) (hpart' : part' ≠ []) :
    (trim sep l).splitOn sep = parts ↔ ∃ lead n, (lead = [] ∨ lead = [sep]) ∧
      l = lead ++ [sep].intercalate parts ++ List.replicate n sep := by
  constructor
  · rintro rfl
    obtain ⟨lead, n, hlead, hl⟩ := exists_eq_append_trim sep l
    refine ⟨lead, n, hlead, ?_⟩
    rw [List.intercalate_splitOn]
    exact hl
  · rintro ⟨lead, n, hlead, rfl⟩
    have hword : ([sep].intercalate parts).head? = part.head? := head?_intercalate hhead hpart
    rw [trim_append_eq ?_ ?_ ?_ hlead, List.splitOn_intercalate sep hparts]
    · rintro rfl
      cases hhead
    · rw [hword]
      exact fun h ↦ hparts part (List.mem_of_mem_head? hhead) (List.mem_of_mem_head? h)
    · rw [getLast?_intercalate hlast hpart']
      exact fun h ↦ hparts part' (List.mem_of_mem_getLast? hlast) (List.mem_of_mem_getLast? h)
    · intro hnil
      rw [hnil] at hword
      exact hpart (List.head?_eq_none_iff.mp hword.symm)

end Separated
