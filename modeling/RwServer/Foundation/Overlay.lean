import Mathlib
import RwServer.Foundation.Table

/-!
# One table over another

Two tables of one schema hold the rows of one collection, such as the current rows and the archived
ones. What a key stands for is the row of the `upper` table if there is one, else the row of the
`lower` table (`visible`).

A query over both tables that drops the lower rows whose tag an upper row has (`preferFirst`) lists
each visible row once, provided the tags tell the selected rows apart as their keys do (`Tags`). So
a sum over the query is a sum over keys (`sum_preferFirst`).

A query that reads one table, and the other only where it found nothing, lists the visible rows
under a condition on where they are (`reports_firstNonempty_iff`).

To move rows down, from the upper table to the lower one, keeps what the keys stand for under a
condition on the rows that are moved (`map_visible_move_iff`).
-/

namespace Relational

namespace Table

variable {ρ κ τ : Type*} {S : Schema ρ κ} [DecidableEq κ] [DecidableEq τ]

/-- What a key stands for. -/
def visible (upper lower : Table S) (k : κ) : Option ρ := (upper.find k).or (lower.find k)

/-- The keys that stand for a row. -/
def visibleKeys (upper lower : Table S) : Finset κ :=
  ((upper.rows ++ lower.rows).map S.key).toFinset

/-- The first rows, and those of the second whose tag none of the first has. -/
def preferFirst (tag : ρ → τ) (first second : List ρ) : List ρ :=
  first ++ second.filter fun r ↦ decide (tag r ∉ first.map tag)

/-- Among the rows that meet `p`, which is a matter of the key, the tag is as good as the key. -/
structure Tags (S : Schema ρ κ) (p : ρ → Bool) (tag : ρ → τ) : Prop where
  congr : ∀ {a b}, S.key a = S.key b → p a = p b ∧ tag a = tag b
  inj : ∀ {a b}, p a = true → p b = true → tag a = tag b → S.key a = S.key b

variable {upper lower : Table S} {p : ρ → Bool} {tag : ρ → τ} {k : κ} {r : ρ}

omit [DecidableEq τ] in
theorem visible_key (h : visible upper lower k = some r) : S.key r = k := by
  rcases Option.or_eq_some_iff.mp h with h | ⟨-, h⟩
  · exact (find_eq_some_iff.mp h).2
  · exact (find_eq_some_iff.mp h).2

omit [DecidableEq τ] in
theorem mem_of_visible (h : visible upper lower k = some r) : r ∈ upper.rows ∨ r ∈ lower.rows := by
  rcases Option.or_eq_some_iff.mp h with h | ⟨-, h⟩
  · exact .inl (find_eq_some_iff.mp h).1
  · exact .inr (find_eq_some_iff.mp h).1

omit [DecidableEq τ] in
theorem mem_visibleKeys : k ∈ visibleKeys upper lower ↔ ∃ r, visible upper lower k = some r := by
  rw [visibleKeys, List.mem_toFinset, List.mem_map]
  constructor
  · rintro ⟨r, hr, rfl⟩
    rcases List.mem_append.mp hr with hr | hr
    · exact ⟨r, by rw [visible, find_of_mem hr, Option.some_or]⟩
    · cases hu : upper.find (S.key r) with
      | none => exact ⟨r, by rw [visible, hu, Option.none_or, find_of_mem hr]⟩
      | some a => exact ⟨a, by rw [visible, hu, Option.some_or]⟩
  · rintro ⟨r, hr⟩
    exact ⟨r, List.mem_append.mpr (mem_of_visible hr), visible_key hr⟩

/-- The query lists the visible rows that meet `p`. -/
theorem mem_preferFirst (htag : Tags S p tag) :
    r ∈ preferFirst tag (upper.rows.filter p) (lower.rows.filter p) ↔
      p r = true ∧ visible upper lower (S.key r) = some r := by
  rw [preferFirst, List.mem_append, List.mem_filter, List.mem_filter, List.mem_filter,
    decide_eq_true_eq, visible, Option.or_eq_some_iff, find_eq_some_iff, find_eq_some_iff,
    find_eq_none_iff]
  constructor
  · rintro (⟨hr, hp⟩ | ⟨⟨hr, hp⟩, hhidden⟩)
    · exact ⟨hp, .inl ⟨hr, rfl⟩⟩
    · refine ⟨hp, .inr ⟨fun a ha hkey ↦ hhidden ?_, hr, rfl⟩⟩
      obtain ⟨hpa, htaga⟩ := htag.congr hkey
      exact List.mem_map.mpr ⟨a, List.mem_filter.mpr ⟨ha, hpa.trans hp⟩, htaga⟩
  · rintro ⟨hp, ⟨hr, -⟩ | ⟨hnone, hr, -⟩⟩
    · exact .inl ⟨hr, hp⟩
    · refine .inr ⟨⟨hr, hp⟩, fun hmem ↦ ?_⟩
      obtain ⟨a, ha, htaga⟩ := List.mem_map.mp hmem
      obtain ⟨ha, hpa⟩ := List.mem_filter.mp ha
      exact hnone a ha (htag.inj hpa hp htaga)

omit [DecidableEq κ] in
/-- The query lists no key twice. -/
theorem nodup_map_preferFirst (upper lower : Table S) (htag : Tags S p tag) :
    ((preferFirst tag (upper.rows.filter p) (lower.rows.filter p)).map S.key).Nodup := by
  rw [preferFirst, List.map_append, List.nodup_append]
  refine ⟨(List.filter_sublist.map _).nodup upper.nodup, ?_, ?_⟩
  · exact ((List.filter_sublist.trans List.filter_sublist).map _).nodup lower.nodup
  · intro x hx y hy hxy
    obtain ⟨a, ha, rfl⟩ := List.mem_map.mp hx
    obtain ⟨b, hb, rfl⟩ := List.mem_map.mp hy
    obtain ⟨-, hhidden⟩ := List.mem_filter.mp hb
    refine of_decide_eq_true hhidden (List.mem_map.mpr ⟨a, ha, ?_⟩)
    exact (htag.congr hxy).2

/-- **A sum over the query is a sum over the keys.** -/
theorem sum_preferFirst {M : Type*} [AddCommMonoid M] (htag : Tags S p tag) {q : κ → Prop}
    [DecidablePred q] (hq : ∀ r, p r = true ↔ q (S.key r)) (v : ρ → M) :
    ((preferFirst tag (upper.rows.filter p) (lower.rows.filter p)).map v).sum
      = ∑ k ∈ (visibleKeys upper lower).filter q, ((visible upper lower k).map v).getD 0 := by
  have hnodup := nodup_map_preferFirst upper lower htag
  have hkeys : ((preferFirst tag (upper.rows.filter p) (lower.rows.filter p)).map S.key).toFinset
      = (visibleKeys upper lower).filter q := by
    ext k
    rw [List.mem_toFinset, Finset.mem_filter, mem_visibleKeys, List.mem_map]
    constructor
    · rintro ⟨r, hr, rfl⟩
      obtain ⟨hp, hvis⟩ := (mem_preferFirst htag).mp hr
      exact ⟨⟨r, hvis⟩, (hq r).mp hp⟩
    · rintro ⟨⟨r, hr⟩, hqk⟩
      obtain rfl := visible_key hr
      exact ⟨r, (mem_preferFirst htag).mpr ⟨(hq r).mpr hqk, hr⟩, rfl⟩
  rw [← hkeys, List.sum_toFinset _ hnodup, List.map_map]
  congr 1
  refine List.map_congr_left fun r hr ↦ ?_
  rw [Function.comp_apply, ((mem_preferFirst htag).mp hr).2]
  rfl

/-! ## Moving rows down

Rows move from the upper table to the lower one by an insert that skips what is taken and a delete.
A row that the lower table does not admit is deleted all the same, so the move keeps the values of
the keys iff each such row finds its value below already. -/

section

variable {β : Type*} (v : ρ → β)

/-- The lower table gets the upper rows that meet `p`. -/
def copyDown (p : ρ → Bool) (upper lower : Table S) : Table S :=
  lower.insertMissingAll (upper.rows.filter p)

/-- The lower table takes a row, or has its value under its key. -/
def Keeps (lower : Table S) (r : ρ) : Prop :=
  lower.Admits r ∨ ∃ a, lower.find (S.key r) = some a ∧ v a = v r

variable {v}

omit [DecidableEq τ] in
theorem find_copyDown (lower : Table S) (hr : r ∈ upper.rows) (hp : p r = true) :
    (lower.Admits r → (copyDown p upper lower).find (S.key r) = some r) ∧
      (¬lower.Admits r → (copyDown p upper lower).find (S.key r) = lower.find (S.key r)) :=
  find_insertMissingAll_of_mem ((List.filter_sublist.map _).nodup upper.nodup)
    (upper.noClash.sublist List.filter_sublist) (List.mem_filter.mpr ⟨hr, hp⟩)

omit [DecidableEq τ] in
theorem find_copyDown_of_forall_ne (h : ∀ r ∈ upper.rows, p r = true → S.key r ≠ k) :
    (copyDown p upper lower).find k = lower.find k :=
  find_insertMissingAll_of_forall_ne fun r hr ↦
    h r (List.mem_filter.mp hr).1 (List.mem_filter.mp hr).2

omit [DecidableEq τ] in
/-- The value of a moved row is below afterwards iff the lower table keeps it. -/
theorem map_find_copyDown_iff (hr : r ∈ upper.rows) (hp : p r = true) :
    ((copyDown p upper lower).find (S.key r)).map v = some (v r) ↔ Keeps v lower r := by
  obtain ⟨hyes, hno⟩ := find_copyDown lower hr hp
  by_cases hadmits : lower.Admits r
  · rw [hyes hadmits]
    exact ⟨fun _ ↦ .inl hadmits, fun _ ↦ rfl⟩
  · rw [hno hadmits, Option.map_eq_some_iff]
    exact ⟨.inr, fun h ↦ h.resolve_left hadmits⟩

omit [DecidableEq τ] in
theorem find_delete_of_find (hk : upper.find k = some r) :
    (upper.delete p).find k = if p r = true then none else some r := by
  rw [find_delete, hk]
  cases hp : p r <;> simp [Option.filter, hp]

omit [DecidableEq τ] in
/-- **A move keeps the values of the keys** iff the lower table keeps every row that is moved. -/
theorem map_visible_move_iff (v : ρ → β) (p : ρ → Bool) (upper lower : Table S) :
    (∀ k, (visible (upper.delete p) (copyDown p upper lower) k).map v
      = (visible upper lower k).map v) ↔ ∀ r ∈ upper.rows, p r = true → Keeps v lower r := by
  constructor
  · intro h r hr hp
    have hk := h (S.key r)
    rw [visible, visible, find_delete_of_find (find_of_mem hr), if_pos hp, find_of_mem hr,
      Option.none_or, Option.some_or, Option.map_some, map_find_copyDown_iff hr hp] at hk
    exact hk
  · intro h k
    rw [visible, visible]
    cases hk : upper.find k with
    | none =>
      rw [find_delete, hk, Option.filter_none, Option.none_or, Option.none_or]
      rw [find_copyDown_of_forall_ne fun r hr _ ↦ find_eq_none_iff.mp hk r hr]
    | some r =>
      obtain ⟨hr, rfl⟩ := find_eq_some_iff.mp hk
      rw [find_delete_of_find hk]
      by_cases hp : p r = true
      · rw [if_pos hp, Option.none_or, Option.some_or, Option.map_some]
        exact (map_find_copyDown_iff hr hp).mpr (h r hr hp)
      · rw [if_neg hp, Option.some_or, Option.some_or]

omit [DecidableEq τ] in
/-- What is deleted is below iff the lower table keeps it. -/
theorem deleted_below_iff :
    (∀ r ∈ upper.rows, r ∉ (upper.delete p).rows → ∃ a,
      (copyDown p upper lower).find (S.key r) = some a ∧ v a = v r) ↔
        ∀ r ∈ upper.rows, p r = true → Keeps v lower r := by
  have hmem : ∀ r ∈ upper.rows, r ∉ (upper.delete p).rows ↔ p r = true := fun r hr ↦ by
    rw [delete, List.mem_filter]
    cases p r <;> simp [hr]
  refine forall₂_congr fun r hr ↦ ?_
  rw [hmem r hr, ← Option.map_eq_some_iff]
  exact forall_congr' fun hp ↦ map_find_copyDown_iff hr hp

end

/-! ## Reading one table or the other

A query that reads the lower table, and the upper one only where it found nothing, never sees rows
of both. It lists the visible rows iff those it looks for are on one side. -/

/-- The rows of the first list, or those of the second where it has none. -/
def firstNonempty (first second : List ρ) : List ρ := if 0 < first.length then first else second

/-- The list has each visible row that meets `p`, once. -/
structure Reports (upper lower : Table S) (p : ρ → Bool) (l : List ρ) : Prop where
  mem_iff : ∀ r, r ∈ l ↔ p r = true ∧ visible upper lower (S.key r) = some r
  nodup : (l.map S.key).Nodup

/-- No lower row meets `p`; or the upper rows that do, and those with the key of a lower row that
does, are lower rows themselves. -/
def OneSided (upper lower : Table S) (p : ρ → Bool) : Prop :=
  (∀ r ∈ lower.rows, p r = false) ∨ ∀ a ∈ upper.rows,
    (p a = true ∨ ∃ r ∈ lower.rows, p r = true ∧ S.key r = S.key a) → a ∈ lower.rows

omit [DecidableEq τ] in
theorem Reports.perm {l l' : List ρ} (hp : l'.Perm l) (h : Reports upper lower p l) :
    Reports upper lower p l' where
  mem_iff r := hp.mem_iff.trans (h.mem_iff r)
  nodup := ((hp.map _).nodup_iff).mpr h.nodup

omit [DecidableEq τ] in
/-- **The exact condition** for a query that reads the lower table first. -/
theorem reports_firstNonempty_iff : Reports upper lower p
    (firstNonempty (lower.rows.filter p) (upper.rows.filter p)) ↔ OneSided upper lower p := by
  have hfilter : ∀ (t : Table S) (r : ρ), r ∈ t.rows.filter p ↔ r ∈ t.rows ∧ p r = true :=
    fun _ _ ↦ List.mem_filter
  have hnodup : ∀ t : Table S, ((t.rows.filter p).map S.key).Nodup := fun t ↦
    (List.filter_sublist.map _).nodup t.nodup
  rw [firstNonempty]
  split
  · rename_i hpos
    obtain ⟨r₀, hr₀⟩ := List.exists_mem_of_length_pos hpos
    rw [hfilter] at hr₀
    constructor
    · intro h
      refine .inr fun a ha hmeets ↦ ?_
      have hfind := find_of_mem ha
      rcases hmeets with hpa | ⟨r, hr, hpr, hkey⟩
      · exact ((hfilter lower a).mp ((h.mem_iff a).mpr
          ⟨hpa, by rw [visible, hfind, Option.some_or]⟩)).1
      · -- the upper row is what the key of the lower one stands for
        have hvisible := ((h.mem_iff r).mp ((hfilter lower r).mpr ⟨hr, hpr⟩)).2
        rw [visible, hkey, hfind, Option.some_or, Option.some_inj] at hvisible
        exact hvisible ▸ hr
    · intro h
      have hcopies := h.resolve_left fun hnone ↦
        Bool.false_ne_true ((hnone r₀ hr₀.1).symm.trans hr₀.2)
      refine ⟨fun r ↦ ?_, hnodup lower⟩
      rw [hfilter, visible, Option.or_eq_some_iff, find_eq_some_iff, find_eq_some_iff]
      constructor
      · rintro ⟨hr, hpr⟩
        refine ⟨hpr, ?_⟩
        cases hfind : upper.find (S.key r) with
        | none => exact .inr ⟨rfl, hr, rfl⟩
        | some a =>
          obtain ⟨ha, hkey⟩ := find_eq_some_iff.mp hfind
          have hsame := lower.eq_of_key_eq (hcopies a ha (.inr ⟨r, hr, hpr, hkey.symm⟩)) hr hkey
          exact .inl ⟨hsame ▸ ha, rfl⟩
      · rintro ⟨hpr, ⟨hr, -⟩ | ⟨-, hr, -⟩⟩
        · exact ⟨hcopies r hr (.inl hpr), hpr⟩
        · exact ⟨hr, hpr⟩
  · rename_i hempty
    have hnone : ∀ r ∈ lower.rows, p r = false := by
      intro r hr
      refine Bool.eq_false_iff.mpr fun hpr ↦ hempty ?_
      exact List.length_pos_of_mem ((hfilter lower r).mpr ⟨hr, hpr⟩)
    refine iff_of_true ⟨fun r ↦ ?_, hnodup upper⟩ (.inl hnone)
    rw [hfilter, visible, Option.or_eq_some_iff, find_eq_some_iff, find_eq_some_iff]
    constructor
    · exact fun ⟨hr, hpr⟩ ↦ ⟨hpr, .inl ⟨hr, rfl⟩⟩
    · rintro ⟨hpr, ⟨hr, -⟩ | ⟨-, hr, -⟩⟩
      · exact ⟨hr, hpr⟩
      · exact absurd hpr (by simp [hnone r hr])

end Table

end Relational
