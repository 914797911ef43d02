import Mathlib.Algebra.BigOperators.Group.List.Basic
import Mathlib.Data.List.Nodup
import Mathlib.Data.List.Pairwise
import Mathlib.Data.List.Perm.Basic
import Mathlib.Tactic.Abel

/-!
# Tables with a primary key and a unique index

A `Table` is a list of rows that carries its constraints: the primary key is a `Nodup` field, and
`noClash` says that no two rows violate the unique index of the schema. Every write goes through
`put`, which stores a row version under its key and fails when the unique index forbids it, so a
table that breaks a constraint cannot be built; a failed write stands for a transaction that the
database rolls back.

`INSERT` is `insert` (fails on a taken key), and `UPDATE .. SET .. WHERE ..` is `updateMany`. The
row versions an update writes are named separately (`changed`), because a transaction under a
concurrent schedule records them before it commits. The total operations `modify`, `delete` and
`insertMissing` are for statements that run on their own.
-/

open scoped List

namespace Relational

/-- What the database enforces about the rows of a table. -/
structure Schema (ρ κ : Type*) where
  /-- The primary key. -/
  key : ρ → κ
  /-- Two rows that a unique index forbids together. -/
  clash : ρ → ρ → Bool
  clash_symm : ∀ a b, clash a b = clash b a

/-- A table: its rows have distinct keys, and no two of them clash. -/
structure Table {ρ κ : Type*} (S : Schema ρ κ) where
  rows : List ρ
  nodup : (rows.map S.key).Nodup
  noClash : rows.Pairwise fun a b ↦ S.clash a b = false

namespace Table

variable {ρ κ : Type*} {S : Schema ρ κ}

theorem ext_rows {t t' : Table S} (h : t.rows = t'.rows) : t = t' := by
  cases t
  cases t'
  cases h
  rfl

/-- The empty table. -/
def empty (S : Schema ρ κ) : Table S := ⟨[], List.nodup_nil, .nil⟩

instance : Inhabited (Table S) := ⟨empty S⟩

/-- Two rows of a table with the same key are the same row. -/
theorem eq_of_key_eq (t : Table S) {a b : ρ} (ha : a ∈ t.rows) (hb : b ∈ t.rows)
    (h : S.key a = S.key b) : a = b :=
  List.inj_on_of_nodup_map t.nodup ha hb h

/-- Two different rows of a table do not clash. -/
theorem clash_eq_false (t : Table S) {a b : ρ} (ha : a ∈ t.rows) (hb : b ∈ t.rows)
    (h : a ≠ b) : S.clash a b = false :=
  haveI : Std.Symm fun a b ↦ S.clash a b = false := ⟨fun a b hab ↦ S.clash_symm a b ▸ hab⟩
  t.noClash.forall ha hb h

/-- A row, and the others, whose keys differ from its own. -/
theorem exists_perm_cons (t : Table S) {a : ρ} (ha : a ∈ t.rows) :
    ∃ rest, t.rows ~ a :: rest ∧ ∀ b ∈ rest, S.key b ≠ S.key a := by
  obtain ⟨p, q, hpq⟩ := List.append_of_mem ha
  have hp : t.rows ~ a :: (p ++ q) := hpq ▸ List.perm_middle
  refine ⟨p ++ q, hp, ?_⟩
  have hn := (hp.map S.key).nodup_iff.mp t.nodup
  rw [List.map_cons, List.nodup_cons] at hn
  intro b hb hk
  exact hn.1 (hk ▸ List.mem_map_of_mem hb)

variable [DecidableEq κ]

/-! ## Writing one row -/

/-- The rows after the version `r` has been stored under its key. -/
def rowsAfterPut (rows : List ρ) (S : Schema ρ κ) (r : ρ) : List ρ :=
  if S.key r ∈ rows.map S.key then rows.map fun a ↦ if S.key a = S.key r then r else a
  else rows ++ [r]

theorem nodup_rowsAfterPut (t : Table S) (r : ρ) :
    ((rowsAfterPut t.rows S r).map S.key).Nodup := by
  rw [rowsAfterPut]
  split
  · rw [List.map_map]
    have : S.key ∘ (fun a ↦ if S.key a = S.key r then r else a) = S.key := by
      funext a
      rw [Function.comp_apply]
      split
      · rename_i h
        exact h.symm
      · rfl
    rw [this]
    exact t.nodup
  · rename_i h
    rw [List.map_append, List.nodup_append]
    refine ⟨t.nodup, List.nodup_singleton _, ?_⟩
    intro a ha b hb hab
    rw [List.map_singleton, List.mem_singleton] at hb
    exact h (hb ▸ hab ▸ ha)

/-- Store the row version `r` under its key: a new version of the row that has the key, or a new
row. Fails when the unique index forbids it. -/
def put (t : Table S) (r : ρ) : Option (Table S) :=
  if h : (rowsAfterPut t.rows S r).Pairwise fun a b ↦ S.clash a b = false then
    some ⟨rowsAfterPut t.rows S r, nodup_rowsAfterPut t r, h⟩
  else none

/-- Store several row versions, one after the other. -/
def putAll (t : Table S) (rs : List ρ) : Option (Table S) := rs.foldlM put t

theorem rows_of_put {t t' : Table S} {r : ρ} (h : t.put r = some t') :
    t'.rows = rowsAfterPut t.rows S r := by
  rw [put] at h
  split at h
  · cases h
    rfl
  · exact absurd h (by simp)

theorem putAll_cons (t : Table S) (r : ρ) (rs : List ρ) :
    t.putAll (r :: rs) = (t.put r).bind (·.putAll rs) := rfl

/-! ## Insert -/

/-- `INSERT`: a new row, refused when its key is taken or the unique index forbids it. -/
def insert (t : Table S) (r : ρ) : Option (Table S) :=
  if S.key r ∈ t.rows.map S.key then none else t.put r

theorem insert_eq_some_iff {t t' : Table S} {r : ρ} :
    t.insert r = some t' ↔ S.key r ∉ t.rows.map S.key ∧ (∀ a ∈ t.rows, S.clash a r = false) ∧
      t'.rows = t.rows ++ [r] := by
  rw [insert]
  split
  · rename_i hk
    exact ⟨fun h ↦ absurd h (by simp), fun h ↦ absurd hk h.1⟩
  · rename_i hk
    have hrows : rowsAfterPut t.rows S r = t.rows ++ [r] := if_neg hk
    have hiff : ((t.rows ++ [r]).Pairwise fun a b ↦ S.clash a b = false) ↔
        ∀ a ∈ t.rows, S.clash a r = false := by
      rw [List.pairwise_append]
      constructor
      · exact fun h a ha ↦ h.2.2 a ha r (by simp)
      · refine fun h ↦ ⟨t.noClash, List.pairwise_singleton _ _, fun a ha b hb ↦ ?_⟩
        rw [List.mem_singleton.mp hb]
        exact h a ha
    constructor
    · intro h
      refine ⟨hk, ?_, (rows_of_put h).trans hrows⟩
      rw [put] at h
      split at h
      · rename_i hp
        exact hiff.mp (hrows ▸ hp)
      · exact absurd h (by simp)
    · rintro ⟨-, hc, ht'⟩
      rw [put, dif_pos (hrows ▸ hiff.mpr hc)]
      exact congrArg some (ext_rows (hrows.trans ht'.symm))

theorem exists_insert {t : Table S} {r : ρ} (hkey : S.key r ∉ t.rows.map S.key)
    (hclash : ∀ a ∈ t.rows, S.clash a r = false) : ∃ t', t.insert r = some t' := by
  have hn : ((t.rows ++ [r]).map S.key).Nodup := by
    rw [List.map_append, List.map_singleton]
    exact List.nodup_append.mpr ⟨t.nodup, List.nodup_singleton _, fun a ha b hb hab ↦
      hkey (List.mem_singleton.mp hb ▸ hab ▸ ha)⟩
  have hc : (t.rows ++ [r]).Pairwise fun a b ↦ S.clash a b = false :=
    List.pairwise_append.mpr ⟨t.noClash, List.pairwise_singleton _ _, fun a ha b hb ↦
      List.mem_singleton.mp hb ▸ hclash a ha⟩
  exact ⟨⟨_, hn, hc⟩, insert_eq_some_iff.mpr ⟨hkey, hclash, rfl⟩⟩

theorem rows_of_insert {t t' : Table S} {r : ρ} (h : t.insert r = some t') :
    t'.rows = t.rows ++ [r] :=
  (insert_eq_some_iff.mp h).2.2

/-! ## Update -/

/-- The new versions an `UPDATE .. SET f .. WHERE p` writes. -/
def changed (t : Table S) (p : ρ → Bool) (f : ρ → ρ) : List ρ := (t.rows.filter p).map f

/-- `UPDATE .. SET f .. WHERE p`. -/
def updateMany (t : Table S) (p : ρ → Bool) (f : ρ → ρ) : Option (Table S) :=
  t.putAll (t.changed p f)

/-- A change of rows that keeps the key and does not make a row clash where it did not before. -/
structure Mild (S : Schema ρ κ) (f : ρ → ρ) : Prop where
  key : ∀ r, S.key (f r) = S.key r
  clash : ∀ a b, S.clash (f a) b = true → S.clash a b = true

/-- Storing the changed versions of some rows of the table, one by one. -/
theorem putAll_map_of_mild {f : ρ → ρ} (hf : Mild S f) : ∀ {l : List ρ} {t : Table S},
    (∀ a ∈ l, a ∈ t.rows) → (l.map S.key).Nodup → ∃ t', t.putAll (l.map f) = some t' ∧
      t'.rows = t.rows.map fun a ↦ if S.key a ∈ l.map S.key then f a else a := by
  intro l
  induction l with
  | nil => exact fun _ _ ↦ ⟨_, rfl, by simp⟩
  | cons a l ih =>
    intro t hmem hn
    rw [List.map_cons, List.nodup_cons] at hn
    have ha := hmem a List.mem_cons_self
    have hrows : rowsAfterPut t.rows S (f a)
        = t.rows.map fun b ↦ if S.key b = S.key a then f b else b := by
      rw [rowsAfterPut, hf.key, if_pos (List.mem_map_of_mem ha)]
      refine List.map_congr_left fun b hb ↦ ?_
      by_cases hk : S.key b = S.key a
      · rw [if_pos hk, if_pos hk, t.eq_of_key_eq hb ha hk]
      · rw [if_neg hk, if_neg hk]
    have hclash : (rowsAfterPut t.rows S (f a)).Pairwise fun b c ↦ S.clash b c = false := by
      rw [hrows, List.pairwise_map]
      refine t.noClash.imp fun {b c} hbc ↦ ?_
      have hleft : ∀ x, S.clash b x = false → S.clash (f b) x = false := fun x hx ↦ by
        rw [← Bool.not_eq_true] at hx ⊢
        exact fun h ↦ hx (hf.clash b x h)
      have hright : ∀ x, S.clash x c = false → S.clash x (f c) = false := fun x hx ↦ by
        rw [← Bool.not_eq_true, S.clash_symm] at hx ⊢
        exact fun h ↦ hx (hf.clash c x h)
      split <;> split
      · exact hright _ (hleft _ hbc)
      · exact hleft _ hbc
      · exact hright _ hbc
      · exact hbc
    -- the first version goes in, and leaves the rows of the others in place
    obtain ⟨t₁, ht₁⟩ : ∃ t₁, t.put (f a) = some t₁ := ⟨_, dif_pos hclash⟩
    have hrows₁ := (rows_of_put ht₁).trans hrows
    have hmem₁ : ∀ b ∈ l, b ∈ t₁.rows := by
      intro b hb
      rw [hrows₁, List.mem_map]
      refine ⟨b, hmem b (List.mem_cons_of_mem _ hb), if_neg fun hk ↦ hn.1 ?_⟩
      exact hk ▸ List.mem_map_of_mem hb
    obtain ⟨t', ht', hrows'⟩ := ih hmem₁ hn.2
    refine ⟨t', ?_, ?_⟩
    · rw [List.map_cons, putAll_cons, ht₁]
      exact ht'
    · rw [hrows', hrows₁, List.map_map]
      refine List.map_congr_left fun b _ ↦ ?_
      rw [Function.comp_apply]
      by_cases hk : S.key b = S.key a
      · rw [if_pos hk, hf.key, if_neg (hk ▸ hn.1), if_pos (by simp [hk])]
      · rw [if_neg hk]
        simp [hk]

/-- **An update by a mild change always goes through**, and changes exactly the rows it names. -/
theorem exists_updateMany {f : ρ → ρ} (hf : Mild S f) (t : Table S) (p : ρ → Bool) :
    ∃ t', t.updateMany p f = some t' ∧ t'.rows = t.rows.map fun a ↦ if p a then f a else a := by
  have hsub : (t.rows.filter p).map S.key <+ t.rows.map S.key := List.filter_sublist.map _
  obtain ⟨t', ht', hrows⟩ := putAll_map_of_mild hf (l := t.rows.filter p) (t := t)
    (fun a ha ↦ (List.mem_filter.mp ha).1) (hsub.nodup t.nodup)
  refine ⟨t', ht', hrows.trans (List.map_congr_left fun a ha ↦ ?_)⟩
  by_cases hp : p a
  · rw [if_pos hp, if_pos (List.mem_map_of_mem (List.mem_filter.mpr ⟨ha, hp⟩))]
  · rw [if_neg hp, if_neg]
    intro hk
    obtain ⟨b, hb, hkb⟩ := List.mem_map.mp hk
    rw [List.mem_filter] at hb
    exact hp (t.eq_of_key_eq hb.1 ha hkb ▸ hb.2)

theorem rows_of_updateMany {f : ρ → ρ} (hf : Mild S f) {t t' : Table S} {p : ρ → Bool}
    (h : t.updateMany p f = some t') : t'.rows = t.rows.map fun a ↦ if p a then f a else a := by
  obtain ⟨t₁, ht₁, hrows⟩ := exists_updateMany hf t p
  rw [ht₁, Option.some_inj] at h
  exact h ▸ hrows

/-- An update keeps the keys. -/
theorem map_key_of_updateMany {f : ρ → ρ} (hf : Mild S f) {t t' : Table S} {p : ρ → Bool}
    (h : t.updateMany p f = some t') : t'.rows.map S.key = t.rows.map S.key := by
  rw [rows_of_updateMany hf h, List.map_map]
  refine List.map_congr_left fun a _ ↦ ?_
  rw [Function.comp_apply]
  split
  · exact hf.key a
  · rfl

/-- An update that names no row leaves the table as it is. -/
theorem updateMany_eq_self {t : Table S} {p : ρ → Bool} (f : ρ → ρ)
    (h : ∀ a ∈ t.rows, p a = false) : t.updateMany p f = some t := by
  have : t.rows.filter p = [] := List.filter_eq_nil_iff.mpr fun a ha ↦ by simp [h a ha]
  rw [updateMany, changed, this]
  rfl

/-- An update that names one row replaces that row. -/
theorem perm_of_updateMany_one {f : ρ → ρ} (hf : Mild S f) {t t' : Table S} {p : ρ → Bool}
    {a : ρ} (ha : a ∈ t.rows) (hpa : p a = true) (hone : ∀ b ∈ t.rows, p b = true → b = a)
    (h : t.updateMany p f = some t') :
    ∃ rest, t.rows ~ a :: rest ∧ t'.rows ~ f a :: rest := by
  obtain ⟨rest, hrest, hkey⟩ := t.exists_perm_cons ha
  refine ⟨rest, hrest, ?_⟩
  rw [rows_of_updateMany hf h]
  refine (hrest.map _).trans ?_
  rw [List.map_cons, if_pos hpa]
  -- no other row is named
  refine List.Perm.cons _ (List.Perm.of_eq ?_)
  conv_rhs => rw [← List.map_id rest]
  refine List.map_congr_left fun b hb ↦ ?_
  have hbt : b ∈ t.rows := hrest.mem_iff.mpr (List.mem_cons_of_mem _ hb)
  have hpb : ¬p b = true := fun hp ↦ hkey b hb (by rw [hone b hbt hp])
  rw [if_neg hpb, id]

/-! ## One row by its key

Where a transaction is not modelled statement by statement, a table is read and written by these
total operations; each has one lemma, which says what is found under a key afterwards. -/

/-- The row under a key. -/
def find (t : Table S) (k : κ) : Option ρ := t.rows.find? fun r ↦ decide (S.key r = k)

theorem find_eq_some_iff {t : Table S} {k : κ} {r : ρ} :
    t.find k = some r ↔ r ∈ t.rows ∧ S.key r = k := by
  have hfound : ∀ {a : ρ} {k : κ}, t.find k = some a → a ∈ t.rows ∧ S.key a = k := by
    intro a k h
    have hk := List.find?_some (p := fun r ↦ decide (S.key r = k)) h
    exact ⟨List.mem_of_find?_eq_some h, of_decide_eq_true hk⟩
  constructor
  · exact hfound
  · rintro ⟨hr, rfl⟩
    obtain ⟨a, ha⟩ : ∃ a, t.find (S.key r) = some a := by
      rw [← Option.isSome_iff_exists, find, List.find?_isSome]
      exact ⟨r, hr, decide_eq_true rfl⟩
    rw [ha, t.eq_of_key_eq (hfound ha).1 hr (hfound ha).2]

theorem find_eq_none_iff {t : Table S} {k : κ} :
    t.find k = none ↔ ∀ r ∈ t.rows, S.key r ≠ k := by
  rw [find, List.find?_eq_none]
  simp only [decide_eq_true_eq]

theorem find_of_mem {t : Table S} {r : ρ} (hr : r ∈ t.rows) : t.find (S.key r) = some r :=
  find_eq_some_iff.mpr ⟨hr, rfl⟩

/-- `UPDATE .. SET f .. WHERE p`, for a change that always goes through. -/
def modify (t : Table S) (p : ρ → Bool) (f : ρ → ρ) (hf : Mild S f) : Table S where
  rows := t.rows.map fun a ↦ if p a then f a else a
  nodup := by
    obtain ⟨t', -, h⟩ := exists_updateMany hf t p
    exact h ▸ t'.nodup
  noClash := by
    obtain ⟨t', -, h⟩ := exists_updateMany hf t p
    exact h ▸ t'.noClash

theorem find_modify (t : Table S) (p : ρ → Bool) {f : ρ → ρ} (hf : Mild S f) (k : κ) :
    (t.modify p f hf).find k = (t.find k).map fun r ↦ if p r then f r else r := by
  have hkey : ∀ a, S.key (if p a then f a else a) = S.key a := fun a ↦ by
    split
    · exact hf.key a
    · rfl
  cases h : t.find k with
  | none =>
    rw [Option.map_none, find_eq_none_iff]
    intro r hr
    obtain ⟨a, ha, rfl⟩ := List.mem_map.mp hr
    rw [hkey]
    exact find_eq_none_iff.mp h a ha
  | some r =>
    obtain ⟨hr, rfl⟩ := find_eq_some_iff.mp h
    exact find_eq_some_iff.mpr ⟨List.mem_map_of_mem hr, hkey r⟩

theorem find_modify_key (t : Table S) (k₀ : κ) {f : ρ → ρ} (hf : Mild S f) (k : κ) :
    (t.modify (fun r ↦ decide (S.key r = k₀)) f hf).find k
      = (t.find k).map fun r ↦ if k = k₀ then f r else r := by
  rw [find_modify]
  cases h : t.find k with
  | none => rfl
  | some r => simp only [Option.map_some, (find_eq_some_iff.mp h).2, decide_eq_true_eq]

/-- The rows after the update of one of them. -/
theorem mem_modify_key (t : Table S) {f : ρ → ρ} (hf : Mild S f) {a b : ρ} (ha : a ∈ t.rows) :
    b ∈ (t.modify (fun r ↦ decide (S.key r = S.key a)) f hf).rows ↔
      b = f a ∨ b ∈ t.rows ∧ S.key b ≠ S.key a := by
  rw [modify, List.mem_map]
  constructor
  · rintro ⟨r, hr, rfl⟩
    by_cases hkey : S.key r = S.key a
    · obtain rfl := t.eq_of_key_eq hr ha hkey
      exact .inl (if_pos (decide_eq_true rfl))
    · rw [if_neg (by rwa [decide_eq_true_eq])]
      exact .inr ⟨hr, hkey⟩
  · rintro (rfl | ⟨hb, hkey⟩)
    · exact ⟨a, ha, if_pos (decide_eq_true rfl)⟩
    · exact ⟨b, hb, if_neg (by rwa [decide_eq_true_eq])⟩

/-- The first row of a selection is gone from it after an update that the selection does not
meet. -/
theorem filter_modify_head (t : Table S) {f : ρ → ρ} (hf : Mild S f) {p : ρ → Bool} {a : ρ}
    {rest : List ρ} (h : t.rows.filter p = a :: rest) (hpa : p (f a) = false) :
    (t.modify (fun r ↦ decide (S.key r = S.key a)) f hf).rows.filter p = rest := by
  have hmem : a ∈ t.rows := (List.mem_filter.mp (h ▸ List.mem_cons_self)).1
  have hnodup : ((a :: rest).map S.key).Nodup :=
    h ▸ t.nodup.sublist (List.filter_sublist.map S.key)
  have hne : ∀ r ∈ rest, S.key r ≠ S.key a := fun r hr heq ↦
    (List.nodup_cons.mp hnodup).1 (heq ▸ List.mem_map_of_mem hr)
  have hp : ∀ r ∈ t.rows, p (if decide (S.key r = S.key a) = true then f r else r)
      = (decide (S.key r ≠ S.key a) && p r) := by
    intro r hr
    by_cases hkey : S.key r = S.key a
    · obtain rfl := t.eq_of_key_eq hr hmem hkey
      rw [if_pos (decide_eq_true rfl), hpa, decide_eq_false (not_not.mpr rfl), Bool.false_and]
    · rw [if_neg (by rwa [decide_eq_true_eq]), decide_eq_true hkey, Bool.true_and]
  have hkeep : ∀ r ∈ rest, (if decide (S.key r = S.key a) = true then f r else r) = r :=
    fun r hr ↦ if_neg (by rw [decide_eq_true_eq]; exact hne r hr)
  calc (t.modify (fun r ↦ decide (S.key r = S.key a)) f hf).rows.filter p
      = (t.rows.filter fun r ↦ decide (S.key r ≠ S.key a) && p r).map
          fun r ↦ if decide (S.key r = S.key a) = true then f r else r := by
        rw [modify, List.filter_map]
        exact congrArg _ (List.filter_congr hp)
    _ = rest.map fun r ↦ if decide (S.key r = S.key a) = true then f r else r := by
        rw [← List.filter_filter, h, List.filter_cons_of_neg (by simp),
          List.filter_eq_self.mpr fun r hr ↦ decide_eq_true (hne r hr)]
    _ = rest := by rw [List.map_congr_left hkeep, List.map_id']

/-- A selection that neither the old nor the new versions meet is as before. -/
theorem filter_rows_modify (t : Table S) (q : ρ → Bool) {f : ρ → ρ} (hf : Mild S f)
    {p : ρ → Bool} (hp : ∀ r ∈ t.rows, q r = true → p r = false ∧ p (f r) = false) :
    (t.modify q f hf).rows.filter p = t.rows.filter p := by
  rw [modify]
  dsimp only
  revert hp
  induction t.rows with
  | nil =>
    intro _
    rfl
  | cons a l ih =>
    intro hp
    rw [List.map_cons, List.filter_cons, List.filter_cons,
      ih fun r hr ↦ hp r (List.mem_cons_of_mem _ hr)]
    cases hq : q a with
    | true =>
      have ha := hp a List.mem_cons_self hq
      rw [if_pos rfl, ha.1, ha.2, if_neg Bool.false_ne_true, if_neg Bool.false_ne_true]
    | false => rw [if_neg Bool.false_ne_true]

/-- A row version stored under its key is there, beside the rows with other keys. -/
theorem mem_put {t t' : Table S} {r : ρ} (h : t.put r = some t') {x : ρ} :
    x ∈ t'.rows ↔ x = r ∨ (x ∈ t.rows ∧ S.key x ≠ S.key r) := by
  rw [rows_of_put h, rowsAfterPut]
  split
  · rename_i hk
    rw [List.mem_map]
    constructor
    · rintro ⟨a, ha, hx⟩
      split at hx
      · exact .inl hx.symm
      · rename_i hne
        exact .inr ⟨hx ▸ ha, hx ▸ hne⟩
    · rintro (rfl | ⟨hx, hne⟩)
      · obtain ⟨a, ha, hkey⟩ := List.mem_map.mp hk
        exact ⟨a, ha, if_pos hkey⟩
      · exact ⟨x, hx, if_neg hne⟩
  · rename_i hk
    rw [List.mem_append, List.mem_singleton]
    constructor
    · rintro (hx | rfl)
      · exact .inr ⟨hx, fun hkey ↦ hk (hkey ▸ List.mem_map_of_mem hx)⟩
      · exact .inl rfl
    · rintro (rfl | ⟨hx, -⟩)
      · exact .inr rfl
      · exact .inl hx

/-- `UPDATE .. SET f .. WHERE key = k` of a row that has to be there: fails where it is not, or
where the unique index forbids the new version. -/
def update (t : Table S) (k : κ) (f : ρ → ρ) : Option (Table S) :=
  (t.find k).bind fun r ↦ t.put (f r)

/-- The row under the key has its new version, and the others are as they were. -/
theorem mem_update {t t' : Table S} {k : κ} {f : ρ → ρ} (hf : ∀ r, S.key (f r) = S.key r)
    (h : t.update k f = some t') {x : ρ} :
    x ∈ t'.rows ↔ (x ∈ t.rows ∧ S.key x ≠ k) ∨ ∃ r ∈ t.rows, S.key r = k ∧ x = f r := by
  obtain ⟨r, hr, hput⟩ := Option.bind_eq_some_iff.mp h
  obtain ⟨hmem, rfl⟩ := find_eq_some_iff.mp hr
  rw [mem_put hput, hf]
  constructor
  · rintro (rfl | hx)
    · exact .inr ⟨r, hmem, rfl, rfl⟩
    · exact .inl hx
  · rintro (hx | ⟨a, ha, hkey, rfl⟩)
    · exact .inr hx
    · rw [t.eq_of_key_eq ha hmem hkey]
      exact .inl rfl

theorem find_update {t t' : Table S} {k : κ} {f : ρ → ρ} (hf : ∀ r, S.key (f r) = S.key r)
    (h : t.update k f = some t') (k' : κ) :
    t'.find k' = if k' = k then (t.find k).map f else t.find k' := by
  split
  · rename_i hk
    obtain ⟨r, hr, hput⟩ := Option.bind_eq_some_iff.mp h
    obtain ⟨hmem, hkey⟩ := find_eq_some_iff.mp hr
    rw [hk, hr, Option.map_some, find_eq_some_iff]
    exact ⟨(mem_update hf h).mpr (.inr ⟨r, hmem, hkey, rfl⟩), (hf r).trans hkey⟩
  · rename_i hk
    ext x
    rw [find_eq_some_iff, find_eq_some_iff, mem_update hf h]
    constructor
    · rintro ⟨⟨hx, -⟩ | ⟨r, -, hkey, rfl⟩, rfl⟩
      · exact ⟨hx, rfl⟩
      · exact absurd ((hf r).trans hkey) hk
    · rintro ⟨hx, rfl⟩
      exact ⟨.inl ⟨hx, hk⟩, rfl⟩

/-- `DELETE .. WHERE p`. -/
def delete (t : Table S) (p : ρ → Bool) : Table S where
  rows := t.rows.filter fun a ↦ !p a
  nodup := (List.filter_sublist.map S.key).nodup t.nodup
  noClash := t.noClash.sublist List.filter_sublist

theorem find_delete (t : Table S) (p : ρ → Bool) (k : κ) :
    (t.delete p).find k = (t.find k).filter fun r ↦ !p r := by
  ext r
  rw [find_eq_some_iff, Option.filter_eq_some_iff, find_eq_some_iff, delete, List.mem_filter]
  tauto

theorem find_delete_key (t : Table S) (k₀ k : κ) :
    (t.delete fun r ↦ decide (S.key r = k₀)).find k = if k = k₀ then none else t.find k := by
  rw [find_delete]
  cases h : t.find k with
  | none => simp
  | some r =>
    by_cases hk : k = k₀
    · rw [if_pos hk]
      simp [Option.filter, (find_eq_some_iff.mp h).2, hk]
    · rw [if_neg hk]
      simp [Option.filter, (find_eq_some_iff.mp h).2, hk]

/-- `INSERT .. ON CONFLICT DO NOTHING`: a new row, unless its key is taken or the unique index
forbids it. -/
def insertMissing (t : Table S) (r : ρ) : Table S :=
  if h : ∀ a ∈ t.rows, S.key a ≠ S.key r ∧ S.clash a r = false then
    { rows := t.rows ++ [r]
      nodup := by
        rw [List.map_append, List.map_singleton]
        refine List.nodup_append.mpr ⟨t.nodup, List.nodup_singleton _, fun a ha b hb hab ↦ ?_⟩
        obtain ⟨c, hc, rfl⟩ := List.mem_map.mp ha
        exact (h c hc).1 (hab.trans (List.mem_singleton.mp hb))
      noClash := List.pairwise_append.mpr ⟨t.noClash, List.pairwise_singleton _ _,
        fun a ha b hb ↦ List.mem_singleton.mp hb ▸ (h a ha).2⟩ }
  else t

theorem find_insertMissing_of_ne (t : Table S) {r : ρ} {k : κ} (hk : S.key r ≠ k) :
    (t.insertMissing r).find k = t.find k := by
  rw [insertMissing]
  split
  · ext a
    rw [find_eq_some_iff, find_eq_some_iff, List.mem_append, List.mem_singleton]
    exact ⟨fun ⟨h, hak⟩ ↦ ⟨h.resolve_right fun har ↦ hk (har ▸ hak), hak⟩, fun h ↦ ⟨.inl h.1, h.2⟩⟩
  · rfl

/-- A row that the unique index does not forbid is there afterwards, unless its key was taken. -/
theorem find_insertMissing_self (t : Table S) {r : ρ} (hr : ∀ a ∈ t.rows, S.clash a r = false) :
    (t.insertMissing r).find (S.key r) = some ((t.find (S.key r)).getD r) := by
  rw [insertMissing]
  cases h : t.find (S.key r) with
  | none =>
    rw [dif_pos fun a ha ↦ ⟨find_eq_none_iff.mp h a ha, hr a ha⟩]
    exact find_eq_some_iff.mpr ⟨List.mem_append_right _ (List.mem_singleton_self r), rfl⟩
  | some b =>
    obtain ⟨hb, hkey⟩ := find_eq_some_iff.mp h
    rw [dif_neg fun hall ↦ (hall b hb).1 hkey]
    exact h

theorem filter_rows_insertMissing (t : Table S) {r : ρ} {p : ρ → Bool} (hp : p r = false) :
    (t.insertMissing r).rows.filter p = t.rows.filter p := by
  rw [insertMissing]
  split
  · rw [List.filter_append, List.filter_singleton, hp]
    exact List.append_nil _
  · rfl

theorem mem_of_mem_insertMissing {t : Table S} {r a : ρ} (ha : a ∈ (t.insertMissing r).rows) :
    a ∈ t.rows ∨ a = r := by
  rw [insertMissing] at ha
  split at ha
  · exact (List.mem_append.mp ha).imp_right List.mem_singleton.mp
  · exact .inl ha

/-- One `INSERT .. ON CONFLICT DO NOTHING` of several rows. -/
def insertMissingAll (t : Table S) (rs : List ρ) : Table S := rs.foldl insertMissing t

/-- The key of a row is free, and no row is in its way. -/
def Admits (t : Table S) (r : ρ) : Prop :=
  t.find (S.key r) = none ∧ ∀ a ∈ t.rows, S.clash a r = false

theorem insertMissing_of_admits {t : Table S} {r : ρ} (h : t.Admits r) :
    (t.insertMissing r).rows = t.rows ++ [r] := by
  rw [insertMissing, dif_pos fun a ha ↦ ⟨find_eq_none_iff.mp h.1 a ha, h.2 a ha⟩]

theorem insertMissing_of_not_admits {t : Table S} {r : ρ} (h : ¬t.Admits r) :
    t.insertMissing r = t := by
  rw [insertMissing, dif_neg fun hall ↦ h ⟨find_eq_none_iff.mpr fun a ha ↦ (hall a ha).1,
    fun a ha ↦ (hall a ha).2⟩]

/-- To insert another row makes no difference to whether a row is admitted. -/
theorem admits_insertMissing_iff {t : Table S} {a r : ρ} (hkey : S.key a ≠ S.key r)
    (hclash : S.clash a r = false) : (t.insertMissing a).Admits r ↔ t.Admits r := by
  rw [Admits, Admits, find_insertMissing_of_ne _ hkey]
  refine and_congr_right fun _ ↦ ⟨fun h b hb ↦ h b ?_, fun h b hb ↦ ?_⟩
  · by_cases hadmits : t.Admits a
    · rw [insertMissing_of_admits hadmits]
      exact List.mem_append_left _ hb
    · rwa [insertMissing_of_not_admits hadmits]
  · rcases mem_of_mem_insertMissing hb with hb | rfl
    · exact h b hb
    · exact hclash

theorem find_insertMissingAll_of_forall_ne {rs : List ρ} {k : κ} :
    ∀ {t : Table S}, (∀ a ∈ rs, S.key a ≠ k) → (t.insertMissingAll rs).find k = t.find k := by
  induction rs with
  | nil => exact fun _ ↦ rfl
  | cons a rs ih =>
    intro t h
    exact (ih fun b hb ↦ h b (List.mem_cons_of_mem _ hb)).trans
      (t.find_insertMissing_of_ne (h a List.mem_cons_self))

/-- **Which row a key gets** from rows that do not clash among themselves: its own where it is
admitted, else the one it has. -/
theorem find_insertMissingAll_of_mem {rs : List ρ} {r : ρ} :
    ∀ {t : Table S}, (rs.map S.key).Nodup → (rs.Pairwise fun a b ↦ S.clash a b = false) → r ∈ rs →
      (t.Admits r → (t.insertMissingAll rs).find (S.key r) = some r) ∧
      (¬t.Admits r → (t.insertMissingAll rs).find (S.key r) = t.find (S.key r)) := by
  induction rs with
  | nil => exact fun _ _ h ↦ absurd h (by simp)
  | cons a rs ih =>
    intro t hnodup hclash hr
    rw [List.map_cons, List.nodup_cons] at hnodup
    rw [List.pairwise_cons] at hclash
    have hrest : ∀ b ∈ rs, S.key b ≠ S.key a := fun b hb hkey ↦
      hnodup.1 (hkey ▸ List.mem_map_of_mem hb)
    rcases List.mem_cons.mp hr with rfl | hr
    · have hsame : (t.insertMissingAll (r :: rs)).find (S.key r)
          = (t.insertMissing r).find (S.key r) := find_insertMissingAll_of_forall_ne hrest
      rw [hsame]
      refine ⟨fun hadmits ↦ find_eq_some_iff.mpr ⟨?_, rfl⟩, fun hnot ↦ ?_⟩
      · rw [insertMissing_of_admits hadmits]
        exact List.mem_append_right _ (List.mem_singleton_self r)
      · rw [insertMissing_of_not_admits hnot]
    · have hne : S.key a ≠ S.key r := fun hkey ↦ hrest r hr hkey.symm
      have hiff := admits_insertMissing_iff (t := t) hne (hclash.1 r hr)
      obtain ⟨hyes, hno⟩ := ih (t := t.insertMissing a) hnodup.2 hclash.2 hr
      rw [hiff] at hyes hno
      rw [t.find_insertMissing_of_ne hne] at hno
      exact ⟨hyes, hno⟩

/-- A row that is there stays as it is. -/
theorem find_insertMissingAll_of_some {rs : List ρ} {k : κ} {a : ρ} :
    ∀ {t : Table S}, t.find k = some a → (t.insertMissingAll rs).find k = some a := by
  induction rs with
  | nil => exact id
  | cons b rs ih =>
    intro t h
    refine ih ?_
    by_cases hkey : S.key b = k
    · have hnot : ¬t.Admits b := fun hadmits ↦ by
        rw [Admits, hkey, h] at hadmits
        exact Option.some_ne_none a hadmits.1
      rwa [insertMissing_of_not_admits hnot]
    · rwa [t.find_insertMissing_of_ne hkey]

/-- A key whose row is in no other row's way has a row afterwards. -/
theorem exists_find_insertMissingAll {rs : List ρ} {r : ρ} (hr : r ∈ rs)
    (hclash : rs.Pairwise fun a b ↦ S.clash a b = false) : ∀ {t : Table S},
      (∀ b ∈ rs, ∀ a ∈ t.rows, S.clash a b = false) →
        ∃ a, (t.insertMissingAll rs).find (S.key r) = some a := by
  induction rs with
  | nil => exact absurd hr (by simp)
  | cons b rs ih =>
    intro t hfree
    rw [List.pairwise_cons] at hclash
    rcases List.mem_cons.mp hr with rfl | hr
    · exact ⟨_, find_insertMissingAll_of_some (t := t.insertMissing r)
        (t.find_insertMissing_self (hfree r List.mem_cons_self))⟩
    · refine ih hr hclash.2 (t := t.insertMissing b) fun c hc a ha ↦ ?_
      rcases mem_of_mem_insertMissing ha with ha | rfl
      · exact hfree c (List.mem_cons_of_mem _ hc) a ha
      · exact hclash.1 c hc

theorem mem_of_mem_insertMissingAll {rs : List ρ} {a : ρ} :
    ∀ {t : Table S}, a ∈ (t.insertMissingAll rs).rows → a ∈ t.rows ∨ a ∈ rs := by
  induction rs with
  | nil => exact .inl
  | cons b rs ih =>
    intro t h
    rcases ih h with h | h
    · exact (mem_of_mem_insertMissing h).imp_right fun hab ↦ List.mem_cons.mpr (.inl hab)
    · exact .inr (List.mem_cons_of_mem _ h)

omit [DecidableEq κ] in
/-- The rows that meet a condition which no two rows share. -/
theorem length_filter_eq_one {t : Table S} {p : ρ → Bool} (hex : ∃ r ∈ t.rows, p r = true)
    (huniq : ∀ a ∈ t.rows, ∀ b ∈ t.rows, p a = true → p b = true → S.key a = S.key b) :
    (t.rows.filter p).length = 1 := by
  obtain ⟨r, hr, hp⟩ := hex
  obtain ⟨rest, hrest, hkey⟩ := t.exists_perm_cons hr
  have hnone : rest.filter p = [] := List.filter_eq_nil_iff.mpr fun b hb hpb ↦
    hkey b hb (huniq b (hrest.mem_iff.mpr (List.mem_cons_of_mem _ hb)) r hr hpb hp)
  rw [(hrest.filter p).length_eq, List.filter_cons_of_pos hp, hnone, List.length_singleton]

/-! ## At most one row -/

/-- No two rows meet `p`. -/
def AtMostOne (t : Table S) (p : ρ → Prop) : Prop :=
  ∀ a ∈ t.rows, ∀ b ∈ t.rows, p a → p b → a = b

/-- An insert after which there is one, where there has been none. -/
theorem AtMostOne.insert {t t' : Table S} {p : ρ → Prop} {r : ρ} (h : t.AtMostOne p)
    (hr : p r → ∀ a ∈ t.rows, ¬p a) (ht' : t.insert r = some t') : t'.AtMostOne p := by
  intro a ha b hb hpa hpb
  rw [rows_of_insert ht', List.mem_append, List.mem_singleton] at ha hb
  rcases ha with ha | rfl
  · rcases hb with hb | rfl
    · exact h a ha b hb hpa hpb
    · exact absurd hpa (hr hpb a ha)
  · rcases hb with hb | rfl
    · exact absurd hpb (hr hpa b hb)
    · rfl

/-- An update after which no more rows meet `p`. -/
theorem AtMostOne.modify {t : Table S} {p : ρ → Prop} {q : ρ → Bool} {f : ρ → ρ}
    (h : t.AtMostOne p) (hf : Mild S f) (hp : ∀ r, p (f r) → p r) :
    (t.modify q f hf).AtMostOne p := by
  have hold : ∀ r, p (if q r then f r else r) → p r := by
    intro r hr
    split_ifs at hr
    · exact hp r hr
    · exact hr
  intro a ha b hb hpa hpb
  obtain ⟨c, hc, rfl⟩ := List.mem_map.mp ha
  obtain ⟨d, hd, rfl⟩ := List.mem_map.mp hb
  rw [h c hc d hd (hold c hpa) (hold d hpb)]

/-! ## Sums over the rows -/

/-- The rows under a key are one row. -/
theorem filter_key {t : Table S} {k : κ} {a : ρ} (h : t.find k = some a) :
    t.rows.filter (fun r ↦ decide (S.key r = k)) = [a] := by
  obtain ⟨ha, rfl⟩ := find_eq_some_iff.mp h
  obtain ⟨rest, hrest, hkey⟩ := t.exists_perm_cons ha
  refine List.perm_singleton.mp ((hrest.filter _).trans ?_)
  rw [List.filter_cons_of_pos (by simp), List.filter_eq_nil_iff.mpr fun b hb ↦ by
    simpa using hkey b hb]

/-- An update changes a sum over the rows by what it changes in the rows that it finds. -/
theorem sum_modify {M : Type*} [AddCommGroup M] (t : Table S) (p : ρ → Bool) {f : ρ → ρ}
    (hf : Mild S f) (g : ρ → M) : ((t.modify p f hf).rows.map g).sum
      = (t.rows.map g).sum + ((t.rows.filter p).map fun r ↦ g (f r) - g r).sum := by
  rw [modify]
  dsimp only
  induction t.rows with
  | nil => simp
  | cons a l ih =>
    rw [List.map_cons, List.map_cons, List.sum_cons, ih, List.map_cons, List.sum_cons,
      List.filter_cons]
    split
    · rw [List.map_cons, List.sum_cons]
      abel
    · abel

/-- A row that is left out counts nothing. -/
theorem sum_filter {M : Type*} [AddMonoid M] (l : List ρ) (q : ρ → Bool) (g : ρ → M) :
    ((l.filter q).map g).sum = (l.map fun r ↦ if q r then g r else 0).sum := by
  induction l with
  | nil => rfl
  | cons a l ih =>
    rw [List.filter_cons, List.map_cons, List.sum_cons, ← ih]
    split
    · rw [List.map_cons, List.sum_cons]
    · rw [zero_add]

/-- The same for a sum over the rows that meet a condition which the update does not change. -/
theorem sum_filter_modify {M : Type*} [AddCommGroup M] (t : Table S) (p q : ρ → Bool) {f : ρ → ρ}
    (hf : Mild S f) (hq : ∀ r, q (f r) = q r) (g : ρ → M) :
    (((t.modify p f hf).rows.filter q).map g).sum
      = ((t.rows.filter q).map g).sum
        + ((t.rows.filter fun r ↦ q r && p r).map fun r ↦ g (f r) - g r).sum := by
  rw [sum_filter, sum_modify, ← sum_filter, ← List.filter_filter, sum_filter (t.rows.filter p)]
  refine congrArg _ (congrArg List.sum (List.map_congr_left fun r _ ↦ ?_))
  rw [hq]
  split
  · rfl
  · exact sub_self 0

theorem sum_insert {M : Type*} [AddCommMonoid M] {t t' : Table S} {r : ρ}
    (h : t.insert r = some t') (g : ρ → M) : (t'.rows.map g).sum = (t.rows.map g).sum + g r := by
  rw [rows_of_insert h, List.map_append, List.sum_append, List.map_singleton, List.sum_singleton]

end Table

end Relational
