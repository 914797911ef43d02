import Mathlib
import RwServer.Foundation.Run
import RwServer.Foundation.Table

/-!
# Versioned configurations

A configuration is kept in numbered versions, with a pointer to the current one. An update supplies
some of the fields: it reads the current version as the base of its merge, then the greatest
version number, and then commits, in one step, a new version with the next number and the pointer
to it. The numbers are unique, so that of two updates with the same next number the later one fails.

That the current version is the one with the greatest number needs no more than this
(`Inv.current`). That no supplied value is lost is another matter, because the base may be older
than the number: `kept` says that it is so as long as each update that commits has a base that
agrees with the current version in the fields that it does not supply, and
`run_commitSafe_of_unchanged` that this is the case where the current version has not changed
between the two reads.
-/

namespace VersionedConfig

open Relational Transition

/-- A kind of configuration: its fields, the fields an input supplies, and how an input is merged
into a base. -/
structure Kind where
  Blob : Type
  Input : Type
  Refusal : Type
  Field : Type
  Value : Field → Type
  get : (f : Field) → Blob → Value f
  supplied : (f : Field) → Input → Option (Value f)
  merge : Input → Blob → Blob
  /-- A merged field has the value that is supplied, else the one of the base. -/
  get_merge : ∀ input base f, get f (merge input base) = (supplied f input).getD (get f base)
  /-- What an input is refused with. -/
  gate : Input → Option Refusal
  /-- The base of a merge where there is no current version, or what is refused then. -/
  withoutVersion : Except Refusal Blob
  /-- Whether an input makes a new version; one that does not supplies no field. -/
  makesVersion : Input → Bool
  supplied_of_not_makesVersion : ∀ input f, makesVersion input = false → supplied f input = none

variable {K : Kind}

/-- A version of a configuration. -/
structure Version (β : Type) where
  version : ℕ
  blob : β

def versionSchema (β : Type) : Schema (Version β) ℕ where
  key := Version.version
  clash _ _ := false
  clash_symm _ _ := rfl

/-- Where an update stands. -/
inductive Phase (K : Kind)
  | start
  /-- It has read the current version, and has still to read the greatest number. -/
  | reading (base : K.Blob) (baseVersion : Option ℕ)
  | committing (base : K.Blob) (nextVersion : ℕ)
  /-- It changes no field of the configuration. -/
  | updating
  | done
  /-- Its version number is taken. -/
  | failed
  | refused (e : K.Refusal)

structure State (K : Kind) (ι : Type*) where
  versions : Table (versionSchema K.Blob)
  current : Option ℕ
  phases : ι → Phase K
  /-- The inputs of the successful updates, in the order in which they have committed. -/
  committed : List K.Input

/-- The greatest version number, and 0 if there is none. -/
def greatest (t : Table (versionSchema K.Blob)) : ℕ :=
  (t.rows.map Version.version).foldr max 0

section

variable {ι : Type*}

/-- The current version. -/
def State.currentBlob (s : State K ι) : Option K.Blob :=
  (s.current.bind s.versions.find).map Version.blob

/-- The base of a merge that begins now. -/
def State.base (s : State K ι) : Except K.Refusal K.Blob :=
  match s.currentBlob with
  | some blob => .ok blob
  | none => K.withoutVersion

/-- The fields that are in force: of the current version, or the defaults where there is none. -/
def State.effective (s : State K ι) : Option K.Blob := s.base.toOption

variable [DecidableEq ι]

def State.goto (s : State K ι) (i : ι) (phase : Phase K) : State K ι :=
  { s with phases := Function.update s.phases i phase }

/-- The next step of the update `i`. -/
def step (calls : ι → K.Input) (i : ι) (s : State K ι) : Option (State K ι) :=
  match s.phases i with
  | .start =>
    match K.gate (calls i) with
    | some e => some (s.goto i (.refused e))
    | none =>
      match s.base with
      | .error e => some (s.goto i (.refused e))
      | .ok base =>
        if K.makesVersion (calls i) then some (s.goto i (.reading base s.current))
        else some (s.goto i .updating)
  | .reading base _ => some (s.goto i (.committing base (greatest s.versions + 1)))
  | .updating => some { s.goto i .done with committed := s.committed ++ [calls i] }
  | .committing base nextVersion =>
    match s.versions.insert ⟨nextVersion, K.merge (calls i) base⟩ with
    | none => some (s.goto i .failed)
    | some versions =>
      some { s.goto i .done with
        versions := versions
        current := some nextVersion
        committed := s.committed ++ [calls i] }
  | .done => none
  | .failed => none
  | .refused _ => none

/-! ## What a step does -/

/-- What each step needs and does. -/
theorem step_cases {calls : ι → K.Input} {i : ι} {s s' : State K ι} (h : step calls i s = some s') :
    (s.phases i = .start ∧ ∃ e, s' = s.goto i (.refused e)) ∨
    (s.phases i = .start ∧ ∃ base, s.effective = some base ∧
      K.makesVersion (calls i) = true ∧ s' = s.goto i (.reading base s.current)) ∨
    (s.phases i = .start ∧ K.makesVersion (calls i) = false ∧ s' = s.goto i .updating) ∨
    (∃ base baseVersion, s.phases i = .reading base baseVersion ∧
      s' = s.goto i (.committing base (greatest s.versions + 1))) ∨
    (s.phases i = .updating ∧ s' = { s.goto i .done with committed := s.committed ++ [calls i] }) ∨
    (∃ base nextVersion, s.phases i = .committing base nextVersion ∧ s' = s.goto i .failed) ∨
    (∃ base nextVersion versions, s.phases i = .committing base nextVersion ∧
      s.versions.insert ⟨nextVersion, K.merge (calls i) base⟩ = some versions ∧
      s' = { s.goto i .done with
        versions := versions
        current := some nextVersion
        committed := s.committed ++ [calls i] }) := by
  rw [step] at h
  split at h
  · rename_i hphase
    split at h
    · exact .inl ⟨hphase, _, (Option.some.inj h).symm⟩
    · split at h
      · exact .inl ⟨hphase, _, (Option.some.inj h).symm⟩
      · rename_i base hbase
        have hbase : s.effective = some base := by rw [State.effective, hbase, Except.toOption]
        split at h
        · exact .inr (.inl ⟨hphase, base, hbase, ‹_›, (Option.some.inj h).symm⟩)
        · exact .inr (.inr (.inl ⟨hphase, Bool.eq_false_iff.mpr ‹_›, (Option.some.inj h).symm⟩))
  · rename_i base baseVersion hphase
    exact .inr (.inr (.inr (.inl ⟨base, baseVersion, hphase, (Option.some.inj h).symm⟩)))
  · rename_i hphase
    exact .inr (.inr (.inr (.inr (.inl ⟨hphase, (Option.some.inj h).symm⟩))))
  · rename_i base nextVersion hphase
    split at h
    · exact .inr (.inr (.inr (.inr (.inr (.inl
        ⟨base, nextVersion, hphase, (Option.some.inj h).symm⟩)))))
    · rename_i versions hinsert
      exact .inr (.inr (.inr (.inr (.inr (.inr
        ⟨base, nextVersion, versions, hphase, hinsert, (Option.some.inj h).symm⟩)))))
  · cases h
  · cases h
  · cases h

end

/-! ## The greatest number -/

theorem le_greatest {t : Table (versionSchema K.Blob)} {v : Version K.Blob} (hv : v ∈ t.rows) :
    v.version ≤ greatest t :=
  List.le_max_of_le (List.mem_map_of_mem hv) le_rfl

theorem greatest_insert {t t' : Table (versionSchema K.Blob)} {v : Version K.Blob}
    (h : t.insert v = some t') : greatest t' = max v.version (greatest t) := by
  rw [greatest, Table.rows_of_insert h, List.map_append, List.foldr_append, List.map_singleton,
    List.foldr_cons, List.foldr_nil, max_zero]
  have hfold : ∀ (l : List ℕ) (n : ℕ), l.foldr max n = max n (l.foldr max 0) := by
    intro l n
    induction l with
    | nil => simp
    | cons m rest ih => rw [List.foldr_cons, List.foldr_cons, ih, max_left_comm]
  exact hfold _ _

/-! ## The current version has the greatest number -/

section

variable {ι : Type*}

/-- The version with the greatest number is the current one, if there is any. -/
def LatestIsCurrent (s : State K ι) : Prop :=
  s.current = if s.versions.rows = [] then none else some (greatest s.versions)

/-- The invariant of the version numbers: a number with which an update will commit is taken, or is
the next one. -/
structure Inv (s : State K ι) : Prop where
  current : LatestIsCurrent s
  committing : ∀ i base nextVersion, s.phases i = .committing base nextVersion →
    (∃ v ∈ s.versions.rows, v.version = nextVersion) ∨ nextVersion = greatest s.versions + 1

/-- **An update commits with the next number or not at all.** -/
theorem Inv.nextVersion_eq {s : State K ι} (hs : Inv s) {i : ι} {base blob : K.Blob}
    {nextVersion : ℕ} {versions : Table (versionSchema K.Blob)}
    (hphase : s.phases i = .committing base nextVersion)
    (hinsert : s.versions.insert ⟨nextVersion, blob⟩ = some versions) :
    nextVersion = greatest s.versions + 1 := by
  refine (hs.committing i base nextVersion hphase).resolve_left ?_
  rintro ⟨v, hv, hversion⟩
  exact (Table.insert_eq_some_iff.mp hinsert).1 (List.mem_map.mpr ⟨v, hv, hversion⟩)

variable [DecidableEq ι]

/-- A step that leaves the versions as they are, and makes no update commit but with the next
number. -/
theorem Inv.goto {s : State K ι} (hs : Inv s) (i : ι) {phase : Phase K}
    (hphase : ∀ base nextVersion, phase = .committing base nextVersion →
      nextVersion = greatest s.versions + 1) (committed : List K.Input) :
    Inv { s.goto i phase with committed := committed } where
  current := hs.current
  committing := by
    intro j base nextVersion hj
    rw [State.goto] at hj
    dsimp only at hj
    by_cases hji : j = i
    · rw [hji, Function.update_self] at hj
      exact .inr (hphase base nextVersion hj)
    · rw [Function.update_of_ne hji] at hj
      exact hs.committing j base nextVersion hj

theorem Inv.step {calls : ι → K.Input} {i : ι} {s s' : State K ι} (hs : Inv s)
    (h : step calls i s = some s') : Inv s' := by
  rcases step_cases h with ⟨-, e, rfl⟩ | ⟨-, base, -, -, rfl⟩ | ⟨-, -, rfl⟩ |
    ⟨base, baseVersion, -, rfl⟩ | ⟨-, rfl⟩ | ⟨base, nextVersion, -, rfl⟩ |
    ⟨base, nextVersion, versions, hphase, hinsert, rfl⟩
  · exact hs.goto i (by simp) _
  · exact hs.goto i (by simp) _
  · exact hs.goto i (by simp) _
  · refine hs.goto i (fun b n hn ↦ ?_) _
    injection hn with _ hn
    exact hn.symm
  · exact hs.goto i (by simp) _
  · exact hs.goto i (by simp) _
  · have hnext := hs.nextVersion_eq hphase hinsert
    have hgreatest : greatest versions = nextVersion := by
      rw [greatest_insert hinsert, hnext]
      exact max_eq_left (Nat.le_succ _)
    have hrows := Table.rows_of_insert hinsert
    constructor
    · rw [LatestIsCurrent]
      dsimp only
      rw [if_neg (by simp [hrows]), hgreatest]
    · intro j b n hj
      rw [State.goto] at hj
      dsimp only at hj ⊢
      by_cases hji : j = i
      · rw [hji, Function.update_self] at hj
        cases hj
      · rw [Function.update_of_ne hji] at hj
        left
        rcases hs.committing j b n hj with ⟨v, hv, hversion⟩ | hn
        · exact ⟨v, by simp [hrows, hv], hversion⟩
        · exact ⟨⟨nextVersion, K.merge (calls i) base⟩, by simp [hrows], by rw [hn, hnext]⟩

/-- The updates have not begun, and the current version has the greatest number. -/
structure Start (s : State K ι) : Prop where
  current : LatestIsCurrent s
  phases : ∀ i, s.phases i = .start
  committed : s.committed = []

omit [DecidableEq ι] in
theorem Start.inv {s : State K ι} (h : Start s) : Inv s where
  current := h.current
  committing i base nextVersion hi := by
    rw [h.phases i] at hi
    cases hi

/-- **The current version has the greatest number**, in every interleaving of updates. -/
theorem inv_of_run {calls : ι → K.Input} {ok : State K ι → ι → Prop} {s₀ s : State K ι}
    {steps : List ι} (h₀ : Start s₀) (hrun : Run (step calls) ok s₀ steps s) : Inv s := by
  induction hrun with
  | nil => exact h₀.inv
  | snoc _ _ hstep ih => exact ih.step hstep

/-! ## The values that are supplied -/

/-- The last value of a field that a list of inputs supplies. -/
def lastSupplied (f : K.Field) (inputs : List K.Input) : Option (K.Value f) :=
  (inputs.filterMap (K.supplied f)).getLast?

theorem lastSupplied_append (f : K.Field) (inputs : List K.Input) (input : K.Input) :
    lastSupplied f (inputs ++ [input])
      = (K.supplied f input).orElse fun _ ↦ lastSupplied f inputs := by
  rw [lastSupplied, List.filterMap_append, List.getLast?_append]
  cases h : K.supplied f input with
  | none => simp [h, lastSupplied]
  | some v => simp [h]

/-- Each field of the current version has the last value that was supplied, else the one it had in
the beginning. -/
def ValuesKept (s₀ s : State K ι) : Prop :=
  ∀ f b₀ b, s₀.effective = some b₀ → s.effective = some b →
    K.get f b = (lastSupplied f s.committed).getD (K.get f b₀)

/-- The invariant of the values. -/
structure Kept (s₀ s : State K ι) : Prop where
  values : ValuesKept s₀ s
  isSome : s.effective.isSome = s₀.effective.isSome
  /-- Where an update has a base, there was one in the beginning. -/
  base : ∀ i base, (∃ v, s.phases i = .reading base v) ∨ (∃ n, s.phases i = .committing base n) →
    s₀.effective.isSome

/-- The condition on a step: if it is a commit whose number is free, then its base agrees with the
current version in the fields that it does not supply. -/
def CommitSafe (calls : ι → K.Input) (s : State K ι) (i : ι) : Prop :=
  ∀ base nextVersion, s.phases i = .committing base nextVersion →
    s.versions.find nextVersion = none → ∀ b, s.effective = some b →
      ∀ f, K.supplied f (calls i) = none → K.get f base = K.get f b

/-- After a commit the current version is the merged one. -/
theorem effective_commit {s : State K ι} {i : ι} {nextVersion : ℕ} {blob : K.Blob}
    {versions : Table (versionSchema K.Blob)} (committed : List K.Input)
    (hinsert : s.versions.insert ⟨nextVersion, blob⟩ = some versions) :
    State.effective { s.goto i .done with
      versions := versions
      current := some nextVersion
      committed := committed } = some blob := by
  have hfind : versions.find nextVersion = some ⟨nextVersion, blob⟩ :=
    Table.find_eq_some_iff.mpr ⟨by simp [Table.rows_of_insert hinsert], rfl⟩
  simp [State.effective, State.base, State.currentBlob, hfind, Except.toOption]

/-- **What one commit does to the values.** They are kept iff the base agrees with the current
version in the fields that the update does not supply. -/
theorem valuesKept_commit_iff {calls : ι → K.Input} {s₀ s : State K ι} {i : ι}
    {base b₀ b : K.Blob} {nextVersion : ℕ} {versions : Table (versionSchema K.Blob)}
    (hs : ValuesKept s₀ s) (h₀ : s₀.effective = some b₀) (hb : s.effective = some b)
    (hinsert : s.versions.insert ⟨nextVersion, K.merge (calls i) base⟩ = some versions) :
    ValuesKept s₀ { s.goto i .done with
        versions := versions
        current := some nextVersion
        committed := s.committed ++ [calls i] } ↔
      ∀ f, K.supplied f (calls i) = none → K.get f base = K.get f b := by
  have heffective := effective_commit (s := s) (i := i) (s.committed ++ [calls i]) hinsert
  have hfield : ∀ f, K.get f (K.merge (calls i) base)
      = (lastSupplied f (s.committed ++ [calls i])).getD (K.get f b₀) ↔
      (K.supplied f (calls i) = none → K.get f base = K.get f b) := by
    intro f
    rw [K.get_merge, lastSupplied_append, hs f b₀ b h₀ hb]
    cases K.supplied f (calls i) with
    | none => simp
    | some v => simp
  constructor
  · intro hkept f
    exact (hfield f).mp (hkept f b₀ _ h₀ heffective)
  · intro hagree f b₀' b' h₀' hb'
    obtain rfl := Option.some.inj (h₀.symm.trans h₀')
    obtain rfl := Option.some.inj (heffective.symm.trans hb')
    exact (hfield f).mpr (hagree f)

/-- A step that commits nothing but an input without fields. -/
theorem Kept.goto {s₀ s : State K ι} (hs : Kept s₀ s) (i : ι) {phase : Phase K}
    (hbase : ∀ base, (∃ v, phase = .reading base v) ∨ (∃ n, phase = .committing base n) →
      s₀.effective.isSome) {committed : List K.Input}
    (hcommitted : ∀ f, lastSupplied f committed = lastSupplied f s.committed) :
    Kept s₀ { s.goto i phase with committed := committed } where
  values := fun f b₀ b h₀ hb ↦ by
    rw [hcommitted f]
    exact hs.values f b₀ b h₀ hb
  isSome := hs.isSome
  base := by
    intro j base hj
    rw [State.goto] at hj
    dsimp only at hj
    by_cases hji : j = i
    · rw [hji, Function.update_self] at hj
      exact hbase base hj
    · rw [Function.update_of_ne hji] at hj
      exact hs.base j base hj

theorem Kept.step {calls : ι → K.Input} {i : ι} {s₀ s s' : State K ι} (hs : Kept s₀ s)
    (hok : CommitSafe calls s i) (hreads : s.phases i = .updating →
      K.makesVersion (calls i) = false) (h : step calls i s = some s') : Kept s₀ s' := by
  rcases step_cases h with ⟨-, e, rfl⟩ | ⟨-, base, hbase, -, rfl⟩ | ⟨-, -, rfl⟩ |
    ⟨base, baseVersion, hphase, rfl⟩ | ⟨hphase, rfl⟩ | ⟨base, nextVersion, -, rfl⟩ |
    ⟨base, nextVersion, versions, hphase, hinsert, rfl⟩
  · exact hs.goto i (by simp) fun _ ↦ rfl
  · exact hs.goto i (fun _ _ ↦ by rw [← hs.isSome, hbase, Option.isSome_some]) fun _ ↦ rfl
  · exact hs.goto i (by simp) fun _ ↦ rfl
  · exact hs.goto i (fun _ _ ↦ hs.base i base (.inl ⟨_, hphase⟩)) fun _ ↦ rfl
  · refine hs.goto i (by simp) fun f ↦ ?_
    rw [lastSupplied_append, K.supplied_of_not_makesVersion _ f (hreads hphase)]
    rfl
  · exact hs.goto i (by simp) fun _ ↦ rfl
  · -- the commit: the merged version becomes the current one
    have hsome₀ := hs.base i base (.inr ⟨_, hphase⟩)
    obtain ⟨b₀, h₀⟩ := Option.isSome_iff_exists.mp hsome₀
    obtain ⟨b, hb⟩ := Option.isSome_iff_exists.mp (hs.isSome.trans hsome₀)
    have hfree : s.versions.find nextVersion = none := by
      have hkey := (Table.insert_eq_some_iff.mp hinsert).1
      exact Table.find_eq_none_iff.mpr fun v hv hversion ↦
        hkey (List.mem_map.mpr ⟨v, hv, hversion⟩)
    constructor
    · exact (valuesKept_commit_iff hs.values h₀ hb hinsert).mpr
        (hok base nextVersion hphase hfree b hb)
    · rw [effective_commit _ hinsert, hsome₀]
      rfl
    · exact fun _ _ _ ↦ hsome₀

/-- An update that changes no field is one that makes no version. -/
theorem updating_of_run {calls : ι → K.Input} {ok : State K ι → ι → Prop} {s₀ s : State K ι}
    {steps : List ι} (h₀ : Start s₀) (hrun : Run (VersionedConfig.step calls) ok s₀ steps s) :
    ∀ i, s.phases i = .updating → K.makesVersion (calls i) = false := by
  induction hrun with
  | nil =>
    intro i hi
    rw [h₀.phases i] at hi
    cases hi
  | snoc _ _ hstep ih =>
    intro j hj
    rcases step_cases hstep with ⟨-, e, rfl⟩ | ⟨-, base, -, -, rfl⟩ | ⟨-, hnot, rfl⟩ |
      ⟨base, baseVersion, -, rfl⟩ | ⟨-, rfl⟩ | ⟨base, nextVersion, -, rfl⟩ |
      ⟨base, nextVersion, versions, -, -, rfl⟩
    all_goals
      rename_i i _ _
      simp only [State.goto] at hj
      by_cases hji : j = i
      · rw [hji, Function.update_self] at hj
        first
          | exact hji ▸ hnot
          | cases hj
      · rw [Function.update_of_ne hji] at hj
        exact ih j hj

omit [DecidableEq ι] in
theorem Start.kept {s : State K ι} (h : Start s) : Kept s s where
  values f b₀ b h₀ hb := by
    obtain rfl := Option.some.inj (h₀.symm.trans hb)
    rw [h.committed]
    rfl
  isSome := rfl
  base i base hi := by
    rcases hi with ⟨v, hv⟩ | ⟨n, hn⟩
    · rw [h.phases i] at hv
      cases hv
    · rw [h.phases i] at hn
      cases hn

/-- **No supplied value is lost**, in every interleaving of updates in which the base of each commit
agrees with the current version in the fields that are not supplied. -/
theorem kept_of_run {calls : ι → K.Input} {s₀ s : State K ι} {steps : List ι} (h₀ : Start s₀)
    (hrun : Run (step calls) (CommitSafe calls) s₀ steps s) : Kept s₀ s := by
  induction hrun with
  | nil => exact h₀.kept
  | snoc hprefix hok hstep ih =>
    exact ih.step hok (updating_of_run h₀ hprefix _) hstep

/-! ## Where the current version does not change between the two reads -/

/-- The number that the current version had when it was read as the base. -/
def Phase.baseVersion? : Phase K → Option (Option ℕ)
  | .reading _ baseVersion => some baseVersion
  | _ => none

/-- The condition on a step: where it reads the greatest number, the current version is still the
one that has been read as the base. -/
def ReadsUnchanged (s : State K ι) (i : ι) : Prop :=
  ∀ baseVersion ∈ (s.phases i).baseVersion?, s.current = baseVersion

instance instDecidableReadsUnchanged (s : State K ι) (i : ι) : Decidable (ReadsUnchanged s i) :=
  inferInstanceAs (Decidable (∀ baseVersion ∈ (s.phases i).baseVersion?, s.current = baseVersion))

/-- The invariant of the bases: a base is the current version, as long as that has the number it was
read with, or no commit has come after the number was read. -/
structure BaseInv (s : State K ι) : Prop where
  reading : ∀ i base baseVersion, s.phases i = .reading base baseVersion →
    (∀ n, baseVersion = some n → n ≤ greatest s.versions) ∧
      (s.current = baseVersion → s.effective = some base)
  committing : ∀ i base nextVersion, s.phases i = .committing base nextVersion →
    nextVersion = greatest s.versions + 1 → s.effective = some base

theorem BaseInv.goto {s : State K ι} (hs : BaseInv s) (i : ι) {phase : Phase K}
    (hreading : ∀ base baseVersion, phase = .reading base baseVersion →
      (∀ n, baseVersion = some n → n ≤ greatest s.versions) ∧
        (s.current = baseVersion → s.effective = some base))
    (hcommitting : ∀ base nextVersion, phase = .committing base nextVersion →
      s.effective = some base) (committed : List K.Input) :
    BaseInv { s.goto i phase with committed := committed } where
  reading := by
    intro j base baseVersion hj
    rw [State.goto] at hj
    dsimp only at hj
    by_cases hji : j = i
    · rw [hji, Function.update_self] at hj
      exact hreading base baseVersion hj
    · rw [Function.update_of_ne hji] at hj
      exact hs.reading j base baseVersion hj
  committing := by
    intro j base nextVersion hj
    rw [State.goto] at hj
    dsimp only at hj
    by_cases hji : j = i
    · rw [hji, Function.update_self] at hj
      exact fun _ ↦ hcommitting base nextVersion hj
    · rw [Function.update_of_ne hji] at hj
      exact hs.committing j base nextVersion hj

theorem BaseInv.step {calls : ι → K.Input} {i : ι} {s s' : State K ι} (hs : BaseInv s)
    (hinv : Inv s) (hok : ReadsUnchanged s i) (h : step calls i s = some s') : BaseInv s' := by
  rcases step_cases h with ⟨-, e, rfl⟩ | ⟨-, base, hbase, -, rfl⟩ | ⟨-, -, rfl⟩ |
    ⟨base, baseVersion, hphase, rfl⟩ | ⟨hphase, rfl⟩ | ⟨base, nextVersion, -, rfl⟩ |
    ⟨base, nextVersion, versions, hphase, hinsert, rfl⟩
  · exact hs.goto i (by simp) (by simp) _
  · refine hs.goto i (fun b v hv ↦ ?_) (by simp) _
    injection hv with hb hv
    refine ⟨fun n hn ↦ ?_, fun _ ↦ hb ▸ hbase⟩
    rw [← hv, hinv.current] at hn
    split at hn
    · cases hn
    · exact (Option.some.inj hn).ge
  · exact hs.goto i (by simp) (by simp) _
  · refine hs.goto i (by simp) (fun b n hn ↦ ?_) _
    injection hn with hb _
    rw [← hb]
    exact (hs.reading i base baseVersion hphase).2 (hok baseVersion (by rw [hphase]; rfl))
  · exact hs.goto i (by simp) (by simp) _
  · exact hs.goto i (by simp) (by simp) _
  · -- after a commit nobody has the current version as a base
    have hnext := hinv.nextVersion_eq hphase hinsert
    have hgreatest : greatest versions = nextVersion := by
      rw [greatest_insert hinsert, hnext]
      exact max_eq_left (Nat.le_succ _)
    constructor
    · intro j b v hj
      rw [State.goto] at hj
      dsimp only at hj
      by_cases hji : j = i
      · rw [hji, Function.update_self] at hj
        cases hj
      · rw [Function.update_of_ne hji] at hj
        have hle := (hs.reading j b v hj).1
        refine ⟨fun n hn ↦ ?_, fun hcurrent ↦ ?_⟩
        · rw [hgreatest, hnext]
          exact (hle n hn).trans (Nat.le_succ _)
        · have := hle nextVersion hcurrent.symm
          omega
    · intro j b n hj hn
      rw [State.goto] at hj
      dsimp only at hj hn
      by_cases hji : j = i
      · rw [hji, Function.update_self] at hj
        cases hj
      · rw [Function.update_of_ne hji] at hj
        rcases hinv.committing j b n hj with ⟨v, hv, hversion⟩ | hn'
        · have := le_greatest hv
          omega
        · omega

omit [DecidableEq ι] in
theorem Start.baseInv {s : State K ι} (h : Start s) : BaseInv s where
  reading i base baseVersion hi := by
    rw [h.phases i] at hi
    cases hi
  committing i base nextVersion hi := by
    rw [h.phases i] at hi
    cases hi

/-- **The uniqueness of the numbers makes up for the two reads**, as long as the current version
does not change between them: what commits then has the current version as its base. -/
theorem run_commitSafe_of_unchanged {calls : ι → K.Input} {s₀ s : State K ι} {steps : List ι}
    (h₀ : Start s₀) (hrun : Run (step calls) ReadsUnchanged s₀ steps s) :
    Run (step calls) (CommitSafe calls) s₀ steps s := by
  have hboth : Run (step calls) (CommitSafe calls) s₀ steps s ∧ BaseInv s := by
    induction hrun with
    | nil => exact ⟨.nil, h₀.baseInv⟩
    | snoc _ hok hstep ih =>
      obtain ⟨hsafe, hbase⟩ := ih
      have hinv := inv_of_run h₀ hsafe
      refine ⟨hsafe.snoc (fun base nextVersion hphase hfree b hb f _ ↦ ?_) hstep,
        hbase.step hinv hok hstep⟩
      have hnext : nextVersion = _ :=
        (hinv.committing _ base nextVersion hphase).resolve_left fun ⟨v, hv, hversion⟩ ↦
          Table.find_eq_none_iff.mp hfree v hv hversion
      rw [hbase.committing _ base nextVersion hphase hnext, Option.some.injEq] at hb
      rw [hb]
  exact hboth.1

end

end VersionedConfig
