import Mathlib
import RwServer.Station.Transitions

/-!
# Stretches of the state log

What blocks are about: a `Stretch` is an entry of the state log without its status, its reason and
its job. Two stretches adjoin where one starts when the other ends, and blocks are as they should
be when two stretches that adjoin are in one block exactly when they have one state
(`Contiguous`).

A cycle closes the open stretch and renews it, `transitionToDown` converts it in place and a split
cuts one. For each of these the file says when it keeps a list of stretches contiguous, and then
that this is what the transactions do.
-/

open scoped List

namespace RwServer

open Timeline Relational

/-! ## Stretches -/

/-- What blocks are about: when an entry was, its state and its block. -/
structure Stretch where
  span : Span Time
  state : StationState
  blockId : Uuid
deriving DecidableEq

/-- The second stretch starts where the first ends. -/
def Stretch.Adjoins (s s' : Stretch) : Prop := s.span.stop = some s'.span.start

/-- Two stretches that adjoin are in one block exactly when they have one state. -/
def Contiguous (l : List Stretch) : Prop :=
  ∀ s ∈ l, ∀ s' ∈ l, s.Adjoins s' → (s.blockId = s'.blockId ↔ s.state = s'.state)

/-- The stretches of a block have one state. -/
def OneState (l : List Stretch) : Prop :=
  ∀ s ∈ l, ∀ s' ∈ l, s.blockId = s'.blockId → s.state = s'.state

variable {l l' rest : List Stretch} {s : Stretch} {t : Time} {fresh : Uuid}

theorem Contiguous.perm (hp : l' ~ l) (h : Contiguous l) : Contiguous l' :=
  fun s hs s' hs' ↦ h s (hp.mem_iff.mp hs) s' (hp.mem_iff.mp hs')

theorem contiguous_perm_iff (hp : l' ~ l) : Contiguous l' ↔ Contiguous l :=
  ⟨Contiguous.perm hp.symm, Contiguous.perm hp⟩

theorem OneState.perm (hp : l' ~ l) (h : OneState l) : OneState l' :=
  fun s hs s' hs' ↦ h s (hp.mem_iff.mp hs) s' (hp.mem_iff.mp hs')

/-- A tiling around one of its spans. -/
theorem precedes_or_precedes (h : Tiling (l.map Stretch.span)) (hl : l ~ s :: rest) :
    ∀ x ∈ rest, x.span.Precedes s.span ∨ s.span.Precedes x.span := by
  have hpairwise := (h.perm (hl.map _)).pairwise_precedes
  rw [List.map_cons, List.pairwise_cons] at hpairwise
  exact fun x hx ↦ (hpairwise.1 x.span (List.mem_map_of_mem hx)).symm

/-- The other spans of a tiling stop before the open one starts. -/
theorem exists_stop_le (h : Tiling (l.map Stretch.span)) (hl : l ~ s :: rest)
    (hopen : s.span.stop = none) :
    ∀ x ∈ rest, ∃ e, x.span.stop = some e ∧ x.span.start ≤ e ∧ e ≤ s.span.start := by
  intro x hx
  rcases precedes_or_precedes h hl x hx with ⟨e, he, hle⟩ | ⟨e, he, -⟩
  · have hmem : x.span ∈ l.map Stretch.span :=
      List.mem_map_of_mem (hl.mem_iff.mpr (List.mem_cons_of_mem _ hx))
    exact ⟨e, he, h.wellFormed x.span hmem e he, hle⟩
  · rw [hopen] at he
    exact absurd he (by simp)

/-- The stretch that follows on `s` when a cycle closes it at `t`. -/
def Stretch.renewed (s : Stretch) (t : Time) (fresh : Uuid) : Stretch :=
  ⟨⟨t, none⟩, .up, if s.state = .up then s.blockId else fresh⟩

/-- The part of the stretch before `t`. -/
def Stretch.before (s : Stretch) (t : Time) : Stretch := { s with span := s.span.before t }

/-- The part of the stretch from `t` on. -/
def Stretch.after (s : Stretch) (t : Time) : Stretch := { s with span := s.span.after t }

theorem OneState.renewed (h : OneState l) (hl : l ~ s :: rest)
    (hfresh : ∀ x ∈ l, x.blockId ≠ fresh) :
    OneState (s.renewed t fresh :: s.before t :: rest) := by
  -- the new stretch is in the block of an `UP` stretch, or in no block of the others
  have hnew : ∀ x ∈ l, x.blockId = (s.renewed t fresh).blockId → x.state = .up := by
    intro x hx hblock
    rw [Stretch.renewed] at hblock
    dsimp only at hblock
    split at hblock
    · rename_i hup
      exact (h x hx s (hl.mem_iff.mpr List.mem_cons_self) hblock).trans hup
    · exact absurd hblock (hfresh x hx)
  have hold : ∀ x ∈ s.before t :: rest, ∃ y ∈ l, x.blockId = y.blockId ∧ x.state = y.state := by
    intro x hx
    rcases List.mem_cons.mp hx with rfl | hx
    · exact ⟨s, hl.mem_iff.mpr List.mem_cons_self, rfl, rfl⟩
    · exact ⟨x, hl.mem_iff.mpr (List.mem_cons_of_mem _ hx), rfl, rfl⟩
  intro x hx x' hx' hblock
  rcases List.mem_cons.mp hx with rfl | hx <;> rcases List.mem_cons.mp hx' with rfl | hx'
  · rfl
  · obtain ⟨y', hy', hblock', hstate'⟩ := hold x' hx'
    rw [hblock'] at hblock
    rw [hstate', hnew y' hy' hblock.symm]
    rfl
  · obtain ⟨y, hy, hblock', hstate⟩ := hold x hx
    rw [hblock'] at hblock
    rw [hstate, hnew y hy hblock]
    rfl
  · obtain ⟨y, hy, hblock₁, hstate⟩ := hold x hx
    obtain ⟨y', hy', hblock₂, hstate'⟩ := hold x' hx'
    rw [hstate, hstate']
    exact h y hy y' hy' (hblock₁.symm.trans (hblock.trans hblock₂))

/-- A block that is not the drawn one goes on in a renewed stretch iff the stretch before it is `UP`
and of the block. -/
theorem blockId_eq_renewed_iff {b : Uuid} (hfresh : b ≠ fresh) :
    b = (s.renewed t fresh).blockId ↔ s.state = .up ∧ b = s.blockId := by
  change b = (if s.state = .up then s.blockId else fresh) ↔ _
  split
  · rename_i hup
    exact ⟨fun hb ↦ ⟨hup, hb⟩, And.right⟩
  · rename_i hdown
    exact iff_of_false hfresh fun hb ↦ hdown hb.1

/-- **A cycle.** It keeps blocks contiguous unless it ends a downtime at the very time at which an
`UP` stretch ends. -/
theorem contiguous_renewed_iff (h : Contiguous l) (hl : l ~ s :: rest)
    (htiling : Tiling (l.map Stretch.span)) (hopen : s.span.stop = none)
    (hstart : s.span.start ≤ t) (hfresh : ∀ x ∈ l, x.blockId ≠ fresh) :
    Contiguous (s.renewed t fresh :: s.before t :: rest) ↔
      (s.state = .down → ∀ x ∈ l, x.state = .up → x.span.stop ≠ some t) := by
  have hmem : s ∈ l := hl.mem_iff.mpr List.mem_cons_self
  have hrest : ∀ x ∈ rest, x ∈ l := fun x hx ↦ hl.mem_iff.mpr (List.mem_cons_of_mem _ hx)
  have hstop := exists_stop_le htiling hl hopen
  constructor
  · intro hnew hdown x hx hup hend
    have hrest' : x ∈ rest := by
      rcases List.mem_cons.mp (hl.mem_iff.mp hx) with rfl | hx
      · exact absurd (hup.symm.trans hdown) (by simp)
      · exact hx
    have hblock := (hnew x (by simp [hrest']) (s.renewed t fresh) (by simp) hend).mpr hup
    have hsup := ((blockId_eq_renewed_iff (hfresh x hx)).mp hblock).1
    exact absurd (hsup.symm.trans hdown) (by simp)
  · intro hcond x hx x' hx' hadjoins
    -- no stretch adjoins the others but one that is closed
    have hx : x = s.before t ∨ x ∈ rest := by
      rcases List.mem_cons.mp hx with rfl | hx
      · exact absurd hadjoins (by simp [Stretch.Adjoins, Stretch.renewed])
      · exact List.mem_cons.mp hx
    rcases hx with rfl | hx
    · -- what the closed stretch adjoins
      have hadjoins : t = x'.span.start := Option.some.inj hadjoins
      rcases List.mem_cons.mp hx' with rfl | hx'
      · have hiff : s.blockId = (s.renewed t fresh).blockId ↔ _ :=
          blockId_eq_renewed_iff (hfresh s hmem)
        exact hiff.trans (and_iff_left rfl)
      rcases List.mem_cons.mp hx' with rfl | hx'
      · exact iff_of_true rfl rfl
      · obtain ⟨e, he, hle, hle'⟩ := hstop x' hx'
        have heq : e = s.span.start :=
          hle'.antisymm (hstart.trans (hadjoins.trans_le hle))
        rw [heq] at he
        have hiff := h x' (hrest x' hx') s hmem he
        exact ⟨fun hb ↦ (hiff.mp hb.symm).symm, fun hs ↦ (hiff.mpr hs.symm).symm⟩
    · rcases List.mem_cons.mp hx' with rfl | hx'
      · -- a stretch that ends at `t` adjoins `s` as well
        obtain ⟨e, he, -, hle⟩ := hstop x hx
        have heq : e = t := Option.some.inj (he.symm.trans hadjoins)
        have hadj : x.Adjoins s := by
          rw [Stretch.Adjoins, he, le_antisymm hle (hstart.trans_eq heq.symm)]
        have hiff := h x (hrest x hx) s hmem hadj
        rw [blockId_eq_renewed_iff (hfresh x (hrest x hx)), hiff]
        constructor
        · exact fun hsame ↦ hsame.2.trans hsame.1
        · intro hup
          have hup : x.state = .up := hup
          cases hs : s.state with
          | up => exact ⟨rfl, hup⟩
          | down => exact absurd (he.trans (congrArg some heq)) (hcond hs x (hrest x hx) hup)
      rcases List.mem_cons.mp hx' with rfl | hx'
      · exact h x (hrest x hx) s hmem hadjoins
      · exact h x (hrest x hx) x' (hrest x' hx') hadjoins

/-- The stretch that `transitionToDown` makes of an `UP` one. -/
def Stretch.converted (s : Stretch) (fresh : Uuid) : Stretch := ⟨s.span, .down, fresh⟩

theorem OneState.converted (h : OneState l) (hl : l ~ s :: rest)
    (hfresh : ∀ x ∈ l, x.blockId ≠ fresh) : OneState (s.converted fresh :: rest) := by
  have hrest : ∀ x ∈ rest, x ∈ l := fun x hx ↦ hl.mem_iff.mpr (List.mem_cons_of_mem _ hx)
  intro x hx x' hx' hblock
  rcases List.mem_cons.mp hx with rfl | hx <;> rcases List.mem_cons.mp hx' with rfl | hx'
  · rfl
  · exact absurd hblock.symm (hfresh x' (hrest x' hx'))
  · exact absurd hblock (hfresh x (hrest x hx))
  · exact h x (hrest x hx) x' (hrest x' hx') hblock

/-- **The conversion in place.** It keeps blocks contiguous unless the stretch starts where a
downtime ends. -/
theorem contiguous_converted_iff (h : Contiguous l) (hl : l ~ s :: rest)
    (hopen : s.span.stop = none) (hfresh : ∀ x ∈ l, x.blockId ≠ fresh) (hup : s.state = .up) :
    Contiguous (s.converted fresh :: rest) ↔
      ∀ x ∈ l, x.state = .down → x.span.stop ≠ some s.span.start := by
  have hrest : ∀ x ∈ rest, x ∈ l := fun x hx ↦ hl.mem_iff.mpr (List.mem_cons_of_mem _ hx)
  constructor
  · intro hnew x hx hdown hend
    rcases List.mem_cons.mp (hl.mem_iff.mp hx) with rfl | hx'
    · exact absurd (hdown.symm.trans hup) (by simp)
    · exact hfresh x hx ((hnew x (List.mem_cons_of_mem _ hx') _ List.mem_cons_self hend).mpr hdown)
  · intro hcond x hx x' hx' hadjoins
    rcases List.mem_cons.mp hx with rfl | hx
    · rw [Stretch.Adjoins, Stretch.converted, hopen] at hadjoins
      exact absurd hadjoins (by simp)
    rcases List.mem_cons.mp hx' with rfl | hx'
    · exact iff_of_false (hfresh x (hrest x hx)) fun hdown ↦
        hcond x (hrest x hx) hdown hadjoins
    · exact h x (hrest x hx) x' (hrest x' hx') hadjoins

/-- The parts of a stretch that is cut. -/
theorem OneState.cut (h : OneState l) (hl : l ~ s :: rest) :
    OneState (s.before t :: s.after t :: rest) := by
  have hold : ∀ x ∈ s.before t :: s.after t :: rest, ∃ y ∈ l,
      x.blockId = y.blockId ∧ x.state = y.state := by
    intro x hx
    rw [List.mem_cons, List.mem_cons] at hx
    rcases hx with rfl | rfl | hx
    · exact ⟨s, hl.mem_iff.mpr List.mem_cons_self, rfl, rfl⟩
    · exact ⟨s, hl.mem_iff.mpr List.mem_cons_self, rfl, rfl⟩
    · exact ⟨x, hl.mem_iff.mpr (List.mem_cons_of_mem _ hx), rfl, rfl⟩
  intro x hx x' hx' hblock
  obtain ⟨y, hy, hblock₁, hstate⟩ := hold x hx
  obtain ⟨y', hy', hblock₂, hstate'⟩ := hold x' hx'
  rw [hstate, hstate']
  exact h y hy y' hy' (hblock₁.symm.trans (hblock.trans hblock₂))

/-- **A split.** The point lies inside the stretch, so that no other one adjoins there. -/
theorem Contiguous.cut (h : Contiguous l) (hl : l ~ s :: rest)
    (htiling : Tiling (l.map Stretch.span)) (hstart : s.span.start < t)
    (hstop : ∀ e ∈ s.span.stop, t < e) : Contiguous (s.before t :: s.after t :: rest) := by
  have hmem : s ∈ l := hl.mem_iff.mpr List.mem_cons_self
  have hrest : ∀ x ∈ rest, x ∈ l := fun x hx ↦ hl.mem_iff.mpr (List.mem_cons_of_mem _ hx)
  have hwell : ∀ x ∈ rest, x.span.WellFormed := fun x hx ↦
    htiling.wellFormed x.span (List.mem_map_of_mem (hrest x hx))
  -- at the point itself no other stretch starts or stops
  have hinside : ∀ x ∈ rest, x.span.start ≠ t ∧ x.span.stop ≠ some t := by
    intro x hx
    rcases precedes_or_precedes htiling hl x hx with ⟨e, he, hle⟩ | ⟨e, he, hle⟩
    · have hbefore : e < t := hle.trans_lt hstart
      refine ⟨((hwell x hx e he).trans_lt hbefore).ne, fun hend ↦ hbefore.ne ?_⟩
      exact Option.some.inj (he.symm.trans hend)
    · have hafter : t < x.span.start := (hstop e he).trans_le hle
      exact ⟨hafter.ne', fun hend ↦ absurd (hwell x hx t hend) hafter.not_ge⟩
  intro x hx x' hx' hadjoins
  rw [List.mem_cons, List.mem_cons] at hx hx'
  rcases hx with rfl | rfl | hx
  · rcases hx' with rfl | rfl | hx'
    · exact iff_of_true rfl rfl
    · exact iff_of_true rfl rfl
    · exact absurd (Option.some.inj hadjoins).symm (hinside x' hx').1
  · rcases hx' with rfl | rfl | hx'
    · exact iff_of_true rfl rfl
    · exact iff_of_true rfl rfl
    · exact h s hmem x' (hrest x' hx') hadjoins
  · rcases hx' with rfl | rfl | hx'
    · exact h x (hrest x hx) s hmem hadjoins
    · exact absurd hadjoins (hinside x hx).2
    · exact h x (hrest x hx) x' (hrest x' hx') hadjoins

/-! ## What the operations do to the stretches -/

/-- The stretch of an entry. -/
def StationStateLog.stretch (e : StationStateLog) : Stretch := ⟨e.span, e.state, e.blockId⟩

namespace StateLog

/-- The stretches of the live rows of a station. -/
def stretchesOf (stationId : Uuid) (rows : List StationStateLog) : List Stretch :=
  (rows.filter (·.isLive stationId)).map StationStateLog.stretch

/-- The stretches of a station. -/
def stretches (log : StateLog) (stationId : Uuid) : List Stretch :=
  stretchesOf stationId log.rows

theorem mem_stretches {log : StateLog} {stationId : Uuid} {s : Stretch} :
    s ∈ log.stretches stationId ↔ ∃ e ∈ log.live stationId, e.stretch = s := List.mem_map

theorem map_span_stretches (log : StateLog) (stationId : Uuid) :
    (log.stretches stationId).map Stretch.span = log.timeline stationId := List.map_map

theorem stretchesOf_perm {rows rows' : List StationStateLog} (stationId : Uuid)
    (h : rows ~ rows') : stretchesOf stationId rows ~ stretchesOf stationId rows' :=
  (h.filter _).map _

theorem stretchesOf_cons_live {stationId : Uuid} {e : StationStateLog}
    (h : e.isLive stationId = true) (rows : List StationStateLog) :
    stretchesOf stationId (e :: rows) = e.stretch :: stretchesOf stationId rows := by
  rw [stretchesOf, List.filter_cons_of_pos h, List.map_cons, stretchesOf]

theorem stretchesOf_cons_dead {stationId : Uuid} {e : StationStateLog}
    (h : ¬e.isLive stationId = true) (rows : List StationStateLog) :
    stretchesOf stationId (e :: rows) = stretchesOf stationId rows := by
  rw [stretchesOf, List.filter_cons_of_neg h, stretchesOf]

end StateLog

/-- A new row of the station adds its stretch. -/
theorem stretches_of_insert {log log' : StateLog} {e : StationStateLog} {stationId : Uuid}
    (he : e.isLive stationId = true) (h : log.insert e = some log') :
    log'.stretches stationId ~ e.stretch :: log.stretches stationId := by
  rw [StateLog.stretches, StateLog.stretches, Table.rows_of_insert h,
    ← StateLog.stretchesOf_cons_live he]
  exact StateLog.stretchesOf_perm _ (List.perm_append_singleton _ _)

theorem stretches_of_create {log log' : StateLog} {id : Uuid} {data : CreateStateEntry}
    (h : createStateEntry log id data = some log') : log'.stretches data.stationId ~
      ⟨⟨data.startTime, none⟩, data.state, data.blockId⟩ :: log.stretches data.stationId :=
  stretches_of_insert (e := data.row id) (StationStateLog.isLive_iff.mpr ⟨rfl, rfl⟩) h

/-- Marking rows by id touches no stretch. -/
theorem stretches_of_mark {log log' : StateLog} {id : Uuid} {status : Option StationStatus}
    (h : (updateStateEntry log id fun e ↦ { e with status }) = some log') (stationId : Uuid) :
    log'.stretches stationId = log.stretches stationId := by
  have hmild : Table.Mild stateLogSchema fun e ↦ { e with status } :=
    mild_of_keeps (fun _ ↦ rfl) (fun _ ↦ rfl) fun _ he ↦ he
  have hrows := Table.rows_of_updateMany hmild h
  rw [StateLog.stretches, StateLog.stretches, hrows, StateLog.stretchesOf, StateLog.stretchesOf,
    List.filter_map, List.map_map]
  have hlive : ((·.isLive stationId) ∘ fun e : StationStateLog ↦
      if e.id == id then { e with status } else e) = (·.isLive stationId) := by
    funext e
    rw [Function.comp_apply]
    split <;> rfl
  rw [hlive]
  refine List.map_congr_left fun e _ ↦ ?_
  rw [Function.comp_apply]
  split <;> rfl

/-- An update of one row of the station replaces its stretch. -/
theorem stretches_of_update {log log' : StateLog} {stationId : Uuid} {e : StationStateLog}
    {p : StationStateLog → Bool} {f : StationStateLog → StationStateLog}
    (hf : Table.Mild stateLogSchema f) (he : e ∈ log.rows) (hpe : p e = true)
    (hone : ∀ b ∈ log.rows, p b = true → b = e) (hlive : e.isLive stationId = true)
    (hlive' : (f e).isLive stationId = true) (h : log.updateMany p f = some log') :
    ∃ rest, log.stretches stationId ~ e.stretch :: rest ∧
      log'.stretches stationId ~ (f e).stretch :: rest := by
  obtain ⟨rest, hrows, hrows'⟩ := Table.perm_of_updateMany_one hf he hpe hone h
  refine ⟨StateLog.stretchesOf stationId rest, ?_, ?_⟩
  · exact StateLog.stretchesOf_cons_live hlive rest ▸ StateLog.stretchesOf_perm _ hrows
  · exact StateLog.stretchesOf_cons_live hlive' rest ▸ StateLog.stretchesOf_perm _ hrows'

/-- Nothing is open: the station has no stretches, where its timeline tiles. -/
theorem stretches_eq_nil {log : StateLog} {stationId : Uuid}
    (h : Tiling (log.timeline stationId)) (hnone : findOpenStateEntry log stationId = none) :
    log.stretches stationId = [] := by
  have hclosed : ∀ s ∈ log.timeline stationId, s.stop ≠ none := by
    intro s hs hopen
    obtain ⟨e, he, rfl⟩ := StateLog.mem_timeline.mp hs
    rw [StateLog.mem_live] at he
    have hnot := findOpenStateEntry_eq_none hnone e he.1
    rw [isOpenOf_iff.mpr ⟨he.2.1, hopen, he.2.2⟩] at hnot
    exact absurd hnot (by simp)
  have hnil := h.tiles.eq_nil hclosed
  rw [← StateLog.map_span_stretches] at hnil
  exact List.map_eq_nil_iff.mp hnil

/-- The stretches when a cycle has closed what is open and opened an `UP` entry. -/
theorem Renewed.stretches {log log' : StateLog} {id fresh stationId : Uuid} {timestamp : Time}
    {jobBlobId : Option Uuid}
    (h : Renewed log id
      { stationId, startTime := timestamp, state := .up, status := .up,
        blockId := upBlockId (findOpenStateEntry log stationId) fresh, jobBlobId } log') :
    (findOpenStateEntry log stationId = none ∧
      log'.stretches stationId ~ ⟨⟨timestamp, none⟩, .up, fresh⟩ :: log.stretches stationId) ∨
    ∃ e rest, findOpenStateEntry log stationId = some e ∧
      log.stretches stationId ~ e.stretch :: rest ∧ log'.stretches stationId ~
        e.stretch.renewed timestamp fresh :: e.stretch.before timestamp :: rest := by
  obtain ⟨log₁, log₂, hclose, hcreate, hmark⟩ := h
  have hsame : log'.stretches stationId = log₂.stretches stationId := by
    rcases hmark with rfl | hmark
    · rfl
    · exact stretches_of_mark hmark stationId
  have hinsert := stretches_of_create hcreate
  rw [hsame]
  cases hfind : findOpenStateEntry log stationId with
  | none =>
    rw [closeOpenStateEntries_of_none hfind, Option.some_inj] at hclose
    subst hclose
    rw [hfind] at hinsert
    exact .inl ⟨rfl, hinsert⟩
  | some e =>
    obtain ⟨hmem, hopen⟩ := findOpenStateEntry_eq_some hfind
    obtain ⟨rest, hl, hl₁⟩ := stretches_of_update (mild_close timestamp) hmem hopen
      (fun b hb hob ↦ log.eq_of_isOpenOf hb hmem hob hopen) (isLive_of_isOpenOf hopen)
      (isLive_of_isOpenOf (e := e) hopen) hclose
    rw [hfind] at hinsert
    exact .inr ⟨e, rest, rfl, hl, hinsert.trans (hl₁.cons _)⟩

theorem transitionToSlow_stretches {log log' : StateLog} {id fresh stationId : Uuid}
    {timestamp : Time} {r : StationStateLog}
    (h : transitionToSlow log id fresh stationId timestamp = some (log', r)) :
    (findOpenStateEntry log stationId = none ∧
      log'.stretches stationId ~ ⟨⟨timestamp, none⟩, .up, fresh⟩ :: log.stretches stationId) ∨
    log'.stretches stationId = log.stretches stationId := by
  obtain ⟨hfind, hcreate⟩ | ⟨e, -, rfl | hmark⟩ := transitionToSlow_cases h
  · exact .inl ⟨hfind, stretches_of_create hcreate⟩
  · exact .inr rfl
  · exact .inr (stretches_of_mark hmark stationId)

theorem transitionToDown_stretches {log log' : StateLog} {jobLog : List StationJobLog}
    {id fresh stationId : Uuid} {timestamp : Time} {r : StationStateLog × Option (Time × Time)}
    (h : transitionToDown log jobLog id fresh stationId timestamp = some (log', r)) :
    (findOpenStateEntry log stationId = none ∧
      log'.stretches stationId ~ ⟨⟨timestamp, none⟩, .down, fresh⟩ :: log.stretches stationId) ∨
    ∃ e, findOpenStateEntry log stationId = some e ∧
      ((e.state = .down ∧ log'.stretches stationId = log.stretches stationId) ∨
        ∃ rest, e.state = .up ∧ log.stretches stationId ~ e.stretch :: rest ∧
          log'.stretches stationId ~ e.stretch.converted fresh :: rest) := by
  obtain ⟨hfind, hcreate⟩ | ⟨e, hfind, ⟨hdown, rfl⟩ | ⟨hup, hconv⟩⟩ := transitionToDown_cases h
  · exact .inl ⟨hfind, stretches_of_create hcreate⟩
  · exact .inr ⟨e, hfind, .inl ⟨hdown, rfl⟩⟩
  · obtain ⟨hmem, hopen⟩ := findOpenStateEntry_eq_some hfind
    have hmild : Table.Mild stateLogSchema
        (convertToDown fresh (activeJobBlobId jobLog stationId)) :=
      mild_of_keeps (fun _ ↦ rfl) (fun _ ↦ rfl) fun _ he ↦ he
    obtain ⟨rest, hl, hl'⟩ := stretches_of_update hmild hmem (beq_self_eq_true e.id)
      (fun b hb hid ↦ log.eq_of_key_eq hb hmem (beq_iff_eq.mp hid)) (isLive_of_isOpenOf hopen)
      (isLive_of_isOpenOf (e := e) hopen) hconv
    exact .inr ⟨e, hfind, .inr ⟨rest, hup, hl, hl'⟩⟩

theorem splitDownEntry_stretches {log log' : StateLog} {id entryId : Uuid} {splitAt now : Time}
    {r : Except SplitError (StationStateLog × StationStateLog)}
    (h : splitDownEntry log id entryId splitAt now = some (log', r)) (stationId : Uuid) :
    log'.stretches stationId ~ log.stretches stationId ∨
    ∃ s rest, s.span.start < splitAt ∧ (∀ e ∈ s.span.stop, splitAt < e) ∧
      log.stretches stationId ~ s :: rest ∧
      log'.stretches stationId ~ s.before splitAt :: s.after splitAt :: rest := by
  obtain rfl | ⟨entry, rest, hrows, hrows', hdeleted, hstart, hend⟩ := splitDownEntry_rows h
  · exact .inl (.refl _)
  have hbefore := StateLog.stretchesOf_perm stationId hrows
  have hafter := StateLog.stretchesOf_perm stationId hrows'
  have hfirst : ({ entry with endTime := some splitAt } : StationStateLog).isLive stationId
      = entry.isLive stationId := rfl
  have hsecond := isLive_secondPart hdeleted id splitAt stationId
  by_cases hlive : entry.isLive stationId = true
  · rw [StateLog.stretchesOf_cons_live hlive] at hbefore
    rw [StateLog.stretchesOf_cons_live (hsecond.trans hlive),
      StateLog.stretchesOf_cons_live (hfirst.trans hlive)] at hafter
    refine .inr ⟨entry.stretch, _, hstart, fun e he ↦ ?_, hbefore, hafter.trans (.swap _ _ _)⟩
    have he : entry.endTime = some e := he
    rwa [he, Option.getD_some] at hend
  · -- the rows it writes belong to another station
    rw [StateLog.stretchesOf_cons_dead hlive] at hbefore
    rw [StateLog.stretchesOf_cons_dead (hsecond ▸ hlive),
      StateLog.stretchesOf_cons_dead (hfirst ▸ hlive)] at hafter
    exact .inl (hafter.trans hbefore.symm)

end RwServer
