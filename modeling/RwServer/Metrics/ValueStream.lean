import Mathlib
import RwServer.Foundation.AsyncQueue
import RwServer.Foundation.OrderedMap
import RwServer.Foundation.Run
import RwServer.Station.StateLog

/-!
# Streams of metric values

A stream subscribes to the value events, reads the current values, yields them, and goes on with the
events. Those that the pump takes while the values are read are buffered, and an event among them is
left out when it is no newer than the row that was read, by its own time and the row's `updatedAt`.
Later events go to a queue.

`value_stream_ends_on_latest_iff` says when a stream that has caught up has yielded, for a key, all
events that came after the read.
-/

namespace RwServer

open Transition

variable {κ ν : Type*}

/-- `MetricValueEvent`; the key is that of its entity, metric and arguments. -/
structure MetricValueEvent (κ ν : Type*) where
  siteId : Uuid
  key : κ
  value : ν
  observedAt : Time
deriving DecidableEq, Repr

/-- The row that a current value is read from. -/
structure CurrentRow (ν : Type*) where
  value : ν
  updatedAt : Time
deriving DecidableEq, Repr

/-- A row that has been read, and how many events of the stream had been published by then. -/
structure ReadRow (ν : Type*) extends CurrentRow ν where
  publishedBefore : ℕ
deriving DecidableEq, Repr

/-- What the client gets. -/
structure StreamRecord (κ ν : Type*) where
  key : κ
  value : ν
  observedAt : Time
  initial : Bool
deriving DecidableEq, Repr

inductive StreamPhase (κ ν : Type*)
  /-- The current values are read, and events are buffered. -/
  | reading
  /-- The values that are still to be yielded. -/
  | initial (rest : List κ)
  /-- The buffered events that are still to be looked at. -/
  | buffered (rest : List (MetricValueEvent κ ν))
  | draining
deriving DecidableEq, Repr

/-- The variable `buffering`. -/
def StreamPhase.isReading : StreamPhase κ ν → Bool
  | .reading => true
  | _ => false

structure StreamState (κ ν : Type*) where
  rows : κ → CurrentRow ν
  /-- What the publisher has delivered, and the pump has not taken. -/
  pending : List (MetricValueEvent κ ν)
  /-- The events of the stream, since it has subscribed. -/
  published : List (MetricValueEvent κ ν)
  currentValues : κ → Option (ReadRow ν)
  bufferedEvents : List (MetricValueEvent κ ν)
  queue : AsyncQueue (MetricValueEvent κ ν)
  phase : StreamPhase κ ν
  yielded : List (StreamRecord κ ν)

inductive StreamStep (κ ν : Type*)
  /-- A transaction commits a row. -/
  | commit (key : κ) (row : CurrentRow ν)
  | publish (event : MetricValueEvent κ ν)
  /-- The pump takes an event. -/
  | pump
  /-- The query for a key. -/
  | read (key : κ)
  /-- The stream goes on. -/
  | next
deriving DecidableEq, Repr

/-! ## The steps -/

def CurrentRow.record (row : CurrentRow ν) (key : κ) : StreamRecord κ ν :=
  ⟨key, row.value, row.updatedAt, true⟩

def MetricValueEvent.record (event : MetricValueEvent κ ν) : StreamRecord κ ν :=
  ⟨event.key, event.value, event.observedAt, false⟩

variable [DecidableEq κ]

/-- `requestByKey`: the keys of the requests. -/
def requestByKey (requests : List κ) : OrderedMap κ Unit :=
  requests.foldl (fun byKey key ↦ byKey.set key ()) .empty

/-- `filterMetricValueEvents`. -/
def isRequested (siteId : Uuid) (requests : List κ) (event : MetricValueEvent κ ν) : Bool :=
  decide (event.siteId = siteId) && (requestByKey requests).has event.key

namespace StreamState

variable (s : StreamState κ ν)

/-- `observedAtByKey`, with its default. -/
def lastObservedAt (key : κ) : Time :=
  ((s.currentValues key).map fun row ↦ row.updatedAt).getD 0

/-- The test of the loop over the buffered events. -/
def isNewer (event : MetricValueEvent κ ν) : Bool :=
  decide (s.lastObservedAt event.key < event.observedAt)

/-- One event of the pump. -/
def receive (siteId : Uuid) (requests : List κ) (event : MetricValueEvent κ ν)
    (pending : List (MetricValueEvent κ ν)) : StreamState κ ν :=
  if isRequested siteId requests event then
    if s.phase.isReading then
      { s with pending := pending, bufferedEvents := s.bufferedEvents ++ [event] }
    else { s with pending := pending, queue := s.queue.push event }
  else { s with pending := pending }

/-- What the stream does next, unless it has to wait. -/
def advance (requests : List κ) : Option (StreamState κ ν) :=
  match s.phase with
  | .reading =>
    if (requestByKey requests).keys.all fun key ↦ (s.currentValues key).isSome then
      some { s with phase := .initial (requestByKey requests).keys }
    else none
  | .initial [] => some { s with phase := .buffered s.bufferedEvents }
  | .initial (key :: rest) =>
    (s.currentValues key).map fun row ↦
      { s with phase := .initial rest, yielded := s.yielded ++ [row.record key] }
  | .buffered [] => some { s with phase := .draining }
  | .buffered (event :: rest) =>
    some { s with
      phase := .buffered rest
      yielded := if s.isNewer event then s.yielded ++ [event.record] else s.yielded }
  | .draining =>
    s.queue.take.map fun taken ↦
      { s with
        queue := taken.2
        yielded := s.yielded ++ taken.1.toList.map fun event ↦ event.record }

end StreamState

/-- One step of the stream, the publisher or the database. -/
def streamStep (siteId : Uuid) (requests : List κ) (step : StreamStep κ ν) (s : StreamState κ ν) :
    Option (StreamState κ ν) :=
  match step with
  | .commit key row => some { s with rows := Function.update s.rows key row }
  | .publish event =>
    some { s with
      pending := s.pending ++ [event]
      published := if isRequested siteId requests event then s.published ++ [event]
        else s.published }
  | .pump =>
    match s.pending with
    | [] => none
    | event :: pending => some (s.receive siteId requests event pending)
  | .read key =>
    if s.phase.isReading && (requestByKey requests).has key && (s.currentValues key).isNone then
      some { s with
        currentValues := Function.update s.currentValues key
          (some ⟨s.rows key, s.published.length⟩) }
    else none
  | .next => s.advance requests

/-- The stream has subscribed. -/
def streamStart (rows : κ → CurrentRow ν) : StreamState κ ν :=
  ⟨rows, [], [], fun _ ↦ none, [], .empty, .reading, []⟩

/-! ## What a stream has yielded -/

section

variable (s : StreamState κ ν)

/-- What the client has seen of a key. -/
def StreamState.seen (key : κ) : List (StreamRecord κ ν) :=
  s.yielded.filter fun record ↦ decide (record.key = key)

/-- The events of a key, of a list. -/
def ofKey (key : κ) (events : List (MetricValueEvent κ ν)) : List (MetricValueEvent κ ν) :=
  events.filter fun event ↦ decide (event.key = key)

/-- The stream has caught up: nothing is left to be taken or yielded. -/
def StreamState.CaughtUp : Prop :=
  s.phase = .draining ∧ s.pending = [] ∧ s.queue.contents = []

/-- The events of the key that came after the read follow its initial value, in order, and what the
client has seen last is the last event, where it is not the initial value with no event after it. -/
structure EndsOnLatest (key : κ) (row : ReadRow ν) : Prop where
  in_order : ∃ earlier, earlier.Sublist (ofKey key (s.published.take row.publishedBefore)) ∧
    s.seen key = row.record key ::
      (earlier ++ ofKey key (s.published.drop row.publishedBefore)).map fun event ↦ event.record
  latest : (s.seen key).getLast? = (ofKey key s.published).getLast?.map (fun event ↦ event.record) ∨
    ofKey key (s.published.drop row.publishedBefore) = [] ∧ s.seen key = [row.record key]

/-- A buffered event that came after the read of its key is newer than the row; and unless an event
of the key has come to the queue, the last buffered one is newer than the row if any of them is. -/
structure BuffersKept (key : κ) (row : ReadRow ν) : Prop where
  none_lost : ∀ event ∈ ofKey key (s.bufferedEvents.drop row.publishedBefore),
    row.updatedAt < event.observedAt
  none_behind : ofKey key (s.published.drop s.bufferedEvents.length) = [] →
    ∀ event ∈ ofKey key s.bufferedEvents, row.updatedAt < event.observedAt →
      ∀ last ∈ (ofKey key s.bufferedEvents).getLast?, row.updatedAt < last.observedAt

end

/-! ## Where the events are -/

section

variable {siteId : Uuid} {requests : List κ}

theorem has_iff_mem_keys (m : OrderedMap κ Unit) {key : κ} : m.has key = true ↔ key ∈ m.keys := by
  rw [OrderedMap.has, Option.isSome_iff_exists, OrderedMap.keys, List.mem_map]
  constructor
  · rintro ⟨v, hv⟩
    exact ⟨(key, v), (m.get?_eq_some_iff).mp hv, rfl⟩
  · rintro ⟨⟨k, v⟩, hmem, rfl⟩
    exact ⟨v, (m.get?_eq_some_iff).mpr hmem⟩

theorem has_requestByKey {key : κ} : (requestByKey requests).has key = true ↔ key ∈ requests := by
  have hfold : ∀ (l : List κ) (m : OrderedMap κ Unit),
      (l.foldl (fun byKey key ↦ byKey.set key ()) m).has key = true ↔
        m.has key = true ∨ key ∈ l := by
    intro l
    induction l with
    | nil => simp
    | cons k l ih =>
      intro m
      rw [List.foldl_cons, ih, OrderedMap.has, OrderedMap.get?_set, List.mem_cons]
      by_cases hk : key = k <;> simp [hk, OrderedMap.has]
  rw [requestByKey, hfold]
  simp [OrderedMap.has]

/-- The initial values of some keys. -/
def StreamState.initialRecords (s : StreamState κ ν) (keys : List κ) : List (StreamRecord κ ν) :=
  keys.filterMap fun key ↦ (s.currentValues key).map fun row ↦ row.record key

/-- What has been yielded so far; the `drained` events have gone through the queue. -/
def StreamState.Yielded (requests : List κ) (s : StreamState κ ν)
    (drained : List (MetricValueEvent κ ν)) : Prop :=
  match s.phase with
  | .reading => s.yielded = [] ∧ drained = [] ∧ s.queue.contents = []
  | .initial rest => drained = [] ∧ ∃ done, (requestByKey requests).keys = done ++ rest ∧
      s.yielded = s.initialRecords done
  | .buffered rest => drained = [] ∧ ∃ done, s.bufferedEvents = done ++ rest ∧
      s.yielded = s.initialRecords (requestByKey requests).keys ++
        (done.filter s.isNewer).map fun event ↦ event.record
  | .draining => s.yielded = s.initialRecords (requestByKey requests).keys ++
      ((s.bufferedEvents.filter s.isNewer ++ drained).map fun event ↦ event.record)

/-- The invariant: every event of the stream is buffered, or has gone to the queue after the
buffered ones, or is still to be taken. -/
structure StreamOk (siteId : Uuid) (requests : List κ) (s : StreamState κ ν) : Prop where
  all_read : s.phase.isReading = false →
    ∀ key ∈ (requestByKey requests).keys, (s.currentValues key).isSome = true
  yielded : ∃ drained, s.Yielded requests drained ∧ s.published = s.bufferedEvents ++ drained ++
    s.queue.contents ++ s.pending.filter (isRequested siteId requests)

theorem streamOk_start (siteId : Uuid) (requests : List κ) (rows : κ → CurrentRow ν) :
    StreamOk siteId requests (streamStart rows) where
  all_read h := absurd h (by simp [streamStart, StreamPhase.isReading])
  yielded := ⟨[], ⟨rfl, rfl, rfl⟩, rfl⟩

variable {s s' : StreamState κ ν}

omit [DecidableEq κ] in
theorem StreamPhase.eq_reading {phase : StreamPhase κ ν} (h : phase.isReading = true) :
    phase = .reading := by
  cases phase with
  | reading => rfl
  | initial | buffered | draining => exact absurd h Bool.false_ne_true

/-- While the rows are read, nothing is yielded. -/
theorem StreamState.yielded_reading {drained : List (MetricValueEvent κ ν)}
    (h : s.phase.isReading = true) :
    s.Yielded requests drained ↔ s.yielded = [] ∧ drained = [] ∧ s.queue.contents = [] := by
  rw [StreamState.Yielded, StreamPhase.eq_reading h]

theorem StreamOk.publish (h : StreamOk siteId requests s) (event : MetricValueEvent κ ν) :
    StreamOk siteId requests { s with
      pending := s.pending ++ [event]
      published := if isRequested siteId requests event then s.published ++ [event]
        else s.published } := by
  obtain ⟨hread, drained, hyielded, hpublished⟩ := h
  refine ⟨hread, drained, hyielded, ?_⟩
  rw [List.filter_append, hpublished]
  split
  · rename_i hrequested
    simp [hrequested]
  · rename_i hrequested
    simp [hrequested]

theorem StreamOk.receive (h : StreamOk siteId requests s) {event : MetricValueEvent κ ν}
    {pending : List (MetricValueEvent κ ν)} (hpending : s.pending = event :: pending) :
    StreamOk siteId requests (s.receive siteId requests event pending) := by
  obtain ⟨hread, drained, hyielded, hpublished⟩ := h
  rw [hpending, List.filter_cons] at hpublished
  rw [StreamState.receive]
  split
  · rename_i hrequested
    rw [if_pos hrequested] at hpublished
    split
    · rename_i hreading
      obtain ⟨hnone, rfl, hqueue⟩ := (StreamState.yielded_reading hreading).mp hyielded
      refine ⟨hread, [], ?_, ?_⟩
      · refine (StreamState.yielded_reading ?_).mpr ⟨hnone, rfl, hqueue⟩
        exact hreading
      · rw [hpublished, hqueue]
        simp
    · rename_i hreading
      refine ⟨hread, drained, ?_, ?_⟩
      · rw [StreamState.Yielded] at hyielded ⊢
        cases hphase : s.phase with
        | reading =>
          rw [hphase] at hreading
          exact absurd rfl hreading
        | initial | buffered | draining =>
          rw [hphase] at hyielded
          exact hyielded
      · rw [hpublished, AsyncQueue.contents_push]
        simp
  · rename_i hrequested
    rw [if_neg hrequested] at hpublished
    exact ⟨hread, drained, hyielded, hpublished⟩

omit [DecidableEq κ] in
theorem StreamState.initialRecords_append (s : StreamState κ ν) (keys keys' : List κ) :
    s.initialRecords (keys ++ keys') = s.initialRecords keys ++ s.initialRecords keys' :=
  List.filterMap_append

theorem StreamOk.advance (h : StreamOk siteId requests s)
    (hadvance : s.advance requests = some s') : StreamOk siteId requests s' := by
  obtain ⟨hread, drained, hyielded, hpublished⟩ := h
  rw [StreamState.Yielded] at hyielded
  rw [StreamState.advance] at hadvance
  cases hphase : s.phase with
  | reading =>
    simp only [hphase] at hyielded hadvance
    obtain ⟨hnone, rfl, hqueue⟩ := hyielded
    split_ifs at hadvance with hall
    cases hadvance
    exact ⟨fun _ key hkey ↦ List.all_eq_true.mp hall key hkey, [], ⟨rfl, [], rfl, hnone⟩,
      hpublished⟩
  | initial rest =>
    rw [hphase] at hread
    simp only [hphase] at hyielded hadvance
    obtain ⟨rfl, done, hdone, hyielded⟩ := hyielded
    cases rest with
    | nil =>
      cases hadvance
      rw [List.append_nil] at hdone
      exact ⟨hread, [], ⟨rfl, [], rfl, by simp [hyielded, hdone, StreamState.initialRecords]⟩,
        hpublished⟩
    | cons key rest =>
      obtain ⟨row, hrow, rfl⟩ := Option.map_eq_some_iff.mp hadvance
      refine ⟨hread, [], ⟨rfl, done ++ [key], by simp [hdone], ?_⟩, hpublished⟩
      rw [StreamState.initialRecords_append]
      exact congrArg₂ _ hyielded (by simp [StreamState.initialRecords, hrow])
  | buffered rest =>
    rw [hphase] at hread
    simp only [hphase] at hyielded hadvance
    obtain ⟨rfl, done, hdone, hyielded⟩ := hyielded
    cases rest with
    | nil =>
      cases hadvance
      rw [List.append_nil] at hdone
      refine ⟨hread, [], ?_, hpublished⟩
      simp only [StreamState.Yielded, List.append_nil]
      rw [hdone]
      exact hyielded
    | cons event rest =>
      cases hadvance
      refine ⟨hread, [], ⟨rfl, done ++ [event], by simp [hdone], ?_⟩, hpublished⟩
      change (if s.isNewer event then s.yielded ++ [event.record] else s.yielded)
        = s.initialRecords (requestByKey requests).keys ++
          ((done ++ [event]).filter s.isNewer).map fun event ↦ event.record
      rw [List.filter_append, List.map_append, ← List.append_assoc, ← hyielded]
      split
      · rename_i hnewer
        simp [hnewer]
      · rename_i hnewer
        simp [hnewer]
  | draining =>
    rw [hphase] at hread
    simp only [hphase] at hyielded hadvance
    obtain ⟨taken, htake, rfl⟩ := Option.map_eq_some_iff.mp hadvance
    obtain ⟨got, queue⟩ := taken
    have hcontents := AsyncQueue.contents_take htake
    refine ⟨hread, drained ++ got.toList, ?_, ?_⟩
    · change s.yielded ++ got.toList.map (fun event ↦ event.record)
        = s.initialRecords (requestByKey requests).keys ++
          ((s.bufferedEvents.filter s.isNewer ++ (drained ++ got.toList)).map fun event ↦
            event.record)
      rw [← List.append_assoc, List.map_append, ← List.append_assoc, ← hyielded]
    · rw [hpublished, hcontents]
      simp

/-- **One step keeps the invariant**, whether it is one of the stream or of the others. -/
theorem StreamOk.step (h : StreamOk siteId requests s) {step : StreamStep κ ν}
    (hstep : streamStep siteId requests step s = some s') : StreamOk siteId requests s' := by
  cases step with
  | commit =>
    cases hstep
    exact ⟨h.all_read, h.yielded⟩
  | publish event =>
    cases hstep
    exact h.publish event
  | pump =>
    simp only [streamStep] at hstep
    split at hstep
    · cases hstep
    · rename_i hpending
      cases hstep
      exact h.receive hpending
  | read key =>
    simp only [streamStep, Bool.and_eq_true] at hstep
    split_ifs at hstep with hguard
    cases hstep
    obtain ⟨⟨hreading, -⟩, -⟩ := hguard
    obtain ⟨drained, hyielded, hpublished⟩ := h.yielded
    refine ⟨fun hnot ↦ absurd (hreading.symm.trans hnot) Bool.noConfusion, drained, ?_, hpublished⟩
    refine (StreamState.yielded_reading ?_).mpr ((StreamState.yielded_reading hreading).mp hyielded)
    exact hreading
  | next => exact h.advance hstep

theorem streamOk_of_run {rows : κ → CurrentRow ν} {steps : List (StreamStep κ ν)}
    (hrun : Run (streamStep siteId requests) (fun _ _ ↦ True) (streamStart rows) steps s) :
    StreamOk siteId requests s :=
  hrun.invariant (streamOk_start siteId requests rows) fun _ _ _ h _ hstep ↦ h.step hstep

/-- A stream that has not caught up goes on: its pump, one of its queries or the stream itself has a
step to take. -/
theorem StreamOk.exists_step (h : StreamOk siteId requests s) (hnot : ¬s.CaughtUp) :
    ∃ step s', (step = .pump ∨ (∃ key, step = .read key) ∨ step = .next) ∧
      streamStep siteId requests step s = some s' := by
  cases hpending : s.pending with
  | cons event pending =>
    exact ⟨.pump, s.receive siteId requests event pending, .inl rfl, by simp [streamStep, hpending]⟩
  | nil =>
    suffices hnext : (∃ s', s.advance requests = some s') ∨ (s.phase = .reading ∧
        ∃ key, (requestByKey requests).has key = true ∧ s.currentValues key = none) by
      rcases hnext with ⟨s', hs'⟩ | ⟨hreading, key, hkey, hunread⟩
      · exact ⟨.next, s', .inr (.inr rfl), hs'⟩
      · have hguard : (s.phase.isReading && (requestByKey requests).has key &&
            (s.currentValues key).isNone) = true := by
          rw [hreading, hkey, hunread]
          rfl
        exact ⟨.read key, _, .inr (.inl ⟨key, rfl⟩), if_pos hguard⟩
    have hread := h.all_read
    cases hphase : s.phase with
    | reading =>
      by_cases hall : (requestByKey requests).keys.all fun key ↦ (s.currentValues key).isSome
      · exact .inl ⟨_, by rw [StreamState.advance, hphase]; exact if_pos hall⟩
      · rw [List.all_eq_true, not_forall] at hall
        obtain ⟨key, hkey⟩ := hall
        rw [Classical.not_imp, Option.not_isSome_iff_eq_none] at hkey
        exact .inr ⟨rfl, key, (has_iff_mem_keys _).mpr hkey.1, hkey.2⟩
    | initial rest =>
      refine .inl ?_
      rw [StreamState.advance, hphase]
      cases rest with
      | nil => exact ⟨_, rfl⟩
      | cons key rest =>
        obtain ⟨drained, hyielded, -⟩ := h.yielded
        rw [StreamState.Yielded, hphase] at hyielded
        obtain ⟨-, done, hkeys, -⟩ := hyielded
        obtain ⟨row, hrow⟩ := Option.isSome_iff_exists.mp (hread (by rw [hphase]; rfl) key
          (by rw [hkeys]; exact List.mem_append_right _ List.mem_cons_self))
        exact ⟨_, by dsimp only; rw [hrow]; rfl⟩
    | buffered rest =>
      refine .inl ?_
      rw [StreamState.advance, hphase]
      cases rest with
      | nil => exact ⟨_, rfl⟩
      | cons => exact ⟨_, rfl⟩
    | draining =>
      refine .inl ?_
      obtain ⟨taken, htaken⟩ := AsyncQueue.exists_take (q := s.queue) fun hempty ↦
        hnot ⟨hphase, hpending, hempty⟩
      exact ⟨_, by rw [StreamState.advance, hphase]; dsimp only; rw [htaken]; rfl⟩

/-! ## What has been seen of a key -/

/-- The initial value of a key stands once. -/
theorem StreamState.filter_initialRecords {key : κ} {row : ReadRow ν} {keys : List κ}
    (hrow : s.currentValues key = some row) (hnodup : keys.Nodup) :
    (s.initialRecords keys).filter (fun record ↦ decide (record.key = key))
      = if key ∈ keys then [row.record key] else [] := by
  induction keys with
  | nil => rfl
  | cons k keys ih =>
    obtain ⟨hnot, hnodup⟩ := List.nodup_cons.mp hnodup
    have hcons : s.initialRecords (k :: keys) = s.initialRecords [k] ++ s.initialRecords keys :=
      s.initialRecords_append [k] keys
    rw [hcons, List.filter_append, ih hnodup]
    by_cases hk : k = key
    · subst hk
      simp [StreamState.initialRecords, hrow, hnot, CurrentRow.record]
    · have hempty :
          (s.initialRecords [k]).filter (fun record ↦ decide (record.key = key)) = [] := by
        cases hread : s.currentValues k with
        | none => simp [StreamState.initialRecords, hread]
        | some => simp [StreamState.initialRecords, hread, CurrentRow.record, hk]
      rw [hempty, List.nil_append]
      have hiff : key ∈ k :: keys ↔ key ∈ keys := by simp [Ne.symm hk]
      simp only [hiff]

/-- What the client has seen of a key, when the stream has caught up: the initial value, the
buffered events that are newer than the row, and all later events. -/
theorem StreamOk.seen_eq (h : StreamOk siteId requests s) (hdone : s.CaughtUp) {key : κ}
    (hkey : key ∈ requests) : ∃ row drained, s.currentValues key = some row ∧
      s.published = s.bufferedEvents ++ drained ∧
      s.seen key = row.record key :: ((ofKey key s.bufferedEvents).filter
        (fun event ↦ decide (row.updatedAt < event.observedAt)) ++ ofKey key drained).map
          fun event ↦ event.record := by
  obtain ⟨hread, drained, hyielded, hpublished⟩ := h
  obtain ⟨hphase, hpending, hqueue⟩ := hdone
  have hmem : key ∈ (requestByKey requests).keys :=
    (has_iff_mem_keys _).mp (has_requestByKey.mpr hkey)
  obtain ⟨row, hrow⟩ := Option.isSome_iff_exists.mp (hread (by rw [hphase]; rfl) key hmem)
  refine ⟨row, drained, hrow, by simpa [hpending, hqueue] using hpublished, ?_⟩
  rw [StreamState.Yielded, hphase] at hyielded
  have hnewer : ofKey key (s.bufferedEvents.filter s.isNewer) = (ofKey key s.bufferedEvents).filter
      fun event ↦ decide (row.updatedAt < event.observedAt) := by
    rw [ofKey, ofKey, List.filter_filter, List.filter_filter]
    refine List.filter_congr fun event _ ↦ ?_
    by_cases hevent : event.key = key
    · simp [StreamState.isNewer, StreamState.lastObservedAt, hevent, hrow]
    · simp [hevent]
  have hnodup : (requestByKey requests).keys.Nodup := (requestByKey requests).nodup
  rw [StreamState.seen, hyielded, List.filter_append, StreamState.filter_initialRecords hrow hnodup,
    if_pos hmem, List.filter_map, ← hnewer, List.singleton_append]
  congr 2
  exact List.filter_append _ _

theorem ofKey_append (key : κ) (events events' : List (MetricValueEvent κ ν)) :
    ofKey key (events ++ events') = ofKey key events ++ ofKey key events' :=
  List.filter_append _ _

/-- The last element stays the last, where it is kept. -/
theorem getLast?_filter {α : Type*} {l : List α} {p : α → Bool} {a : α} (h : l.getLast? = some a)
    (ha : p a = true) : (l.filter p).getLast? = some a := by
  obtain ⟨l', rfl⟩ := List.getLast?_eq_some_iff.mp h
  rw [List.filter_append, List.filter_singleton, ha]
  exact List.getLast?_concat

variable {key : κ} {row : ReadRow ν} {drained : List (MetricValueEvent κ ν)}

/-- The buffered events that are newer than the row. -/
def newerBuffered (s : StreamState κ ν) (key : κ) (row : ReadRow ν) : List (MetricValueEvent κ ν) :=
  (ofKey key s.bufferedEvents).filter fun event ↦ decide (row.updatedAt < event.observedAt)

/-- If nothing is lost, what the client has seen is in order. -/
theorem in_order_of_none_lost (hpublished : s.published = s.bufferedEvents ++ drained)
    (hlost : ∀ event ∈ ofKey key (s.bufferedEvents.drop row.publishedBefore),
      row.updatedAt < event.observedAt) :
    ∃ earlier, earlier.Sublist (ofKey key (s.published.take row.publishedBefore)) ∧
      newerBuffered s key row ++ ofKey key drained
        = earlier ++ ofKey key (s.published.drop row.publishedBefore) := by
  rcases le_total row.publishedBefore s.bufferedEvents.length with hle | hle
  · refine ⟨(ofKey key (s.bufferedEvents.take row.publishedBefore)).filter fun event ↦
      decide (row.updatedAt < event.observedAt), ?_, ?_⟩
    · rw [hpublished, List.take_append_of_le_length hle]
      exact List.filter_sublist
    · have hkept : (ofKey key (s.bufferedEvents.drop row.publishedBefore)).filter (fun event ↦
          decide (row.updatedAt < event.observedAt))
          = ofKey key (s.bufferedEvents.drop row.publishedBefore) :=
        List.filter_eq_self.mpr fun event hevent ↦ decide_eq_true (hlost event hevent)
      rw [hpublished, List.drop_append_of_le_length hle, ofKey_append, ← List.append_assoc, ← hkept,
        ← List.filter_append, ← ofKey_append, List.take_append_drop]
      rfl
  · refine ⟨newerBuffered s key row ++
      ofKey key (drained.take (row.publishedBefore - s.bufferedEvents.length)), ?_, ?_⟩
    · rw [hpublished, List.take_append, List.take_of_length_le hle, ofKey_append]
      exact List.filter_sublist.append (List.Sublist.refl _)
    · rw [hpublished, List.drop_append, List.drop_of_length_le hle, List.nil_append,
        List.append_assoc, ← ofKey_append, List.take_append_drop]

/-- A record of a newer event is that of no older one. -/
theorem newer_of_record_mem {event : MetricValueEvent κ ν}
    (h : event.record ∈ (newerBuffered s key row).map fun event ↦ event.record) :
    row.updatedAt < event.observedAt := by
  obtain ⟨newer, hnewer, heq⟩ := List.mem_map.mp h
  have hlt : row.updatedAt < newer.observedAt := of_decide_eq_true (List.mem_filter.mp hnewer).2
  exact hlt.trans_eq (congrArg StreamRecord.observedAt heq)

/-- If what the client has seen is in order, nothing is lost. -/
theorem none_lost_of_in_order (hpublished : s.published = s.bufferedEvents ++ drained)
    {earlier : List (MetricValueEvent κ ν)}
    (horder : (newerBuffered s key row ++ ofKey key drained).map (fun event ↦ event.record)
      = (earlier ++ ofKey key (s.published.drop row.publishedBefore)).map
          fun event ↦ event.record) :
    ∀ event ∈ ofKey key (s.bufferedEvents.drop row.publishedBefore),
      row.updatedAt < event.observedAt := by
  intro event hevent
  have hle : row.publishedBefore ≤ s.bufferedEvents.length := by
    by_contra hlt
    rw [List.drop_of_length_le (not_le.mp hlt).le] at hevent
    exact absurd hevent List.not_mem_nil
  rw [hpublished, List.drop_append_of_le_length hle, ofKey_append, ← List.append_assoc] at horder
  have hcancel : (newerBuffered s key row).map (fun event ↦ event.record)
      = (earlier ++ ofKey key (s.bufferedEvents.drop row.publishedBefore)).map
        fun event ↦ event.record := by
    rw [List.map_append, List.map_append] at horder
    exact List.append_cancel_right horder
  have hmem : event.record ∈ (newerBuffered s key row).map fun event ↦ event.record := by
    rw [hcancel]
    exact List.mem_map_of_mem (List.mem_append_right _ hevent)
  exact newer_of_record_mem hmem

/-- **A stream that has caught up ends on the latest value** of a key exactly when its buffer has
kept the events of the key. -/
theorem value_stream_ends_on_latest_iff {rows : κ → CurrentRow ν} {steps : List (StreamStep κ ν)}
    (hrun : Run (streamStep siteId requests) (fun _ _ ↦ True) (streamStart rows) steps s)
    (hdone : s.CaughtUp) (hkey : key ∈ requests) :
    ∃ row, s.currentValues key = some row ∧ (EndsOnLatest s key row ↔ BuffersKept s key row) := by
  obtain ⟨row, drained, hrow, hpublished, hseen⟩ := (streamOk_of_run hrun).seen_eq hdone hkey
  refine ⟨row, hrow, ?_⟩
  change s.seen key
    = row.record key :: (newerBuffered s key row ++ ofKey key drained).map _ at hseen
  have hdrop : s.published.drop s.bufferedEvents.length = drained := by
    rw [hpublished, List.drop_left]
  have hall : ofKey key s.published = ofKey key s.bufferedEvents ++ ofKey key drained := by
    rw [hpublished, ofKey_append]
  constructor
  · rintro ⟨⟨earlier, -, horder⟩, hlatest⟩
    refine ⟨none_lost_of_in_order hpublished (List.cons.inj (hseen.symm.trans horder)).2, ?_⟩
    intro hnone event hevent hnewer last hlast
    rw [hdrop] at hnone
    have hmem : event ∈ newerBuffered s key row :=
      List.mem_filter.mpr ⟨hevent, decide_eq_true hnewer⟩
    have hne : (newerBuffered s key row).map (fun event ↦ event.record) ≠ [] :=
      List.ne_nil_of_mem (List.mem_map_of_mem hmem)
    rw [hnone, List.append_nil] at hseen hall
    rcases hlatest with hlatest | ⟨-, hinitial⟩
    · rw [hall, Option.mem_def.mp hlast, hseen, List.getLast?_cons_of_ne_nil hne] at hlatest
      exact newer_of_record_mem (List.mem_of_getLast? hlatest)
    · exact absurd (List.cons.inj (hseen.symm.trans hinitial)).2 hne
  · rintro ⟨hlost, hbehind⟩
    obtain ⟨earlier, hearlier, heq⟩ := in_order_of_none_lost hpublished hlost
    refine ⟨⟨earlier, hearlier, by rw [hseen, heq]⟩, ?_⟩
    rw [hdrop] at hbehind
    by_cases hnone : ofKey key drained = []
    · rw [hnone, List.append_nil] at hseen hall heq
      by_cases hempty : newerBuffered s key row = []
      · rw [hempty] at heq hseen
        exact .inr ⟨(List.append_eq_nil_iff.mp heq.symm).2, hseen⟩
      · obtain ⟨event, hevent⟩ := List.exists_mem_of_ne_nil _ hempty
        obtain ⟨hbuffered, hnewer⟩ := List.mem_filter.mp hevent
        have hlast := List.getLast?_eq_some_getLast (List.ne_nil_of_mem hbuffered)
        have hkept := hbehind hnone event hbuffered (of_decide_eq_true hnewer) _ hlast
        have hgetLast : (newerBuffered s key row).getLast? = some _ :=
          getLast?_filter hlast (decide_eq_true hkept)
        refine .inl ?_
        rw [hall, hlast, hseen, List.getLast?_cons_of_ne_nil (by simpa using hempty),
          List.getLast?_map, hgetLast]
    · have hne : (newerBuffered s key row ++ ofKey key drained).map
          (fun event ↦ event.record) ≠ [] := by
        simp [hnone]
      refine .inl ?_
      rw [hall, hseen, List.getLast?_cons_of_ne_nil hne, List.getLast?_map,
        List.getLast?_append_of_ne_nil _ hnone, List.getLast?_append_of_ne_nil _ hnone]

end

/-! ## A row that changes while it is read -/

instance decidableCaughtUp [DecidableEq ν] (s : StreamState κ ν) : Decidable s.CaughtUp :=
  inferInstanceAs (Decidable (s.phase = .draining ∧ s.pending = [] ∧ s.queue.contents = []))

/-- An event of the one key that is requested. -/
def statusEvent (value : ℕ) (observedAt : Time) : MetricValueEvent ℕ ℕ := ⟨1, 0, value, observedAt⟩

/-- The row is read, then another one is committed and its event buffered, and the stream goes
on. -/
def changeWhileReading (observedAt : Time) : List (StreamStep ℕ ℕ) :=
  [.read 0, .commit 0 ⟨2, 102⟩, .publish (statusEvent 2 observedAt), .pump,
    .next, .next, .next, .next, .next]

theorem changeWhileReading_run (observedAt : Time) (hlate : observedAt = 99 ∨ observedAt = 101) :
    ∃ s : StreamState ℕ ℕ, Run (streamStep 1 [0]) (fun _ _ ↦ True) (streamStart fun _ ↦ ⟨1, 100⟩)
        (changeWhileReading observedAt) s ∧ s.CaughtUp ∧
      s.currentValues 0 = some ⟨⟨1, 100⟩, 0⟩ ∧ s.bufferedEvents = [statusEvent 2 observedAt] ∧
      s.published = [statusEvent 2 observedAt] ∧
        (s.yielded = [⟨0, 1, 100, true⟩] ↔ observedAt = 99) := by
  have hexecute : (execute (streamStep 1 [0]) (fun _ _ ↦ True) (changeWhileReading observedAt)
      (streamStart fun _ ↦ ⟨1, 100⟩)).any (fun s ↦ decide (s.CaughtUp ∧
        s.currentValues 0 = some ⟨⟨1, 100⟩, 0⟩ ∧ s.bufferedEvents = [statusEvent 2 observedAt] ∧
          s.published = [statusEvent 2 observedAt] ∧
        (s.yielded = [⟨0, 1, 100, true⟩] ↔ observedAt = 99))) = true := by
    rcases hlate with rfl | rfl
    · decide +kernel
    · decide +kernel
  obtain ⟨s, hs, hfacts⟩ := (Option.any_eq_true _ _).mp hexecute
  exact ⟨s, run_of_execute hs, of_decide_eq_true hfacts⟩

/-- An event whose time is after that of the row that was read is yielded. -/
theorem value_stream_ends_on_latest_newer : ∃ s : StreamState ℕ ℕ,
    Run (streamStep 1 [0]) (fun _ _ ↦ True) (streamStart fun _ ↦ ⟨1, 100⟩)
      (changeWhileReading 101) s ∧
      s.CaughtUp ∧ EndsOnLatest s 0 ⟨⟨1, 100⟩, 0⟩ := by
  obtain ⟨s, hrun, hdone, hrow, hbuffered, hpublished, -⟩ := changeWhileReading_run 101 (.inr rfl)
  obtain ⟨row, hrow', hiff⟩ := value_stream_ends_on_latest_iff hrun hdone
    (List.mem_singleton_self 0)
  cases Option.some.inj (hrow.symm.trans hrow')
  refine ⟨s, hrun, hdone, hiff.mpr ⟨?_, ?_⟩⟩
  · rw [hbuffered]
    decide
  · rw [hbuffered, hpublished]
    decide

/-- An event whose time lags behind that of the row is left out, and the client stays with the old
value. -/
theorem not_value_stream_ends_on_latest : ∃ s : StreamState ℕ ℕ,
    Run (streamStep 1 [0]) (fun _ _ ↦ True) (streamStart fun _ ↦ ⟨1, 100⟩)
      (changeWhileReading 99) s ∧
      s.CaughtUp ∧ s.published = [statusEvent 2 99] ∧ s.yielded = [⟨0, 1, 100, true⟩] ∧
      ¬EndsOnLatest s 0 ⟨⟨1, 100⟩, 0⟩ := by
  obtain ⟨s, hrun, hdone, hrow, hbuffered, hpublished, hyielded⟩ :=
    changeWhileReading_run 99 (.inl rfl)
  refine ⟨s, hrun, hdone, hpublished, hyielded.mpr rfl, fun h ↦ ?_⟩
  obtain ⟨earlier, -, hseen⟩ := h.in_order
  rw [StreamState.seen, hyielded.mpr rfl, hpublished] at hseen
  have hlength := congrArg List.length hseen
  simp [ofKey, statusEvent] at hlength

end RwServer
