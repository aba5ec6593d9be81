import AirSonos.Stream.Registry
import Mathlib.Algebra.Order.BigOperators.Group.List

/-!
# The metrics count every stream once

A queue that is closed and empty drops nothing more, so its drops can be counted for good. The
totals are the sums over the streams whose insertion has begun, and a report is the sum over
all streams that were ever inserted.
-/

namespace AirSonos.PcmQueue

/-- What lasts: drops are never taken back, and a queue that is closed and empty stays as it is. -/
structure Lasts (before after : State) : Prop where
  dropped_le : before.dropped ≤ after.dropped
  closed : before.closed = true → after.closed = true
  drained : before.closed = true → before.frames = [] →
    after.frames = [] ∧ after.dropped = before.dropped

theorem Lasts.refl (state : State) : Lasts state state :=
  ⟨Nat.le_refl _, id, fun _ hempty => ⟨hempty, rfl⟩⟩

theorem Lasts.trans {before middle after : State} (first : Lasts before middle)
    (next : Lasts middle after) : Lasts before after where
  dropped_le := first.dropped_le.trans next.dropped_le
  closed := fun hclosed => next.closed (first.closed hclosed)
  drained := by
    intro hclosed hempty
    obtain ⟨hmiddle, hdropped⟩ := first.drained hclosed hempty
    obtain ⟨hafter, hlast⟩ := next.drained (first.closed hclosed) hmiddle
    exact ⟨hafter, hlast.trans hdropped⟩

theorem lasts_of_frames {before after : State} {accepted gone popped : List (PcmFrame × Instant)}
    {refused : Nat} (frames : before.frames ++ accepted = gone ++ popped ++ after.frames)
    (dropped : after.dropped = before.dropped + gone.length + refused)
    (closed : before.closed = true → after.closed = true ∧ accepted = [] ∧ refused = 0) :
    Lasts before after where
  dropped_le := by omega
  closed := fun hclosed => (closed hclosed).1
  drained := by
    intro hclosed hempty
    obtain ⟨_, rfl, rfl⟩ := closed hclosed
    rw [hempty, List.nil_append, eq_comm, List.append_eq_nil_iff, List.append_eq_nil_iff] at frames
    obtain ⟨⟨rfl, rfl⟩, hafter⟩ := frames
    exact ⟨hafter, dropped⟩

theorem expire_lasts {queue : PcmQueue} (state : State) (now : Instant) :
    Lasts state (queue.expire state now) := by
  apply lasts_of_frames (expire_moves state now).frames (expire_moves state now).dropped
  intro hclosed
  exact ⟨(expire_closed state now).trans hclosed, rfl, rfl⟩

/-- Nothing enters a closed queue. -/
theorem step_lasts {queue : PcmQueue} {before after : Ledger} {label : QueueLabel}
    (taken : Ledger.step queue before label = some after) : Lasts before.state after.state := by
  cases label with
  | push frame now =>
    obtain ⟨⟨state, admission⟩, hpush, rfl⟩ := Option.map_eq_some_iff.mp taken
    obtain ⟨gone, hmoves⟩ := pushAt_moves hpush
    apply lasts_of_frames hmoves.frames hmoves.dropped
    intro hclosed
    refine ⟨(pushAt_closed hpush).trans hclosed, ?_⟩
    simp only [pushAt, hclosed, if_true] at hpush
    cases hpush
    simp [hclosed]
  | pop now =>
    cases taken
    have hmoves : Moves before.state (queue.popAt before.state now).1 [] _ _ 0 :=
      popAt_moves before.state now
    apply lasts_of_frames hmoves.frames hmoves.dropped
    intro hclosed
    exact ⟨(popAt_closed before.state now).trans hclosed, rfl, rfl⟩
  | beginBatch now =>
    cases taken
    have hexpire : Lasts before.state (queue.expire before.state now) := expire_lasts _ now
    exact ⟨hexpire.dropped_le, hexpire.closed, hexpire.drained⟩
  | clear =>
    cases taken
    apply lasts_of_frames (clear_moves before.state).frames (clear_moves before.state).dropped
    intro hclosed
    exact ⟨hclosed, rfl, rfl⟩
  | close =>
    cases taken
    exact ⟨Nat.le_refl _, fun _ => rfl, fun _ hempty => ⟨hempty, rfl⟩⟩
  | takeNewDrops =>
    cases taken
    exact ⟨Nat.le_refl _, id, fun _ hempty => ⟨hempty, rfl⟩⟩
  | stats now =>
    cases taken
    exact expire_lasts before.state now

end AirSonos.PcmQueue

namespace AirSonos.Live

/-! ### What a step does to a stream -/

namespace LiveStream

/-- The counters of a stream only grow. -/
def Counts (before after : LiveStream) : Prop :=
  ∀ counter, before.values counter ≤ after.values counter

variable {float : FloatTime} {st after : LiveStream}

theorem Counts.of_eq (consumed : after.consumed = st.consumed) (dropped : after.dropped = st.dropped)
    (skipped : after.skipped = st.skipped) : Counts st after := by
  intro counter
  cases counter with
  | consumed => exact Nat.le_of_eq consumed.symm
  | dropped => exact Nat.le_of_eq dropped.symm
  | skipped => exact Nat.le_of_eq skipped.symm

theorem Counts.trans {middle : LiveStream} (first : Counts st middle) (next : Counts middle after) :
    Counts st after :=
  fun counter => (first counter).trans (next counter)

theorem counts_drops (st : LiveStream) (n : Nat) : Counts st { st with dropped := st.dropped + n } := by
  intro counter
  cases counter with
  | consumed => exact Nat.le_refl _
  | dropped => exact Nat.le_add_right _ _
  | skipped => exact Nat.le_refl _

theorem counts_skips (st : LiveStream) (n : Nat) : Counts st { st with skipped := st.skipped + n } := by
  intro counter
  cases counter with
  | consumed => exact Nat.le_refl _
  | dropped => exact Nat.le_refl _
  | skipped => exact Nat.le_add_right _ _

theorem counts_sendServed (st : LiveStream) (isPrelude : Bool) (bytes : Bytes) :
    Counts st (st.sendServed isPrelude bytes) := by
  simp only [sendServed]
  split
  · exact (counts_drops st bytes.length).trans (.of_eq rfl rfl rfl)
  · exact .of_eq rfl rfl rfl

theorem counts_skip (st : LiveStream) (bytes : Bytes) (skipped : Nat) :
    Counts st (st.skip bytes skipped) := by
  simp only [skip]
  split
  · exact (counts_skips st skipped).trans (.of_eq rfl rfl rfl)
  · exact (counts_skips st skipped).trans (counts_sendServed _ _ _)

theorem counts_anchor (st : LiveStream) (bytes : Bytes) (pcm : TimedPcm) :
    Counts st (st.anchorTimedPcm float bytes pcm) := by
  have hserve : ∀ (st : LiveStream) (anchor : Instant),
      Counts st (anchorTimedPcm.serve float bytes pcm st anchor) := by
    intro st anchor
    simp only [anchorTimedPcm.serve]
    split
    · exact counts_sendServed st false bytes
    · exact counts_skip st bytes _
  simp only [anchorTimedPcm]
  split
  · exact counts_skip st bytes _
  · exact hserve st _
  · refine Counts.trans ?_ (hserve _ _)
    exact .of_eq rfl rfl rfl

theorem counts_beginPublish (st : LiveStream) (bytes : Bytes) (payload : Payload) :
    Counts st (st.beginPublish bytes payload) := by
  simp only [beginPublish]
  split <;> exact .of_eq rfl rfl rfl

theorem counts_publishNext (taken : st.publishNext float = some after) : Counts st after := by
  simp only [publishNext] at taken
  split at taken
  · cases taken
  · split at taken
    · cases taken
      simp only [storePrelude]
      split
      · exact .of_eq rfl rfl rfl
      · split
        · exact .of_eq rfl rfl rfl
        · refine Counts.trans ?_ (counts_beginPublish _ _ _)
          exact .of_eq rfl rfl rfl
    · cases taken
  · split at taken
    · cases taken
      exact (counts_drops st _).trans (.of_eq rfl rfl rfl)
    · split at taken
      · cases taken
        exact counts_sendServed st true _
      · cases taken
        exact counts_sendServed st false _
      · cases taken
        exact .of_eq rfl rfl rfl
  · cases taken
    exact counts_anchor st _ _
  · cases taken
    exact .of_eq rfl rfl rfl
  · cases taken
    exact .of_eq rfl rfl rfl

theorem counts_call {next : LiveStream} (taken : st.call next = some after) (h : Counts st next) :
    Counts st after := by
  simp only [call] at taken
  split at taken
  · cases taken
    exact h
  · cases taken

theorem counts_step {label : LiveLabel} (taken : st.step float label = some after) :
    Counts st after := by
  cases label with
  | tick =>
    cases taken
    exact .of_eq rfl rfl rfl
  | publish bytes =>
    apply counts_call taken
    refine Counts.trans ?_ (counts_beginPublish _ _ _)
    exact .of_eq rfl rfl rfl
  | publishTimedPcm bytes pcm =>
    apply counts_call taken
    refine Counts.trans ?_ (counts_beginPublish _ _ _)
    exact .of_eq rfl rfl rfl
  | publishPrelude bytes =>
    apply counts_call taken
    simp only [startPrelude]
    split <;> exact .of_eq rfl rfl rfl
  | publishNext => exact counts_publishNext taken
  | attach i =>
    simp only [LiveStream.step, attach] at taken
    split at taken
    · cases taken
    · cases taken
      exact .of_eq rfl rfl rfl
  | attached =>
    simp only [LiveStream.step, LiveStream.attached] at taken
    split at taken
    · cases taken
      exact .of_eq rfl rfl rfl
    · cases taken
  | detach i =>
    simp only [LiveStream.step, detach] at taken
    split at taken
    · cases taken
    · split at taken
      · cases taken
      · cases taken
        exact .of_eq rfl rfl rfl
  | detached =>
    simp only [LiveStream.step, LiveStream.detached] at taken
    split at taken
    · cases taken
      exact .of_eq rfl rfl rfl
    · cases taken
  | poll i =>
    simp only [LiveStream.step, poll] at taken
    split at taken
    · cases taken
    · cases taken
      intro counter
      cases counter with
      | consumed => exact Nat.le_add_right _ _
      | dropped => exact Nat.le_refl _
      | skipped => exact Nat.le_refl _
  | close =>
    cases taken
    exact .of_eq rfl rfl rfl
  | setPlaybackAnchor =>
    cases taken
    exact .of_eq rfl rfl rfl

end LiveStream

/-! ### Streams that go on -/

theorem rel_refl {α : Type*} {r : α → α → Prop} (refl : ∀ a, r a a) (a : Option α) :
    Option.Rel r a a := by
  cases a with
  | none => exact .none
  | some a => exact .some (refl a)

theorem rel_trans {α : Type*} {r : α → α → Prop} (trans : ∀ a b c, r a b → r b c → r a c)
    {a b c : Option α} (first : Option.Rel r a b) (next : Option.Rel r b c) : Option.Rel r a c := by
  cases first with
  | none => exact next
  | some hfirst =>
    cases next with
    | some hnext => exact .some (trans _ _ _ hfirst hnext)

def InputQueue.Lasts (input next : InputQueue) : Prop :=
  PcmQueue.Lasts input.ledger.state next.ledger.state

namespace SharedStream

/-- A stream, and what it may become once its insertion has begun. -/
structure Evolves (before after : SharedStream) : Prop where
  attached : after.attached = before.attached
  counts : LiveStream.Counts before.live after.live
  queue : Option.Rel InputQueue.Lasts before.inputQueue after.inputQueue

def QueueClosed (stream : SharedStream) : Prop :=
  ∀ input, stream.inputQueue = some input → input.ledger.state.closed = true

def Drained (stream : SharedStream) : Prop :=
  ∀ input, stream.inputQueue = some input →
    input.ledger.state.closed = true ∧ input.ledger.state.frames = []

variable {before after : SharedStream}

theorem Evolves.refl (stream : SharedStream) : stream.Evolves stream :=
  ⟨rfl, fun _ => Nat.le_refl _, rel_refl (fun _ => .refl _) _⟩

theorem Evolves.trans {middle : SharedStream} (first : before.Evolves middle)
    (next : middle.Evolves after) : before.Evolves after where
  attached := next.attached.trans first.attached
  counts := first.counts.trans next.counts
  queue := @rel_trans _ InputQueue.Lasts (fun _ _ _ => PcmQueue.Lasts.trans) _ _ _ first.queue next.queue

theorem Evolves.drops_le (h : before.Evolves after) : before.drops ≤ after.drops := by
  have hqueue := h.queue
  simp only [drops]
  generalize before.inputQueue = input at hqueue
  generalize after.inputQueue = next at hqueue
  cases hqueue with
  | none => exact Nat.le_refl _
  | some hlasts => exact hlasts.dropped_le

theorem Evolves.queueClosed (h : before.Evolves after) (hclosed : before.QueueClosed) :
    after.QueueClosed := by
  intro next hnext
  have hqueue := h.queue
  rw [hnext] at hqueue
  generalize hinput : before.inputQueue = input at hqueue
  cases hqueue with
  | some hlasts => exact hlasts.closed (hclosed _ hinput)

theorem Evolves.drained (h : before.Evolves after) (hdrained : before.Drained) :
    after.Drained ∧ after.drops = before.drops := by
  have hqueue := h.queue
  simp only [Drained, drops] at hdrained ⊢
  generalize before.inputQueue = input at hqueue hdrained
  generalize after.inputQueue = next at hqueue
  cases hqueue with
  | none => exact ⟨hdrained, rfl⟩
  | some hlasts =>
    obtain ⟨hclosed, hempty⟩ := hdrained _ rfl
    obtain ⟨hframes, hdropped⟩ := hlasts.drained hclosed hempty
    refine ⟨?_, hdropped⟩
    intro next hnext
    cases hnext
    exact ⟨hlasts.closed hclosed, hframes⟩

theorem evolves_mapQueue {f : InputQueue → InputQueue}
    (lasts : ∀ input : InputQueue, PcmQueue.Lasts input.ledger.state (f input).ledger.state)
    (stream : SharedStream) : stream.Evolves (stream.mapQueue f) := by
  refine ⟨rfl, fun _ => Nat.le_refl _, ?_⟩
  simp only [mapQueue]
  cases stream.inputQueue with
  | none => exact .none
  | some input => exact .some (lasts input)

theorem evolves_closeQueue (stream : SharedStream) : stream.Evolves (stream.mapQueue .close) :=
  evolves_mapQueue (fun input =>
    @PcmQueue.step_lasts input.queue _ _ .close rfl) stream

theorem evolves_clearQueue (stream : SharedStream) : stream.Evolves (stream.mapQueue .clear) :=
  evolves_mapQueue (fun input =>
    @PcmQueue.step_lasts input.queue _ _ .clear rfl) stream

theorem evolves_stats (now : Instant) (stream : SharedStream) :
    stream.Evolves (stream.mapQueue fun input => (input.stats now).1) :=
  evolves_mapQueue (fun input =>
    @PcmQueue.step_lasts input.queue _ _ (.stats now) rfl) stream

theorem queueClosed_close (stream : SharedStream) : (stream.mapQueue .close).QueueClosed := by
  intro next hnext
  obtain ⟨input, _, rfl⟩ := Option.map_eq_some_iff.mp hnext
  rfl

theorem drained_clear {stream : SharedStream} (hclosed : stream.QueueClosed) :
    (stream.mapQueue .clear).Drained := by
  intro next hnext
  obtain ⟨input, hinput, rfl⟩ := Option.map_eq_some_iff.mp hnext
  exact ⟨hclosed input hinput, rfl⟩

end SharedStream

namespace StreamRegistry

/-! ### Streams of the registry -/

abbrev Streams := AssocMap Nat SharedStream

def valueOf (streams : Streams) (counter : Counter) (s : Nat) : Nat :=
  (streams.lookup s).elim 0 fun stream => stream.live.values counter

def dropsOf (streams : Streams) (s : Nat) : Nat :=
  (streams.lookup s).elim 0 SharedStream.drops

def AllEvolve (before after : Streams) : Prop :=
  ∀ s, Option.Rel SharedStream.Evolves (before.lookup s) (after.lookup s)

variable {streams after : Streams} {s : Nat} {stream next : SharedStream}

theorem AllEvolve.trans {middle : Streams} (first : AllEvolve streams middle)
    (last : AllEvolve middle after) : AllEvolve streams after :=
  fun s => @rel_trans _ SharedStream.Evolves (fun _ _ _ => .trans) _ _ _ (first s) (last s)

theorem AllEvolve.insert (found : streams.lookup s = some stream) (evolves : stream.Evolves next) :
    AllEvolve streams (streams.insert s next) := by
  intro t
  rw [AssocMap.lookup_insert_ite]
  split
  · case isTrue heq =>
    rw [heq, found]
    exact .some evolves
  · exact rel_refl .refl _

theorem AllEvolve.modify {f : SharedStream → SharedStream}
    (evolves : ∀ stream : SharedStream, stream.Evolves (f stream)) :
    AllEvolve streams (AssocMap.modify s f streams) := by
  intro t
  rw [AssocMap.lookup_modify]
  split
  · cases streams.lookup t with
    | none => exact .none
    | some stream => exact .some (evolves stream)
  · exact rel_refl .refl _

theorem AllEvolve.forward (h : AllEvolve streams after) (found : streams.lookup s = some stream) :
    ∃ next, after.lookup s = some next ∧ stream.Evolves next := by
  have hs := h s
  rw [found] at hs
  generalize after.lookup s = other at hs
  cases hs with
  | some hevolves => exact ⟨_, rfl, hevolves⟩

theorem AllEvolve.backward (h : AllEvolve streams after) (found : after.lookup s = some next) :
    ∃ stream, streams.lookup s = some stream ∧ stream.Evolves next := by
  have hs := h s
  rw [found] at hs
  generalize streams.lookup s = other at hs
  cases hs with
  | some hevolves => exact ⟨_, rfl, hevolves⟩

theorem AllEvolve.drops_le (h : AllEvolve streams after) (s : Nat) :
    dropsOf streams s ≤ dropsOf after s := by
  have hs := h s
  simp only [dropsOf]
  generalize streams.lookup s = stream at hs
  generalize after.lookup s = next at hs
  cases hs with
  | none => exact Nat.le_refl _
  | some hevolves => exact hevolves.drops_le

theorem valueOf_insert (found : streams.lookup s = some stream)
    (same : next.live.values = stream.live.values) :
    valueOf (streams.insert s next) = valueOf streams := by
  funext counter t
  simp only [valueOf, AssocMap.lookup_insert_ite]
  split
  · case isTrue heq =>
    rw [heq, found]
    exact congrFun same counter
  · rfl

theorem valueOf_modify {f : SharedStream → SharedStream}
    (same : ∀ stream, (f stream).live.values = stream.live.values) (streams : Streams) :
    valueOf (AssocMap.modify s f streams) = valueOf streams := by
  funext counter t
  simp only [valueOf, AssocMap.lookup_modify]
  split
  · cases streams.lookup t with
    | none => rfl
    | some stream => exact congrFun (same stream) counter
  · rfl

/-- A sum over distinct streams of which one has changed. -/
theorem sum_change {l : List Nat} (nodup : l.Nodup) {f g : Nat → Nat} {s : Nat} (hs : s ∈ l)
    (others : ∀ t, t ≠ s → g t = f t) : (l.map g).sum + f s = (l.map f).sum + g s := by
  have hrest : (l.erase s).map g = (l.erase s).map f := by
    apply List.map_congr_left
    intro t ht
    exact others t ((nodup.mem_erase_iff.mp ht).1)
  rw [← List.sum_map_erase f hs, ← List.sum_map_erase g hs, hrest]
  omega

/-! ### The steps of the registry -/

/-- What a completion has done to the queue before each of its steps. -/
def Ready : Completion → SharedStream → Prop
  | .closing, _ | .queueClosing, _ => True
  | .clearing, stream => stream.QueueClosed
  | .counting, stream => stream.Drained

variable {float : FloatTime} {st result : StreamRegistry} {label : RegistryLabel}

inductive RegistryStep (st : StreamRegistry) : RegistryLabel → StreamRegistry → Prop
  | outside {label : RegistryLabel} {s : Nat} {next : SharedStream}
      (before : ∀ stream, st.streams.lookup s = some stream → stream.attached = false)
      (after : next.attached = false) :
      RegistryStep st label { st with streams := st.streams.insert s next }
  | lives {s : Nat} {label : LiveLabel} {stream : SharedStream} {live : LiveStream}
      (found : st.streams.lookup s = some stream)
      (counts : LiveStream.Counts stream.live live) :
      RegistryStep st (.live s label)
        { st with
          streams := st.streams.insert s { stream with live := live }
          totals := charge st.totals stream { stream with live := live } }
  | queues {label : RegistryLabel} {streams : Streams} (evolve : AllEvolve st.streams streams)
      (values : valueOf streams = valueOf st.streams) :
      RegistryStep st label { st with streams := streams }
  | attaches {s : Nat} {stream : SharedStream} (found : st.streams.lookup s = some stream)
      (detached : stream.attached = false) :
      RegistryStep st (.attachTotals s)
        { st with
          streams := st.streams.insert s { stream with attached := true }
          totals := fun counter => st.totals counter + stream.live.values counter
          begun := st.begun ++ [s] }
  | inserts {s : Nat} {stream : SharedStream} (found : st.streams.lookup s = some stream)
      (free : st.completing = []) (attached : stream.attached = true) (fresh : s ∉ st.inserted) :
      RegistryStep st (.insert s)
        { st with
          inner := st.inner.insert stream.sessionId s
          inserted := st.inserted ++ [s]
          completing :=
            (st.inner.lookup stream.sessionId).toList.map fun previous => (previous, .closing) }
  | removes {sessionId : SessionId} (free : st.completing = []) :
      RegistryStep st (.remove sessionId)
        { st with
          inner := st.inner.erase sessionId
          completing := (st.inner.lookup sessionId).toList.map fun s => (s, .closing) }
  | closesAll (free : st.completing = []) :
      RegistryStep st .closeAll
        { st with
          inner := ∅
          completing := (AssocMap.values st.inner).map fun s => (s, .closing) }
  | completes {now : Instant} {s : Nat} {phase next : Completion} {rest : List (Nat × Completion)}
      {f : SharedStream → SharedStream} (head : st.completing = (s, phase) :: rest)
      (evolves : ∀ stream : SharedStream, stream.Evolves (f stream))
      (values : ∀ stream, (f stream).live.values = stream.live.values)
      (ready : ∀ stream, Ready phase stream → Ready next (f stream)) :
      RegistryStep st (.complete now)
        { st.modify s f with completing := (s, next) :: rest }
  | counts {now : Instant} {s : Nat} {rest : List (Nat × Completion)}
      (head : st.completing = (s, .counting) :: rest) :
      RegistryStep st (.complete now)
        { st.modify s fun stream => stream.mapQueue fun input => (input.stats now).1 with
          completedPcmDrops := st.completedPcmDrops + st.queueDrops s now
          completing := rest
          completed := st.completed ++ [s] }
  | records {count : Nat} :
      RegistryStep st (.recordAdapterDrops count)
        { st with
          completedPcmDrops := st.completedPcmDrops + count
          adapterDrops := st.adapterDrops + count }
  | reads {now : Instant} (free : st.completing = []) :
      RegistryStep st (.metrics now)
        { st with
          streams := (statQueues now (AssocMap.values st.inner) st.streams).1
          reports := st.reports ++
            [st.metricsText (statQueues now (AssocMap.values st.inner) st.streams).2] }

theorem step_cases (taken : st.step float label = some result) : RegistryStep st label result := by
  cases label with
  | new s sessionId =>
    simp only [step] at taken
    split at taken
    · cases taken
    · case isFalse hfresh =>
      cases taken
      apply RegistryStep.outside
      · intro stream hstream
        rw [hstream] at hfresh
        exact absurd rfl hfresh
      · rfl
  | setInputQueue s queue =>
    simp only [step, setInputQueue, Option.bind_eq_bind, Option.bind_eq_some_iff] at taken
    obtain ⟨stream, hfound, hset⟩ := taken
    split at hset
    · cases hset
    · case isFalse hdetached =>
      simp only [Bool.or_eq_true, not_or, Bool.not_eq_true] at hdetached
      cases hset
      simp only [modify, AssocMap.modify, hfound]
      apply RegistryStep.outside
      · intro other hother
        rw [hfound] at hother
        cases hother
        exact hdetached.1
      · exact hdetached.1
  | live s label =>
    simp only [step, live, Option.bind_eq_bind, Option.bind_eq_some_iff] at taken
    obtain ⟨stream, hfound, live, hlive, hresult⟩ := taken
    cases hresult
    exact .lives hfound (LiveStream.counts_step hlive)
  | queue s label =>
    simp only [step, queue, Option.bind_eq_bind, Option.bind_eq_some_iff] at taken
    obtain ⟨stream, hfound, input, hinput, next, hnext, hresult⟩ := taken
    cases hresult
    obtain ⟨ledger, hledger, rfl⟩ := Option.map_eq_some_iff.mp hnext
    refine .queues (.insert hfound ⟨rfl, fun _ => Nat.le_refl _, ?_⟩) (valueOf_insert hfound rfl)
    rw [hinput]
    exact .some (PcmQueue.step_lasts hledger)
  | attachTotals s =>
    simp only [step, attachTotals, Option.bind_eq_bind, Option.bind_eq_some_iff] at taken
    obtain ⟨stream, hfound, hattach⟩ := taken
    split at hattach
    · cases hattach
      exact .queues (fun _ => rel_refl .refl _) rfl
    · case isFalse hdetached =>
      cases hattach
      simp only [modify, AssocMap.modify, hfound]
      exact .attaches hfound (Bool.not_eq_true _ ▸ hdetached)
  | insert s =>
    simp only [step, insert, Option.bind_eq_bind, Option.bind_eq_some_iff] at taken
    obtain ⟨stream, hfound, hinsert⟩ := taken
    split at hinsert
    · cases hinsert
    · case isFalse hallowed =>
      simp only [not_or, not_not, Bool.not_eq_false] at hallowed
      cases hinsert
      exact .inserts hfound hallowed.1 hallowed.2.1 hallowed.2.2
  | remove sessionId =>
    simp only [step, remove] at taken
    split at taken
    · cases taken
    · case isFalse hfree =>
      cases taken
      exact .removes (not_not.mp hfree)
  | closeAll =>
    simp only [step, closeAll] at taken
    split at taken
    · cases taken
    · case isFalse hfree =>
      cases taken
      exact .closesAll (not_not.mp hfree)
  | complete now =>
    simp only [step, complete] at taken
    split at taken
    · cases taken
    · case h_2 s rest hhead =>
      cases taken
      apply RegistryStep.completes hhead
      · intro stream
        exact ⟨rfl, .of_eq rfl rfl rfl, rel_refl (fun _ => .refl _) _⟩
      · intro stream
        rfl
      · intro stream _
        trivial
    · case h_3 s rest hhead =>
      cases taken
      apply RegistryStep.completes hhead SharedStream.evolves_closeQueue
      · intro stream
        rfl
      · intro stream _
        exact stream.queueClosed_close
    · case h_4 s rest hhead =>
      cases taken
      apply RegistryStep.completes hhead SharedStream.evolves_clearQueue
      · intro stream
        rfl
      · intro stream hclosed
        exact SharedStream.drained_clear hclosed
    · case h_5 s rest hhead =>
      cases taken
      exact .counts hhead
  | recordAdapterDrops count =>
    cases taken
    exact .records
  | metrics now =>
    simp only [step, metrics] at taken
    split at taken
    · cases taken
    · case isFalse hfree =>
      cases taken
      exact .reads (not_not.mp hfree)

/-! ### The totals -/

/-- The totals are the sums over the streams that are attached to them. -/
structure Counted (st : StreamRegistry) : Prop where
  nodup : st.begun.Nodup
  attached : ∀ s ∈ st.begun, ∃ stream, st.streams.lookup s = some stream ∧ stream.attached = true
  begun : ∀ s stream, st.streams.lookup s = some stream → stream.attached = true → s ∈ st.begun
  totals : ∀ counter, st.totals counter = (st.begun.map (valueOf st.streams counter)).sum

theorem Counted.evolve (h : Counted st) {streams : Streams} {totals : Totals}
    (evolve : AllEvolve st.streams streams)
    (balance : ∀ counter, totals counter = (st.begun.map (valueOf streams counter)).sum) :
    Counted { st with streams := streams, totals := totals } where
  nodup := h.nodup
  attached := by
    intro s hs
    obtain ⟨stream, hfound, hattached⟩ := h.attached s hs
    obtain ⟨next, hnext, hevolves⟩ := evolve.forward hfound
    exact ⟨next, hnext, hevolves.attached.trans hattached⟩
  begun := by
    intro s next hnext hattached
    obtain ⟨stream, hfound, hevolves⟩ := evolve.backward hnext
    exact h.begun s stream hfound (hevolves.attached.symm.trans hattached)
  totals := balance

theorem Counted.same (h : Counted st) {streams : Streams} (evolve : AllEvolve st.streams streams)
    (values : valueOf streams = valueOf st.streams) : Counted { st with streams := streams } := by
  apply h.evolve evolve
  rw [values]
  exact h.totals

/-- What `add_counter` adds, it adds to the sum. -/
theorem Counted.charge (h : Counted st) {s : Nat} {stream next : SharedStream}
    (found : st.streams.lookup s = some stream)
    (counts : LiveStream.Counts stream.live next.live) (counter : Counter) :
    charge st.totals stream next counter =
      (st.begun.map (valueOf (st.streams.insert s next) counter)).sum := by
  have hold : valueOf st.streams counter s = stream.live.values counter := by
    rw [valueOf, found]
    rfl
  have hnew : valueOf (st.streams.insert s next) counter s = next.live.values counter := by
    rw [valueOf, AList.lookup_insert]
    rfl
  have hothers : ∀ t, t ≠ s →
      valueOf (st.streams.insert s next) counter t = valueOf st.streams counter t := by
    intro t ht
    rw [valueOf, AList.lookup_insert_ne ht, valueOf]
  have hcounts := counts counter
  have htotals := h.totals counter
  simp only [StreamRegistry.charge]
  split
  · case isTrue hattached =>
    have hchange := sum_change h.nodup (h.begun s stream found hattached) hothers
    rw [hold, hnew] at hchange
    show st.totals counter + _ = _
    omega
  · case isFalse hdetached =>
    have hsame : st.begun.map (valueOf (st.streams.insert s next) counter) =
        st.begun.map (valueOf st.streams counter) := by
      apply List.map_congr_left
      intro t ht
      apply hothers t
      rintro rfl
      obtain ⟨other, hother, hattached⟩ := h.attached t ht
      rw [found] at hother
      cases hother
      exact hdetached hattached
    rw [hsame]
    exact htotals

theorem statQueues_evolve (now : Instant) (ids : List Nat) (streams : Streams) :
    AllEvolve streams (statQueues now ids streams).1 := by
  induction ids generalizing streams with
  | nil => exact fun _ => rel_refl .refl _
  | cons s rest ih => exact AllEvolve.trans (.modify (SharedStream.evolves_stats now)) (ih _)

theorem valueOf_stats (now : Instant) (s : Nat) (streams : Streams) :
    valueOf (AssocMap.modify s
      (fun stream => stream.mapQueue fun input => (input.stats now).1) streams) = valueOf streams := by
  apply valueOf_modify
  intro stream
  rfl

theorem statQueues_values (now : Instant) (ids : List Nat) (streams : Streams) :
    valueOf (statQueues now ids streams).1 = valueOf streams := by
  induction ids generalizing streams with
  | nil => rfl
  | cons s rest ih => exact (ih _).trans (valueOf_stats now s streams)

theorem statQueues_other {now : Instant} {ids : List Nat} {s : Nat} (hs : s ∉ ids)
    (streams : Streams) : (statQueues now ids streams).1.lookup s = streams.lookup s := by
  induction ids generalizing streams with
  | nil => rfl
  | cons t rest ih =>
    rw [List.mem_cons, not_or] at hs
    simp only [statQueues]
    rw [ih hs.2, AssocMap.lookup_modify, if_neg hs.1]

/-- What is reported for a queue is what it has dropped once it was read. -/
theorem stat_drops (now : Instant) (s : Nat) (streams : Streams) :
    dropsOf (AssocMap.modify s
        (fun stream => stream.mapQueue fun input => (input.stats now).1) streams) s =
      ((streams.lookup s).bind SharedStream.inputQueue).elim 0 fun input =>
        (input.stats now).2.droppedFrames := by
  rw [dropsOf, AssocMap.lookup_modify, if_pos rfl]
  cases streams.lookup s with
  | none => rfl
  | some stream =>
    simp only [Option.map_some, Option.elim_some, Option.bind_some, SharedStream.drops,
      SharedStream.mapQueue]
    cases stream.inputQueue with
    | none => rfl
    | some input => rfl

theorem statQueues_drops (now : Instant) {ids : List Nat} (nodup : ids.Nodup) (streams : Streams) :
    ((statQueues now ids streams).2.map (·.droppedFrames)).sum =
      (ids.map (dropsOf (statQueues now ids streams).1)).sum := by
  induction ids generalizing streams with
  | nil => rfl
  | cons s rest ih =>
    obtain ⟨hs, hrest⟩ := List.nodup_cons.mp nodup
    have hfirst := stat_drops now s streams
    simp only [statQueues, List.map_append, List.sum_append, List.map_cons, List.sum_cons]
    rw [ih hrest, dropsOf, statQueues_other hs, ← dropsOf, hfirst]
    cases (streams.lookup s).bind SharedStream.inputQueue with
    | none => rfl
    | some input => rfl

theorem Counted.attach (h : Counted st) {s : Nat} {stream : SharedStream}
    (found : st.streams.lookup s = some stream) (detached : stream.attached = false) :
    Counted { st with
      streams := st.streams.insert s { stream with attached := true }
      totals := fun counter => st.totals counter + stream.live.values counter
      begun := st.begun ++ [s] } := by
  have hs : s ∉ st.begun := by
    intro hs
    obtain ⟨other, hother, hattached⟩ := h.attached s hs
    rw [found] at hother
    cases hother
    rw [detached] at hattached
    cases hattached
  constructor
  · exact List.nodup_append.mpr ⟨h.nodup, List.nodup_singleton s, fun t ht u hu => by
      rw [List.mem_singleton.mp hu]
      rintro rfl
      exact hs ht⟩
  · intro t ht
    rw [AssocMap.lookup_insert_ite]
    split
    · exact ⟨_, rfl, rfl⟩
    · case isFalse hne =>
      obtain hbefore | hnew := List.mem_append.mp ht
      · exact h.attached t hbefore
      · exact absurd (List.mem_singleton.mp hnew) hne
  · intro t next hnext hattached
    rw [AssocMap.lookup_insert_ite] at hnext
    split at hnext
    · case isTrue heq =>
      rw [heq]
      exact List.mem_append_right _ (List.mem_singleton_self s)
    · exact List.mem_append_left _ (h.begun t next hnext hattached)
  · intro counter
    have hvalue : valueOf st.streams counter s = stream.live.values counter := by
      rw [valueOf, found]
      rfl
    have hsame : valueOf (st.streams.insert s { stream with attached := true }) =
        valueOf st.streams := valueOf_insert found rfl
    show st.totals counter + _ = ((st.begun ++ [s]).map
      (valueOf (st.streams.insert s { stream with attached := true }) counter)).sum
    rw [hsame, List.map_append, List.sum_append, ← h.totals counter,
      List.map_singleton, List.sum_singleton, hvalue]

theorem Counted.outside (h : Counted st) {s : Nat} {next : SharedStream}
    (before : ∀ stream, st.streams.lookup s = some stream → stream.attached = false)
    (after : next.attached = false) : Counted { st with streams := st.streams.insert s next } := by
  have hs : ∀ t ∈ st.begun, t ≠ s := by
    rintro t ht rfl
    obtain ⟨stream, hfound, hattached⟩ := h.attached t ht
    rw [before stream hfound] at hattached
    cases hattached
  constructor
  · exact h.nodup
  · intro t ht
    rw [AList.lookup_insert_ne (hs t ht)]
    exact h.attached t ht
  · intro t other hother hattached
    rw [AssocMap.lookup_insert_ite] at hother
    split at hother
    · cases hother
      rw [after] at hattached
      cases hattached
    · exact h.begun t other hother hattached
  · intro counter
    rw [h.totals counter]
    apply congrArg List.sum
    apply List.map_congr_left
    intro t ht
    rw [valueOf, valueOf, AList.lookup_insert_ne (hs t ht)]

theorem Counted.step (h : Counted st) (taken : RegistryStep st label result) : Counted result := by
  cases taken with
  | outside before after => exact h.outside before after
  | @lives s label stream live found counts =>
    exact h.evolve (.insert found ⟨rfl, counts, rel_refl (fun _ => .refl _) _⟩)
      (h.charge found counts)
  | queues evolve values => exact h.same evolve values
  | attaches found detached => exact h.attach found detached
  | inserts => exact ⟨h.nodup, h.attached, h.begun, h.totals⟩
  | removes => exact ⟨h.nodup, h.attached, h.begun, h.totals⟩
  | closesAll => exact ⟨h.nodup, h.attached, h.begun, h.totals⟩
  | @completes now s phase next rest f head evolves values =>
    have hsame : Counted (st.modify s f) := h.same (.modify evolves) (valueOf_modify values _)
    exact ⟨hsame.nodup, hsame.attached, hsame.begun, hsame.totals⟩
  | @counts now s rest head =>
    have hsame := h.same (.modify (SharedStream.evolves_stats now))
      (valueOf_stats now s st.streams)
    exact ⟨hsame.nodup, hsame.attached, hsame.begun, hsame.totals⟩
  | records => exact ⟨h.nodup, h.attached, h.begun, h.totals⟩
  | @reads now free =>
    have hsame := h.same (statQueues_evolve now (AssocMap.values st.inner) st.streams)
      (statQueues_values now _ st.streams)
    exact ⟨hsame.nodup, hsame.attached, hsame.begun, hsame.totals⟩

/-! ### The drops -/

/-- Every inserted stream is registered, being completed or completed, and what is completed
was counted and drops nothing more. -/
structure Tallied (st : StreamRegistry) : Prop where
  places : st.inserted.Perm
    (AssocMap.values st.inner ++ st.completing.map Prod.fst ++ st.completed)
  nodup : st.inserted.Nodup
  begun : ∀ s ∈ st.inserted, s ∈ st.begun
  ready : ∀ entry ∈ st.completing, ∀ stream, st.streams.lookup entry.1 = some stream →
    Ready entry.2 stream
  drained : ∀ s ∈ st.completed, ∀ stream, st.streams.lookup s = some stream → stream.Drained
  drops : st.completedPcmDrops = st.adapterDrops + (st.completed.map (dropsOf st.streams)).sum

theorem Ready.evolve {phase : Completion} {stream next : SharedStream} (h : Ready phase stream)
    (evolves : stream.Evolves next) : Ready phase next := by
  cases phase with
  | closing => trivial
  | queueClosing => trivial
  | clearing => exact evolves.queueClosed h
  | counting => exact (evolves.drained h).1

theorem Tallied.completed_inserted (h : Tallied st) {s : Nat} (hs : s ∈ st.completed) :
    s ∈ st.inserted :=
  h.places.mem_iff.mpr (List.mem_append_right _ hs)

theorem Tallied.completing_inserted (h : Tallied st) {entry : Nat × Completion}
    (hentry : entry ∈ st.completing) : entry.1 ∈ st.inserted :=
  h.places.mem_iff.mpr
    (List.mem_append_left _ (List.mem_append_right _ (List.mem_map_of_mem hentry)))

theorem drops_drained {streams after : Streams} (evolve : AllEvolve streams after) {s : Nat}
    (drained : ∀ stream, streams.lookup s = some stream → stream.Drained) :
    dropsOf after s = dropsOf streams s := by
  have hs := evolve s
  simp only [dropsOf]
  generalize streams.lookup s = stream at hs drained
  generalize after.lookup s = next at hs
  cases hs with
  | none => rfl
  | some hevolves => exact (hevolves.drained (drained _ rfl)).2

theorem Tallied.evolve (h : Tallied st) {streams : Streams} {totals : Totals}
    (evolve : AllEvolve st.streams streams) :
    Tallied { st with streams := streams, totals := totals } where
  places := h.places
  nodup := h.nodup
  begun := h.begun
  ready := by
    intro entry hentry next hnext
    obtain ⟨stream, hfound, hevolves⟩ := evolve.backward hnext
    exact (h.ready entry hentry stream hfound).evolve hevolves
  drained := by
    intro s hs next hnext
    obtain ⟨stream, hfound, hevolves⟩ := evolve.backward hnext
    exact (hevolves.drained (h.drained s hs stream hfound)).1
  drops := by
    rw [h.drops]
    apply congrArg (st.adapterDrops + List.sum ·)
    apply List.map_congr_left
    intro s hs
    exact (drops_drained evolve (h.drained s hs)).symm

theorem drops_same {streams after : Streams} {l : List Nat}
    (same : ∀ s ∈ l, after.lookup s = streams.lookup s) :
    (l.map (dropsOf streams)).sum = (l.map (dropsOf after)).sum := by
  apply congrArg List.sum
  apply List.map_congr_left
  intro s hs
  rw [dropsOf, dropsOf, same s hs]

/-- Streams that were not inserted do not matter. -/
theorem Tallied.other (h : Tallied st) {streams : Streams} {totals : Totals} {begun : List Nat}
    (same : ∀ s ∈ st.inserted, streams.lookup s = st.streams.lookup s)
    (still : ∀ s ∈ st.begun, s ∈ begun) :
    Tallied { st with streams := streams, totals := totals, begun := begun } where
  places := h.places
  nodup := h.nodup
  begun := fun s hs => still s (h.begun s hs)
  ready := by
    intro entry hentry stream hfound
    rw [same _ (h.completing_inserted hentry)] at hfound
    exact h.ready entry hentry stream hfound
  drained := by
    intro s hs stream hfound
    rw [same s (h.completed_inserted hs)] at hfound
    exact h.drained s hs stream hfound
  drops := by
    rw [h.drops]
    exact congrArg _ (drops_same fun s hs => same s (h.completed_inserted hs))

theorem Counted.ne_of_detached (counted : Counted st) (h : Tallied st) {s : Nat}
    (before : ∀ stream, st.streams.lookup s = some stream → stream.attached = false) :
    ∀ t ∈ st.inserted, t ≠ s := by
  rintro t ht rfl
  obtain ⟨stream, hfound, hattached⟩ := counted.attached t (h.begun t ht)
  rw [before stream hfound] at hattached
  cases hattached

/-- What is taken out of the registry is the rest of it. -/
theorem values_split (inner : AssocMap SessionId Nat) (sessionId : SessionId) :
    (AssocMap.values inner).Perm
      (AssocMap.values (inner.erase sessionId) ++ (inner.lookup sessionId).toList) := by
  cases hprevious : inner.lookup sessionId with
  | none =>
    rw [AssocMap.erase_of_lookup_none hprevious, Option.toList_none, List.append_nil]
  | some previous =>
    rw [Option.toList_some]
    exact (AssocMap.values_perm_erase hprevious).trans (List.perm_append_singleton _ _).symm

@[simp] theorem closing_streams (l : List Nat) :
    (l.map fun s => (s, Completion.closing)).map Prod.fst = l := by
  rw [List.map_map]
  exact List.map_id l

theorem ready_closing (l : List Nat) :
    ∀ entry ∈ l.map fun s => (s, Completion.closing), ∀ stream, Ready entry.2 stream := by
  intro entry hentry stream
  obtain ⟨s, _, rfl⟩ := List.mem_map.mp hentry
  trivial

theorem Tallied.insert (counted : Counted st) (h : Tallied st) {s : Nat} {stream : SharedStream}
    (found : st.streams.lookup s = some stream) (free : st.completing = [])
    (attached : stream.attached = true) (fresh : s ∉ st.inserted) :
    Tallied { st with
      inner := st.inner.insert stream.sessionId s
      inserted := st.inserted ++ [s]
      completing :=
        (st.inner.lookup stream.sessionId).toList.map fun previous => (previous, .closing) } where
  places := by
    have hplaces := h.places
    rw [free, List.map_nil, List.append_nil] at hplaces
    rw [AssocMap.values_insert, closing_streams]
    exact List.perm_append_comm.trans
      ((hplaces.trans ((values_split st.inner stream.sessionId).append_right _)).cons s)
  nodup := by
    rw [List.nodup_append]
    refine ⟨h.nodup, List.nodup_singleton s, ?_⟩
    intro t ht u hu
    rw [List.mem_singleton.mp hu]
    rintro rfl
    exact fresh ht
  begun := by
    intro t ht
    obtain hbefore | hnew := List.mem_append.mp ht
    · exact h.begun t hbefore
    · rw [List.mem_singleton.mp hnew]
      exact counted.begun s stream found attached
  ready := fun entry hentry stream _ => ready_closing _ entry hentry stream
  drained := h.drained
  drops := h.drops

/-- Streams that were registered wait to be completed. -/
theorem Tallied.takeOut (h : Tallied st) (free : st.completing = []) {inner : AssocMap SessionId Nat}
    {out : List Nat} (split : (AssocMap.values st.inner).Perm (AssocMap.values inner ++ out)) :
    Tallied { st with
      inner := inner
      completing := out.map fun s => (s, .closing) } where
  places := by
    have hplaces := h.places
    rw [free, List.map_nil, List.append_nil] at hplaces
    rw [closing_streams]
    exact hplaces.trans (split.append_right _)
  nodup := h.nodup
  begun := h.begun
  ready := fun entry hentry stream _ => ready_closing _ entry hentry stream
  drained := h.drained
  drops := h.drops

theorem Tallied.complete (h : Tallied st) {s : Nat} {phase next : Completion}
    {rest : List (Nat × Completion)} {f : SharedStream → SharedStream}
    (head : st.completing = (s, phase) :: rest)
    (evolves : ∀ stream : SharedStream, stream.Evolves (f stream))
    (ready : ∀ stream, Ready phase stream → Ready next (f stream)) :
    Tallied { st.modify s f with completing := (s, next) :: rest } := by
  have hnext : Tallied (st.modify s f) := h.evolve (.modify evolves)
  refine ⟨?_, hnext.nodup, hnext.begun, ?_, hnext.drained, hnext.drops⟩
  · have hplaces := h.places
    rw [head] at hplaces
    exact hplaces
  · intro entry hentry stream hfound
    obtain rfl | hrest := List.mem_cons.mp hentry
    · rw [modify, AssocMap.lookup_modify, if_pos rfl] at hfound
      obtain ⟨before, hbefore, rfl⟩ := Option.map_eq_some_iff.mp hfound
      apply ready
      apply h.ready (s, phase) _ before hbefore
      rw [head]
      exact List.mem_cons_self
    · apply hnext.ready entry _ stream hfound
      show entry ∈ st.completing
      rw [head]
      exact List.mem_cons_of_mem _ hrest

theorem Tallied.count (h : Tallied st) {s : Nat} {rest : List (Nat × Completion)} (now : Instant)
    (head : st.completing = (s, .counting) :: rest) :
    Tallied { st.modify s fun stream => stream.mapQueue fun input => (input.stats now).1 with
      completedPcmDrops := st.completedPcmDrops + st.queueDrops s now
      completing := rest
      completed := st.completed ++ [s] } := by
  have hnext : Tallied (st.modify s fun stream => stream.mapQueue fun input => (input.stats now).1) :=
    h.evolve (.modify (SharedStream.evolves_stats now))
  have hhead : (s, Completion.counting) ∈ st.completing := by
    rw [head]
    exact List.mem_cons_self
  refine ⟨?_, hnext.nodup, hnext.begun, ?_, ?_, ?_⟩
  · have hplaces := h.places
    rw [head] at hplaces
    refine hplaces.trans ?_
    simp only [List.map_cons, List.append_assoc]
    apply List.Perm.append_left
    rw [List.cons_append, ← List.append_assoc]
    exact (List.perm_append_singleton _ _).symm
  · intro entry hentry stream hfound
    apply hnext.ready entry _ stream hfound
    show entry ∈ st.completing
    rw [head]
    exact List.mem_cons_of_mem _ hentry
  · intro t ht stream hfound
    obtain hbefore | hnew := List.mem_append.mp ht
    · exact hnext.drained t hbefore stream hfound
    · rw [List.mem_singleton.mp hnew] at hfound
      exact hnext.ready _ hhead stream hfound
  · have hdrops := hnext.drops
    have hstat := stat_drops now s st.streams
    rw [List.map_append, List.sum_append, List.map_singleton, List.sum_singleton, ← Nat.add_assoc]
    exact congrArg₂ (· + ·) hdrops hstat.symm

theorem Tallied.step (counted : Counted st) (h : Tallied st) (taken : RegistryStep st label result) :
    Tallied result := by
  cases taken with
  | @outside label s next before after =>
    apply h.other _ fun _ => id
    intro t ht
    exact AList.lookup_insert_ne (counted.ne_of_detached h before t ht)
  | lives found counts =>
    exact h.evolve (.insert found ⟨rfl, counts, rel_refl (fun _ => .refl _) _⟩)
  | queues evolve values => exact h.evolve evolve
  | @attaches s stream found detached =>
    apply h.other
    · intro t ht
      apply AList.lookup_insert_ne
      apply counted.ne_of_detached h _ t ht
      intro other hother
      rw [found] at hother
      cases hother
      exact detached
    · exact fun _ => List.mem_append_left _
  | inserts found free attached fresh => exact h.insert counted found free attached fresh
  | removes free => exact h.takeOut free (values_split _ _)
  | closesAll free => exact h.takeOut free (.refl _)
  | completes head evolves values ready => exact h.complete head evolves ready
  | @counts now s rest head => exact h.count now head
  | records =>
    refine ⟨h.places, h.nodup, h.begun, h.ready, h.drained, ?_⟩
    show st.completedPcmDrops + _ = st.adapterDrops + _ + _
    rw [h.drops]
    exact Nat.add_right_comm _ _ _
  | @reads now free =>
    have hnext : Tallied { st with
        streams := (statQueues now (AssocMap.values st.inner) st.streams).1 } :=
      h.evolve (statQueues_evolve now (AssocMap.values st.inner) st.streams)
    exact ⟨hnext.places, hnext.nodup, hnext.begun, hnext.ready, hnext.drained, hnext.drops⟩

/-! ### Every run -/

/-- The adapter's drops and those of every queue that was registered. -/
def pcmDrops (st : StreamRegistry) : Nat :=
  st.adapterDrops + (st.inserted.map (dropsOf st.streams)).sum

/-- No count is lower than it was. -/
structure Grows (st after : StreamRegistry) : Prop where
  totals : ∀ counter, st.totals counter ≤ after.totals counter
  pcmDrops : st.pcmDrops ≤ after.pcmDrops

theorem drops_evolve {streams after : Streams} (evolve : AllEvolve streams after) (l : List Nat) :
    (l.map (dropsOf streams)).sum ≤ (l.map (dropsOf after)).sum :=
  List.sum_le_sum fun s _ => evolve.drops_le s

theorem grows_step (counted : Counted st) (h : Tallied st) (taken : RegistryStep st label result) :
    Grows st result := by
  cases taken with
  | @outside label s next before after =>
    refine ⟨fun _ => Nat.le_refl _, Nat.add_le_add_left (Nat.le_of_eq (drops_same ?_)) _⟩
    intro t ht
    exact AList.lookup_insert_ne (counted.ne_of_detached h before t ht)
  | @lives s label stream live found counts =>
    refine ⟨?_, Nat.add_le_add_left (drops_evolve (.insert found ?_) _) _⟩
    · intro counter
      simp only [charge]
      split
      · exact Nat.le_add_right _ _
      · exact Nat.le_refl _
    · exact ⟨rfl, counts, rel_refl (fun _ => .refl _) _⟩
  | queues evolve values =>
    exact ⟨fun _ => Nat.le_refl _, Nat.add_le_add_left (drops_evolve evolve _) _⟩
  | @attaches s stream found detached =>
    refine ⟨fun _ => Nat.le_add_right _ _, Nat.add_le_add_left (Nat.le_of_eq (drops_same ?_)) _⟩
    intro t ht
    apply AList.lookup_insert_ne
    apply counted.ne_of_detached h _ t ht
    intro other hother
    rw [found] at hother
    cases hother
    exact detached
  | inserts =>
    refine ⟨fun _ => Nat.le_refl _, ?_⟩
    simp only [pcmDrops, List.map_append, List.sum_append]
    omega
  | removes => exact ⟨fun _ => Nat.le_refl _, Nat.le_refl _⟩
  | closesAll => exact ⟨fun _ => Nat.le_refl _, Nat.le_refl _⟩
  | completes head evolves =>
    exact ⟨fun _ => Nat.le_refl _, Nat.add_le_add_left (drops_evolve (.modify evolves) _) _⟩
  | @counts now s rest head =>
    refine ⟨fun _ => Nat.le_refl _, Nat.add_le_add_left (drops_evolve (.modify ?_) _) _⟩
    exact SharedStream.evolves_stats now
  | records =>
    refine ⟨fun _ => Nat.le_refl _, ?_⟩
    simp only [pcmDrops]
    omega
  | @reads now free =>
    refine ⟨fun _ => Nat.le_refl _, Nat.add_le_add_left (drops_evolve ?_ _) _⟩
    exact statQueues_evolve now _ st.streams

/-- What a report counts is at most what is counted now. -/
structure Past (report : Metrics) (st : StreamRegistry) : Prop where
  served : report.bytesServed ≤ st.totals .consumed
  dropped : report.bytesDropped ≤ st.totals .dropped
  skipped : report.bytesSkipped ≤ st.totals .skipped
  queueDrops : report.queueDrops ≤ st.pcmDrops

/-- A report gives the totals and the drops as they are when it is made. -/
structure Current (report : Metrics) (st : StreamRegistry) : Prop where
  served : report.bytesServed = st.totals .consumed
  dropped : report.bytesDropped = st.totals .dropped
  skipped : report.bytesSkipped = st.totals .skipped
  queueDrops : report.queueDrops = st.pcmDrops

/-- No counter of the second report is lower than in the first. -/
structure Metrics.NotAfter (first second : Metrics) : Prop where
  served : first.bytesServed ≤ second.bytesServed
  dropped : first.bytesDropped ≤ second.bytesDropped
  skipped : first.bytesSkipped ≤ second.bytesSkipped
  queueDrops : first.queueDrops ≤ second.queueDrops

theorem Past.grows {report : Metrics} (h : Past report st) (grows : Grows st result) :
    Past report result where
  served := h.served.trans (grows.totals _)
  dropped := h.dropped.trans (grows.totals _)
  skipped := h.skipped.trans (grows.totals _)
  queueDrops := h.queueDrops.trans grows.pcmDrops

theorem Current.past {report : Metrics} (h : Current report st) : Past report st :=
  ⟨h.served.le, h.dropped.le, h.skipped.le, h.queueDrops.le⟩

theorem Past.notAfter {report last : Metrics} (h : Past report st) (current : Current last st) :
    Metrics.NotAfter report last where
  served := h.served.trans current.served.ge
  dropped := h.dropped.trans current.dropped.ge
  skipped := h.skipped.trans current.skipped.ge
  queueDrops := h.queueDrops.trans current.queueDrops.ge

/-- While nobody holds the write lock every inserted stream is registered or completed. -/
theorem Tallied.reported (h : Tallied st) (free : st.completing = []) (now : Instant) :
    st.completedPcmDrops +
        ((statQueues now (AssocMap.values st.inner) st.streams).2.map (·.droppedFrames)).sum =
      st.adapterDrops + (st.inserted.map
        (dropsOf (statQueues now (AssocMap.values st.inner) st.streams).1)).sum := by
  have hplaces := h.places
  rw [free, List.map_nil, List.append_nil] at hplaces
  have hnodup : (AssocMap.values st.inner).Nodup := by
    have hall := hplaces.nodup_iff.mp h.nodup
    exact (List.nodup_append.mp hall).1
  have hqueues := statQueues_drops now hnodup st.streams
  have hevolve := statQueues_evolve now (AssocMap.values st.inner) st.streams
  generalize statQueues now (AssocMap.values st.inner) st.streams = read at hqueues hevolve ⊢
  have hcompleted : (st.completed.map (dropsOf read.1)).sum =
      (st.completed.map (dropsOf st.streams)).sum := by
    apply congrArg List.sum
    apply List.map_congr_left
    intro s hs
    exact drops_drained hevolve (h.drained s hs)
  have hsum := (hplaces.map (dropsOf read.1)).sum_eq
  rw [List.map_append, List.sum_append] at hsum
  have hdrops := h.drops
  omega

theorem reads_current (h : Tallied st) (free : st.completing = []) (now : Instant) :
    Current (st.metricsText (statQueues now (AssocMap.values st.inner) st.streams).2)
      { st with
        streams := (statQueues now (AssocMap.values st.inner) st.streams).1
        reports := st.reports ++
          [st.metricsText (statQueues now (AssocMap.values st.inner) st.streams).2] } :=
  ⟨rfl, rfl, rfl, h.reported free now⟩

/-- The reports are in order, and none counts more than there is. -/
structure Reported (st : StreamRegistry) : Prop where
  past : ∀ report ∈ st.reports, Past report st
  ordered : st.reports.Pairwise Metrics.NotAfter

theorem Reported.same (h : Reported st) (grows : Grows st result)
    (reports : result.reports = st.reports) : Reported result where
  past := by
    rw [reports]
    intro report hreport
    exact (h.past report hreport).grows grows
  ordered := reports ▸ h.ordered

theorem Reported.step (counted : Counted st) (tallied : Tallied st) (h : Reported st)
    (taken : RegistryStep st label result) : Reported result := by
  have hgrows := grows_step counted tallied taken
  cases taken with
  | outside => exact h.same hgrows rfl
  | lives => exact h.same hgrows rfl
  | queues => exact h.same hgrows rfl
  | attaches => exact h.same hgrows rfl
  | inserts => exact h.same hgrows rfl
  | removes => exact h.same hgrows rfl
  | closesAll => exact h.same hgrows rfl
  | completes => exact h.same hgrows rfl
  | counts => exact h.same hgrows rfl
  | records => exact h.same hgrows rfl
  | @reads now free =>
    have hcurrent := reads_current tallied free now
    constructor
    · intro report hreport
      obtain hbefore | hlast := List.mem_append.mp hreport
      · exact (h.past report hbefore).grows hgrows
      · rw [List.mem_singleton.mp hlast]
        exact hcurrent.past
    · refine List.pairwise_append.mpr ⟨h.ordered, List.pairwise_singleton _ _, ?_⟩
      intro report hreport last hlast
      rw [List.mem_singleton.mp hlast]
      exact ((h.past report hreport).grows hgrows).notAfter hcurrent

theorem counted_reachable (h : (registry float).Reachable st) : Counted st := by
  apply h.invariant
  · refine ⟨List.nodup_nil, List.forall_mem_nil _, ?_, fun _ => rfl⟩
    intro s stream hfound
    cases hfound
  · intro before label next hbefore taken
    exact hbefore.step (step_cases taken)

theorem tallied_reachable (h : (registry float).Reachable st) : Tallied st := by
  apply h.invariant_with (fun _ => counted_reachable)
  · exact ⟨.refl _, List.nodup_nil, List.forall_mem_nil _, List.forall_mem_nil _,
      List.forall_mem_nil _, rfl⟩
  · intro before label next hcounted hbefore taken
    exact hbefore.step hcounted (step_cases taken)

theorem reported_reachable (h : (registry float).Reachable st) : Reported st := by
  apply h.invariant_with (fun _ hs => And.intro (counted_reachable hs) (tallied_reachable hs))
  · exact ⟨List.forall_mem_nil _, .nil⟩
  · intro before label next hknown hbefore taken
    exact hbefore.step hknown.1 hknown.2 (step_cases taken)

theorem grows_run (h : (registry float).Reachable st) {labels : List RegistryLabel}
    (hrun : (registry float).run st labels = some result) : Grows st result := by
  induction labels generalizing st with
  | nil =>
    cases hrun
    exact ⟨fun _ => Nat.le_refl _, Nat.le_refl _⟩
  | cons label labels ih =>
    obtain ⟨next, hnext, hrest⟩ := Option.bind_eq_some_iff.mp hrun
    have hfirst := grows_step (counted_reachable h) (tallied_reachable h) (step_cases hnext)
    have hlast := ih (h.next hnext) hrest
    exact ⟨fun counter => (hfirst.totals counter).trans (hlast.totals counter),
      hfirst.pcmDrops.trans hlast.pcmDrops⟩

/-- The totals are the sums over the streams whose insertion has begun, which are the inserted
ones while no insertion is under way. Every report gives them, and the drops of all queues that
were ever registered, and none of these is ever lower than before. -/
structure Exact (float : FloatTime) (st : StreamRegistry) : Prop where
  once : st.begun.Nodup ∧ st.inserted.Nodup ∧ ∀ s ∈ st.inserted, s ∈ st.begun
  totals : ∀ counter, st.totals counter = (st.begun.map (valueOf st.streams counter)).sum
  settled : st.begun.length = st.inserted.length →
    ∀ counter, st.totals counter = (st.inserted.map (valueOf st.streams counter)).sum
  report : ∀ now after, st.step float (.metrics now) = some after →
    ∃ report, after.reports = st.reports ++ [report] ∧ Current report after
  ordered : st.reports.Pairwise Metrics.NotAfter
  grows : ∀ labels after, (registry float).run st labels = some after → Grows st after

theorem exact_metrics {float : FloatTime} {st : StreamRegistry} (h : (registry float).Reachable st) :
    Exact float st where
  once := ⟨(counted_reachable h).nodup, (tallied_reachable h).nodup, (tallied_reachable h).begun⟩
  totals := (counted_reachable h).totals
  settled := by
    intro hlength counter
    have htallied := tallied_reachable h
    have hperm : st.inserted.Perm st.begun :=
      (List.subperm_of_subset htallied.nodup htallied.begun).perm_of_length_le hlength.le
    rw [(counted_reachable h).totals counter]
    exact (hperm.map _).sum_eq.symm
  report := by
    intro now after taken
    simp only [step, metrics] at taken
    split at taken
    · cases taken
    · case isFalse hfree =>
      cases taken
      exact ⟨_, rfl, reads_current (tallied_reachable h) (not_not.mp hfree) now⟩
  ordered := (reported_reachable h).ordered
  grows := fun _ _ hrun => grows_run h hrun

/-- A stream loses three bytes before it is inserted, and its queue a frame when it is replaced. -/
def replaced : List RegistryLabel :=
  [.new 0 ⟨0⟩, .setInputQueue 0 PcmQueue.telephone, .live 0 (.publish [1, 2, 3]),
    .live 0 .publishNext, .attachTotals 0, .insert 0,
    .queue 0 (.push (PcmQueue.tone 1 none) 0), .new 1 ⟨0⟩, .attachTotals 1, .insert 1,
    .complete 0, .complete 0, .complete 0, .complete 0, .metrics 0]

theorem exact_metrics_replaced : ∃ st, (registry .exact).run .init replaced = some st ∧
    st.reports.map (fun report => (report.bytesDropped, report.queueDrops)) = [(3, 1)] ∧
    Exact .exact st := by
  have hreports : ((registry .exact).run .init replaced).map
      (fun st => st.reports.map fun report => (report.bytesDropped, report.queueDrops)) =
        some [(3, 1)] := by decide +kernel
  obtain ⟨st, hst, hlast⟩ := Option.map_eq_some_iff.mp hreports
  exact ⟨st, hst, hlast, exact_metrics (TransitionSystem.Reachable.of_run .init hst)⟩

end StreamRegistry

end AirSonos.Live
