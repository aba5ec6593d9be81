import AirSonos.Core.PcmLedger
import AirSonos.Stream.Live

/-!
# The stream registry and its metrics

Streams are made, written, and read by bodies whether they are registered or not. The registry
inserts, replaces and removes them under its write lock, and what it removes is closed and
counted before the lock is given back. The queues of the streams change between any two of its
steps.
-/

namespace AirSonos.Live

inductive Counter
  | consumed
  | dropped
  | skipped
deriving DecidableEq

abbrev Totals := Counter → Nat

def LiveStream.values (st : LiveStream) : Totals
  | .consumed => st.consumed
  | .dropped => st.dropped
  | .skipped => st.skipped

structure InputQueue where
  queue : PcmQueue
  ledger : PcmQueue.Ledger

namespace InputQueue

def step (input : InputQueue) (label : PcmQueue.QueueLabel) : Option InputQueue :=
  (PcmQueue.Ledger.step input.queue input.ledger label).map fun ledger =>
    { input with ledger := ledger }

def close (input : InputQueue) : InputQueue :=
  { input with ledger := input.ledger.book (PcmQueue.close input.ledger.state) [] [] }

def clear (input : InputQueue) : InputQueue :=
  { input with ledger := input.ledger.book (PcmQueue.clear input.ledger.state) [] [] }

def stats (input : InputQueue) (now : Instant) : InputQueue × PcmQueue.Stats :=
  let (state, stats) := input.queue.stats input.ledger.state now
  ({ input with ledger := input.ledger.book state [] [] }, stats)

end InputQueue

/-- What the handles to one stream share. `attached` tells that its counters are also added to
the totals of the registry. -/
structure SharedStream where
  sessionId : SessionId
  live : LiveStream
  inputQueue : Option InputQueue
  attached : Bool

namespace SharedStream

def new (sessionId : SessionId) : SharedStream :=
  ⟨sessionId, .new, none, false⟩

def drops (stream : SharedStream) : Nat :=
  stream.inputQueue.elim 0 fun input => input.ledger.state.dropped

def mapQueue (stream : SharedStream) (f : InputQueue → InputQueue) : SharedStream :=
  { stream with inputQueue := stream.inputQueue.map f }

end SharedStream

/-- Where `complete_queue` stands. -/
inductive Completion
  | closing
  | queueClosing
  | clearing
  | counting
deriving DecidableEq

/-- What `metrics_text` reports. -/
structure Metrics where
  active : Nat
  bytesServed : Nat
  bytesDropped : Nat
  bytesSkipped : Nat
  queueBytes : Nat
  queueRetainedBytes : Nat
  queueByteLimit : Nat
  queueDrops : Nat
  queueAgeMs : Nat

/-- `streams` holds every stream that was made, and `inner` the registered ones. `completing`
holds those that were taken out and are not counted yet: the write lock is held while there are
any. `begun` lists the streams whose insertion has begun, `inserted` those that were inserted,
and `completed` those that were counted. -/
structure StreamRegistry where
  streams : AssocMap Nat SharedStream
  inner : AssocMap SessionId Nat
  totals : Totals
  completedPcmDrops : Nat
  completing : List (Nat × Completion)
  begun : List Nat
  inserted : List Nat
  completed : List Nat
  adapterDrops : Nat
  reports : List Metrics

/-- `create` is `new`, `attachTotals` and `insert` of one stream. `LiveStream::close` is the
close of the stream, and the close and the clear of its queue. -/
inductive RegistryLabel
  | new (s : Nat) (sessionId : SessionId)
  | setInputQueue (s : Nat) (queue : PcmQueue)
  | live (s : Nat) (label : LiveLabel)
  | queue (s : Nat) (label : PcmQueue.QueueLabel)
  | attachTotals (s : Nat)
  | insert (s : Nat)
  | remove (sessionId : SessionId)
  | closeAll
  | complete (now : Instant)
  | recordAdapterDrops (count : Nat)
  | metrics (now : Instant)

namespace StreamRegistry

def init : StreamRegistry :=
  ⟨∅, ∅, fun _ => 0, 0, [], [], [], [], 0, []⟩

/-- What `add_counter` adds to a stream it adds to the totals that are attached to it. -/
def charge (totals : Totals) (before after : SharedStream) : Totals :=
  if before.attached then
    fun counter => totals counter + (after.live.values counter - before.live.values counter)
  else totals

def modify (st : StreamRegistry) (s : Nat) (f : SharedStream → SharedStream) : StreamRegistry :=
  { st with streams := AssocMap.modify s f st.streams }

def live (float : FloatTime) (st : StreamRegistry) (s : Nat) (label : LiveLabel) :
    Option StreamRegistry := do
  let stream ← st.streams.lookup s
  let live ← stream.live.step float label
  let next := { stream with live := live }
  return { st with
    streams := st.streams.insert s next
    totals := charge st.totals stream next }

def queue (st : StreamRegistry) (s : Nat) (label : PcmQueue.QueueLabel) :
    Option StreamRegistry := do
  let stream ← st.streams.lookup s
  let input ← stream.inputQueue
  let next ← input.step label
  return { st with streams := st.streams.insert s { stream with inputQueue := some next } }

/-- The queue is set once, before the stream is inserted. -/
def setInputQueue (st : StreamRegistry) (s : Nat) (queue : PcmQueue) : Option StreamRegistry := do
  let stream ← st.streams.lookup s
  if stream.attached || stream.inputQueue.isSome then none
  else some (st.modify s fun stream => { stream with inputQueue := some ⟨queue, .new⟩ })

def attachTotals (st : StreamRegistry) (s : Nat) : Option StreamRegistry := do
  let stream ← st.streams.lookup s
  if stream.attached then some st
  else
    some { st.modify s fun stream => { stream with attached := true } with
      totals := fun counter => st.totals counter + stream.live.values counter
      begun := st.begun ++ [s] }

/-- A stream is inserted once. -/
def insert (st : StreamRegistry) (s : Nat) : Option StreamRegistry := do
  let stream ← st.streams.lookup s
  if st.completing ≠ [] ∨ stream.attached = false ∨ s ∈ st.inserted then none
  else
    some { st with
      inner := st.inner.insert stream.sessionId s
      inserted := st.inserted ++ [s]
      completing :=
        (st.inner.lookup stream.sessionId).toList.map fun previous => (previous, .closing) }

def remove (st : StreamRegistry) (sessionId : SessionId) : Option StreamRegistry :=
  if st.completing ≠ [] then none
  else
    some { st with
      inner := st.inner.erase sessionId
      completing := (st.inner.lookup sessionId).toList.map fun s => (s, .closing) }

def closeAll (st : StreamRegistry) : Option StreamRegistry :=
  if st.completing ≠ [] then none
  else
    some { st with
      inner := ∅
      completing := (AssocMap.values st.inner).map fun s => (s, .closing) }

/-- What `complete_queue` adds for a stream. -/
def queueDrops (st : StreamRegistry) (s : Nat) (now : Instant) : Nat :=
  ((st.streams.lookup s).bind SharedStream.inputQueue).elim 0 fun input =>
    (input.stats now).2.droppedFrames

/-- One step of `complete_queue`. -/
def complete (st : StreamRegistry) (now : Instant) : Option StreamRegistry :=
  match st.completing with
  | [] => none
  | (s, .closing) :: rest =>
    some { st.modify s fun stream => { stream with live := stream.live.close } with
      completing := (s, .queueClosing) :: rest }
  | (s, .queueClosing) :: rest =>
    some { st.modify s fun stream => stream.mapQueue .close with
      completing := (s, .clearing) :: rest }
  | (s, .clearing) :: rest =>
    some { st.modify s fun stream => stream.mapQueue .clear with
      completing := (s, .counting) :: rest }
  | (s, .counting) :: rest =>
    some { st.modify s fun stream => stream.mapQueue fun input => (input.stats now).1 with
      completedPcmDrops := st.completedPcmDrops + st.queueDrops s now
      completing := rest
      completed := st.completed ++ [s] }

/-- The queues of the registered streams, one after the other. -/
def statQueues (now : Instant) :
    List Nat → AssocMap Nat SharedStream → AssocMap Nat SharedStream × List PcmQueue.Stats
  | [], streams => (streams, [])
  | s :: rest, streams =>
    let stats := ((streams.lookup s).bind SharedStream.inputQueue).map fun input =>
      (input.stats now).2
    let next := AssocMap.modify s
      (fun stream => stream.mapQueue fun input => (input.stats now).1) streams
    ((statQueues now rest next).1, stats.toList ++ (statQueues now rest next).2)

def metricsText (st : StreamRegistry) (queues : List PcmQueue.Stats) : Metrics where
  active := AssocMap.size st.inner
  bytesServed := st.totals .consumed
  bytesDropped := st.totals .dropped
  bytesSkipped := st.totals .skipped
  queueBytes := (queues.map (·.bytes)).sum
  queueRetainedBytes := (queues.map (·.retainedBytes)).sum
  queueByteLimit := (queues.map (·.byteLimit)).sum
  queueDrops := st.completedPcmDrops + (queues.map (·.droppedFrames)).sum
  queueAgeMs := (queues.map (·.oldestAge.asMillis)).foldr max 0

/-- Nobody holds the write lock while the metrics are read. -/
def metrics (st : StreamRegistry) (now : Instant) : Option StreamRegistry :=
  if st.completing ≠ [] then none
  else
    let (streams, queues) := statQueues now (AssocMap.values st.inner) st.streams
    some { st with streams := streams, reports := st.reports ++ [st.metricsText queues] }

def step (float : FloatTime) (st : StreamRegistry) : RegistryLabel → Option StreamRegistry
  | .new s sessionId =>
    if (st.streams.lookup s).isSome then none
    else some { st with streams := st.streams.insert s (.new sessionId) }
  | .setInputQueue s queue => st.setInputQueue s queue
  | .live s label => st.live float s label
  | .queue s label => st.queue s label
  | .attachTotals s => st.attachTotals s
  | .insert s => st.insert s
  | .remove sessionId => st.remove sessionId
  | .closeAll => st.closeAll
  | .complete now => st.complete now
  | .recordAdapterDrops count =>
    some { st with
      completedPcmDrops := st.completedPcmDrops + count
      adapterDrops := st.adapterDrops + count }
  | .metrics now => st.metrics now

end StreamRegistry

def registry (float : FloatTime) : TransitionSystem StreamRegistry RegistryLabel where
  init := .init
  step := StreamRegistry.step float

end AirSonos.Live
