import AirSonos.Bridge.Handlers
import AirSonos.Lib.TransitionSystem

/-!
# The runtime and its workers as one transition system

A handler runs to its end in one step, as in the run loop. Between handlers time passes,
timers fire and each worker moves from one `await` to the next. The label of a step carries
everything the environment decides there: the event, the reply of a renderer, the worker that
moves.
-/

namespace AirSonos

inductive WorkerAction
  | take
  | reply (reply : Reply)
  | supersede
  | ready
  | release

inductive BridgeLabel
  | tick (elapsed : Duration)
  | event (event : AirPlayEvent)
  | result
  | retry
  | prepared
  | wake
  | cleanup
  | retryTimer (sessionId : SessionId)
  | cleanupTimer (sessionId : SessionId)
  | wakeTimer (due : Instant)
  | worker (zoneId : ZoneId) (action : WorkerAction)
  | shutdown

namespace BridgeRuntime

def setWorker (st : BridgeRuntime) (zoneId : ZoneId) (worker : ZoneWorker) : BridgeRuntime :=
  { st with zoneWorkers := Function.update st.zoneWorkers zoneId (some worker) }

def deliver (st : BridgeRuntime) : WorkerOutput → BridgeRuntime
  | .result result => { st with resultRx := st.resultRx ++ [result] }
  | .joined joins =>
    { st with
      groupJoins := Function.update st.groupJoins joins.ref (st.groupJoins joins.ref).joined }

def fixRelease (st : BridgeRuntime) (joins : GroupJoins) : BridgeRuntime :=
  { st with
    groupJoins :=
      Function.update st.groupJoins joins.ref ((st.groupJoins joins.ref).release st.now) }

/-- The join wait ends when no member is left to join, or after the timeout. The release time
is shared by the rooms of the release. -/
def releaseGroup (st : BridgeRuntime) (zoneId : ZoneId) (worker : ZoneWorker)
    (stream : PreparedDownstream) (joins : GroupJoins) (delay : Option Duration)
    (since : Instant) : Option BridgeRuntime :=
  if (st.groupJoins joins.ref).pending = 0 ∨ since + GroupJoins.WAIT ≤ st.now then
    some (((st.fixRelease joins).planStream stream
      (((st.groupJoins joins.ref).released.getD st.now) + SYNC_START_LEAD) delay).setWorker zoneId
        (worker.goto (.groupPlay stream joins delay)))
  else none

theorem releaseGroup_spec {st st' : BridgeRuntime} {zoneId : ZoneId} {worker : ZoneWorker}
    {stream : PreparedDownstream} {joins : GroupJoins} {delay : Option Duration} {since : Instant}
    (h : st.releaseGroup zoneId worker stream joins delay since = some st') :
    ((st.groupJoins joins.ref).pending = 0 ∨ since + GroupJoins.WAIT ≤ st.now) ∧
      st' = ((st.fixRelease joins).planStream stream
        ((st.groupJoins joins.ref).released.getD st.now + SYNC_START_LEAD) delay).setWorker zoneId
          (worker.goto (.groupPlay stream joins delay)) := by
  unfold releaseGroup at h
  split at h
  · case isTrue ended => exact ⟨ended, (Option.some.inj h).symm⟩
  · cases h

def sendPrepared (st : BridgeRuntime) (prepared : PreparedDownstream) : BridgeRuntime :=
  { st with preparedRx := st.preparedRx ++ [prepared] }

def workerStep (st : BridgeRuntime) (zoneId : ZoneId) (worker : ZoneWorker) :
    WorkerAction → Option BridgeRuntime
  | .take => (worker.take st.now).map (st.setWorker zoneId)
  | .reply reply =>
    (worker.reply st.now reply).map fun (worker, outputs) =>
      outputs.foldl deliver (st.setWorker zoneId worker)
  | .supersede => worker.supersede.map (st.setWorker zoneId)
  | .ready =>
    worker.ready.map fun (worker, prepared) => (st.setWorker zoneId worker).sendPrepared prepared
  | .release =>
    match worker.running with
    | some (.groupWait stream joins delay since) =>
      st.releaseGroup zoneId worker stream joins delay since
    | _ => none

def sendRetry (st : BridgeRuntime) (id : SessionId) (task : TimerTask DownstreamRetry) :
    BridgeRuntime :=
  { st.modifySession id fun session =>
      { session with retryTask := some { task with fired := true } } with
    retryRx := st.retryRx ++ [task.message] }

def fireRetry (st : BridgeRuntime) (id : SessionId) : Option BridgeRuntime :=
  match (st.session id).bind SessionRuntime.retryTask with
  | none => none
  | some task =>
    if !task.fired && decide (task.due ≤ st.now) then some (st.sendRetry id task) else none

def sendCleanup (st : BridgeRuntime) (id : SessionId) (task : TimerTask SessionId) :
    BridgeRuntime :=
  { st.modifySession id fun session =>
      { session with cleanupTask := some { task with fired := true } } with
    cleanupRx := st.cleanupRx ++ [task.message] }

def fireCleanup (st : BridgeRuntime) (id : SessionId) : Option BridgeRuntime :=
  match (st.session id).bind SessionRuntime.cleanupTask with
  | none => none
  | some task =>
    if !task.fired && decide (task.due ≤ st.now) then some (st.sendCleanup id task) else none

def WorkerOutput.result? : WorkerOutput → Option DownstreamStartResult
  | .result result => some result
  | .joined _ => none

theorem results_of_report (joins : List GroupJoins) (result : DownstreamStartResult) :
    (joins.map WorkerOutput.joined ++ [WorkerOutput.result result]).filterMap WorkerOutput.result? =
      [result] := by
  induction joins with
  | nil => rfl
  | cons join rest ih => exact ih

/-- Delivering what a worker puts out changes the result channel and the join counters only. -/
theorem deliver_eq (st : BridgeRuntime) (outputs : List WorkerOutput) :
    ∃ groupJoins, outputs.foldl deliver st =
      { st with
        resultRx := st.resultRx ++ outputs.filterMap WorkerOutput.result?
        groupJoins := groupJoins } := by
  induction outputs generalizing st with
  | nil => exact ⟨st.groupJoins, by simp⟩
  | cons output rest ih =>
    obtain ⟨groupJoins, hrest⟩ := ih (st.deliver output)
    refine ⟨groupJoins, ?_⟩
    rw [List.foldl_cons, hrest]
    cases output with
    | result result => simp [deliver, WorkerOutput.result?]
    | joined joins => simp [deliver, List.filterMap_cons, WorkerOutput.result?]

/-! ### The session map after each operation -/

@[simp] theorem session_setWorker (st : BridgeRuntime) (zoneId : ZoneId) (worker : ZoneWorker) :
    (st.setWorker zoneId worker).session = st.session := rfl

@[simp] theorem session_sendPrepared (st : BridgeRuntime) (prepared : PreparedDownstream) :
    (st.sendPrepared prepared).session = st.session := rfl

@[simp] theorem session_fixRelease (st : BridgeRuntime) (joins : GroupJoins) :
    (st.fixRelease joins).session = st.session := rfl

@[simp] theorem session_deliver (st : BridgeRuntime) (outputs : List WorkerOutput) :
    (outputs.foldl deliver st).session = st.session := by
  obtain ⟨groupJoins, heq⟩ := deliver_eq st outputs
  rw [heq]
  rfl

@[simp] theorem session_sendRetry (st : BridgeRuntime) (id : SessionId)
    (task : TimerTask DownstreamRetry) (other : SessionId) :
    (st.sendRetry id task).session other =
      if other = id then
        (st.session other).map fun session =>
          { session with retryTask := some { task with fired := true } }
      else st.session other :=
  session_modifySession st id other _

@[simp] theorem session_sendCleanup (st : BridgeRuntime) (id : SessionId)
    (task : TimerTask SessionId) (other : SessionId) :
    (st.sendCleanup id task).session other =
      if other = id then
        (st.session other).map fun session =>
          { session with cleanupTask := some { task with fired := true } }
      else st.session other :=
  session_modifySession st id other _

def sendWake (st : BridgeRuntime) (due : Instant) : BridgeRuntime :=
  { st with wakeTimers := st.wakeTimers.erase due, wakeRx := st.wakeRx + 1 }

def takeResult (st : BridgeRuntime) : BridgeRuntime := { st with resultRx := st.resultRx.tail }

def takeRetry (st : BridgeRuntime) : BridgeRuntime := { st with retryRx := st.retryRx.tail }

def takePrepared (st : BridgeRuntime) : BridgeRuntime :=
  { st with preparedRx := st.preparedRx.tail }

def takeWake (st : BridgeRuntime) : BridgeRuntime := { st with wakeRx := st.wakeRx - 1 }

def takeCleanup (st : BridgeRuntime) : BridgeRuntime := { st with cleanupRx := st.cleanupRx.tail }

@[simp] theorem session_sendWake (st : BridgeRuntime) (due : Instant) :
    (st.sendWake due).session = st.session := rfl

@[simp] theorem session_takeResult (st : BridgeRuntime) : st.takeResult.session = st.session := rfl

@[simp] theorem session_takeRetry (st : BridgeRuntime) : st.takeRetry.session = st.session := rfl

@[simp] theorem session_takePrepared (st : BridgeRuntime) :
    st.takePrepared.session = st.session := rfl

@[simp] theorem session_takeWake (st : BridgeRuntime) : st.takeWake.session = st.session := rfl

@[simp] theorem session_takeCleanup (st : BridgeRuntime) :
    st.takeCleanup.session = st.session := rfl

/-- One turn of the run loop. -/
def serve (env : Env) (st : BridgeRuntime) : BridgeLabel → Option BridgeRuntime
  | .event event => if event.WellFormed env then st.handleEvent env event else none
  | .result =>
    st.resultRx.head?.bind fun result => st.takeResult.handleDownstreamStartResult env result
  | .retry => st.retryRx.head?.bind fun retry => st.takeRetry.handleDownstreamRetry env retry
  | .prepared =>
    st.preparedRx.head?.map fun prepared => st.takePrepared.handlePreparedDownstream env prepared
  | .wake => if st.wakeRx = 0 then none else some (st.takeWake.maybeStartSyncCohort env false)
  | .cleanup => st.cleanupRx.head?.bind fun id => st.takeCleanup.handleCleanup env id
  | .shutdown => st.shutdown env
  | _ => none

def step (env : Env) (st : BridgeRuntime) : BridgeLabel → Option BridgeRuntime
  | .tick elapsed => some { st with now := st.now + elapsed }
  | .worker zoneId action => (st.zoneWorkers zoneId).bind fun worker => st.workerStep zoneId worker action
  | .retryTimer id => st.fireRetry id
  | .cleanupTimer id => st.fireCleanup id
  | .wakeTimer due =>
    if due ∈ st.wakeTimers ∧ due ≤ st.now then some (st.sendWake due) else none
  | label => if st.stopped then none else st.serve env label

end BridgeRuntime

def bridge (env : Env) : TransitionSystem BridgeRuntime BridgeLabel where
  init := .new
  step := BridgeRuntime.step env

/-! ### The household as a system -/

namespace Household

def sync : SyncConfig where
  defaultOffsetMs := 0
  multiSelectWindowMs := 750
  startDeadlineMs := 2500
  nativeSonosGroups := true
  zoneOffsetsMs := ∅
  default_bounded := by decide
  offsets_bounded := fun _ _ h => nomatch h
  window_le_deadline := by decide
  deadline_bounded := by decide

/-- Every zone is a Sonos room, and session `n` plays in room `n`. -/
def env : Env where
  config := ⟨sync, .wav, true⟩
  renderers := fun zone => some (.sonos (sonos zone))
  zoneOf := fun id => room id.uuid
  streamHost := fun _ => some ⟨1⟩
  spawnEncoder := fun _ => true
  hashOrder := fun _ ids => ids
  hashOrder_perm := fun _ _ => .refl _

def started (n sender : Nat) : BridgeLabel :=
  .event (.sessionStarted ⟨n⟩ (room n) ⟨44100, 2, 16⟩ (some ⟨sender⟩))

def moves (n : Nat) (action : WorkerAction) : BridgeLabel := .worker (room n) action

def replies (n : Nat) : BridgeLabel := moves n (.reply (.ok ()))

/-- The worker of room `n` takes its Prepare, both requests succeed, and the runtime receives
the prepared stream. -/
def prepares (n : Nat) : List BridgeLabel :=
  [moves n .take, replies n, replies n, moves n .ready, .prepared]

/-- The worker of room `n` takes a Play, which succeeds, and the runtime receives the result. -/
def plays (n : Nat) : List BridgeLabel :=
  [moves n .take, replies n, .result]

end Household

end AirSonos
