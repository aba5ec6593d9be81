import AirSonos.Bridge.Worker
import AirSonos.Core.Sync

/-!
# The state of the bridge runtime and its elementary operations

The runtime owns the sessions, the stream registry, the cohorts and the native groups, and
sends commands to one worker per zone. Time is a field that only the passing of time
advances. What the environment decides is collected in `Env`: the renderers, the host of a
stream URL, whether an encoder can be spawned for a generation, and the iteration order of
the session map.
-/

namespace AirSonos

def SYNC_START_LEAD : Duration := Duration.fromMillis 120
def PAUSED_SESSION_GRACE_SECS : Nat := 60
def DOWNSTREAM_RETRY_BASE_MS : Nat := 500
def DOWNSTREAM_RETRY_MAX_MS : Nat := 5000
def RETRY_BUDGET : Nat := 6

structure Config where
  sync : SyncConfig
  codec : StreamCodec
  forceStandaloneOnStart : Bool

/-- Everything outside the runtime. A generation names at most one attempt to build a
downstream stream, so the outcome of the attempt may depend on it alone. The session map is
a hash map: its `n`-th walk may visit the sessions in any order. -/
structure Env where
  config : Config
  renderers : ZoneId → Option Renderer
  zoneOf : SessionId → ZoneId
  streamHost : Nat → Option IpAddr
  spawnEncoder : Nat → Bool
  hashOrder : Nat → List SessionId → List SessionId
  hashOrder_perm : ∀ n ids, (hashOrder n ids).Perm ids

inductive ObservedPlayback
  | unknown
  | playing
  | stopped
deriving DecidableEq

/-- The encoder task of one live stream. -/
structure FfmpegEncoder where
  stream : LiveStream
deriving DecidableEq

/-- A spawned timer and the message it sends. Its handle stays after it fired, and aborting
it does not retract a message already sent. -/
structure TimerTask (α : Type) where
  due : Instant
  message : α
  fired : Bool
deriving DecidableEq

structure SessionRuntime where
  zoneId : ZoneId
  format : PcmFormat
  sender : Option IpAddr
  syncDelay : Duration
  generation : Nat
  playbackEpoch : Nat
  desiredPlayback : Bool
  observed : ObservedPlayback
  resetNeeded : Bool
  encoder : Option FfmpegEncoder
  prepared : Option PreparedDownstream
  retryAttempts : Nat
  retryTask : Option (TimerTask DownstreamRetry)
  cleanupTask : Option (TimerTask SessionId)
  cleanupDeadline : Option Instant
deriving DecidableEq

def SessionRuntime.new (zoneId : ZoneId) (format : PcmFormat) : SessionRuntime where
  zoneId := zoneId
  format := format
  sender := none
  syncDelay := 0
  generation := 0
  playbackEpoch := 0
  desiredPlayback := true
  observed := .unknown
  resetNeeded := false
  encoder := none
  prepared := none
  retryAttempts := 0
  retryTask := none
  cleanupTask := none
  cleanupDeadline := none

structure SyncCohort where
  openedAt : Instant
  windowDeadline : Instant
  startDeadline : Instant
  sessions : List SessionId
  prepared : AssocMap SessionId PreparedDownstream

structure NativeMember where
  coordinator : SessionId
  rinconId : String
deriving DecidableEq

/-- One call of `play_prepared_downstreams`: the streams handed to it and what was planned for
them. `generation` is the generation every session had then. -/
structure Release where
  prepared : List PreparedDownstream
  roles : AssocMap SessionId NativeMember
  delays : AssocMap SessionId Duration
  joins : Option GroupJoins
  cutoff : Instant
  generation : SessionId → Option Nat

/-- What the runtime did that no later state shows: the streams it registered, the cohorts it
released with the generation each session had then, the calls of `play_prepared_downstreams`,
and the cohorts left by each call of `maybe_start_sync_cohort`. -/
inductive HistoryEvent
  | registered (stream : LiveStream)
  | released (cohort : SyncCohort) (now : Instant) (generation : SessionId → Option Nat)
  | played (release : Release)
  | checked (now : Instant) (remaining : List SyncCohort)

/-- The runtime with its channels, timers and workers. `stopped` says that the run loop has
ended. -/
structure BridgeRuntime where
  now : Instant
  stopped : Bool
  registry : AssocMap SessionId LiveStream
  sessions : AssocMap SessionId SessionRuntime
  zoneWorkers : ZoneId → Option ZoneWorker
  nextGeneration : Nat
  syncCohort : Option SyncCohort
  pendingCohorts : List SyncCohort
  nativeGroups : AssocMap SessionId (List SessionId)
  cleanupRx : List SessionId
  resultRx : List DownstreamStartResult
  retryRx : List DownstreamRetry
  preparedRx : List PreparedDownstream
  wakeTimers : List Instant
  wakeRx : Nat
  playbackRelease : Nat → Option PlaybackRelease
  groupJoins : Nat → GroupJoinState
  nextGroupJoins : Nat
  hashWalks : Nat
  history : List HistoryEvent

namespace BridgeRuntime

def new : BridgeRuntime where
  now := 0
  stopped := false
  registry := ∅
  sessions := ∅
  zoneWorkers := fun _ => none
  nextGeneration := 0
  syncCohort := none
  pendingCohorts := []
  nativeGroups := ∅
  cleanupRx := []
  resultRx := []
  retryRx := []
  preparedRx := []
  wakeTimers := []
  wakeRx := 0
  playbackRelease := fun _ => none
  groupJoins := fun _ => .new 0
  nextGroupJoins := 0
  hashWalks := 0
  history := []

/-- The active cohort and after it the pending ones, in the order of their creation. -/
def cohorts (st : BridgeRuntime) : List SyncCohort :=
  st.syncCohort.toList ++ st.pendingCohorts

def session (st : BridgeRuntime) (id : SessionId) : Option SessionRuntime :=
  st.sessions.lookup id

def modifySession (st : BridgeRuntime) (id : SessionId)
    (f : SessionRuntime → SessionRuntime) : BridgeRuntime :=
  { st with sessions := AssocMap.modify id f st.sessions }

@[simp] theorem session_modifySession (st : BridgeRuntime) (id other : SessionId)
    (f : SessionRuntime → SessionRuntime) :
    (st.modifySession id f).session other =
      if other = id then (st.session other).map f else st.session other :=
  AssocMap.lookup_modify ..

section Operations

variable (env : Env)

/-- The worker of a zone is made when it is first needed. A zone without a renderer has
none. -/
def worker (st : BridgeRuntime) (zoneId : ZoneId) : Option ZoneWorker :=
  (st.zoneWorkers zoneId).or ((env.renderers zoneId).map ZoneWorker.new)

def sendCommand (st : BridgeRuntime) (zoneId : ZoneId) (command : TransportCommand) :
    BridgeRuntime :=
  { st with
    zoneWorkers := Function.update st.zoneWorkers zoneId
      ((st.worker env zoneId).map fun worker => worker.sendCommand command) }

def setVolume (st : BridgeRuntime) (zoneId : ZoneId) (value : Nat) : BridgeRuntime :=
  { st with
    zoneWorkers := Function.update st.zoneWorkers zoneId
      ((st.worker env zoneId).map fun worker => worker.setVolume value) }

def cancelPausedCleanup (st : BridgeRuntime) (id : SessionId) : BridgeRuntime :=
  st.modifySession id fun session => { session with cleanupDeadline := none, cleanupTask := none }

def schedulePausedCleanup (st : BridgeRuntime) (id : SessionId) : BridgeRuntime :=
  (st.cancelPausedCleanup id).modifySession id fun session =>
    { session with
      cleanupDeadline := some (st.now + Duration.fromSecs PAUSED_SESSION_GRACE_SECS)
      cleanupTask := some
        ⟨st.now + Duration.fromSecs PAUSED_SESSION_GRACE_SECS, id, false⟩ }

def cancelDownstreamRetry (st : BridgeRuntime) (id : SessionId) : BridgeRuntime :=
  st.modifySession id fun session => { session with retryTask := none }

/-- The base delay doubles with each attempt up to the maximum. -/
def downstreamRetryDelay (attempt : Nat) : Duration :=
  Duration.fromMillis (min (DOWNSTREAM_RETRY_BASE_MS * 2 ^ min attempt 8) DOWNSTREAM_RETRY_MAX_MS)

/-- What `schedule_downstream_retry` does to the session: a retry while the budget lasts, and
a mark that the next playback request must rebuild the stream once it is spent. -/
def retryOrReset (now : Instant) (retry : DownstreamRetry) (session : SessionRuntime) :
    SessionRuntime :=
  if session.retryAttempts < RETRY_BUDGET then
    { session with
      retryAttempts := session.retryAttempts + 1
      retryTask := some ⟨now + downstreamRetryDelay session.retryAttempts, retry, false⟩ }
  else { session with retryTask := none, resetNeeded := true }

/-- Returns whether a retry was scheduled. -/
def scheduleDownstreamRetry (st : BridgeRuntime) (id : SessionId) (zoneId : ZoneId)
    (generation : Nat) : BridgeRuntime × Bool :=
  (st.modifySession id (retryOrReset st.now ⟨id, zoneId, generation⟩),
    (st.session id).any fun session => decide (session.retryAttempts < RETRY_BUDGET))

def nextDownstreamGeneration (st : BridgeRuntime) (id : SessionId) : BridgeRuntime :=
  { st.modifySession id fun session => { session with generation := st.nextGeneration + 1 } with
    nextGeneration := st.nextGeneration + 1 }

/-- `registry.remove`. -/
def removeStream (st : BridgeRuntime) (id : SessionId) : BridgeRuntime :=
  { st with registry := st.registry.erase id }

def setPlaybackPlan (st : BridgeRuntime) (generation : Nat) (sourceCutoff : Instant)
    (delay : Duration) : BridgeRuntime :=
  { st with
    playbackRelease :=
      Function.update st.playbackRelease generation (some ⟨sourceCutoff, delay⟩) }

end Operations

/-! ### The workers after a command is sent -/

def commands (st : BridgeRuntime) (zoneId : ZoneId) : List TransportCommand :=
  (st.zoneWorkers zoneId).elim [] ZoneWorker.commands

theorem worker_cases {env : Env} {st : BridgeRuntime} {zoneId : ZoneId} {worker : ZoneWorker}
    (h : st.worker env zoneId = some worker) :
    st.zoneWorkers zoneId = some worker ∨
      st.zoneWorkers zoneId = none ∧
        ∃ renderer, env.renderers zoneId = some renderer ∧ worker = .new renderer := by
  unfold BridgeRuntime.worker at h
  cases hfound : st.zoneWorkers zoneId with
  | some found =>
    rw [hfound, Option.some_or] at h
    exact .inl h
  | none =>
    rw [hfound, Option.none_or] at h
    obtain ⟨renderer, hrenderer, rfl⟩ := Option.map_eq_some_iff.mp h
    exact .inr ⟨rfl, renderer, hrenderer, rfl⟩

theorem zoneWorkers_sendCommand {env : Env} {st : BridgeRuntime} {zoneId other : ZoneId}
    {command : TransportCommand} {worker : ZoneWorker}
    (h : (st.sendCommand env zoneId command).zoneWorkers other = some worker) :
    (other = zoneId ∧ ∃ old, st.worker env zoneId = some old ∧ worker = old.sendCommand command) ∨
      (other ≠ zoneId ∧ st.zoneWorkers other = some worker) := by
  simp only [sendCommand] at h
  by_cases hzone : other = zoneId
  · subst other
    rw [Function.update_self] at h
    obtain ⟨old, hold, rfl⟩ := Option.map_eq_some_iff.mp h
    exact .inl ⟨rfl, old, hold, rfl⟩
  · rw [Function.update_of_ne hzone] at h
    exact .inr ⟨hzone, h⟩

/-! ### The session map after each operation -/

@[simp] theorem session_sendCommand (env : Env) (st : BridgeRuntime) (zoneId : ZoneId)
    (command : TransportCommand) : (st.sendCommand env zoneId command).session = st.session := rfl

@[simp] theorem session_setVolume (env : Env) (st : BridgeRuntime) (zoneId : ZoneId)
    (value : Nat) : (st.setVolume env zoneId value).session = st.session := rfl

@[simp] theorem session_removeStream (st : BridgeRuntime) (id : SessionId) :
    (st.removeStream id).session = st.session := rfl

@[simp] theorem session_setPlaybackPlan (st : BridgeRuntime) (generation : Nat)
    (cutoff : Instant) (delay : Duration) :
    (st.setPlaybackPlan generation cutoff delay).session = st.session := rfl

@[simp] theorem session_nextDownstreamGeneration (st : BridgeRuntime) (id other : SessionId) :
    (st.nextDownstreamGeneration id).session other =
      if other = id then
        (st.session other).map fun session => { session with generation := st.nextGeneration + 1 }
      else st.session other :=
  session_modifySession st id other _

@[simp] theorem session_cancelDownstreamRetry (st : BridgeRuntime) (id other : SessionId) :
    (st.cancelDownstreamRetry id).session other =
      if other = id then (st.session other).map fun session => { session with retryTask := none }
      else st.session other :=
  session_modifySession st id other _

@[simp] theorem session_scheduleDownstreamRetry (st : BridgeRuntime) (id : SessionId)
    (zoneId : ZoneId) (generation : Nat) (other : SessionId) :
    (st.scheduleDownstreamRetry id zoneId generation).1.session other =
      if other = id then (st.session other).map (retryOrReset st.now ⟨id, zoneId, generation⟩)
      else st.session other :=
  session_modifySession st id other _

end BridgeRuntime

end AirSonos
