import AirSonos.Bridge.Cohort

/-!
# The handlers of the bridge runtime

Restarting a session leaves its native group first, which restarts the members of a group it
coordinated, and each restart may release a cohort and plan new groups. The recursion is
bounded by a fuel argument: out of fuel is `none`, and `restartFuel` is shown to be enough.
-/

namespace AirSonos

/-- What `try_write_frame` answers for a frame that reaches the encoder. -/
inductive FrameWrite
  | accepted
  | full
  | closed
deriving DecidableEq

structure BridgeFrame where
  playbackEpoch : Nat
  write : FrameWrite
deriving DecidableEq

/-- The frame passes the epoch check of the session and its encoder refuses it. -/
def SessionRuntime.closes (session : SessionRuntime) (frame : BridgeFrame) : Bool :=
  frame.playbackEpoch == session.playbackEpoch && session.encoder.isSome &&
    frame.write == .closed

inductive AirPlayEvent
  | sessionStarted (sessionId : SessionId) (zoneId : ZoneId) (format : PcmFormat)
      (sender : Option IpAddr)
  | pcm (sessionId : SessionId) (zoneId : ZoneId) (frames : List BridgeFrame)
  | playbackState (sessionId : SessionId) (zoneId : ZoneId) (playing : Bool)
  | flushed (sessionId : SessionId) (playbackEpoch : Nat) (zoneId : ZoneId)
  | volume (zoneId : ZoneId) (volumePercent : Nat)
  | sessionStopped (sessionId : SessionId) (zoneId : ZoneId)
  | streamEndedWhilePaused (sessionId : SessionId) (zoneId : ZoneId)

/-- The session an event is about, with the zone the adapter put into the event. -/
def AirPlayEvent.subject : AirPlayEvent → Option (SessionId × ZoneId)
  | sessionStarted id zone _ _ => some (id, zone)
  | pcm id zone _ => some (id, zone)
  | playbackState id zone _ => some (id, zone)
  | flushed id _ zone => some (id, zone)
  | volume _ _ => none
  | sessionStopped id zone => some (id, zone)
  | streamEndedWhilePaused id zone => some (id, zone)

/-- An endpoint makes the session ids of its own zone, and puts that zone into every event. -/
def AirPlayEvent.WellFormed (env : Env) (event : AirPlayEvent) : Prop :=
  ∀ id zone, event.subject = some (id, zone) → zone = env.zoneOf id

instance (env : Env) (event : AirPlayEvent) : Decidable (event.WellFormed env) :=
  match h : event.subject with
  | none => isTrue fun _ _ h' => nomatch h.symm.trans h'
  | some (id, zone) =>
    decidable_of_iff (zone = env.zoneOf id)
      ⟨fun heq _ _ h' => by rw [h] at h'; cases h'; exact heq, fun hw => hw id zone h⟩

namespace BridgeRuntime

variable (env : Env)

def forgetNativeMember (st : BridgeRuntime) (id : SessionId) : BridgeRuntime :=
  { st with
    nativeGroups := AssocMap.mapValues (fun members => members.filter (· ≠ id)) st.nativeGroups }

/-- `native_groups.remove`. -/
def removeNativeGroup (st : BridgeRuntime) (id : SessionId) : BridgeRuntime :=
  { st with nativeGroups := st.nativeGroups.erase id }

/-- The host must be known and the encoder process must start; only then is the stream
registered. -/
def createDownstreamStream (st : BridgeRuntime) (id : SessionId) (zoneId : ZoneId)
    (generation : Nat) : Option LiveStream :=
  match env.streamHost generation with
  | none => none
  | some host =>
    if env.spawnEncoder generation then
      some {
        session := {
          sessionId := id
          zoneId := zoneId
          codec := env.config.codec
          generation := generation
          localUrl := ⟨host, id, env.config.codec, generation⟩ }
        playbackEpoch := ((st.session id).map (·.playbackEpoch)).getD 0 }
    else none

/-- Takes the old generation of a session down: no stream, no encoder, a new generation. -/
def retireDownstream (st : BridgeRuntime) (id : SessionId) : BridgeRuntime :=
  ((st.modifySession id fun session =>
    { session with
      resetNeeded := true
      observed := .unknown
      prepared := none
      encoder := none }).removeStream id).nextDownstreamGeneration id

def prepareCommand (id : SessionId) (zoneId : ZoneId) (renderer : Renderer)
    (liveStream : LiveStream) : TransportCommand :=
  .prepare {
    sessionId := id
    zoneId := zoneId
    generation := liveStream.session.generation
    renderer := renderer
    liveStream := liveStream
    localUrl := liveStream.session.localUrl
    forceStandaloneOnStart := env.config.forceStandaloneOnStart &&
      match renderer with
      | .sonos zone => !zone.isGroupCoordinator
      | .homeAssistant _ _ => false }

def registerStream (st : BridgeRuntime) (id : SessionId) (liveStream : LiveStream) :
    BridgeRuntime :=
  { (st.record (.registered liveStream)).modifySession id fun session =>
      { session with encoder := some ⟨liveStream⟩ } with
    registry := st.registry.insert id liveStream }

/-- The new stream is registered, its session enters a cohort, and the worker prepares it. -/
def admitDownstream (st : BridgeRuntime) (id : SessionId) (zoneId : ZoneId) (renderer : Renderer)
    (liveStream : LiveStream) : BridgeRuntime :=
  ((st.registerStream id liveStream).addSessionToSyncCohort env id).sendCommand env zoneId
    (prepareCommand env id zoneId renderer liveStream)

/-- Invalidates what is queued or in flight for the old generation. -/
def invalidateDownstream (st : BridgeRuntime) (id : SessionId) (zoneId : ZoneId) :
    BridgeRuntime :=
  (st.retireDownstream id).sendCommand env zoneId
    (.stop id zoneId (st.retireDownstream id).nextGeneration)

/-- The part of `restart_downstream_for_play` after the group is left. The flag tells whether
the new stream exists, so that the cohorts are looked at. -/
def replaceDownstream (st : BridgeRuntime) (id : SessionId) (zoneId : ZoneId) :
    BridgeRuntime × Bool :=
  match env.renderers zoneId with
  | none => (st.retireDownstream id, false)
  | some renderer =>
    match (st.invalidateDownstream env id zoneId).createDownstreamStream env id zoneId
        (st.invalidateDownstream env id zoneId).nextGeneration with
    | none =>
      (((st.invalidateDownstream env id zoneId).scheduleDownstreamRetry id zoneId
        (st.invalidateDownstream env id zoneId).nextGeneration).1, false)
    | some liveStream =>
      ((st.invalidateDownstream env id zoneId).admitDownstream env id zoneId renderer liveStream,
        true)

/-- `leave_native_group`, with the restart of a member as a parameter. The members of a group
the session coordinated go silent with it, so those that want playback restart. -/
def leaveNativeGroup (restart : BridgeRuntime → SessionId → ZoneId → Option BridgeRuntime)
    (st : BridgeRuntime) (id : SessionId) : Option BridgeRuntime :=
  let st := st.forgetNativeMember id
  let members := (st.nativeGroups.lookup id).getD []
  members.foldlM (fun st member =>
    match st.session member with
    | some session =>
      if session.desiredPlayback then restart st member session.zoneId else some st
    | none => some st) (st.removeNativeGroup id)

def restartDownstreamForPlay : Nat → BridgeRuntime → SessionId → ZoneId → Option BridgeRuntime
  | 0, _, _, _ => none
  | fuel + 1, st, id, zoneId =>
    match leaveNativeGroup (restartDownstreamForPlay fuel) (st.cancelDownstreamRetry id) id with
    | none => none
    | some st =>
      match st.session id with
      | none => some st
      | some _ =>
        match st.replaceDownstream env id zoneId with
        | (st, true) => some (st.maybeStartSyncCohort env false)
        | (st, false) => some st

/-- Group members and waiting prepared streams: each nested restart uses one of them up. -/
def restartFuel (st : BridgeRuntime) : Nat :=
  ((AssocMap.values st.nativeGroups).map List.length).sum +
    (st.cohorts.map fun cohort => cohort.preparedStreams.length).sum + 1

def restart (st : BridgeRuntime) (id : SessionId) (zoneId : ZoneId) : Option BridgeRuntime :=
  restartDownstreamForPlay env st.restartFuel st id zoneId

def leaveGroup (st : BridgeRuntime) (id : SessionId) : Option BridgeRuntime :=
  leaveNativeGroup (restartDownstreamForPlay env st.restartFuel) st id

def shouldRestartDownstreamForPlay (previousPlaying : Option Bool) (resetNeeded : Bool) : Bool :=
  previousPlaying == some false || resetNeeded

def resumePlayback (st : BridgeRuntime) (id : SessionId) : BridgeRuntime :=
  (st.modifySession id fun session =>
    { session with desiredPlayback := true, retryAttempts := 0 }).cancelPausedCleanup id

def pausePlayback (st : BridgeRuntime) (id : SessionId) : BridgeRuntime :=
  (st.modifySession id fun session =>
    { session with
      desiredPlayback := false
      resetNeeded := true
      observed := .unknown
      prepared := none }).cancelDownstreamRetry id

/-- The end of a pause: the generation changes and the room stops. -/
def stopPaused (st : BridgeRuntime) (id : SessionId) (zoneId : ZoneId) : BridgeRuntime :=
  (st.nextDownstreamGeneration id).sendCommand env zoneId
    (.stop id zoneId (st.nextDownstreamGeneration id).nextGeneration)

def setPlaybackState (st : BridgeRuntime) (id : SessionId) (zoneId : ZoneId) (playing : Bool) :
    Option BridgeRuntime :=
  match st.session id with
  | none => some st
  | some session =>
    if playing then
      if shouldRestartDownstreamForPlay (some session.desiredPlayback) session.resetNeeded then
        (st.resumePlayback id).restart env id zoneId
      else some (st.resumePlayback id)
    else
      match (st.pausePlayback id).leaveGroup env id with
      | none => none
      | some st => some ((st.stopPaused env id zoneId).maybeStartSyncCohort env false)

def removeSession (st : BridgeRuntime) (id : SessionId) : BridgeRuntime :=
  { st with
    sessions := st.sessions.erase id
    registry := st.registry.erase id }

def stopSession (st : BridgeRuntime) (id : SessionId) (fallbackZoneId : Option ZoneId) :
    Option BridgeRuntime :=
  match st.session id with
  | none => some st
  | some session =>
    match (st.removeSession id).leaveGroup env id with
    | none => none
    | some st =>
      some ((st.sendCommand env (fallbackZoneId.getD session.zoneId)
        (.stop id (fallbackZoneId.getD session.zoneId) session.generation)).maybeStartSyncCohort env
          false)

/-- The sessions of a zone, in hash order. -/
def zoneSessions (st : BridgeRuntime) (zoneId : ZoneId) : List SessionId :=
  (env.hashOrder st.hashWalks st.sessions.keys).filter fun id =>
    (st.session id).any (·.zoneId == zoneId)

def walkSessions (st : BridgeRuntime) : BridgeRuntime :=
  { st with hashWalks := st.hashWalks + 1 }

def insertSession (st : BridgeRuntime) (id : SessionId) (zoneId : ZoneId) (format : PcmFormat)
    (sender : Option IpAddr) : BridgeRuntime :=
  { st with
    sessions := st.sessions.insert id { SessionRuntime.new zoneId format with sender := sender } }

def startSession (st : BridgeRuntime) (id : SessionId) (zoneId : ZoneId) (format : PcmFormat)
    (sender : Option IpAddr) : Option BridgeRuntime :=
  match (st.zoneSessions env zoneId).foldlM (fun st old => st.stopSession env old none)
      st.walkSessions with
  | none => none
  | some st =>
    match env.renderers zoneId with
    | none => some st
    | some _ => (st.insertSession id zoneId format sender).restart env id zoneId

/-- The encoder is gone: no stream, a new generation, and the room stops. -/
def retireEncoder (st : BridgeRuntime) (id : SessionId) (zoneId : ZoneId) : BridgeRuntime :=
  (((st.modifySession id fun session =>
    { session with
      prepared := none
      resetNeeded := true
      encoder := none }).nextDownstreamGeneration id).removeStream id).sendCommand env zoneId
    (.stop id zoneId (st.nextGeneration + 1))

/-- The encoder refused a frame because its input is closed. -/
def encoderInputClosed (st : BridgeRuntime) (id : SessionId) (session : SessionRuntime) :
    BridgeRuntime :=
  if session.desiredPlayback then
    ((st.retireEncoder env id session.zoneId).scheduleDownstreamRetry id session.zoneId
      (st.retireEncoder env id session.zoneId).nextGeneration).1
  else st.retireEncoder env id session.zoneId

/-- One frame popped by the Pcm handler. -/
def feedFrame (st : BridgeRuntime) (id : SessionId) (frame : BridgeFrame) : BridgeRuntime :=
  match st.session id with
  | none => st
  | some session =>
    if session.closes frame then st.encoderInputClosed env id session else st

def setPlaybackEpoch (st : BridgeRuntime) (id : SessionId) (playbackEpoch : Nat) :
    BridgeRuntime :=
  st.modifySession id fun session => { session with playbackEpoch := playbackEpoch }

def dropEncoder (st : BridgeRuntime) (id : SessionId) : BridgeRuntime :=
  (st.modifySession id fun session => { session with encoder := none }).removeStream id

def flushed (st : BridgeRuntime) (id : SessionId) (playbackEpoch : Nat) (zoneId : ZoneId) :
    Option BridgeRuntime :=
  match st.session id with
  | none => some st
  | some session =>
    if playbackEpoch ≤ session.playbackEpoch then some st
    else if session.desiredPlayback then
      (st.setPlaybackEpoch id playbackEpoch).restart env id zoneId
    else
      ((st.setPlaybackEpoch id playbackEpoch).dropEncoder id).setPlaybackState env id zoneId false

def deferCleanup (st : BridgeRuntime) (id : SessionId) : BridgeRuntime :=
  (st.modifySession id fun session => { session with resetNeeded := true }).schedulePausedCleanup id

def streamEndedWhilePaused (st : BridgeRuntime) (id : SessionId) : BridgeRuntime :=
  match st.session id with
  | none => st
  | some session => if session.desiredPlayback then st else st.deferCleanup id

def handleEvent (st : BridgeRuntime) : AirPlayEvent → Option BridgeRuntime
  | .sessionStarted id zoneId format sender => st.startSession env id zoneId format sender
  | .pcm id _ frames => some (frames.foldl (fun st frame => st.feedFrame env id frame) st)
  | .playbackState id zoneId playing => st.setPlaybackState env id zoneId playing
  | .flushed id playbackEpoch zoneId => st.flushed env id playbackEpoch zoneId
  | .volume zoneId volumePercent => some (st.setVolume env zoneId volumePercent)
  | .sessionStopped id zoneId => st.stopSession env id (some zoneId)
  | .streamEndedWhilePaused id _ => some (st.streamEndedWhilePaused id)

def markPlaying (st : BridgeRuntime) (id : SessionId) : BridgeRuntime :=
  st.modifySession id fun session =>
    { session with
      observed := .playing
      resetNeeded := false
      retryAttempts := 0
      retryTask := none }

/-- A started or joined room plays. A room that plays its own stream is in no group. -/
def startSucceeded (st : BridgeRuntime) (id : SessionId) (outcome : DownstreamStartOutcome) :
    BridgeRuntime :=
  if outcome = .started then (st.markPlaying id).forgetNativeMember id else st.markPlaying id

def markUncertain (st : BridgeRuntime) (id : SessionId) : BridgeRuntime :=
  st.modifySession id fun session =>
    { session with observed := .unknown, resetNeeded := session.prepared.isNone }

/-- A failed join leaves the room on its own stream. A timed-out join may have taken effect,
so it stays a member. -/
def startUncertain (st : BridgeRuntime) (id : SessionId) (outcome : DownstreamStartOutcome) :
    BridgeRuntime :=
  if outcome = .failed then (st.markUncertain id).forgetNativeMember id else st.markUncertain id

/-- A spent retry budget leaves the members of this coordinator silent, so they leave. -/
def startFailed (st : BridgeRuntime) (result : DownstreamStartResult) : Option BridgeRuntime :=
  match (st.startUncertain result.sessionId result.outcome).scheduleDownstreamRetry
      result.sessionId result.zoneId result.generation with
  | (st, true) => some st
  | (st, false) => st.leaveGroup env result.sessionId

def abandonStart (st : BridgeRuntime) (id : SessionId) : BridgeRuntime :=
  st.modifySession id fun session =>
    { session with
      observed := .unknown, resetNeeded := true, retryAttempts := RETRY_BUDGET, retryTask := none }

/-- The room reports for a session that no longer wants playback. -/
def notePaused (st : BridgeRuntime) (id : SessionId) (outcome : DownstreamStartOutcome) :
    BridgeRuntime :=
  st.modifySession id fun session =>
    { session with observed := if outcome = .stopped then .stopped else .unknown }

def handleDownstreamStartResult (st : BridgeRuntime) (result : DownstreamStartResult) :
    Option BridgeRuntime :=
  match st.session result.sessionId with
  | none => some st
  | some session =>
    if session.generation ≠ result.generation then some st
    else if !session.desiredPlayback then
      some (st.notePaused result.sessionId result.outcome)
    else
      match result.outcome with
      | .stopped | .stopUnknown => some st
      | .started | .joined => some (st.startSucceeded result.sessionId result.outcome)
      | .permanentFailure => (st.abandonStart result.sessionId).leaveGroup env result.sessionId
      | .unknown | .failed => st.startFailed env result

/-- The room plays the stream that is already prepared. A held stream is released now. -/
def replayPrepared (st : BridgeRuntime) (id : SessionId) (zoneId : ZoneId)
    (prepared : PreparedDownstream) : BridgeRuntime :=
  ((st.modifySession id fun session =>
    { session with prepared := some prepared.released, retryTask := none }).planStream prepared
      (st.now + SYNC_START_LEAD) prepared.heldDelay).sendCommand env zoneId
    (.play prepared.released)

def handleDownstreamRetry (st : BridgeRuntime) (retry : DownstreamRetry) :
    Option BridgeRuntime :=
  match st.session retry.sessionId with
  | none => some st
  | some session =>
    if session.generation ≠ retry.generation ∨ session.desiredPlayback = false then some st
    else
      match session.prepared with
      | none => (st.cancelDownstreamRetry retry.sessionId).restart env retry.sessionId retry.zoneId
      | some prepared => some (st.replayPrepared env retry.sessionId retry.zoneId prepared)

/-- Records a prepared stream in the first cohort that lists its session. -/
def insertPrepared (prepared : PreparedDownstream) : List SyncCohort → List SyncCohort
  | [] => []
  | cohort :: rest =>
    if cohort.sessions.contains prepared.sessionId then
      { cohort with prepared := cohort.prepared.insert prepared.sessionId prepared } :: rest
    else cohort :: insertPrepared prepared rest

/-- The session keeps its prepared stream. -/
def keepPrepared (st : BridgeRuntime) (prepared : PreparedDownstream) : BridgeRuntime :=
  st.modifySession prepared.sessionId fun session => { session with prepared := some prepared }

/-- The active cohort is looked at first. -/
def enlistPrepared (st : BridgeRuntime) (prepared : PreparedDownstream) : BridgeRuntime :=
  { st with
    syncCohort := (insertPrepared prepared st.syncCohort.toList).head?
    pendingCohorts :=
      if st.syncCohort.any fun cohort => cohort.sessions.contains prepared.sessionId then
        st.pendingCohorts
      else insertPrepared prepared st.pendingCohorts }

theorem cohorts_enlistPrepared (st : BridgeRuntime) (prepared : PreparedDownstream) :
    (st.enlistPrepared prepared).cohorts = insertPrepared prepared st.cohorts := by
  unfold enlistPrepared cohorts
  cases st.syncCohort with
  | none => rfl
  | some active =>
    simp only [Option.toList_some, List.singleton_append, insertPrepared, Option.any_some]
    split <;> rfl

def handlePreparedDownstream (st : BridgeRuntime) (prepared : PreparedDownstream) :
    BridgeRuntime :=
  match st.session prepared.sessionId with
  | none => st
  | some session =>
    if session.generation ≠ prepared.generation ∨ session.desiredPlayback = false then st
    else if st.cohorts.any fun cohort => cohort.sessions.contains prepared.sessionId then
      ((st.keepPrepared prepared).enlistPrepared prepared).maybeStartSyncCohort env false
    else (st.keepPrepared prepared).playPreparedDownstreams env [prepared]

/-- The cleanup branch of `run`. A cancelled timer's message can still be queued, so the
live deadline decides. -/
def handleCleanup (st : BridgeRuntime) (id : SessionId) : Option BridgeRuntime :=
  match st.session id with
  | none => some st
  | some session =>
    if !session.desiredPlayback &&
        session.cleanupDeadline.any (fun deadline => decide (deadline ≤ st.now))
    then st.stopSession env id none
    else some st

/-- The senders of the workers are dropped; a worker still drains its last command. -/
def closeWorkers (st : BridgeRuntime) : BridgeRuntime :=
  { st with
    stopped := true
    zoneWorkers := fun zoneId => (st.zoneWorkers zoneId).map (·.shutdown) }

def shutdown (st : BridgeRuntime) : Option BridgeRuntime :=
  match (env.hashOrder st.hashWalks st.sessions.keys).foldlM
      (fun st id => st.stopSession env id none) st.walkSessions with
  | none => none
  | some st => some st.closeWorkers

/-! ### The branches of an operation in one form -/

theorem startSucceeded_spec (st : BridgeRuntime) (id : SessionId)
    (outcome : DownstreamStartOutcome) :
    ∃ nativeGroups, st.startSucceeded id outcome =
      { st.markPlaying id with nativeGroups := nativeGroups } := by
  unfold startSucceeded
  split <;> exact ⟨_, rfl⟩

theorem startUncertain_spec (st : BridgeRuntime) (id : SessionId)
    (outcome : DownstreamStartOutcome) :
    ∃ nativeGroups, st.startUncertain id outcome =
      { st.markUncertain id with nativeGroups := nativeGroups } := by
  unfold startUncertain
  split <;> exact ⟨_, rfl⟩

theorem replayPrepared_spec (st : BridgeRuntime) (id : SessionId) (zoneId : ZoneId)
    (prepared : PreparedDownstream) :
    ∃ playbackRelease, st.replayPrepared env id zoneId prepared =
      ({ st.modifySession id fun session =>
          { session with prepared := some prepared.released, retryTask := none } with
        playbackRelease := playbackRelease } : BridgeRuntime).sendCommand env zoneId
          (.play prepared.released) := by
  unfold replayPrepared planStream
  split <;> exact ⟨_, rfl⟩

/-! ### The session map after each operation -/

@[simp] theorem session_forgetNativeMember (st : BridgeRuntime) (id : SessionId) :
    (st.forgetNativeMember id).session = st.session := rfl

@[simp] theorem session_removeNativeGroup (st : BridgeRuntime) (id : SessionId) :
    (st.removeNativeGroup id).session = st.session := rfl

@[simp] theorem session_walkSessions (st : BridgeRuntime) :
    st.walkSessions.session = st.session := rfl

@[simp] theorem session_enlistPrepared (st : BridgeRuntime) (prepared : PreparedDownstream) :
    (st.enlistPrepared prepared).session = st.session := rfl

@[simp] theorem session_closeWorkers (st : BridgeRuntime) :
    st.closeWorkers.session = st.session := rfl

@[simp] theorem session_retireDownstream (st : BridgeRuntime) (id other : SessionId) :
    (st.retireDownstream id).session other =
      if other = id then
        (st.session other).map fun session =>
          { session with
            resetNeeded := true
            observed := .unknown
            prepared := none
            encoder := none
            generation := st.nextGeneration + 1 }
      else st.session other := by
  unfold retireDownstream
  simp only [session_nextDownstreamGeneration, session_removeStream, session_modifySession]
  split
  · cases st.session other <;> rfl
  · rfl

@[simp] theorem session_invalidateDownstream (st : BridgeRuntime) (id : SessionId)
    (zoneId : ZoneId) :
    (st.invalidateDownstream env id zoneId).session = (st.retireDownstream id).session := rfl

@[simp] theorem session_admitDownstream (st : BridgeRuntime) (id : SessionId) (zoneId : ZoneId)
    (renderer : Renderer) (liveStream : LiveStream) (other : SessionId) :
    (st.admitDownstream env id zoneId renderer liveStream).session other =
      if other = id then
        (st.session other).map fun session => { session with encoder := some ⟨liveStream⟩ }
      else st.session other :=
  session_modifySession (st.record (.registered liveStream)) id other _

@[simp] theorem session_resumePlayback (st : BridgeRuntime) (id other : SessionId) :
    (st.resumePlayback id).session other =
      if other = id then
        (st.session other).map fun session =>
          { session with
            desiredPlayback := true
            retryAttempts := 0
            cleanupDeadline := none
            cleanupTask := none }
      else st.session other := by
  unfold resumePlayback cancelPausedCleanup
  simp only [session_modifySession]
  split
  · cases st.session other <;> rfl
  · rfl

@[simp] theorem session_pausePlayback (st : BridgeRuntime) (id other : SessionId) :
    (st.pausePlayback id).session other =
      if other = id then
        (st.session other).map fun session =>
          { session with
            desiredPlayback := false
            resetNeeded := true
            observed := .unknown
            prepared := none
            retryTask := none }
      else st.session other := by
  unfold pausePlayback
  simp only [session_cancelDownstreamRetry, session_modifySession]
  split
  · cases st.session other <;> rfl
  · rfl

@[simp] theorem session_stopPaused (st : BridgeRuntime) (id : SessionId) (zoneId : ZoneId) :
    (st.stopPaused env id zoneId).session = (st.nextDownstreamGeneration id).session := rfl

@[simp] theorem session_removeSession (st : BridgeRuntime) (id other : SessionId) :
    (st.removeSession id).session other = if other = id then none else st.session other :=
  AssocMap.lookup_erase_ite ..

@[simp] theorem session_insertSession (st : BridgeRuntime) (id : SessionId) (zoneId : ZoneId)
    (format : PcmFormat) (sender : Option IpAddr) (other : SessionId) :
    (st.insertSession id zoneId format sender).session other =
      if other = id then some { SessionRuntime.new zoneId format with sender := sender }
      else st.session other :=
  AssocMap.lookup_insert_ite ..

@[simp] theorem session_retireEncoder (st : BridgeRuntime) (id : SessionId) (zoneId : ZoneId)
    (other : SessionId) :
    (st.retireEncoder env id zoneId).session other =
      if other = id then
        (st.session other).map fun session =>
          { session with
            prepared := none
            resetNeeded := true
            encoder := none
            generation := st.nextGeneration + 1 }
      else st.session other := by
  unfold retireEncoder
  simp only [session_sendCommand, session_removeStream, session_nextDownstreamGeneration,
    session_modifySession]
  split
  · cases st.session other <;> rfl
  · rfl

@[simp] theorem session_setPlaybackEpoch (st : BridgeRuntime) (id : SessionId)
    (playbackEpoch : Nat) (other : SessionId) :
    (st.setPlaybackEpoch id playbackEpoch).session other =
      if other = id then
        (st.session other).map fun session => { session with playbackEpoch := playbackEpoch }
      else st.session other :=
  session_modifySession ..

@[simp] theorem session_dropEncoder (st : BridgeRuntime) (id other : SessionId) :
    (st.dropEncoder id).session other =
      if other = id then (st.session other).map fun session => { session with encoder := none }
      else st.session other :=
  session_modifySession ..

@[simp] theorem session_deferCleanup (st : BridgeRuntime) (id other : SessionId) :
    (st.deferCleanup id).session other =
      if other = id then
        (st.session other).map fun session =>
          { session with
            resetNeeded := true
            cleanupDeadline := some (st.now + Duration.fromSecs PAUSED_SESSION_GRACE_SECS)
            cleanupTask := some
              ⟨st.now + Duration.fromSecs PAUSED_SESSION_GRACE_SECS, id, false⟩ }
      else st.session other := by
  unfold deferCleanup schedulePausedCleanup cancelPausedCleanup
  simp only [session_modifySession]
  split
  · cases st.session other <;> rfl
  · rfl

@[simp] theorem session_startSucceeded (st : BridgeRuntime) (id : SessionId)
    (outcome : DownstreamStartOutcome) (other : SessionId) :
    (st.startSucceeded id outcome).session other =
      if other = id then
        (st.session other).map fun session =>
          { session with
            observed := .playing
            resetNeeded := false
            retryAttempts := 0
            retryTask := none }
      else st.session other := by
  unfold startSucceeded
  split <;> exact session_modifySession ..

@[simp] theorem session_startUncertain (st : BridgeRuntime) (id : SessionId)
    (outcome : DownstreamStartOutcome) (other : SessionId) :
    (st.startUncertain id outcome).session other =
      if other = id then
        (st.session other).map fun session =>
          { session with observed := .unknown, resetNeeded := session.prepared.isNone }
      else st.session other := by
  unfold startUncertain
  split <;> exact session_modifySession ..

@[simp] theorem session_abandonStart (st : BridgeRuntime) (id other : SessionId) :
    (st.abandonStart id).session other =
      if other = id then
        (st.session other).map fun session =>
          { session with
            observed := .unknown
            resetNeeded := true
            retryAttempts := RETRY_BUDGET
            retryTask := none }
      else st.session other :=
  session_modifySession ..

@[simp] theorem session_notePaused (st : BridgeRuntime) (id : SessionId)
    (outcome : DownstreamStartOutcome) (other : SessionId) :
    (st.notePaused id outcome).session other =
      if other = id then
        (st.session other).map fun session =>
          { session with observed := if outcome = .stopped then .stopped else .unknown }
      else st.session other :=
  session_modifySession ..

@[simp] theorem session_keepPrepared (st : BridgeRuntime) (prepared : PreparedDownstream)
    (other : SessionId) :
    (st.keepPrepared prepared).session other =
      if other = prepared.sessionId then
        (st.session other).map fun session => { session with prepared := some prepared }
      else st.session other :=
  session_modifySession ..

@[simp] theorem session_replayPrepared (st : BridgeRuntime) (id : SessionId) (zoneId : ZoneId)
    (prepared : PreparedDownstream) (other : SessionId) :
    (st.replayPrepared env id zoneId prepared).session other =
      if other = id then
        (st.session other).map fun session =>
          { session with prepared := some prepared.released, retryTask := none }
      else st.session other := by
  unfold replayPrepared planStream
  split <;> exact session_modifySession ..

end BridgeRuntime

end AirSonos
