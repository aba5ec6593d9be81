import AirSonos.Bridge.System
import Mathlib.Logic.Relation

/-!
# Handlers as chains of moves

A handler that restarts sessions, releases cohorts and plans groups from inside each other is
cut into moves. What is still to be done stands on an explicit stack, so a property that every
move preserves holds whenever a handler has completed, and at every point in between.
-/

namespace AirSonos

/-- Why a session leaves its native group, which says what follows once the members it
coordinated have restarted. -/
inductive Goal
  | restart (id : SessionId) (zoneId : ZoneId)
  | pause (id : SessionId) (zoneId : ZoneId)
  | stop (id : SessionId) (zoneId : ZoneId) (generation : Nat)
  | leave (id : SessionId)

def Goal.id : Goal → SessionId
  | restart id _ => id
  | pause id _ => id
  | stop id _ _ => id
  | leave id => id

/-- Unfinished work: members to restart, cohorts to look at, or released streams to start. -/
inductive Frame
  | leaving (goal : Goal) (todo : List SessionId)
  | checking
  | starting (release : Release) (todo : List PreparedDownstream)
      (roles : AssocMap SessionId NativeMember)

namespace BridgeRuntime

def groupMembers (st : BridgeRuntime) (id : SessionId) : List SessionId :=
  ((st.forgetNativeMember id).nativeGroups.lookup id).getD []

/-- The session is in no group any more, neither as a member nor as the coordinator. -/
def disband (st : BridgeRuntime) (id : SessionId) : BridgeRuntime :=
  (st.forgetNativeMember id).removeNativeGroup id

def leaveFrame (st : BridgeRuntime) (goal : Goal) : Frame :=
  .leaving goal (st.groupMembers goal.id)

/-- The state in which the cohort taken out is handed to the players. -/
def handOver (st : BridgeRuntime) (cohort : SyncCohort) (rest : List SyncCohort) :
    BridgeRuntime :=
  (st.takeCohort rest).record
    (.released cohort st.now fun id => (st.session id).map SessionRuntime.generation)

def startFrame (env : Env) (st : BridgeRuntime) (prepared : List PreparedDownstream) : Frame :=
  .starting (st.planRelease env prepared) prepared (st.planRelease env prepared).roles

def openPlay (env : Env) (st : BridgeRuntime) (prepared : List PreparedDownstream) :
    BridgeRuntime :=
  st.openRelease env (st.planRelease env prepared)

/-- Opening a release records it, plans its groups and its join counter. -/
theorem openPlay_spec (env : Env) (st : BridgeRuntime) (prepared : List PreparedDownstream) :
    ∃ groupJoins nextGroupJoins, st.openPlay env prepared =
      { st with
        history := .played (st.planRelease env prepared) :: st.history
        nativeGroups := (st.planNativeGroups env prepared).groups
        hashWalks := (st.planNativeGroups env prepared).walks
        groupJoins := groupJoins
        nextGroupJoins := nextGroupJoins } := by
  unfold openPlay openRelease
  split <;> exact ⟨_, _, rfl⟩

@[simp] theorem session_disband (st : BridgeRuntime) (id : SessionId) :
    (st.disband id).session = st.session := rfl

@[simp] theorem session_handOver (st : BridgeRuntime) (cohort : SyncCohort)
    (rest : List SyncCohort) : (st.handOver cohort rest).session = st.session := rfl

@[simp] theorem session_openPlay (env : Env) (st : BridgeRuntime)
    (prepared : List PreparedDownstream) : (st.openPlay env prepared).session = st.session :=
  session_openRelease env st _

/-! ### What the moves that touch one session twice do to it -/

/-- Two edits of one session are one edit. -/
theorem edit_twice {session : Option SessionRuntime} {f g : SessionRuntime → SessionRuntime}
    {edited : Prop} [Decidable edited] :
    (if edited then (if edited then session.map f else session).map g
      else if edited then session.map f else session) =
      if edited then session.map (g ∘ f) else session := by
  split
  · exact Option.map_map ..
  · rfl

variable {env : Env}

theorem session_buildFailed (st : BridgeRuntime) (id : SessionId) (zoneId : ZoneId)
    (other : SessionId) :
    ((st.invalidateDownstream env id zoneId).scheduleDownstreamRetry id zoneId
      (st.invalidateDownstream env id zoneId).nextGeneration).1.session other =
      if other = id then
        (st.session other).map fun session =>
          retryOrReset st.now ⟨id, zoneId, st.nextGeneration + 1⟩
            { session with
              resetNeeded := true
              observed := .unknown
              prepared := none
              encoder := none
              generation := st.nextGeneration + 1 }
      else st.session other := by
  rw [session_scheduleDownstreamRetry, session_invalidateDownstream, session_retireDownstream]
  exact edit_twice

theorem session_built (st : BridgeRuntime) (id : SessionId) (zoneId : ZoneId)
    (renderer : Renderer) (liveStream : LiveStream) (other : SessionId) :
    ((st.invalidateDownstream env id zoneId).admitDownstream env id zoneId renderer
      liveStream).session other =
      if other = id then
        (st.session other).map fun session =>
          { session with
            resetNeeded := true
            observed := .unknown
            prepared := none
            encoder := some ⟨liveStream⟩
            generation := st.nextGeneration + 1 }
      else st.session other := by
  rw [session_admitDownstream, session_invalidateDownstream, session_retireDownstream]
  exact edit_twice

theorem session_resumedRestart (st : BridgeRuntime) (id other : SessionId) :
    (((st.resumePlayback id).cancelDownstreamRetry id).disband id).session other =
      if other = id then
        (st.session other).map fun session =>
          { session with
            desiredPlayback := true
            retryAttempts := 0
            cleanupDeadline := none
            cleanupTask := none
            retryTask := none }
      else st.session other := by
  rw [session_disband, session_cancelDownstreamRetry, session_resumePlayback]
  exact edit_twice

theorem session_flushedPlaying (st : BridgeRuntime) (id : SessionId) (playbackEpoch : Nat)
    (other : SessionId) :
    (((st.setPlaybackEpoch id playbackEpoch).cancelDownstreamRetry id).disband id).session other =
      if other = id then
        (st.session other).map fun session =>
          { session with playbackEpoch := playbackEpoch, retryTask := none }
      else st.session other := by
  rw [session_disband, session_cancelDownstreamRetry, session_setPlaybackEpoch]
  exact edit_twice

theorem session_flushedPaused (st : BridgeRuntime) (id : SessionId) (playbackEpoch : Nat)
    (other : SessionId) :
    ((st.setPlaybackEpoch id playbackEpoch).dropEncoder id).session other =
      if other = id then
        (st.session other).map fun session =>
          { session with playbackEpoch := playbackEpoch, encoder := none }
      else st.session other := by
  rw [session_dropEncoder, session_setPlaybackEpoch]
  exact edit_twice

theorem session_encoderRetried (st : BridgeRuntime) (id : SessionId) (zoneId : ZoneId)
    (other : SessionId) :
    ((st.retireEncoder env id zoneId).scheduleDownstreamRetry id zoneId
      (st.retireEncoder env id zoneId).nextGeneration).1.session other =
      if other = id then
        (st.session other).map fun session =>
          retryOrReset st.now ⟨id, zoneId, st.nextGeneration + 1⟩
            { session with
              prepared := none
              resetNeeded := true
              encoder := none
              generation := st.nextGeneration + 1 }
      else st.session other := by
  rw [session_scheduleDownstreamRetry, session_retireEncoder]
  exact edit_twice

theorem session_retryRestarted (st : BridgeRuntime) (id other : SessionId) :
    (((st.takeRetry.cancelDownstreamRetry id).cancelDownstreamRetry id).disband id).session other =
      if other = id then (st.session other).map fun session => { session with retryTask := none }
      else st.session other := by
  rw [session_disband, session_cancelDownstreamRetry, session_cancelDownstreamRetry]
  exact edit_twice

theorem session_preparedPlayed (st : BridgeRuntime) (prepared : PreparedDownstream)
    (other : SessionId) :
    ((st.takePrepared.keepPrepared prepared).openPlay env [prepared]).session other =
      if other = prepared.sessionId then
        (st.session other).map fun session => { session with prepared := some prepared }
      else st.session other := by
  rw [session_openPlay, session_keepPrepared]
  rfl

end BridgeRuntime

open BridgeRuntime

/-- The moves inside a handler. -/
inductive Inner (env : Env) :
    List Frame → BridgeRuntime → List Frame → BridgeRuntime → Prop
  | memberSkipped {stack st goal member rest}
      (unwanted : ∀ session, st.session member = some session →
        session.desiredPlayback = false) :
      Inner env (.leaving goal (member :: rest) :: stack) st (.leaving goal rest :: stack) st
  | memberRestarted {stack st goal member rest session}
      (live : st.session member = some session) (wanted : session.desiredPlayback = true) :
      Inner env (.leaving goal (member :: rest) :: stack) st
        ((st.cancelDownstreamRetry member).leaveFrame (.restart member session.zoneId) ::
          .leaving goal rest :: stack)
        ((st.cancelDownstreamRetry member).disband member)
  | vanished {stack st id zoneId} (gone : st.session id = none) :
      Inner env (.leaving (.restart id zoneId) [] :: stack) st stack st
  | rendererMissing {stack st id zoneId session} (live : st.session id = some session)
      (missing : env.renderers zoneId = none) :
      Inner env (.leaving (.restart id zoneId) [] :: stack) st stack (st.retireDownstream id)
  | buildFailed {stack st id zoneId session renderer} (live : st.session id = some session)
      (renderer_eq : env.renderers zoneId = some renderer)
      (failed : (st.invalidateDownstream env id zoneId).createDownstreamStream env id zoneId
        (st.invalidateDownstream env id zoneId).nextGeneration = none) :
      Inner env (.leaving (.restart id zoneId) [] :: stack) st stack
        ((st.invalidateDownstream env id zoneId).scheduleDownstreamRetry id zoneId
          (st.invalidateDownstream env id zoneId).nextGeneration).1
  | built {stack st id zoneId session renderer liveStream}
      (live : st.session id = some session)
      (renderer_eq : env.renderers zoneId = some renderer)
      (created : (st.invalidateDownstream env id zoneId).createDownstreamStream env id zoneId
        (st.invalidateDownstream env id zoneId).nextGeneration = some liveStream) :
      Inner env (.leaving (.restart id zoneId) [] :: stack) st (.checking :: stack)
        ((st.invalidateDownstream env id zoneId).admitDownstream env id zoneId renderer liveStream)
  | left {stack st id} : Inner env (.leaving (.leave id) [] :: stack) st stack st
  | pauseFinished {stack st id zoneId} :
      Inner env (.leaving (.pause id zoneId) [] :: stack) st (.checking :: stack)
        (st.stopPaused env id zoneId)
  | stopFinished {stack st id zoneId generation} :
      Inner env (.leaving (.stop id zoneId generation) [] :: stack) st (.checking :: stack)
        (st.sendCommand env zoneId (.stop id zoneId generation))
  | cohortDropped {stack st cohort rest} (first : st.cohorts = cohort :: rest)
      (empty : (st.pruneCohort cohort).sessions.isEmpty = true) :
      Inner env (.checking :: stack) st (.checking :: stack) (st.takeCohort rest)
  | cohortReleased {stack st cohort rest} (first : st.cohorts = cohort :: rest)
      (listed : (st.pruneCohort cohort).sessions.isEmpty = false)
      (starts : (st.pruneCohort cohort).shouldStart st.now false = true) :
      Inner env (.checking :: stack) st
        ((st.handOver (st.pruneCohort cohort) rest).startFrame env
          (st.pruneCohort cohort).preparedStreams :: .checking :: stack)
        ((st.handOver (st.pruneCohort cohort) rest).openPlay env
          (st.pruneCohort cohort).preparedStreams)
  | cohortKept {stack st cohort rest} (first : st.cohorts = cohort :: rest)
      (listed : (st.pruneCohort cohort).sessions.isEmpty = false)
      (waits : (st.pruneCohort cohort).shouldStart st.now false = false) :
      Inner env (.checking :: stack) st stack
        ((st.keepCohort (st.pruneCohort cohort) rest).record
          (.checked st.now (st.pruneCohort cohort :: rest)))
  | cohortsDone {stack st} (none_left : st.cohorts = []) :
      Inner env (.checking :: stack) st stack ((st.takeCohort []).record (.checked st.now []))
  | streamStarted {stack st release stream rest roles} :
      Inner env (.starting release (stream :: rest) roles :: stack) st
        (.starting release rest (roles.erase stream.sessionId) :: stack)
        (startStream env release.joins release.delays release.cutoff (st, roles) stream).1
  | startsDone {stack st release roles} :
      Inner env (.starting release [] roles :: stack) st stack st

/-- The moves of the whole system. Where a handler begins or another part of the system moves,
nothing else is unfinished. `guard` restricts the steps that a guarded run may take. -/
inductive Move (env : Env) (guard : BridgeRuntime → BridgeLabel → Prop) :
    List Frame → BridgeRuntime → List Frame → BridgeRuntime → Prop
  | inner {stack st stack' st'} (move : Inner env stack st stack' st') :
      Move env guard stack st stack' st'
  | tick {st} (elapsed : Duration) :
      Move env guard [] st [] { st with now := st.now + elapsed }
  | workerTook {st zoneId worker worker'} (found : st.zoneWorkers zoneId = some worker)
      (took : worker.take st.now = some worker') :
      Move env guard [] st [] (st.setWorker zoneId worker')
  | workerReplied {st zoneId worker reply worker' outputs}
      (guarded : guard st (.worker zoneId (.reply reply)))
      (found : st.zoneWorkers zoneId = some worker)
      (replied : worker.reply st.now reply = some (worker', outputs)) :
      Move env guard [] st [] (outputs.foldl deliver (st.setWorker zoneId worker'))
  | workerSuperseded {st zoneId worker worker'} (found : st.zoneWorkers zoneId = some worker)
      (superseded : worker.supersede = some worker') :
      Move env guard [] st [] (st.setWorker zoneId worker')
  | workerReady {st zoneId worker worker' prepared}
      (found : st.zoneWorkers zoneId = some worker)
      (ready : worker.ready = some (worker', prepared)) :
      Move env guard [] st [] ((st.setWorker zoneId worker').sendPrepared prepared)
  | groupReleased {st zoneId worker stream joins delay since st'}
      (found : st.zoneWorkers zoneId = some worker)
      (waiting : worker.running = some (.groupWait stream joins delay since))
      (released : st.releaseGroup zoneId worker stream joins delay since = some st') :
      Move env guard [] st [] st'
  | retryFired {st id session task} (live : st.session id = some session)
      (timer : session.retryTask = some task) (pending : task.fired = false)
      (due : task.due ≤ st.now) :
      Move env guard [] st [] (st.sendRetry id task)
  | cleanupFired {st id session task} (live : st.session id = some session)
      (timer : session.cleanupTask = some task) (pending : task.fired = false)
      (due : task.due ≤ st.now) :
      Move env guard [] st [] (st.sendCleanup id task)
  | wakeFired {st due} (timer : due ∈ st.wakeTimers) (reached : due ≤ st.now) :
      Move env guard [] st [] (st.sendWake due)
  | volumeSet {st} (zoneId : ZoneId) (value : Nat) :
      Move env guard [] st [] (st.setVolume env zoneId value)
  | sessionsWalked {st} : Move env guard [] st [] st.walkSessions
  | cleanupTaken {st} : Move env guard [] st [] st.takeCleanup
  | cleanupDeferred {st id zoneId session} (live : st.session id = some session)
      (unwanted : session.desiredPlayback = false)
      (guarded : guard st (.event (.streamEndedWhilePaused id zoneId))) :
      Move env guard [] st [] (st.deferCleanup id)
  | resumed {st id zoneId session} (live : st.session id = some session)
      (wanted : session.desiredPlayback = true) (clean : session.resetNeeded = false)
      (guarded : guard st (.event (.playbackState id zoneId true))) :
      Move env guard [] st [] (st.resumePlayback id)
  | resumedRestart {st id zoneId session} (address : zoneId = env.zoneOf id)
      (live : st.session id = some session)
      (stale : session.desiredPlayback = true → session.resetNeeded = true)
      (guarded : guard st (.event (.playbackState id zoneId true))) :
      Move env guard [] st
        [((st.resumePlayback id).cancelDownstreamRetry id).leaveFrame (.restart id zoneId)]
        (((st.resumePlayback id).cancelDownstreamRetry id).disband id)
  | flushedPlaying {st id zoneId session playbackEpoch} (address : zoneId = env.zoneOf id)
      (live : st.session id = some session) (wanted : session.desiredPlayback = true)
      (newer : session.playbackEpoch < playbackEpoch)
      (guarded : guard st (.event (.flushed id playbackEpoch zoneId))) :
      Move env guard [] st
        [((st.setPlaybackEpoch id playbackEpoch).cancelDownstreamRetry id).leaveFrame
          (.restart id zoneId)]
        (((st.setPlaybackEpoch id playbackEpoch).cancelDownstreamRetry id).disband id)
  | paused {st id zoneId session} (address : zoneId = env.zoneOf id)
      (live : st.session id = some session) :
      Move env guard [] st [(st.pausePlayback id).leaveFrame (.pause id zoneId)]
        ((st.pausePlayback id).disband id)
  | flushedPaused {st id zoneId session playbackEpoch} (live : st.session id = some session)
      (unwanted : session.desiredPlayback = false)
      (newer : session.playbackEpoch < playbackEpoch)
      (guarded : guard st (.event (.flushed id playbackEpoch zoneId))) :
      Move env guard [] st [] ((st.setPlaybackEpoch id playbackEpoch).dropEncoder id)
  | sessionRemoved {st id zoneId session} (live : st.session id = some session)
      (address : zoneId = session.zoneId ∨ zoneId = env.zoneOf id) :
      Move env guard [] st [(st.removeSession id).leaveFrame (.stop id zoneId session.generation)]
        ((st.removeSession id).disband id)
  | sessionInserted {st id zoneId renderer} (format : PcmFormat) (sender : Option IpAddr)
      (address : zoneId = env.zoneOf id) (renderer_eq : env.renderers zoneId = some renderer)
      (free : ∀ other session, st.session other = some session → session.zoneId ≠ zoneId)
      (guarded : ∃ origin, guard origin (.event (.sessionStarted id zoneId format sender))) :
      Move env guard [] st
        [((st.insertSession id zoneId format sender).cancelDownstreamRetry id).leaveFrame
          (.restart id zoneId)]
        (((st.insertSession id zoneId format sender).cancelDownstreamRetry id).disband id)
  | encoderClosed {st id zoneId frames session}
      (guarded : guard st (.event (.pcm id zoneId frames)))
      (live : st.session id = some session) (closes : frames.any session.closes = true) :
      Move env guard [] st [] (st.encoderInputClosed env id session)
  | resultDropped {st result rest} (first : st.resultRx = result :: rest)
      (stale : ∀ session, st.session result.sessionId = some session →
        session.generation = result.generation → session.desiredPlayback = true ∧
          (result.outcome = .stopped ∨ result.outcome = .stopUnknown)) :
      Move env guard [] st [] st.takeResult
  | resultPaused {st result rest session} (first : st.resultRx = result :: rest)
      (live : st.session result.sessionId = some session)
      (current : session.generation = result.generation)
      (unwanted : session.desiredPlayback = false) :
      Move env guard [] st [] (st.takeResult.notePaused result.sessionId result.outcome)
  | startSucceeded {st result rest session} (first : st.resultRx = result :: rest)
      (live : st.session result.sessionId = some session)
      (current : session.generation = result.generation)
      (wanted : session.desiredPlayback = true)
      (outcome : result.outcome = .started ∨ result.outcome = .joined) :
      Move env guard [] st [] (st.takeResult.startSucceeded result.sessionId result.outcome)
  | startRetried {st result rest session} (first : st.resultRx = result :: rest)
      (live : st.session result.sessionId = some session)
      (current : session.generation = result.generation)
      (wanted : session.desiredPlayback = true)
      (outcome : result.outcome = .unknown ∨ result.outcome = .failed)
      (budget : session.retryAttempts < RETRY_BUDGET) :
      Move env guard [] st []
        ((st.takeResult.startUncertain result.sessionId result.outcome).scheduleDownstreamRetry
          result.sessionId result.zoneId result.generation).1
  | startExhausted {st result rest session} (first : st.resultRx = result :: rest)
      (live : st.session result.sessionId = some session)
      (current : session.generation = result.generation)
      (wanted : session.desiredPlayback = true)
      (outcome : result.outcome = .unknown ∨ result.outcome = .failed)
      (spent : RETRY_BUDGET ≤ session.retryAttempts) :
      Move env guard [] st
        [((st.takeResult.startUncertain result.sessionId result.outcome).scheduleDownstreamRetry
          result.sessionId result.zoneId result.generation).1.leaveFrame (.leave result.sessionId)]
        (((st.takeResult.startUncertain result.sessionId result.outcome).scheduleDownstreamRetry
          result.sessionId result.zoneId result.generation).1.disband result.sessionId)
  | startAbandoned {st result rest session} (first : st.resultRx = result :: rest)
      (live : st.session result.sessionId = some session)
      (current : session.generation = result.generation)
      (wanted : session.desiredPlayback = true)
      (outcome : result.outcome = .permanentFailure) :
      Move env guard [] st
        [(st.takeResult.abandonStart result.sessionId).leaveFrame (.leave result.sessionId)]
        ((st.takeResult.abandonStart result.sessionId).disband result.sessionId)
  | retryDropped {st retry rest} (first : st.retryRx = retry :: rest)
      (stale : ∀ session, st.session retry.sessionId = some session →
        session.generation = retry.generation → session.desiredPlayback = false) :
      Move env guard [] st [] st.takeRetry
  | retryReplayed {st retry rest session prepared} (guarded : guard st .retry)
      (first : st.retryRx = retry :: rest)
      (live : st.session retry.sessionId = some session)
      (current : session.generation = retry.generation)
      (wanted : session.desiredPlayback = true) (kept : session.prepared = some prepared) :
      Move env guard [] st []
        (st.takeRetry.replayPrepared env retry.sessionId retry.zoneId prepared)
  | retryRestarted {st retry rest session} (first : st.retryRx = retry :: rest)
      (live : st.session retry.sessionId = some session)
      (current : session.generation = retry.generation)
      (wanted : session.desiredPlayback = true) (unprepared : session.prepared = none) :
      Move env guard [] st
        [(((st.takeRetry.cancelDownstreamRetry retry.sessionId).cancelDownstreamRetry
          retry.sessionId).leaveFrame (.restart retry.sessionId retry.zoneId))]
        (((st.takeRetry.cancelDownstreamRetry retry.sessionId).cancelDownstreamRetry
          retry.sessionId).disband retry.sessionId)
  | preparedDropped {st prepared rest} (first : st.preparedRx = prepared :: rest)
      (stale : ∀ session, st.session prepared.sessionId = some session →
        session.generation = prepared.generation → session.desiredPlayback = false) :
      Move env guard [] st [] st.takePrepared
  | preparedListed {st prepared rest session} (first : st.preparedRx = prepared :: rest)
      (live : st.session prepared.sessionId = some session)
      (current : session.generation = prepared.generation)
      (wanted : session.desiredPlayback = true)
      (listed : ∃ cohort ∈ st.cohorts, prepared.sessionId ∈ cohort.sessions) :
      Move env guard [] st [.checking]
        ((st.takePrepared.keepPrepared prepared).enlistPrepared prepared)
  | preparedPlayed {st prepared rest session} (first : st.preparedRx = prepared :: rest)
      (live : st.session prepared.sessionId = some session)
      (current : session.generation = prepared.generation)
      (wanted : session.desiredPlayback = true)
      (unlisted : ∀ cohort ∈ st.cohorts, prepared.sessionId ∉ cohort.sessions) :
      Move env guard [] st [(st.takePrepared.keepPrepared prepared).startFrame env [prepared]]
        ((st.takePrepared.keepPrepared prepared).openPlay env [prepared])
  | wakeTaken {st} (woken : 0 < st.wakeRx) : Move env guard [] st [.checking] st.takeWake
  | workersClosed {st} (ended : ∀ id, st.session id = none) :
      Move env guard [] st [] st.closeWorkers

end AirSonos
