import AirSonos.Bridge.Steps

/-!
# How long a session lives

Of the whole runtime only a few fields decide when a session ends: what its sender asked for,
the deadline of its grace period, and the messages of the cleanup timers. They make up a small
system of their own, and every step of the bridge is a step of it.
-/

namespace AirSonos

open BridgeRuntime

namespace Demand

def new (zoneId : ZoneId) (format : PcmFormat) (sender : Option IpAddr) : Demand where
  zoneId := zoneId
  format := format
  sender := sender
  playbackEpoch := 0
  desiredPlayback := true
  cleanupTask := none
  cleanupDeadline := none

def play (demand : Demand) : Demand :=
  { demand with desiredPlayback := true, cleanupTask := none, cleanupDeadline := none }

def pause (demand : Demand) : Demand :=
  { demand with desiredPlayback := false }

/-- A flush that is not newer than the last one is ignored. -/
def flush (playbackEpoch : Nat) (demand : Demand) : Demand :=
  if playbackEpoch ≤ demand.playbackEpoch then demand
  else { demand with playbackEpoch := playbackEpoch }

/-- The end of a stream counts only while the session is paused. -/
def endStream (id : SessionId) (now : Instant) (demand : Demand) : Demand :=
  if demand.desiredPlayback then demand
  else
    { demand with
      cleanupDeadline := some (now + Duration.fromSecs PAUSED_SESSION_GRACE_SECS)
      cleanupTask := some ⟨now + Duration.fromSecs PAUSED_SESSION_GRACE_SECS, id, false⟩ }

def fired (demand : Demand) : Demand :=
  { demand with cleanupTask := demand.cleanupTask.map fun task => { task with fired := true } }

def overdue (now : Instant) (demand : Demand) : Bool :=
  !demand.desiredPlayback && demand.cleanupDeadline.any fun deadline => decide (deadline ≤ now)

end Demand

/-- The fields of the runtime that decide when a session ends. -/
structure Lifetimes where
  now : Instant
  stopped : Bool
  cleanupRx : List SessionId
  demand : SessionId → Option Demand

namespace Lifetimes

def modify (s : Lifetimes) (id : SessionId) (f : Demand → Demand) : Lifetimes :=
  { s with demand := fun other => if other = id then (s.demand other).map f else s.demand other }

def remove (s : Lifetimes) (id : SessionId) : Lifetimes :=
  { s with demand := fun other => if other = id then none else s.demand other }

/-- A new session ends the others of its zone. -/
def vacate (s : Lifetimes) (zoneId : ZoneId) : Lifetimes :=
  { s with demand := fun other => (s.demand other).filter fun demand => demand.zoneId ≠ zoneId }

def insert (s : Lifetimes) (id : SessionId) (demand : Demand) : Lifetimes :=
  { s with demand := fun other => if other = id then some demand else s.demand other }

/-- The cleanup timer sends its message once. The message stays when the timer is aborted. -/
def fire (s : Lifetimes) (id : SessionId) : Lifetimes :=
  match (s.demand id).bind Demand.cleanupTask with
  | none => s
  | some task =>
    if !task.fired && decide (task.due ≤ s.now) then
      { s.modify id Demand.fired with cleanupRx := s.cleanupRx ++ [task.message] }
    else s

/-- The message of a timer ends the session only if it is paused and its grace period is over. -/
def cleanUp (s : Lifetimes) (id : SessionId) : Lifetimes :=
  if (s.demand id).any (Demand.overdue s.now) then s.remove id else s

def handleEvent (env : Env) (s : Lifetimes) : AirPlayEvent → Lifetimes
  | .sessionStarted id zoneId format sender =>
    match env.renderers zoneId with
    | none => s.vacate zoneId
    | some _ => (s.vacate zoneId).insert id (.new zoneId format sender)
  | .playbackState id _ playing => s.modify id (if playing then Demand.play else Demand.pause)
  | .flushed id playbackEpoch _ => s.modify id (Demand.flush playbackEpoch)
  | .sessionStopped id _ => s.remove id
  | .streamEndedWhilePaused id _ => s.modify id (Demand.endStream id s.now)
  | .pcm _ _ _ => s
  | .volume _ _ => s

def step (env : Env) (s : Lifetimes) : BridgeLabel → Lifetimes
  | .tick elapsed => { s with now := s.now + elapsed }
  | .event event => s.handleEvent env event
  | .cleanupTimer id => s.fire id
  | .cleanup =>
    match s.cleanupRx with
    | [] => s
    | id :: rest => cleanUp { s with cleanupRx := rest } id
  | .shutdown => { s with stopped := true, demand := fun _ => none }
  | _ => s

@[ext] theorem ext {s t : Lifetimes} (now : s.now = t.now) (stopped : s.stopped = t.stopped)
    (cleanupRx : s.cleanupRx = t.cleanupRx) (demand : s.demand = t.demand) : s = t := by
  cases s
  cases t
  cases now
  cases stopped
  cases cleanupRx
  cases demand
  rfl

theorem remove_of_none {s : Lifetimes} {id : SessionId} (h : s.demand id = none) :
    s.remove id = s := by
  refine ext rfl rfl rfl (funext fun other => ?_)
  show (if other = id then none else s.demand other) = s.demand other
  split
  · case isTrue heq => rw [heq, h]
  · rfl

theorem modify_of_fixed {s : Lifetimes} {id : SessionId} {f : Demand → Demand}
    (h : ∀ demand, s.demand id = some demand → f demand = demand) : s.modify id f = s := by
  refine ext rfl rfl rfl (funext fun other => ?_)
  show (if other = id then (s.demand other).map f else s.demand other) = s.demand other
  split
  · case isTrue heq =>
    rw [heq]
    cases hlive : s.demand id with
    | none => rfl
    | some demand => exact congrArg some (h demand hlive)
  · rfl

end Lifetimes

def lifetimes (env : Env) : TransitionSystem Lifetimes BridgeLabel where
  init := ⟨0, false, [], fun _ => none⟩
  step s label := some (s.step env label)

/-! ### What the bridge does to the lifetimes -/

namespace BridgeRuntime

def lifetimes (st : BridgeRuntime) : Lifetimes where
  now := st.now
  stopped := st.stopped
  cleanupRx := st.cleanupRx
  demand := st.demand

variable {env : Env} {st st' : BridgeRuntime}

theorem lifetimes_of_demand (demand : st'.demand = st.demand) (now : st'.now = st.now)
    (stopped : st'.stopped = st.stopped) (cleanupRx : st'.cleanupRx = st.cleanupRx) :
    st'.lifetimes = st.lifetimes :=
  Lifetimes.ext now stopped cleanupRx demand

end BridgeRuntime

theorem Inner.clock {env : Env} {stack stack' : List Frame} {st st' : BridgeRuntime}
    (h : Inner env stack st stack' st') :
    st'.now = st.now ∧ st'.stopped = st.stopped ∧ st'.cleanupRx = st.cleanupRx := by
  cases h with
  | @cohortReleased _ _ cohort rest =>
    obtain ⟨groupJoins, nextGroupJoins, heq⟩ := openPlay_spec env
      (st.handOver (st.pruneCohort cohort) rest) (st.pruneCohort cohort).preparedStreams
    rw [heq]
    exact ⟨rfl, rfl, rfl⟩
  | @streamStarted _ _ release stream rest roles =>
    obtain ⟨planned, playbackRelease, f, heq, -, -⟩ := startStream_spec env release.joins
      release.delays release.cutoff st roles stream
    rw [heq]
    exact ⟨rfl, rfl, rfl⟩
  | memberRestarted =>
    simp only [disband, removeNativeGroup, forgetNativeMember, cancelDownstreamRetry,
      modifySession, and_self]
  | rendererMissing =>
    simp only [retireDownstream, nextDownstreamGeneration, removeStream, modifySession, and_self]
  | buildFailed =>
    simp only [scheduleDownstreamRetry, invalidateDownstream, retireDownstream, sendCommand,
      nextDownstreamGeneration, removeStream, modifySession, and_self]
  | built =>
    simp only [admitDownstream, registerStream, addSessionToSyncCohort, invalidateDownstream,
      retireDownstream, sendCommand, nextDownstreamGeneration, removeStream, modifySession,
      BridgeRuntime.record, and_self]
  | pauseFinished =>
    simp only [stopPaused, sendCommand, nextDownstreamGeneration, modifySession, and_self]
  | _ => exact ⟨rfl, rfl, rfl⟩

/-- Restarts, releases and group changes inside a handler do not touch the lifetimes. -/
theorem InnerChain.lifetimes {env : Env} {a b : List Frame × BridgeRuntime}
    (h : InnerChain env a b) : b.2.lifetimes = a.2.lifetimes := by
  induction h with
  | refl => rfl
  | tail _ move ih =>
    obtain ⟨now, stopped, cleanupRx⟩ := move.clock
    exact (lifetimes_of_demand move.demand now stopped cleanupRx).trans ih

/-! ### The handlers -/

namespace BridgeRuntime

variable {env : Env} {st st' : BridgeRuntime}

variable (st) in
theorem lifetimes_cancelDownstreamRetry (id : SessionId) :
    (st.cancelDownstreamRetry id).lifetimes = st.lifetimes :=
  lifetimes_of_demand (demand_cancelDownstreamRetry st id) rfl rfl rfl

variable (st) in
theorem lifetimes_nextDownstreamGeneration (id : SessionId) :
    (st.nextDownstreamGeneration id).lifetimes = st.lifetimes :=
  lifetimes_of_demand (demand_nextDownstreamGeneration st id) rfl rfl rfl

variable (st) in
theorem lifetimes_scheduleDownstreamRetry (id : SessionId) (zoneId : ZoneId) (generation : Nat) :
    (st.scheduleDownstreamRetry id zoneId generation).1.lifetimes = st.lifetimes :=
  lifetimes_of_demand (demand_scheduleDownstreamRetry st id zoneId generation) rfl rfl rfl

variable (env st) in
theorem lifetimes_sendCommand (zoneId : ZoneId) (command : TransportCommand) :
    (st.sendCommand env zoneId command).lifetimes = st.lifetimes := rfl

variable (st) in
theorem lifetimes_removeStream (id : SessionId) :
    (st.removeStream id).lifetimes = st.lifetimes := rfl

variable (env st) in
theorem lifetimes_maybeStartSyncCohort :
    (st.maybeStartSyncCohort env false).lifetimes = st.lifetimes :=
  (check_chain [] st).lifetimes

theorem lifetimes_restart {id : SessionId} {zoneId : ZoneId}
    (h : st.restart env id zoneId = some st') : st'.lifetimes = st.lifetimes :=
  (restart_chain [] h).lifetimes.trans (lifetimes_cancelDownstreamRetry st id)

theorem lifetimes_leaveGroup {id : SessionId} (h : st.leaveGroup env id = some st') :
    st'.lifetimes = st.lifetimes :=
  (leaveGroup_chain [] (.leave id) h).lifetimes

variable (st) in
theorem lifetimes_removeSession (id : SessionId) :
    (st.removeSession id).lifetimes = st.lifetimes.remove id :=
  Lifetimes.ext rfl rfl rfl (funext (demand_removeSession st id))

theorem lifetimes_demand_of_none {id : SessionId} (h : st.session id = none) :
    st.lifetimes.demand id = none := by
  show (st.session id).map SessionRuntime.demand = none
  rw [h]
  rfl

theorem lifetimes_demand_of_some {id : SessionId} {session : SessionRuntime}
    (h : st.session id = some session) : st.lifetimes.demand id = some session.demand := by
  show (st.session id).map SessionRuntime.demand = some session.demand
  rw [h]
  rfl

theorem lifetimes_stopSession {id : SessionId} {fallback : Option ZoneId}
    (h : st.stopSession env id fallback = some st') :
    st'.lifetimes = st.lifetimes.remove id := by
  unfold stopSession at h
  split at h
  · next hgone =>
    cases h
    rw [Lifetimes.remove_of_none (lifetimes_demand_of_none hgone)]
  · split at h
    · cases h
    · next hleft =>
      cases h
      rw [lifetimes_maybeStartSyncCohort, lifetimes_sendCommand, lifetimes_leaveGroup hleft,
        lifetimes_removeSession]

theorem lifetimes_stopSessions (ids : List SessionId)
    (h : ids.foldlM (fun st id => st.stopSession env id none) st = some st') :
    st'.lifetimes = { st.lifetimes with
      demand := fun id => if id ∈ ids then none else st.lifetimes.demand id } := by
  induction ids generalizing st with
  | nil =>
    cases h
    exact Lifetimes.ext rfl rfl rfl (funext fun id => by simp)
  | cons id rest ih =>
    simp only [List.foldlM_cons, Option.bind_eq_bind] at h
    obtain ⟨st₁, hst₁, hrest⟩ := Option.bind_eq_some_iff.mp h
    rw [ih hrest, lifetimes_stopSession hst₁]
    refine Lifetimes.ext rfl rfl rfl (funext fun other => ?_)
    simp only [Lifetimes.remove, List.mem_cons]
    by_cases hother : other = id
    · simp [hother]
    · simp [hother]

/-- The sessions that a new one ends are found in the order of the hash map. It does not matter. -/
theorem lifetimes_vacate {zoneId : ZoneId}
    (h : (st.zoneSessions env zoneId).foldlM (fun st old => st.stopSession env old none)
      st.walkSessions = some st') : st'.lifetimes = st.lifetimes.vacate zoneId := by
  rw [lifetimes_stopSessions _ h]
  refine Lifetimes.ext rfl rfl rfl (funext fun other => ?_)
  show (if other ∈ st.zoneSessions env zoneId then none
    else (st.session other).map SessionRuntime.demand) =
      ((st.session other).map SessionRuntime.demand).filter fun demand => demand.zoneId ≠ zoneId
  cases hlive : st.session other with
  | none => simp
  | some session =>
    rw [Option.map_some, Option.filter_some]
    by_cases hsame : session.zoneId = zoneId
    · rw [if_pos ((mem_zoneSessions st zoneId other).mpr ⟨session, hlive, hsame⟩), if_neg]
      exact fun hother => of_decide_eq_true hother hsame
    · rw [if_neg, if_pos]
      · exact decide_eq_true hsame
      · intro hmem
        obtain ⟨found, hfound, hfoundZone⟩ := (mem_zoneSessions st zoneId other).mp hmem
        rw [hlive] at hfound
        cases hfound
        exact hsame hfoundZone

theorem lifetimes_startSession {id : SessionId} {zoneId : ZoneId} {format : PcmFormat}
    {sender : Option IpAddr} (h : st.startSession env id zoneId format sender = some st') :
    st'.lifetimes = st.lifetimes.handleEvent env (.sessionStarted id zoneId format sender) := by
  unfold startSession at h
  split at h
  · cases h
  · next st₁ hst₁ =>
    have hvacated := lifetimes_vacate hst₁
    cases hrenderer : env.renderers zoneId with
    | none =>
      rw [hrenderer] at h
      cases h
      simp only [Lifetimes.handleEvent, hrenderer, hvacated]
    | some renderer =>
      rw [hrenderer] at h
      simp only [Lifetimes.handleEvent, hrenderer, ← hvacated]
      rw [lifetimes_restart h]
      refine Lifetimes.ext rfl rfl rfl (funext fun other => ?_)
      show ((st₁.insertSession id zoneId format sender).session other).map SessionRuntime.demand =
        if other = id then some (Demand.new zoneId format sender)
        else (st₁.session other).map SessionRuntime.demand
      rw [session_insertSession]
      split <;> rfl

theorem lifetimes_resumePlayback (id : SessionId) :
    (st.resumePlayback id).lifetimes = st.lifetimes.modify id Demand.play := by
  refine Lifetimes.ext rfl rfl rfl (funext fun other => ?_)
  show ((st.resumePlayback id).session other).map SessionRuntime.demand =
    if other = id then ((st.session other).map SessionRuntime.demand).map Demand.play
    else (st.session other).map SessionRuntime.demand
  rw [session_resumePlayback]
  split
  · cases st.session other <;> rfl
  · rfl

theorem lifetimes_pausePlayback (id : SessionId) :
    (st.pausePlayback id).lifetimes = st.lifetimes.modify id Demand.pause := by
  refine Lifetimes.ext rfl rfl rfl (funext fun other => ?_)
  show ((st.pausePlayback id).session other).map SessionRuntime.demand =
    if other = id then ((st.session other).map SessionRuntime.demand).map Demand.pause
    else (st.session other).map SessionRuntime.demand
  rw [session_pausePlayback]
  split
  · cases st.session other <;> rfl
  · rfl

theorem lifetimes_setPlaybackState {id : SessionId} {zoneId : ZoneId} {playing : Bool}
    (h : st.setPlaybackState env id zoneId playing = some st') :
    st'.lifetimes =
      st.lifetimes.modify id (if playing then Demand.play else Demand.pause) := by
  unfold setPlaybackState at h
  split at h
  · next hgone =>
    cases h
    rw [Lifetimes.modify_of_fixed fun demand hlive => ?_]
    rw [lifetimes_demand_of_none hgone] at hlive
    cases hlive
  · split at h
    · next hplaying =>
      rw [if_pos hplaying, ← lifetimes_resumePlayback]
      split at h
      · exact lifetimes_restart h
      · cases h
        rfl
    · next hpaused =>
      rw [if_neg hpaused, ← lifetimes_pausePlayback]
      split at h
      · cases h
      · next hleft =>
        cases h
        unfold stopPaused
        rw [lifetimes_maybeStartSyncCohort, lifetimes_sendCommand,
          lifetimes_nextDownstreamGeneration, lifetimes_leaveGroup hleft]

theorem lifetimes_flushed {id : SessionId} {playbackEpoch : Nat} {zoneId : ZoneId}
    (h : st.flushed env id playbackEpoch zoneId = some st') :
    st'.lifetimes = st.lifetimes.modify id (Demand.flush playbackEpoch) := by
  unfold flushed at h
  split at h
  · next hgone =>
    cases h
    rw [Lifetimes.modify_of_fixed fun demand hlive => ?_]
    rw [lifetimes_demand_of_none hgone] at hlive
    cases hlive
  · next session hlive =>
    have hdemand := lifetimes_demand_of_some hlive
    split at h
    · next hold =>
      cases h
      rw [Lifetimes.modify_of_fixed fun demand hlive' => ?_]
      rw [hdemand] at hlive'
      cases hlive'
      exact if_pos hold
    · next hnewer =>
      have hflushed : (st.setPlaybackEpoch id playbackEpoch).lifetimes =
          st.lifetimes.modify id (Demand.flush playbackEpoch) := by
        refine Lifetimes.ext rfl rfl rfl (funext fun other => ?_)
        show ((st.setPlaybackEpoch id playbackEpoch).session other).map SessionRuntime.demand =
          if other = id then
            ((st.session other).map SessionRuntime.demand).map (Demand.flush playbackEpoch)
          else (st.session other).map SessionRuntime.demand
        rw [session_setPlaybackEpoch]
        split
        · case isTrue heq =>
          rw [heq, hlive]
          exact congrArg some (if_neg hnewer).symm
        · rfl
      split at h
      · exact (lifetimes_restart h).trans hflushed
      · next hunwanted =>
        have hdropped : ((st.setPlaybackEpoch id playbackEpoch).dropEncoder id).lifetimes =
            (st.setPlaybackEpoch id playbackEpoch).lifetimes :=
          lifetimes_of_demand (demand_modifySession _ _ _ fun _ => rfl) rfl rfl rfl
        rw [lifetimes_setPlaybackState h, hdropped, hflushed]
        refine Lifetimes.modify_of_fixed fun demand hlive' => ?_
        simp only [Lifetimes.modify, hdemand, if_true, Option.map_some, Option.some.injEq] at hlive'
        subst hlive'
        rw [Bool.not_eq_true] at hunwanted
        simp only [Bool.false_eq_true, if_false, Demand.pause, Demand.flush,
          SessionRuntime.demand, hunwanted]
        split <;> rfl

variable (env st) in
theorem lifetimes_encoderInputClosed (id : SessionId) (session : SessionRuntime) :
    (st.encoderInputClosed env id session).lifetimes = st.lifetimes := by
  have hretired : (st.retireEncoder env id session.zoneId).lifetimes = st.lifetimes := by
    unfold retireEncoder
    rw [lifetimes_sendCommand, lifetimes_removeStream, lifetimes_nextDownstreamGeneration]
    exact lifetimes_of_demand (demand_modifySession _ _ _ fun _ => rfl) rfl rfl rfl
  unfold encoderInputClosed
  split
  · rw [lifetimes_scheduleDownstreamRetry, hretired]
  · exact hretired

theorem lifetimes_streamEndedWhilePaused (id : SessionId) :
    (st.streamEndedWhilePaused id).lifetimes =
      st.lifetimes.modify id (Demand.endStream id st.now) := by
  unfold streamEndedWhilePaused
  split
  · next hgone =>
    rw [Lifetimes.modify_of_fixed fun demand hlive => ?_]
    rw [lifetimes_demand_of_none hgone] at hlive
    cases hlive
  · next session hlive =>
    split
    · next hwanted =>
      rw [Lifetimes.modify_of_fixed fun demand hlive' => ?_]
      rw [lifetimes_demand_of_some hlive] at hlive'
      cases hlive'
      exact if_pos hwanted
    · next hunwanted =>
      refine Lifetimes.ext rfl rfl rfl (funext fun other => ?_)
      show ((st.deferCleanup id).session other).map SessionRuntime.demand =
        if other = id then
          ((st.session other).map SessionRuntime.demand).map (Demand.endStream id st.now)
        else (st.session other).map SessionRuntime.demand
      rw [session_deferCleanup]
      split
      · case isTrue heq =>
        rw [heq, hlive]
        exact congrArg some (if_neg hunwanted).symm
      · rfl

theorem lifetimes_handleEvent {event : AirPlayEvent} (h : st.handleEvent env event = some st') :
    st'.lifetimes = st.lifetimes.handleEvent env event := by
  cases event with
  | sessionStarted id zoneId format sender => exact lifetimes_startSession h
  | pcm id zoneId frames =>
    cases h
    rcases feedFrames_cases env st id frames with hsame | ⟨session, -, -, heq⟩
    · rw [hsame]
      rfl
    · rw [heq, lifetimes_encoderInputClosed]
      rfl
  | playbackState id zoneId playing => exact lifetimes_setPlaybackState h
  | flushed id playbackEpoch zoneId => exact lifetimes_flushed h
  | volume zoneId volumePercent =>
    cases h
    rfl
  | sessionStopped id zoneId => exact lifetimes_stopSession h
  | streamEndedWhilePaused id zoneId =>
    cases h
    exact lifetimes_streamEndedWhilePaused id

theorem lifetimes_handleDownstreamStartResult {result : DownstreamStartResult}
    (h : st.handleDownstreamStartResult env result = some st') :
    st'.lifetimes = st.lifetimes := by
  have hmodify (f : SessionRuntime → SessionRuntime)
      (hf : ∀ session, (f session).demand = session.demand) :
      (st.modifySession result.sessionId f).lifetimes = st.lifetimes :=
    lifetimes_of_demand (demand_modifySession st _ f hf) rfl rfl rfl
  unfold handleDownstreamStartResult at h
  split at h
  · cases h
    rfl
  · split at h
    · cases h
      rfl
    · split at h
      · cases h
        exact hmodify _ fun _ => rfl
      · have hfailed (h : st.startFailed env result = some st') :
            st'.lifetimes = st.lifetimes := by
          have huncertain : (st.startUncertain result.sessionId result.outcome).lifetimes =
              st.lifetimes := by
            obtain ⟨nativeGroups, heq⟩ := startUncertain_spec st result.sessionId result.outcome
            rw [heq]
            exact hmodify _ fun _ => rfl
          have hscheduled := lifetimes_scheduleDownstreamRetry
            (st.startUncertain result.sessionId result.outcome) result.sessionId result.zoneId
              result.generation
          unfold startFailed at h
          split at h
          · next heq =>
            cases h
            rw [heq] at hscheduled
            exact hscheduled.trans huncertain
          · next heq =>
            rw [heq] at hscheduled
            exact (lifetimes_leaveGroup h).trans (hscheduled.trans huncertain)
        have hsucceeded (outcome : DownstreamStartOutcome) :
            (st.startSucceeded result.sessionId outcome).lifetimes = st.lifetimes := by
          obtain ⟨nativeGroups, heq⟩ := startSucceeded_spec st result.sessionId outcome
          rw [heq]
          exact hmodify _ fun _ => rfl
        split at h
        · cases h
          rfl
        · cases h
          rfl
        · cases h
          exact hsucceeded _
        · cases h
          exact hsucceeded _
        · exact (lifetimes_leaveGroup h).trans (hmodify _ fun _ => rfl)
        · exact hfailed h
        · exact hfailed h

theorem lifetimes_handleDownstreamRetry {retry : DownstreamRetry}
    (h : st.handleDownstreamRetry env retry = some st') : st'.lifetimes = st.lifetimes := by
  unfold handleDownstreamRetry at h
  split at h
  · cases h
    rfl
  · split at h
    · cases h
      rfl
    · split at h
      · exact (lifetimes_restart h).trans (lifetimes_cancelDownstreamRetry st _)
      · next prepared _ =>
        cases h
        obtain ⟨playbackRelease, heq⟩ := replayPrepared_spec env st retry.sessionId retry.zoneId
          prepared
        rw [heq, lifetimes_sendCommand]
        exact lifetimes_of_demand (demand_modifySession st retry.sessionId (fun session =>
          { session with prepared := some prepared.released, retryTask := none }) fun _ => rfl)
          rfl rfl rfl

variable (env st) in
theorem lifetimes_handlePreparedDownstream (prepared : PreparedDownstream) :
    (st.handlePreparedDownstream env prepared).lifetimes = st.lifetimes := by
  have hkept : (st.keepPrepared prepared).lifetimes = st.lifetimes :=
    lifetimes_of_demand (demand_modifySession st prepared.sessionId (fun session =>
      { session with prepared := some prepared }) fun _ => rfl) rfl rfl rfl
  have hopened (st : BridgeRuntime) :
      (st.openPlay env [prepared]).lifetimes = st.lifetimes := by
    obtain ⟨groupJoins, nextGroupJoins, heq⟩ := openPlay_spec env st [prepared]
    rw [heq]
    rfl
  unfold handlePreparedDownstream
  split
  · rfl
  · split
    · rfl
    · split
      · rw [lifetimes_maybeStartSyncCohort]
        exact hkept
      · exact ((play_chain [] (st.keepPrepared prepared) [prepared]).lifetimes.trans
          (hopened _)).trans hkept

theorem lifetimes_handleCleanup {id : SessionId} (h : st.handleCleanup env id = some st') :
    st'.lifetimes = st.lifetimes.cleanUp id := by
  unfold handleCleanup at h
  unfold Lifetimes.cleanUp
  split at h
  · next hgone =>
    cases h
    rw [lifetimes_demand_of_none hgone]
    rfl
  · next session hlive =>
    rw [lifetimes_demand_of_some hlive]
    split at h
    · next hoverdue =>
      rw [lifetimes_stopSession h, if_pos]
      exact hoverdue
    · next hkept =>
      cases h
      rw [if_neg]
      exact hkept

theorem lifetimes_shutdown (h : st.shutdown env = some st') :
    st'.lifetimes = { st.lifetimes with stopped := true, demand := fun _ => none } := by
  unfold shutdown at h
  split at h
  · cases h
  · next st₁ hst₁ =>
    cases h
    have hstopped := lifetimes_stopSessions _ hst₁
    have hnow : st₁.now = st.now := congrArg Lifetimes.now hstopped
    have hrx : st₁.cleanupRx = st.cleanupRx := congrArg Lifetimes.cleanupRx hstopped
    refine Lifetimes.ext hnow rfl hrx (funext fun id => ?_)
    refine (congrFun (congrArg Lifetimes.demand hstopped) id).trans ?_
    show (if id ∈ env.hashOrder st.hashWalks st.sessions.keys then none
      else (st.session id).map SessionRuntime.demand) = none
    split
    · rfl
    · next hnot =>
      cases hlive : st.session id with
      | none => rfl
      | some session =>
        refine absurd ?_ hnot
        rw [(env.hashOrder_perm _ _).mem_iff, AssocMap.mem_keys_iff_lookup]
        exact ⟨session, hlive⟩

theorem lifetimes_workerStep {zoneId : ZoneId} {worker : ZoneWorker} {action : WorkerAction}
    (h : st.workerStep zoneId worker action = some st') : st'.lifetimes = st.lifetimes := by
  cases action with
  | take =>
    obtain ⟨worker', -, rfl⟩ := Option.map_eq_some_iff.mp h
    rfl
  | reply reply =>
    obtain ⟨⟨worker', outputs⟩, -, rfl⟩ := Option.map_eq_some_iff.mp h
    obtain ⟨groupJoins, heq⟩ := deliver_eq (st.setWorker zoneId worker') outputs
    show (outputs.foldl deliver (st.setWorker zoneId worker')).lifetimes = st.lifetimes
    rw [heq]
    rfl
  | supersede =>
    obtain ⟨worker', -, rfl⟩ := Option.map_eq_some_iff.mp h
    rfl
  | ready =>
    obtain ⟨⟨worker', prepared⟩, -, rfl⟩ := Option.map_eq_some_iff.mp h
    rfl
  | release =>
    simp only [workerStep] at h
    split at h
    · next delay _ _ =>
      obtain ⟨-, rfl⟩ := releaseGroup_spec h
      cases delay <;> rfl
    · cases h

theorem lifetimes_fireRetry {id : SessionId} (h : st.fireRetry id = some st') :
    st'.lifetimes = st.lifetimes := by
  unfold fireRetry at h
  split at h
  · cases h
  · split at h
    · cases h
      exact lifetimes_of_demand (demand_modifySession st id _ fun _ => rfl) rfl rfl rfl
    · cases h

theorem lifetimes_fireCleanup {id : SessionId} (h : st.fireCleanup id = some st') :
    st'.lifetimes = st.lifetimes.fire id := by
  unfold fireCleanup at h
  split at h
  · cases h
  · next task htask =>
    split at h
    · next hdue =>
      cases h
      obtain ⟨session, hlive, htimer⟩ := Option.bind_eq_some_iff.mp htask
      have hdemand : (st.lifetimes.demand id).bind Demand.cleanupTask = some task := by
        rw [lifetimes_demand_of_some hlive]
        exact htimer
      unfold Lifetimes.fire
      rw [hdemand]
      refine Eq.trans ?_ (if_pos hdue).symm
      refine Lifetimes.ext rfl rfl rfl (funext fun other => ?_)
      show ((st.sendCleanup id task).session other).map SessionRuntime.demand =
        if other = id then ((st.session other).map SessionRuntime.demand).map Demand.fired
        else (st.session other).map SessionRuntime.demand
      rw [session_sendCleanup]
      split
      · case isTrue heq =>
        rw [heq, hlive]
        simp only [Option.map_some, SessionRuntime.demand, Demand.fired, htimer]
      · rfl
    · cases h

theorem lifetimes_serve {label : BridgeLabel} (h : st.serve env label = some st') :
    st'.lifetimes = st.lifetimes.step env label := by
  cases label with
  | event event =>
    simp only [serve] at h
    split at h
    · exact lifetimes_handleEvent h
    · cases h
  | result =>
    obtain ⟨result, -, h⟩ := Option.bind_eq_some_iff.mp h
    have hsame : st'.lifetimes = st.takeResult.lifetimes := lifetimes_handleDownstreamStartResult h
    exact hsame
  | retry =>
    obtain ⟨retry, -, h⟩ := Option.bind_eq_some_iff.mp h
    have hsame : st'.lifetimes = st.takeRetry.lifetimes := lifetimes_handleDownstreamRetry h
    exact hsame
  | prepared =>
    obtain ⟨prepared, -, rfl⟩ := Option.map_eq_some_iff.mp h
    exact lifetimes_handlePreparedDownstream env st.takePrepared prepared
  | wake =>
    simp only [serve] at h
    split at h
    · cases h
    · cases h
      exact lifetimes_maybeStartSyncCohort env st.takeWake
  | cleanup =>
    obtain ⟨id, hfirst, h⟩ := Option.bind_eq_some_iff.mp h
    obtain ⟨rest, hqueue⟩ := List.head?_eq_some_iff.mp hfirst
    rw [lifetimes_handleCleanup h]
    have hrx : st.lifetimes.cleanupRx = id :: rest := hqueue
    simp only [Lifetimes.step, hrx]
    have htaken : st.takeCleanup.lifetimes = { st.lifetimes with cleanupRx := rest } :=
      Lifetimes.ext rfl rfl (congrArg List.tail hqueue) rfl
    rw [htaken]
  | shutdown => exact lifetimes_shutdown h
  | _ => cases h

theorem lifetimes_step {label : BridgeLabel} (h : st.step env label = some st') :
    st'.lifetimes = st.lifetimes.step env label := by
  have hserve (h : (if st.stopped then none else st.serve env label) = some st') :
      st'.lifetimes = st.lifetimes.step env label := by
    split at h
    · cases h
    · exact lifetimes_serve h
  cases label with
  | tick elapsed =>
    cases h
    rfl
  | worker zoneId action =>
    obtain ⟨worker, -, h⟩ := Option.bind_eq_some_iff.mp h
    exact lifetimes_workerStep h
  | retryTimer id => exact lifetimes_fireRetry h
  | cleanupTimer id => exact lifetimes_fireCleanup h
  | wakeTimer due =>
    simp only [step] at h
    split at h
    · cases h
      rfl
    · cases h
  | _ => exact hserve h

end BridgeRuntime

/-- Every run of the bridge projects to a run of the lifetimes under the same labels. -/
theorem bridge_projects (env : Env) :
    (bridge env).Projects (lifetimes env) BridgeRuntime.lifetimes where
  init := rfl
  step _ _ _ h := congrArg some (BridgeRuntime.lifetimes_step h).symm

end AirSonos
