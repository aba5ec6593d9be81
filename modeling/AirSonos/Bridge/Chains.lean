import AirSonos.Bridge.Moves
import AirSonos.Bridge.Restart

/-!
# Every step is a chain of moves

The stack of a chain begins and ends empty, so what holds at every visited state holds in
every reachable state of the bridge.
-/

namespace AirSonos

open Relation BridgeRuntime

variable {env : Env} {guard : BridgeRuntime → BridgeLabel → Prop}

variable (env) in
def InnerChain : List Frame × BridgeRuntime → List Frame × BridgeRuntime → Prop :=
  ReflTransGen fun before after => Inner env before.1 before.2 after.1 after.2

variable (env guard) in
def Chain : List Frame × BridgeRuntime → List Frame × BridgeRuntime → Prop :=
  ReflTransGen fun before after => Move env guard before.1 before.2 after.1 after.2

theorem Inner.chain {stack st stack' st'} (h : Inner env stack st stack' st') :
    InnerChain env (stack, st) (stack', st') :=
  .single h

theorem Inner.andThen {stack st stack' st' c} (h : Inner env stack st stack' st')
    (rest : InnerChain env (stack', st') c) : InnerChain env (stack, st) c :=
  .head h rest

theorem Move.chain {stack st stack' st'} (h : Move env guard stack st stack' st') :
    Chain env guard (stack, st) (stack', st') :=
  .single h

theorem InnerChain.lift {a b : List Frame × BridgeRuntime} (h : InnerChain env a b) :
    Chain env guard a b := by
  induction h with
  | refl => exact .refl
  | tail _ move ih => exact ih.tail (.inner move)

theorem Move.thenInner {stack st stack' st' c} (h : Move env guard stack st stack' st')
    (rest : InnerChain env (stack', st') c) : Chain env guard (stack, st) c :=
  .head h rest.lift

/-! ### Releases and cohorts -/

theorem start_chain (stack : List Frame) (release : Release) (todo : List PreparedDownstream)
    (acc : BridgeRuntime × AssocMap SessionId NativeMember) :
    InnerChain env (.starting release todo acc.2 :: stack, acc.1)
      (stack,
        (todo.foldl (startStream env release.joins release.delays release.cutoff) acc).1) := by
  induction todo generalizing acc with
  | nil => exact Inner.startsDone.chain
  | cons stream rest ih =>
    exact Inner.streamStarted.andThen
      (ih (startStream env release.joins release.delays release.cutoff acc stream))

theorem play_chain (stack : List Frame) (st : BridgeRuntime)
    (prepared : List PreparedDownstream) :
    InnerChain env (st.startFrame env prepared :: stack, st.openPlay env prepared)
      (stack, st.playPreparedDownstreams env prepared) :=
  start_chain stack (st.planRelease env prepared) prepared
    (st.openPlay env prepared, (st.planRelease env prepared).roles)

theorem loop_chain (stack : List Frame) (cohorts : List SyncCohort) (st : BridgeRuntime)
    (h : st.cohorts = cohorts) :
    InnerChain env (.checking :: stack, st)
      (stack, (maybeStartLoop env false cohorts st).record (.checked
        (maybeStartLoop env false cohorts st).now (maybeStartLoop env false cohorts st).cohorts)) := by
  induction cohorts generalizing st with
  | nil => exact (Inner.cohortsDone h).chain
  | cons cohort rest ih =>
    simp only [maybeStartLoop]
    split
    · exact (Inner.cohortDropped h ‹_›).andThen (ih (st.takeCohort rest) rfl)
    · next hlisted =>
      rw [Bool.not_eq_true] at hlisted
      split
      · refine (Inner.cohortReleased h hlisted ‹_›).andThen
          ((play_chain (.checking :: stack) (st.handOver (st.pruneCohort cohort) rest)
            (st.pruneCohort cohort).preparedStreams).trans ?_)
        exact ih _ (cohorts_releaseCohort env (st.takeCohort rest) (st.pruneCohort cohort))
      · next hwaits =>
        rw [Bool.not_eq_true] at hwaits
        exact (Inner.cohortKept h hlisted hwaits).chain

theorem check_chain (stack : List Frame) (st : BridgeRuntime) :
    InnerChain env (.checking :: stack, st) (stack, st.maybeStartSyncCohort env false) :=
  loop_chain stack st.cohorts st rfl

/-! ### Leaving a group and restarting -/

theorem leave_chain {restart : BridgeRuntime → SessionId → ZoneId → Option BridgeRuntime}
    (hrestart : ∀ stack st id zoneId st', restart st id zoneId = some st' →
      InnerChain env
        ((st.cancelDownstreamRetry id).leaveFrame (.restart id zoneId) :: stack,
          (st.cancelDownstreamRetry id).disband id)
        (stack, st'))
    (stack : List Frame) (goal : Goal) {st st' : BridgeRuntime}
    (h : leaveNativeGroup restart st goal.id = some st') :
    InnerChain env (st.leaveFrame goal :: stack, st.disband goal.id)
      (.leaving goal [] :: stack, st') := by
  have hloop (todo : List SessionId) (st : BridgeRuntime)
      (h : todo.foldlM (restartMember restart) st = some st') :
      InnerChain env (.leaving goal todo :: stack, st) (.leaving goal [] :: stack, st') := by
    induction todo generalizing st with
    | nil =>
      cases h
      exact .refl
    | cons member rest ih =>
      simp only [List.foldlM_cons, Option.bind_eq_bind] at h
      obtain ⟨st₁, hst₁, hrest⟩ := Option.bind_eq_some_iff.mp h
      unfold restartMember at hst₁
      cases hsession : st.session member with
      | none =>
        rw [hsession] at hst₁
        cases hst₁
        exact (Inner.memberSkipped fun session hlive => by rw [hsession] at hlive; cases hlive).andThen
          (ih st hrest)
      | some session =>
        rw [hsession] at hst₁
        cases hwanted : session.desiredPlayback with
        | true =>
          simp only [hwanted, if_true] at hst₁
          exact (Inner.memberRestarted hsession hwanted).andThen
            ((hrestart _ st member session.zoneId st₁ hst₁).trans (ih st₁ hrest))
        | false =>
          simp only [hwanted, Bool.false_eq_true, if_false] at hst₁
          cases hst₁
          refine (Inner.memberSkipped fun other hlive => ?_).andThen (ih st hrest)
          rw [hsession] at hlive
          cases hlive
          exact hwanted
  exact hloop _ (st.disband goal.id) h

theorem replace_chain (stack : List Frame) {st st' : BridgeRuntime} {id : SessionId}
    {session : SessionRuntime} (live : st.session id = some session) {zoneId : ZoneId}
    {built : Bool} (h : st.replaceDownstream env id zoneId = (st', built)) :
    InnerChain env (.leaving (.restart id zoneId) [] :: stack, st)
      (stack, if built then st'.maybeStartSyncCohort env false else st') := by
  unfold replaceDownstream at h
  split at h
  · cases h
    exact (Inner.rendererMissing live ‹_›).chain
  · split at h
    · cases h
      exact (Inner.buildFailed live ‹_› ‹_›).chain
    · cases h
      exact (Inner.built live ‹_› ‹_›).andThen (check_chain stack _)

theorem restartDownstreamForPlay_chain (fuel : Nat) (stack : List Frame) (st : BridgeRuntime)
    (id : SessionId) (zoneId : ZoneId) (st' : BridgeRuntime)
    (h : restartDownstreamForPlay env fuel st id zoneId = some st') :
    InnerChain env
      ((st.cancelDownstreamRetry id).leaveFrame (.restart id zoneId) :: stack,
        (st.cancelDownstreamRetry id).disband id)
      (stack, st') := by
  induction fuel generalizing stack st id zoneId st' with
  | zero => cases h
  | succ fuel ih =>
    simp only [restartDownstreamForPlay] at h
    split at h
    · cases h
    · next st₁ hst₁ =>
      refine (leave_chain ih stack (.restart id zoneId) hst₁).trans ?_
      split at h
      · next hgone =>
        cases h
        exact (Inner.vanished hgone).chain
      · next session hlive =>
        split at h
        · next hbuilt =>
          cases h
          exact replace_chain stack hlive hbuilt
        · next hfailed =>
          cases h
          exact replace_chain stack hlive hfailed

theorem restart_chain (stack : List Frame) {st st' : BridgeRuntime} {id : SessionId}
    {zoneId : ZoneId} (h : st.restart env id zoneId = some st') :
    InnerChain env
      ((st.cancelDownstreamRetry id).leaveFrame (.restart id zoneId) :: stack,
        (st.cancelDownstreamRetry id).disband id)
      (stack, st') :=
  restartDownstreamForPlay_chain st.restartFuel stack st id zoneId st' h

theorem leaveGroup_chain (stack : List Frame) (goal : Goal) {st st' : BridgeRuntime}
    (h : st.leaveGroup env goal.id = some st') :
    InnerChain env (st.leaveFrame goal :: stack, st.disband goal.id)
      (.leaving goal [] :: stack, st') :=
  leave_chain (restartDownstreamForPlay_chain st.restartFuel) stack goal h

/-! ### What no inner move changes -/

/-- What the sender asked of a session, and when its grace period ends. -/
structure Demand where
  zoneId : ZoneId
  format : PcmFormat
  sender : Option IpAddr
  playbackEpoch : Nat
  desiredPlayback : Bool
  cleanupTask : Option (TimerTask SessionId)
  cleanupDeadline : Option Instant

def SessionRuntime.demand (session : SessionRuntime) : Demand where
  zoneId := session.zoneId
  format := session.format
  sender := session.sender
  playbackEpoch := session.playbackEpoch
  desiredPlayback := session.desiredPlayback
  cleanupTask := session.cleanupTask
  cleanupDeadline := session.cleanupDeadline

def BridgeRuntime.demand (st : BridgeRuntime) (id : SessionId) : Option Demand :=
  (st.session id).map SessionRuntime.demand

theorem demand_of_sessions {st st' : BridgeRuntime} (h : st'.sessions = st.sessions) :
    st'.demand = st.demand := by
  unfold BridgeRuntime.demand BridgeRuntime.session
  rw [h]

theorem demand_modifySession (st : BridgeRuntime) (id : SessionId)
    (f : SessionRuntime → SessionRuntime) (hf : ∀ session, (f session).demand = session.demand) :
    (st.modifySession id f).demand = st.demand := by
  funext other
  simp only [BridgeRuntime.demand, session_modifySession]
  split
  · cases st.session other with
    | none => rfl
    | some session => exact congrArg some (hf session)
  · rfl

theorem demand_cancelDownstreamRetry (st : BridgeRuntime) (id : SessionId) :
    (st.cancelDownstreamRetry id).demand = st.demand :=
  demand_modifySession st id _ fun _ => rfl

theorem demand_nextDownstreamGeneration (st : BridgeRuntime) (id : SessionId) :
    (st.nextDownstreamGeneration id).demand = st.demand :=
  (demand_of_sessions rfl).trans (demand_modifySession st id
    (fun session => { session with generation := st.nextGeneration + 1 }) fun _ => rfl)

theorem demand_retireDownstream (st : BridgeRuntime) (id : SessionId) :
    (st.retireDownstream id).demand = st.demand := by
  have hremove (st : BridgeRuntime) : (st.removeStream id).demand = st.demand :=
    demand_of_sessions rfl
  unfold retireDownstream
  rw [demand_nextDownstreamGeneration, hremove]
  exact demand_modifySession st id _ fun _ => rfl

theorem demand_sendCommand (st : BridgeRuntime) (zoneId : ZoneId) (command : TransportCommand) :
    (st.sendCommand env zoneId command).demand = st.demand :=
  demand_of_sessions rfl

theorem demand_invalidateDownstream (st : BridgeRuntime) (id : SessionId) (zoneId : ZoneId) :
    (st.invalidateDownstream env id zoneId).demand = st.demand := by
  unfold invalidateDownstream
  rw [demand_sendCommand, demand_retireDownstream]

theorem demand_scheduleDownstreamRetry (st : BridgeRuntime) (id : SessionId) (zoneId : ZoneId)
    (generation : Nat) : (st.scheduleDownstreamRetry id zoneId generation).1.demand = st.demand :=
  demand_modifySession st id _ fun session => by
    unfold retryOrReset
    split <;> rfl

theorem demand_admitDownstream (st : BridgeRuntime) (id : SessionId) (zoneId : ZoneId)
    (renderer : Renderer) (liveStream : LiveStream) :
    (st.admitDownstream env id zoneId renderer liveStream).demand = st.demand := by
  have hadd (st : BridgeRuntime) : (st.addSessionToSyncCohort env id).demand = st.demand :=
    demand_of_sessions rfl
  unfold admitDownstream
  rw [demand_sendCommand, hadd]
  exact (demand_of_sessions rfl).trans (demand_modifySession st id
    (fun session => { session with encoder := some ⟨liveStream⟩ }) fun _ => rfl)

theorem demand_startStream (joins : Option GroupJoins) (delays : AssocMap SessionId Duration)
    (cutoff : Instant) (acc : BridgeRuntime × AssocMap SessionId NativeMember)
    (stream : PreparedDownstream) :
    (startStream env joins delays cutoff acc stream).1.demand = acc.1.demand := by
  have hrecord (st : BridgeRuntime) (delay : Option Duration) :
      (st.recordDelay stream.sessionId delay).demand = st.demand := by
    cases delay with
    | none => rfl
    | some delay => exact demand_modifySession st _ _ fun _ => rfl
  have hplan (st : BridgeRuntime) (delay : Option Duration) (command : TransportCommand) :
      (st.planStart cutoff delay command).demand = st.demand := by
    cases command with
    | join stream _ _ => exact demand_modifySession st _ _ fun _ => rfl
    | play stream => cases delay <;> exact demand_of_sessions rfl
    | _ => rfl
  unfold startStream
  rw [demand_sendCommand, hplan, hrecord]

theorem demand_openPlay (st : BridgeRuntime) (prepared : List PreparedDownstream) :
    (st.openPlay env prepared).demand = st.demand := by
  unfold openPlay openRelease
  split <;> exact demand_of_sessions rfl

theorem Inner.demand {stack st stack' st'} (h : Inner env stack st stack' st') :
    st'.demand = st.demand := by
  cases h with
  | memberSkipped => rfl
  | memberRestarted => exact (demand_of_sessions rfl).trans (demand_cancelDownstreamRetry _ _)
  | vanished => rfl
  | rendererMissing => exact demand_retireDownstream _ _
  | buildFailed => rw [demand_scheduleDownstreamRetry, demand_invalidateDownstream]
  | built => rw [demand_admitDownstream, demand_invalidateDownstream]
  | left => rfl
  | pauseFinished =>
    unfold stopPaused
    rw [demand_sendCommand, demand_nextDownstreamGeneration]
  | stopFinished => exact demand_sendCommand _ _ _
  | cohortDropped => exact demand_of_sessions rfl
  | cohortReleased => exact (demand_openPlay _ _).trans (demand_of_sessions rfl)
  | cohortKept => exact demand_of_sessions rfl
  | cohortsDone => exact demand_of_sessions rfl
  | streamStarted => exact demand_startStream _ _ _ _ _
  | startsDone => rfl

theorem InnerChain.demand {a b : List Frame × BridgeRuntime} (h : InnerChain env a b) :
    b.2.demand = a.2.demand := by
  induction h with
  | refl => rfl
  | tail _ move ih => exact (Inner.demand move).trans ih

end AirSonos
