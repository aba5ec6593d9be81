import AirSonos.Bridge.Runtime

/-!
# Start cohorts and native groups

Sessions that start together wait for each other in a cohort. A released cohort plans its
native Sonos groups, computes the delay of every WAV stream and sends one transport command
per stream.
-/

namespace AirSonos

namespace SyncCohort

/-- Removes a prior generation of the session. -/
def drop (cohort : SyncCohort) (id : SessionId) : SyncCohort :=
  { cohort with
    sessions := cohort.sessions.filter (· ≠ id)
    prepared := cohort.prepared.erase id }

def admits (cohort : SyncCohort) (now : Instant) : Bool :=
  decide (now < cohort.windowDeadline) && decide (now < cohort.startDeadline)

def add (cohort : SyncCohort) (id : SessionId) : SyncCohort :=
  { cohort with sessions := cohort.sessions ++ [id] }

/-- `sync_cohort_should_start`. -/
def shouldStart (cohort : SyncCohort) (now : Instant) (force : Bool) : Bool :=
  let windowClosed := decide (cohort.windowDeadline ≤ now)
  let deadlineExpired := decide (cohort.startDeadline ≤ now)
  let allPrepared :=
    !cohort.sessions.isEmpty && cohort.sessions.length == AssocMap.size cohort.prepared
  force || allPrepared || (windowClosed && deadlineExpired)

/-- The prepared streams in the order of the listed sessions. -/
def preparedStreams (cohort : SyncCohort) : List PreparedDownstream :=
  cohort.sessions.filterMap fun id => cohort.prepared.lookup id

end SyncCohort

namespace BridgeRuntime

variable (env : Env)

/-- A cohort that the session opens alone. -/
def newCohort (now : Instant) (id : SessionId) : SyncCohort where
  openedAt := now
  windowDeadline := now + Duration.fromMillis env.config.sync.multiSelectWindowMs
  startDeadline := now + Duration.fromMillis env.config.sync.startDeadlineMs
  sessions := [id]
  prepared := ∅

/-- The session leaves its cohort and joins the last one while that admits sessions; else it
opens a new one, which wakes the runtime at its two deadlines. -/
def addSessionToSyncCohort (st : BridgeRuntime) (id : SessionId) : BridgeRuntime :=
  let active := st.syncCohort.map fun cohort => cohort.drop id
  let pending := st.pendingCohorts.map fun cohort => cohort.drop id
  let cohort := newCohort env st.now id
  let admitted := (pending.getLast?.or active).any fun last => last.admits st.now
  { st with
    syncCohort :=
      if admitted then if pending.isEmpty then active.map fun last => last.add id else active
      else some (active.getD cohort)
    pendingCohorts :=
      if admitted then
        pending.dropLast ++ (pending.getLast?.map fun last => last.add id).toList
      else if active.isNone then pending else pending ++ [cohort]
    wakeTimers :=
      if admitted then st.wakeTimers
      else cohort.startDeadline :: cohort.windowDeadline :: st.wakeTimers }

theorem cohorts_addSessionToSyncCohort (st : BridgeRuntime) (id : SessionId) :
    (∃ before last, (st.cohorts.map fun cohort => cohort.drop id) = before ++ [last] ∧
      last.admits st.now = true ∧
      (st.addSessionToSyncCohort env id).cohorts = before ++ [last.add id] ∧
      (st.addSessionToSyncCohort env id).wakeTimers = st.wakeTimers) ∨
    ((∀ last, (st.cohorts.map fun cohort => cohort.drop id).getLast? = some last →
        last.admits st.now = false) ∧
      (st.addSessionToSyncCohort env id).cohorts =
        (if st.syncCohort = none then
          newCohort env st.now id :: st.cohorts.map fun cohort => cohort.drop id
        else (st.cohorts.map fun cohort => cohort.drop id) ++ [newCohort env st.now id]) ∧
      (st.addSessionToSyncCohort env id).wakeTimers =
        (newCohort env st.now id).startDeadline :: (newCohort env st.now id).windowDeadline ::
          st.wakeTimers) := by
  unfold addSessionToSyncCohort cohorts
  rcases List.eq_nil_or_concat st.pendingCohorts with hnil | ⟨before, last, hlast⟩
  · cases hactive : st.syncCohort with
    | none =>
      right
      simp [hnil]
    | some active =>
      cases hadmits : (active.drop id).admits st.now with
      | true =>
        left
        exact ⟨[], active.drop id, by simp [hnil], hadmits, by simp [hnil, hadmits],
          by simp [hnil, hadmits]⟩
      | false =>
        right
        simp [hnil, hadmits]
  · cases hadmits : (last.drop id).admits st.now with
    | true =>
      left
      refine ⟨(st.syncCohort.map fun cohort => cohort.drop id).toList ++
        before.map fun cohort => cohort.drop id, last.drop id, ?_, hadmits, ?_, ?_⟩
      · cases st.syncCohort <;> simp [hlast]
      · cases st.syncCohort <;> simp [hlast, hadmits]
      · simp [hlast, hadmits]
    | false =>
      right
      cases st.syncCohort <;> simp [hlast, hadmits, List.getLast?_cons]

/-- Collects the sessions of one sender, senders in the order of their first session. -/
def pushSender (sender : IpAddr) (id : SessionId) :
    List (IpAddr × List SessionId) → List (IpAddr × List SessionId)
  | [] => [(sender, [id])]
  | (other, ids) :: rest =>
    if other = sender then (other, ids ++ [id]) :: rest
    else (other, ids) :: pushSender sender id rest

def addToSender (st : BridgeRuntime) (groups : List (IpAddr × List SessionId))
    (stream : PreparedDownstream) : List (IpAddr × List SessionId) :=
  if stream.renderer.isSonos then
    match (st.session stream.sessionId).bind (·.sender) with
    | some sender => pushSender sender stream.sessionId groups
    | none => groups
  else groups

def bySender (st : BridgeRuntime) (prepared : List PreparedDownstream) :
    List (IpAddr × List SessionId) :=
  prepared.foldl st.addToSender []

def onSonos (zoneId : ZoneId) : Bool :=
  (env.renderers zoneId).any (·.isSonos)

abbrev NativeGroups := AssocMap SessionId (List SessionId)

def isMember (groups : NativeGroups) (id : SessionId) : Bool :=
  (AssocMap.values groups).flatten.contains id

/-- The session plays, or coordinates a group that is still starting, and is no member. -/
def canCoordinate (st : BridgeRuntime) (groups : NativeGroups) (sender : IpAddr)
    (id : SessionId) : Bool :=
  (st.session id).any fun session =>
    session.sender == some sender && session.desiredPlayback &&
      (session.observed == .playing || (groups.lookup id).isSome) &&
      onSonos env session.zoneId && !isMember groups id

/-- An existing group coordinator wins; of several the first one in hash order. -/
def playingSonosSession (st : BridgeRuntime) (groups : NativeGroups) (walk : Nat)
    (sender : IpAddr) : Option SessionId :=
  let candidates :=
    (env.hashOrder walk st.sessions.keys).filter (st.canCoordinate env groups sender)
  (candidates.find? fun id => (groups.lookup id).isSome).or candidates.head?

/-- The coordinator and the members that the sessions of one sender form, if any. -/
def chooseCoordinator (playing : Option SessionId) (members : List SessionId) :
    Option (SessionId × List SessionId) :=
  match playing, members with
  | some coordinator, members => some (coordinator, members)
  | none, first :: second :: rest => some (first, second :: rest)
  | none, _ => none

/-- The groups while they are planned, the walks over the session map so far, and the roles
of the planned members. -/
structure GroupPlan where
  groups : NativeGroups
  walks : Nat
  roles : AssocMap SessionId NativeMember

def GroupPlan.walked (plan : GroupPlan) : GroupPlan :=
  { plan with walks := plan.walks + 1 }

def GroupPlan.join (plan : GroupPlan) (coordinator : SessionId) (rinconId : String)
    (members : List SessionId) : GroupPlan where
  groups := plan.groups.insert coordinator
    ((plan.groups.lookup coordinator).getD [] ++ members)
  walks := plan.walks
  roles := members.foldl (fun roles member => roles.insert member ⟨coordinator, rinconId⟩)
    plan.roles

def coordinatorZone (st : BridgeRuntime) (coordinator : SessionId) : Option SonosZone :=
  match (st.session coordinator).bind fun session => env.renderers session.zoneId with
  | some (.sonos zone) => some zone
  | _ => none

def planGroup (st : BridgeRuntime) (plan : GroupPlan) (group : IpAddr × List SessionId) :
    GroupPlan :=
  match chooseCoordinator (st.playingSonosSession env plan.groups plan.walks group.1) group.2 with
  | none => plan.walked
  | some (coordinator, members) =>
    match st.coordinatorZone env coordinator with
    | some zone => plan.walked.join coordinator zone.rinconId members
    | none => plan.walked

def planNativeGroups (st : BridgeRuntime) (prepared : List PreparedDownstream) : GroupPlan :=
  if env.config.sync.nativeSonosGroups then
    (st.bySender prepared).foldl (st.planGroup env) ⟨st.nativeGroups, st.hashWalks, ∅⟩
  else ⟨st.nativeGroups, st.hashWalks, ∅⟩

/-- The rooms of a release that play their own stream. -/
def ownRooms (prepared : List PreparedDownstream) (members : AssocMap SessionId NativeMember) :
    List (ZoneId × String) :=
  (prepared.filter fun stream => (members.lookup stream.sessionId).isNone).map fun stream =>
    (stream.zoneId, stream.renderer.name)

def cohortDelay (delays : List ZoneDelay) (zoneId : ZoneId) : Option Duration :=
  (delays.find? fun delay => delay.zoneId = zoneId).map fun delay =>
    Duration.fromMillis delay.delayMs

/-- Output delays of the WAV streams. A member's own stream plays only if its join fails; it
then keeps the delay of its coordinator. -/
def syncDelays (st : BridgeRuntime) (prepared : List PreparedDownstream)
    (members : AssocMap SessionId NativeMember) : AssocMap SessionId Duration :=
  let delays := configuredDelays (ownRooms prepared members) env.config.sync.zoneOffsetsMs
    env.config.sync.defaultOffsetMs
  prepared.foldl (fun streamDelays stream =>
    if stream.liveStream.session.codec = .wav then
      let delay :=
        match members.lookup stream.sessionId with
        | some member => (st.session member.coordinator).map fun (session : SessionRuntime) =>
            (cohortDelay delays session.zoneId).getD session.syncDelay
        | none => cohortDelay delays stream.zoneId
      streamDelays.insert stream.sessionId (delay.getD 0)
    else streamDelays) ∅

/-- The session's copy of a member's stream keeps the delay for the case that the join
fails. -/
def holdStream (st : BridgeRuntime) (id : SessionId) (delay : Option Duration) : BridgeRuntime :=
  st.modifySession id fun session =>
    let held := session.prepared.map fun (prepared : PreparedDownstream) =>
      { prepared with heldDelay := delay }
    { session with prepared := held }

def recordDelay (st : BridgeRuntime) (id : SessionId) (delay : Option Duration) : BridgeRuntime :=
  match delay with
  | some delay => st.modifySession id fun session => { session with syncDelay := delay }
  | none => st

def planStream (st : BridgeRuntime) (stream : PreparedDownstream) (cutoff : Instant)
    (delay : Option Duration) : BridgeRuntime :=
  match delay with
  | some delay => st.setPlaybackPlan stream.liveStream.session.generation cutoff delay
  | none => st

/-- A member joins its coordinator. When members join, the rooms that play on their own wait
for the joins. -/
def startCommand (joins : Option GroupJoins) (delay : Option Duration)
    (role : Option NativeMember) (stream : PreparedDownstream) : TransportCommand :=
  match role, stream.renderer, joins with
  | some member, .sonos _, some joins => .join stream member.rinconId joins
  | _, _, some joins => .playGroup stream joins delay
  | _, _, none => .play stream

theorem startCommand_spec (joins : Option GroupJoins) (delay : Option Duration)
    (role : Option NativeMember) (stream : PreparedDownstream) :
    (startCommand joins delay role stream).isStart = true ∧
      (startCommand joins delay role stream).payload = some stream := by
  unfold startCommand
  split <;> exact ⟨rfl, rfl⟩

/-- A member's stream is held for a failed join. The plan of a room that waits for joins is
set by its worker. -/
def planStart (st : BridgeRuntime) (cutoff : Instant) (delay : Option Duration) :
    TransportCommand → BridgeRuntime
  | .join stream _ _ => st.holdStream stream.sessionId delay
  | .play stream => st.planStream stream cutoff delay
  | _ => st

/-- Starts one released stream. -/
def startStream (joins : Option GroupJoins) (delays : AssocMap SessionId Duration)
    (cutoff : Instant) (acc : BridgeRuntime × AssocMap SessionId NativeMember)
    (stream : PreparedDownstream) : BridgeRuntime × AssocMap SessionId NativeMember :=
  let delay := delays.lookup stream.sessionId
  let command := startCommand joins delay (acc.2.lookup stream.sessionId) stream
  (((acc.1.recordDelay stream.sessionId delay).planStart cutoff delay command).sendCommand env
    stream.zoneId command, acc.2.erase stream.sessionId)

/-- Planning a start changes the delay of a session and what its stream is held with. -/
inductive Planned (session : SessionRuntime) : SessionRuntime → Prop
  | kept (delay : Duration) : Planned session { session with syncDelay := delay }
  | held (delay : Duration) (heldDelay : Option Duration) :
      Planned session
        { session with
          syncDelay := delay
          prepared := session.prepared.map fun prepared =>
            { prepared with heldDelay := heldDelay } }

theorem Planned.spec {session session' : SessionRuntime} (h : Planned session session') :
    ∃ delay held, session' = { session with syncDelay := delay, prepared := held } ∧
      (held = session.prepared ∨ ∃ heldDelay, held = session.prepared.map fun prepared =>
        { prepared with heldDelay := heldDelay }) := by
  cases h with
  | kept delay => exact ⟨delay, session.prepared, rfl, .inl rfl⟩
  | held delay heldDelay => exact ⟨delay, _, rfl, .inr ⟨heldDelay, rfl⟩⟩

theorem recordDelay_spec (st : BridgeRuntime) (id : SessionId) (delay : Option Duration) :
    ∃ sessions f, st.recordDelay id delay = { st with sessions := sessions } ∧
      (∀ other, sessions.lookup other =
        if other = id then (st.session other).map f else st.session other) ∧
      ∀ session, ∃ delay, f session = { session with syncDelay := delay } := by
  cases delay with
  | none =>
    refine ⟨st.sessions, fun session => session, rfl, fun other => ?_, fun session => ⟨_, rfl⟩⟩
    rw [Option.map_id']
    exact (ite_self _).symm
  | some delay => exact ⟨_, _, rfl, fun other => AssocMap.lookup_modify .., fun _ => ⟨delay, rfl⟩⟩

theorem planStart_spec (st : BridgeRuntime) (cutoff : Instant) (delay : Option Duration)
    {command : TransportCommand} {stream : PreparedDownstream}
    (payload : command.payload = some stream) :
    ∃ sessions playbackRelease f, st.planStart cutoff delay command =
        { st with sessions := sessions, playbackRelease := playbackRelease } ∧
      (∀ other, sessions.lookup other =
        if other = stream.sessionId then (st.session other).map f else st.session other) ∧
      ∀ session, f session = session ∨ ∃ held, f session =
        { session with
          prepared := session.prepared.map fun prepared => { prepared with heldDelay := held } } := by
  have hsame (id : SessionId) : st.sessions.lookup id =
      if id = stream.sessionId then (st.session id).map fun session => session
      else st.session id := by
    rw [Option.map_id']
    exact (ite_self _).symm
  cases command with
  | play played => cases delay <;> exact ⟨_, _, _, rfl, hsame, fun session => .inl rfl⟩
  | join held coordinator joins =>
    cases payload
    exact ⟨_, _, _, rfl, fun other => AssocMap.lookup_modify .., fun session => .inr ⟨delay, rfl⟩⟩
  | _ => exact ⟨_, _, _, rfl, hsame, fun session => .inl rfl⟩

/-- Starting a stream plans sessions and streams before the command is sent. -/
theorem startStream_spec (joins : Option GroupJoins) (delays : AssocMap SessionId Duration)
    (cutoff : Instant) (st : BridgeRuntime) (roles : AssocMap SessionId NativeMember)
    (stream : PreparedDownstream) :
    ∃ planned playbackRelease f, (startStream env joins delays cutoff (st, roles) stream).1 =
        ({ st with sessions := planned, playbackRelease := playbackRelease } :
          BridgeRuntime).sendCommand env stream.zoneId (startCommand joins
            (delays.lookup stream.sessionId) (roles.lookup stream.sessionId) stream) ∧
      (∀ id, planned.lookup id =
        if id = stream.sessionId then (st.session id).map f else st.session id) ∧
      ∀ session, Planned session (f session) := by
  obtain ⟨recorded, f, hrecorded, hlookup, hf⟩ :=
    recordDelay_spec st stream.sessionId (delays.lookup stream.sessionId)
  obtain ⟨planned, playbackRelease, g, hplanned, hlookup', hg⟩ := planStart_spec
    (st.recordDelay stream.sessionId (delays.lookup stream.sessionId)) cutoff
    (delays.lookup stream.sessionId) (startCommand_spec joins (delays.lookup stream.sessionId)
      (roles.lookup stream.sessionId) stream).2
  refine ⟨planned, playbackRelease, g ∘ f, ?_, fun id => ?_, fun session => ?_⟩
  · simp only [startStream]
    rw [hplanned, hrecorded]
  · rw [hlookup', hrecorded]
    have hsession : ({ st with sessions := recorded } : BridgeRuntime).session id =
        recorded.lookup id := rfl
    rw [hsession, hlookup]
    split
    · exact Option.map_map ..
    · rfl
  · obtain ⟨delay, hdelay⟩ := hf session
    rw [Function.comp_apply]
    rcases hg (f session) with hsame | ⟨held, hheld⟩
    · rw [hsame, hdelay]
      exact .kept delay
    · rw [hheld, hdelay]
      exact .held delay held

/-- The join counter of a release, for its rooms that play on their own. -/
def openJoins (st : BridgeRuntime) (members : Nat) : BridgeRuntime :=
  { st with
    groupJoins := Function.update st.groupJoins st.nextGroupJoins (.new members)
    nextGroupJoins := st.nextGroupJoins + 1 }

def record (st : BridgeRuntime) (event : HistoryEvent) : BridgeRuntime :=
  { st with history := event :: st.history }

/-- The plan of a release: the groups it forms, the delays of its WAV streams and, when members
join, the counter that the other rooms wait for. -/
def planRelease (st : BridgeRuntime) (prepared : List PreparedDownstream) : Release :=
  let roles := (st.planNativeGroups env prepared).roles
  { prepared := prepared
    roles := roles
    delays := st.syncDelays env prepared roles
    joins := if AssocMap.size roles = 0 then none else some ⟨st.nextGroupJoins⟩
    cutoff := st.now + SYNC_START_LEAD
    generation := fun id => (st.session id).map SessionRuntime.generation }

/-- The planned groups take effect. -/
def groupRooms (st : BridgeRuntime) (release : Release) : BridgeRuntime :=
  { st.record (.played release) with
    nativeGroups := (st.planNativeGroups env release.prepared).groups
    hashWalks := (st.planNativeGroups env release.prepared).walks }

/-- The state in which the streams of a planned release are started. -/
def openRelease (st : BridgeRuntime) (release : Release) : BridgeRuntime :=
  if release.joins.isSome then
    (st.groupRooms env release).openJoins (AssocMap.size release.roles)
  else st.groupRooms env release

def playPreparedDownstreams (st : BridgeRuntime) (prepared : List PreparedDownstream) :
    BridgeRuntime :=
  let release := st.planRelease env prepared
  (prepared.foldl (startStream env release.joins release.delays release.cutoff)
    (st.openRelease env release, release.roles)).1

/-- Drops the sessions that no longer want playback and the streams of older generations. -/
def pruneCohort (st : BridgeRuntime) (cohort : SyncCohort) : SyncCohort :=
  let sessions := cohort.sessions.filter fun id => (st.session id).any (·.desiredPlayback)
  { cohort with
    sessions := sessions
    prepared := AssocMap.retain (fun id prepared =>
      sessions.contains id &&
        (st.session id).any fun session => session.generation == prepared.generation)
      cohort.prepared }

/-- Hands the prepared streams of a cohort, already taken out, to the players. -/
def releaseCohort (st : BridgeRuntime) (cohort : SyncCohort) : BridgeRuntime :=
  (st.record (.released cohort st.now fun id => (st.session id).map SessionRuntime.generation)
    ).playPreparedDownstreams env cohort.preparedStreams

/-- The first cohort is taken out. -/
def takeCohort (st : BridgeRuntime) (rest : List SyncCohort) : BridgeRuntime :=
  { st with syncCohort := none, pendingCohorts := rest }

/-- The first cohort must still wait. -/
def keepCohort (st : BridgeRuntime) (cohort : SyncCohort) (rest : List SyncCohort) :
    BridgeRuntime :=
  { st with syncCohort := some cohort, pendingCohorts := rest }

/-- The loop of `maybe_start_sync_cohort` over the active cohort and the pending ones behind
it: an empty cohort is dropped, a due or complete one is released and the next one promoted,
and the first one that must still wait becomes the active cohort. -/
def maybeStartLoop (force : Bool) : List SyncCohort → BridgeRuntime → BridgeRuntime
  | [], st => st.takeCohort []
  | cohort :: rest, st =>
    if (st.pruneCohort cohort).sessions.isEmpty then
      maybeStartLoop force rest (st.takeCohort rest)
    else if (st.pruneCohort cohort).shouldStart st.now force then
      maybeStartLoop force rest ((st.takeCohort rest).releaseCohort env (st.pruneCohort cohort))
    else st.keepCohort (st.pruneCohort cohort) rest

def maybeStartSyncCohort (st : BridgeRuntime) (force : Bool) : BridgeRuntime :=
  let st := maybeStartLoop env force st.cohorts st
  st.record (.checked st.now st.cohorts)

/-! ### The session map after each operation -/

@[simp] theorem session_addSessionToSyncCohort (st : BridgeRuntime) (id : SessionId) :
    (st.addSessionToSyncCohort env id).session = st.session := rfl

@[simp] theorem session_record (st : BridgeRuntime) (event : HistoryEvent) :
    (st.record event).session = st.session := rfl

@[simp] theorem session_takeCohort (st : BridgeRuntime) (rest : List SyncCohort) :
    (st.takeCohort rest).session = st.session := rfl

@[simp] theorem session_keepCohort (st : BridgeRuntime) (cohort : SyncCohort)
    (rest : List SyncCohort) : (st.keepCohort cohort rest).session = st.session := rfl

@[simp] theorem session_openRelease (st : BridgeRuntime) (release : Release) :
    (st.openRelease env release).session = st.session := by
  unfold openRelease
  split <;> rfl

end BridgeRuntime

end AirSonos
