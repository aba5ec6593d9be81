import AirSonos.Bridge.Steps

/-!
# What commands and messages carry

Every prepared stream that is held anywhere belongs to a stream that was registered under its
session and generation, and everything that names a session is addressed to the zone of that
session. Each operation keeps this, so each move does.
-/

namespace AirSonos

open BridgeRuntime

/-- The streams registered so far, the latest first. -/
def HistoryEvent.stream? : HistoryEvent → Option LiveStream
  | registered stream => some stream
  | _ => none

def BridgeRuntime.streams (st : BridgeRuntime) : List LiveStream :=
  st.history.filterMap HistoryEvent.stream?

/-- The stream was registered under the names it is passed on with, for the zone of its session. -/
structure PreparedDownstream.Genuine (env : Env) (streams : List LiveStream)
    (stream : PreparedDownstream) : Prop where
  registered : stream.liveStream ∈ streams
  sessionId : stream.liveStream.session.sessionId = stream.sessionId
  generation : stream.liveStream.session.generation = stream.generation
  zone : stream.zoneId = env.zoneOf stream.sessionId
  renderer : env.renderers stream.zoneId = some stream.renderer

/-- A command at a zone names a session of the zone, and carries a genuine stream if any. -/
structure TransportCommand.Genuine (env : Env) (streams : List LiveStream) (zoneId : ZoneId)
    (command : TransportCommand) : Prop where
  zone : command.zoneId = zoneId
  address : env.zoneOf command.sessionId = zoneId
  payload : ∀ stream, command.payload = some stream → stream.Genuine env streams
  url : ∀ start, command = .prepare start → start.localUrl = start.liveStream.session.localUrl

def Goal.Addressed (env : Env) : Goal → Prop
  | restart id zoneId => zoneId = env.zoneOf id
  | pause id zoneId => zoneId = env.zoneOf id
  | stop id zoneId _ => zoneId = env.zoneOf id
  | leave _ => True

def DownstreamRetry.Addressed (env : Env) (retry : DownstreamRetry) : Prop :=
  retry.zoneId = env.zoneOf retry.sessionId

/-- The invariant: wherever a stream, a goal, a result or a retry is held, it is genuine or
addressed to the zone of its session. -/
structure Sound (env : Env) (stack : List Frame) (st : BridgeRuntime) : Prop where
  zone : ∀ id session, st.session id = some session → session.zoneId = env.zoneOf id
  kept : ∀ id session, st.session id = some session → ∀ stream, session.prepared = some stream →
    stream.sessionId = id ∧ stream.Genuine env st.streams
  timer : ∀ id session, st.session id = some session → ∀ task, session.retryTask = some task →
    task.message.sessionId = id ∧ task.message.Addressed env
  goal : ∀ goal todo, .leaving goal todo ∈ stack → goal.Addressed env
  starting : ∀ release todo roles, .starting release todo roles ∈ stack →
    ∀ stream ∈ todo, stream.Genuine env st.streams
  worker : ∀ zoneId worker, st.zoneWorkers zoneId = some worker →
    env.renderers zoneId = some worker.renderer ∧
      ∀ command ∈ worker.commands, command.Genuine env st.streams zoneId
  waiting : ∀ cohort ∈ st.cohorts, ∀ id stream, cohort.prepared.lookup id = some stream →
    stream.sessionId = id ∧ stream.Genuine env st.streams
  message : ∀ stream ∈ st.preparedRx, stream.Genuine env st.streams
  result : ∀ result ∈ st.resultRx, result.zoneId = env.zoneOf result.sessionId
  retry : ∀ retry ∈ st.retryRx, retry.Addressed env

theorem PreparedDownstream.Genuine.mono {env : Env} {streams streams' : List LiveStream}
    {stream : PreparedDownstream} (h : stream.Genuine env streams) (hsub : streams ⊆ streams') :
    stream.Genuine env streams' :=
  { h with registered := hsub h.registered }

theorem PreparedDownstream.Genuine.held {env : Env} {streams : List LiveStream}
    {stream : PreparedDownstream} (h : stream.Genuine env streams) (delay : Option Duration) :
    PreparedDownstream.Genuine env streams { stream with heldDelay := delay } :=
  { h with }

theorem TransportCommand.Genuine.mono {env : Env} {streams streams' : List LiveStream}
    {zoneId : ZoneId} {command : TransportCommand} (h : command.Genuine env streams zoneId)
    (hsub : streams ⊆ streams') : command.Genuine env streams' zoneId :=
  { h with payload := fun stream hstream => (h.payload stream hstream).mono hsub }

theorem TransportCommand.genuine_stop (env : Env) (streams : List LiveStream) (id : SessionId)
    (generation : Nat) :
    (TransportCommand.stop id (env.zoneOf id) generation).Genuine env streams (env.zoneOf id) where
  zone := rfl
  address := rfl
  payload := fun _ h => nomatch h
  url := fun _ h => nomatch h

theorem TransportCommand.genuine_start {env : Env} {streams : List LiveStream}
    {stream : PreparedDownstream} (genuine : stream.Genuine env streams)
    {command : TransportCommand} (start : command.isStart = true)
    (payload : command.payload = some stream) :
    command.Genuine env streams stream.zoneId where
  zone := (TransportCommand.names_of_payload payload).2.1
  address := by
    rw [(TransportCommand.names_of_payload payload).1]
    exact genuine.zone.symm
  payload := fun other hother => by
    rw [payload] at hother
    cases hother
    exact genuine
  url := fun prepare hprepare => by
    rw [hprepare] at start
    cases start

namespace Sound

variable {env : Env} {stack : List Frame} {st : BridgeRuntime}

theorem start : Sound env [] .new where
  zone := fun _ _ h => nomatch h
  kept := fun _ _ h => nomatch h
  timer := fun _ _ h => nomatch h
  goal := fun _ _ h => nomatch h
  starting := fun _ _ _ h => nomatch h
  worker := fun _ _ h => nomatch h
  waiting := fun _ h => nomatch h
  message := fun _ h => nomatch h
  result := fun _ h => nomatch h
  retry := fun _ h => nomatch h

/-! ### The operations on a session -/

/-- An edit of one session keeps the invariant if the session keeps its zone and what it holds
is genuine. -/
theorem modify (h : Sound env stack st) (id : SessionId) (f : SessionRuntime → SessionRuntime)
    (hf : ∀ session, st.session id = some session →
      (f session).zoneId = session.zoneId ∧
      (∀ stream, (f session).prepared = some stream →
        stream.sessionId = id ∧ stream.Genuine env st.streams) ∧
      ∀ task, (f session).retryTask = some task →
        task.message.sessionId = id ∧ task.message.Addressed env) :
    Sound env stack (st.modifySession id f) := by
  have hcases (other : SessionId) (session : SessionRuntime)
      (live : (st.modifySession id f).session other = some session) :
      st.session other = some session ∨
        other = id ∧ ∃ old, st.session id = some old ∧ session = f old := by
    rw [session_modifySession] at live
    split at live
    · subst other
      obtain ⟨old, hold, rfl⟩ := Option.map_eq_some_iff.mp live
      exact .inr ⟨rfl, old, hold, rfl⟩
    · exact .inl live
  refine { h with zone := ?_, kept := ?_, timer := ?_ }
  · intro other session live
    rcases hcases other session live with live | ⟨rfl, old, hold, rfl⟩
    · exact h.zone other session live
    · rw [(hf old hold).1]
      exact h.zone other old hold
  · intro other session live
    rcases hcases other session live with live | ⟨rfl, old, hold, rfl⟩
    · exact h.kept other session live
    · exact (hf old hold).2.1
  · intro other session live
    rcases hcases other session live with live | ⟨rfl, old, hold, rfl⟩
    · exact h.timer other session live
    · exact (hf old hold).2.2

theorem removeStream (h : Sound env stack st) (id : SessionId) :
    Sound env stack (st.removeStream id) :=
  { h with }

theorem nextDownstreamGeneration (h : Sound env stack st) (id : SessionId) :
    Sound env stack (st.nextDownstreamGeneration id) :=
  { h.modify id (fun session =>
      { session with generation := st.nextGeneration + 1 }) fun session live =>
        ⟨rfl, h.kept id session live, h.timer id session live⟩ with }

theorem cancelDownstreamRetry (h : Sound env stack st) (id : SessionId) :
    Sound env stack (st.cancelDownstreamRetry id) :=
  h.modify _ _ fun session live => ⟨rfl, h.kept id session live, fun _ hnone => nomatch hnone⟩

theorem scheduleDownstreamRetry (h : Sound env stack st) {id : SessionId} {zoneId : ZoneId}
    (address : zoneId = env.zoneOf id) (generation : Nat) :
    Sound env stack (st.scheduleDownstreamRetry id zoneId generation).1 := by
  refine h.modify _ _ fun session live => ?_
  unfold retryOrReset
  split
  · refine ⟨rfl, h.kept id session live, fun task htask => ?_⟩
    cases htask
    exact ⟨rfl, address⟩
  · exact ⟨rfl, h.kept id session live, fun _ hnone => nomatch hnone⟩

theorem retireDownstream (h : Sound env stack st) (id : SessionId) :
    Sound env stack (st.retireDownstream id) :=
  ((h.modify id (fun session =>
    { session with
      resetNeeded := true
      observed := .unknown
      prepared := none
      encoder := none }) fun session live =>
    ⟨rfl, by nofun, h.timer id session live⟩).removeStream
      id).nextDownstreamGeneration id

/-! ### Commands -/

theorem sendCommand (h : Sound env stack st) {zoneId : ZoneId} {command : TransportCommand}
    (genuine : command.Genuine env st.streams zoneId) :
    Sound env stack (st.sendCommand env zoneId command) := by
  refine { h with worker := fun other worker found => ?_ }
  rcases zoneWorkers_sendCommand found with ⟨rfl, old, hold, rfl⟩ | ⟨-, found⟩
  · rcases worker_cases hold with hold | ⟨-, renderer, hrenderer, rfl⟩
    · obtain ⟨hrenderer, hcommands⟩ := h.worker _ old hold
      refine ⟨hrenderer, fun sent hsent => ?_⟩
      rw [ZoneWorker.commands_sendCommand, List.mem_cons] at hsent
      rcases hsent with rfl | hsent
      · exact genuine
      · exact hcommands sent (List.mem_append_right _ hsent)
    · refine ⟨hrenderer, fun sent hsent => ?_⟩
      cases List.mem_singleton.mp hsent
      exact genuine
  · exact h.worker other worker found

/-- The commands of the new worker are among those of the old one. -/
theorem setWorker (h : Sound env stack st) {zoneId : ZoneId} (worker worker' : ZoneWorker)
    (found : st.zoneWorkers zoneId = some worker) (renderer : worker'.renderer = worker.renderer)
    (commands : worker'.commands ⊆ worker.commands) :
    Sound env stack (st.setWorker zoneId worker') := by
  refine { h with worker := fun other current hcurrent => ?_ }
  simp only [BridgeRuntime.setWorker] at hcurrent
  by_cases hother : other = zoneId
  · subst other
    rw [Function.update_self] at hcurrent
    cases hcurrent
    rw [renderer]
    exact ⟨(h.worker zoneId worker found).1,
      fun command hcommand => (h.worker zoneId worker found).2 command (commands hcommand)⟩
  · rw [Function.update_of_ne hother] at hcurrent
    exact h.worker other current hcurrent

theorem setVolume (h : Sound env stack st) (zoneId : ZoneId) (value : Nat) :
    Sound env stack (st.setVolume env zoneId value) := by
  refine { h with worker := fun other worker found => ?_ }
  simp only [BridgeRuntime.setVolume] at found
  by_cases hother : other = zoneId
  · subst other
    rw [Function.update_self] at found
    obtain ⟨old, hold, rfl⟩ := Option.map_eq_some_iff.mp found
    rcases worker_cases hold with hold | ⟨-, renderer, hrenderer, rfl⟩
    · exact h.worker zoneId old hold
    · exact ⟨hrenderer, fun _ hnone => nomatch hnone⟩
  · rw [Function.update_of_ne hother] at found
    exact h.worker other worker found

theorem invalidateDownstream (h : Sound env stack st) {id : SessionId} {zoneId : ZoneId}
    (address : zoneId = env.zoneOf id) : Sound env stack (st.invalidateDownstream env id zoneId) := by
  subst address
  exact (h.retireDownstream id).sendCommand (TransportCommand.genuine_stop env _ id _)

/-! ### Cohorts -/

/-- A stream in the new cohorts was listed before, or is genuine. -/
theorem setCohorts (h : Sound env stack st) (st' : BridgeRuntime)
    (rest : st' = { st with
      syncCohort := st'.syncCohort
      pendingCohorts := st'.pendingCohorts
      wakeTimers := st'.wakeTimers })
    (waiting : ∀ cohort ∈ st'.cohorts, ∀ id stream, cohort.prepared.lookup id = some stream →
      (∃ old ∈ st.cohorts, old.prepared.lookup id = some stream) ∨
        stream.sessionId = id ∧ stream.Genuine env st.streams) : Sound env stack st' := by
  rw [rest]
  refine { h with waiting := fun cohort hmem id stream hfound => ?_ }
  rcases waiting cohort hmem id stream hfound with ⟨old, hold, hfound⟩ | hnew
  · exact h.waiting old hold id stream hfound
  · exact hnew

theorem lookup_drop {cohort : SyncCohort} {id other : SessionId} {stream : PreparedDownstream}
    (h : (cohort.drop id).prepared.lookup other = some stream) :
    cohort.prepared.lookup other = some stream := by
  simp only [SyncCohort.drop, AssocMap.lookup_erase_ite] at h
  split at h
  · cases h
  · exact h

/-- A cohort in which a session is enlisted lists no other stream than before. -/
theorem lookup_addSessionToSyncCohort {id other : SessionId} {cohort : SyncCohort}
    {stream : PreparedDownstream} (hmem : cohort ∈ (st.addSessionToSyncCohort env id).cohorts)
    (hfound : cohort.prepared.lookup other = some stream) :
    ∃ old ∈ st.cohorts, old.prepared.lookup other = some stream := by
  have hdropped (dropped : SyncCohort)
      (hdropped : dropped ∈ st.cohorts.map fun cohort => cohort.drop id)
      (hfound : dropped.prepared.lookup other = some stream) :
      ∃ old ∈ st.cohorts, old.prepared.lookup other = some stream := by
    obtain ⟨old, hold, rfl⟩ := List.mem_map.mp hdropped
    exact ⟨old, hold, lookup_drop hfound⟩
  have hnew (hfound : (newCohort env st.now id).prepared.lookup other = some stream) :
      ∃ old ∈ st.cohorts, old.prepared.lookup other = some stream := nomatch hfound
  rcases st.cohorts_addSessionToSyncCohort env id with
    ⟨before, last, hold, -, hcohorts, -⟩ | ⟨-, hcohorts, -⟩
  · rw [hcohorts, List.mem_append, List.mem_singleton] at hmem
    rcases hmem with hmem | rfl
    · exact hdropped cohort (by rw [hold]; exact List.mem_append_left _ hmem) hfound
    · exact hdropped last (by rw [hold]; simp) hfound
  · rw [hcohorts] at hmem
    split at hmem
    · rcases List.mem_cons.mp hmem with rfl | hmem
      · exact hnew hfound
      · exact hdropped cohort hmem hfound
    · rw [List.mem_append, List.mem_singleton] at hmem
      rcases hmem with hmem | rfl
      · exact hdropped cohort hmem hfound
      · exact hnew hfound

theorem addSessionToSyncCohort (h : Sound env stack st) (id : SessionId) :
    Sound env stack (st.addSessionToSyncCohort env id) :=
  h.setCohorts _ rfl fun _ hmem _ _ hfound => .inl (lookup_addSessionToSyncCohort hmem hfound)

theorem takeCohort (h : Sound env stack st) {cohort : SyncCohort} {rest : List SyncCohort}
    (first : st.cohorts = cohort :: rest) : Sound env stack (st.takeCohort rest) :=
  h.setCohorts _ rfl fun other hmem _ _ hfound =>
    .inl ⟨other, by rw [first]; exact List.mem_cons_of_mem _ hmem, hfound⟩

theorem takeNoCohort (h : Sound env stack st) : Sound env stack (st.takeCohort []) :=
  h.setCohorts _ rfl fun _ hmem => nomatch hmem

theorem keepCohort (h : Sound env stack st) {cohort : SyncCohort} {rest : List SyncCohort}
    (first : st.cohorts = cohort :: rest) :
    Sound env stack (st.keepCohort (st.pruneCohort cohort) rest) := by
  refine h.setCohorts _ rfl fun other hmem id stream hfound => .inl ?_
  rw [first]
  rcases List.mem_cons.mp hmem with rfl | hmem
  · exact ⟨cohort, List.mem_cons_self, ((AssocMap.lookup_retain_eq_some _ _).mp hfound).1⟩
  · exact ⟨other, List.mem_cons_of_mem _ hmem, hfound⟩

theorem mem_insertPrepared {prepared : PreparedDownstream} {cohorts : List SyncCohort}
    {cohort : SyncCohort} (hmem : cohort ∈ insertPrepared prepared cohorts) :
    cohort ∈ cohorts ∨ ∃ old ∈ cohorts,
      cohort = { old with prepared := old.prepared.insert prepared.sessionId prepared } := by
  induction cohorts with
  | nil => cases hmem
  | cons first rest ih =>
    simp only [insertPrepared] at hmem
    split at hmem
    · rcases List.mem_cons.mp hmem with rfl | hmem
      · exact .inr ⟨first, List.mem_cons_self, rfl⟩
      · exact .inl (List.mem_cons_of_mem _ hmem)
    · rcases List.mem_cons.mp hmem with rfl | hmem
      · exact .inl List.mem_cons_self
      · rcases ih hmem with hmem | ⟨old, hold, heq⟩
        · exact .inl (List.mem_cons_of_mem _ hmem)
        · exact .inr ⟨old, List.mem_cons_of_mem _ hold, heq⟩

theorem enlistPrepared (h : Sound env stack st) {prepared : PreparedDownstream}
    (genuine : prepared.Genuine env st.streams) : Sound env stack (st.enlistPrepared prepared) := by
  refine h.setCohorts _ rfl fun cohort hmem id stream hfound => ?_
  rw [cohorts_enlistPrepared] at hmem
  rcases mem_insertPrepared hmem with hmem | ⟨old, hold, rfl⟩
  · exact .inl ⟨cohort, hmem, hfound⟩
  · rw [AssocMap.lookup_insert_ite] at hfound
    split at hfound
    · next hid =>
      cases hfound
      exact .inr ⟨hid.symm, genuine⟩
    · exact .inl ⟨old, hold, hfound⟩

/-! ### Releases -/

theorem record (h : Sound env stack st) (event : HistoryEvent) :
    Sound env stack (st.record event) := by
  have hsub : st.streams ⊆ (st.record event).streams := by
    intro stream hmem
    simp only [streams, BridgeRuntime.record, List.filterMap_cons]
    split
    · exact hmem
    · exact List.mem_cons_of_mem _ hmem
  exact { h with
    kept := fun id session live stream hkept =>
      ⟨(h.kept id session live stream hkept).1, (h.kept id session live stream hkept).2.mono hsub⟩
    starting := fun release todo roles hframe stream hmem =>
      (h.starting release todo roles hframe stream hmem).mono hsub
    worker := fun zoneId worker found =>
      ⟨(h.worker zoneId worker found).1,
        fun command hmem => ((h.worker zoneId worker found).2 command hmem).mono hsub⟩
    waiting := fun cohort hmem id stream hfound =>
      ⟨(h.waiting cohort hmem id stream hfound).1,
        (h.waiting cohort hmem id stream hfound).2.mono hsub⟩
    message := fun stream hmem => (h.message stream hmem).mono hsub }

theorem openPlay (h : Sound env stack st) (prepared : List PreparedDownstream) :
    Sound env stack (st.openPlay env prepared) := by
  have hrecord := h.record (.played (st.planRelease env prepared))
  unfold BridgeRuntime.openPlay openRelease
  split
  · exact { hrecord with }
  · exact { hrecord with }

theorem planStream (h : Sound env stack st) (stream : PreparedDownstream) (cutoff : Instant)
    (delay : Option Duration) : Sound env stack (st.planStream stream cutoff delay) := by
  cases delay with
  | none => exact h
  | some delay => exact { h with }

theorem recordDelay (h : Sound env stack st) (id : SessionId) (delay : Option Duration) :
    Sound env stack (st.recordDelay id delay) := by
  cases delay with
  | none => exact h
  | some delay =>
    exact h.modify _ _ fun session live => ⟨rfl, h.kept id session live, h.timer id session live⟩

theorem holdStream (h : Sound env stack st) (id : SessionId) (delay : Option Duration) :
    Sound env stack (st.holdStream id delay) := by
  refine h.modify _ _ fun session live => ⟨rfl, fun stream hstream => ?_, h.timer id session live⟩
  obtain ⟨kept, hkept, rfl⟩ := Option.map_eq_some_iff.mp hstream
  obtain ⟨hid, hgenuine⟩ := h.kept id session live kept hkept
  exact ⟨hid, hgenuine.held delay⟩

theorem planStart (h : Sound env stack st) (cutoff : Instant) (delay : Option Duration)
    (command : TransportCommand) : Sound env stack (st.planStart cutoff delay command) := by
  cases command with
  | join stream _ _ => exact h.holdStream stream.sessionId delay
  | play stream => exact h.planStream stream cutoff delay
  | _ => exact h

theorem streams_planStart (cutoff : Instant) (delay : Option Duration)
    (command : TransportCommand) : (st.planStart cutoff delay command).streams = st.streams := by
  cases command with
  | play stream => cases delay <;> rfl
  | _ => rfl

theorem streams_recordDelay (id : SessionId) (delay : Option Duration) :
    (st.recordDelay id delay).streams = st.streams := by
  cases delay <;> rfl

theorem streams_startStream (joins : Option GroupJoins) (delays : AssocMap SessionId Duration)
    (cutoff : Instant) (acc : BridgeRuntime × AssocMap SessionId NativeMember)
    (stream : PreparedDownstream) :
    (BridgeRuntime.startStream env joins delays cutoff acc stream).1.streams = acc.1.streams := by
  unfold BridgeRuntime.startStream
  exact (streams_planStart _ _ _).trans (streams_recordDelay _ _)

theorem startStream (h : Sound env stack st) (joins : Option GroupJoins)
    (delays : AssocMap SessionId Duration) (cutoff : Instant)
    (roles : AssocMap SessionId NativeMember) {stream : PreparedDownstream}
    (genuine : stream.Genuine env st.streams) :
    Sound env stack (BridgeRuntime.startStream env joins delays cutoff (st, roles) stream).1 := by
  obtain ⟨hstart, hpayload⟩ := startCommand_spec joins (delays.lookup stream.sessionId)
    (roles.lookup stream.sessionId) stream
  refine ((h.recordDelay _ _).planStart _ _ _).sendCommand ?_
  rw [streams_planStart, streams_recordDelay]
  exact TransportCommand.genuine_start genuine hstart hpayload

/-! ### The rest of the handlers -/

theorem disband (h : Sound env stack st) (id : SessionId) : Sound env stack (st.disband id) :=
  { h with }

theorem admitDownstream (h : Sound env stack st) {id : SessionId} {zoneId : ZoneId}
    {renderer : Renderer} {liveStream : LiveStream} (address : zoneId = env.zoneOf id)
    (renderer_eq : env.renderers zoneId = some renderer)
    (named : liveStream.session.sessionId = id) :
    Sound env stack (st.admitDownstream env id zoneId renderer liveStream) := by
  have hrecord := h.record (.registered liveStream)
  have hregister : Sound env stack (st.registerStream id liveStream) :=
    { hrecord.modify id (fun session =>
        { session with encoder := some ⟨liveStream⟩ }) fun session live =>
          ⟨rfl, hrecord.kept id session live, hrecord.timer id session live⟩ with }
  refine (hregister.addSessionToSyncCohort id).sendCommand ⟨rfl, address.symm, ?_, ?_⟩
  · intro stream hstream
    cases hstream
    exact ⟨List.mem_cons_self, named, rfl, address, renderer_eq⟩
  · intro start hstart
    cases hstart
    rfl

/-- A stream is created under the session and the generation it is created for. -/
theorem createDownstreamStream_named {id : SessionId} {zoneId : ZoneId} {generation : Nat}
    {liveStream : LiveStream}
    (h : st.createDownstreamStream env id zoneId generation = some liveStream) :
    liveStream.session.sessionId = id ∧ liveStream.session.generation = generation := by
  unfold createDownstreamStream at h
  split at h
  · cases h
  · split at h
    · cases h
      exact ⟨rfl, rfl⟩
    · cases h

theorem stopPaused (h : Sound env stack st) {id : SessionId} {zoneId : ZoneId}
    (address : zoneId = env.zoneOf id) : Sound env stack (st.stopPaused env id zoneId) := by
  subst address
  exact (h.nextDownstreamGeneration id).sendCommand (TransportCommand.genuine_stop env _ id _)

theorem removeSession (h : Sound env stack st) (id : SessionId) :
    Sound env stack (st.removeSession id) := by
  have hlive (other : SessionId) (session : SessionRuntime)
      (live : (st.removeSession id).session other = some session) :
      st.session other = some session := by
    rw [session_removeSession] at live
    split at live
    · cases live
    · exact live
  exact { h with
    zone := fun other session live => h.zone other session (hlive other session live)
    kept := fun other session live => h.kept other session (hlive other session live)
    timer := fun other session live => h.timer other session (hlive other session live) }

theorem insertSession (h : Sound env stack st) {id : SessionId} {zoneId : ZoneId}
    (address : zoneId = env.zoneOf id) (format : PcmFormat) (sender : Option IpAddr) :
    Sound env stack (st.insertSession id zoneId format sender) := by
  have hcases (other : SessionId) (session : SessionRuntime)
      (live : (st.insertSession id zoneId format sender).session other = some session) :
      st.session other = some session ∨
        other = id ∧ session = { SessionRuntime.new zoneId format with sender := sender } := by
    rw [session_insertSession] at live
    split at live
    · cases live
      exact .inr ⟨‹_›, rfl⟩
    · exact .inl live
  refine { h with zone := ?_, kept := ?_, timer := ?_ }
  · intro other session live
    rcases hcases other session live with live | ⟨rfl, rfl⟩
    · exact h.zone other session live
    · exact address
  · intro other session live
    rcases hcases other session live with live | ⟨rfl, rfl⟩
    · exact h.kept other session live
    · nofun
  · intro other session live
    rcases hcases other session live with live | ⟨rfl, rfl⟩
    · exact h.timer other session live
    · nofun

theorem retireEncoder (h : Sound env stack st) {id : SessionId} {zoneId : ZoneId}
    (address : zoneId = env.zoneOf id) : Sound env stack (st.retireEncoder env id zoneId) := by
  subst address
  exact (((h.modify id (fun session =>
    { session with
      prepared := none
      resetNeeded := true
      encoder := none }) fun session live =>
    ⟨rfl, by nofun, h.timer id session live⟩).nextDownstreamGeneration id).removeStream
      id).sendCommand (TransportCommand.genuine_stop env _ id _)

theorem encoderInputClosed (h : Sound env stack st) {id : SessionId} {session : SessionRuntime}
    (live : st.session id = some session) :
    Sound env stack (st.encoderInputClosed env id session) := by
  have address := h.zone id session live
  have hretired := h.retireEncoder address
  unfold BridgeRuntime.encoderInputClosed
  split
  · exact hretired.scheduleDownstreamRetry address _
  · exact hretired

theorem forgetNativeMember (h : Sound env stack st) (id : SessionId) :
    Sound env stack (st.forgetNativeMember id) :=
  { h with }

theorem startSucceeded (h : Sound env stack st) (id : SessionId)
    (outcome : DownstreamStartOutcome) : Sound env stack (st.startSucceeded id outcome) := by
  have hmarked : Sound env stack (st.markPlaying id) :=
    h.modify _ _ fun session live => ⟨rfl, h.kept id session live, by nofun⟩
  unfold BridgeRuntime.startSucceeded
  split
  · exact hmarked.forgetNativeMember id
  · exact hmarked

theorem startUncertain (h : Sound env stack st) (id : SessionId)
    (outcome : DownstreamStartOutcome) : Sound env stack (st.startUncertain id outcome) := by
  have hmarked : Sound env stack (st.markUncertain id) :=
    h.modify _ _ fun session live => ⟨rfl, h.kept id session live, h.timer id session live⟩
  unfold BridgeRuntime.startUncertain
  split
  · exact hmarked.forgetNativeMember id
  · exact hmarked

theorem abandonStart (h : Sound env stack st) (id : SessionId) :
    Sound env stack (st.abandonStart id) :=
  h.modify _ _ fun session live => ⟨rfl, h.kept id session live, by nofun⟩

theorem resumePlayback (h : Sound env stack st) (id : SessionId) :
    Sound env stack (st.resumePlayback id) := by
  have hresumed := h.modify id (fun session =>
    { session with desiredPlayback := true, retryAttempts := 0 }) fun session live =>
      ⟨rfl, h.kept id session live, h.timer id session live⟩
  exact hresumed.modify _ _ fun session live =>
    ⟨rfl, hresumed.kept id session live, hresumed.timer id session live⟩

theorem pausePlayback (h : Sound env stack st) (id : SessionId) :
    Sound env stack (st.pausePlayback id) :=
  (h.modify id (fun session =>
    { session with
      desiredPlayback := false
      resetNeeded := true
      observed := .unknown
      prepared := none }) fun session live =>
    ⟨rfl, by nofun, h.timer id session live⟩).cancelDownstreamRetry id

theorem setPlaybackEpoch (h : Sound env stack st) (id : SessionId) (playbackEpoch : Nat) :
    Sound env stack (st.setPlaybackEpoch id playbackEpoch) :=
  h.modify _ _ fun session live => ⟨rfl, h.kept id session live, h.timer id session live⟩

theorem keepPrepared (h : Sound env stack st) {prepared : PreparedDownstream}
    (genuine : prepared.Genuine env st.streams) : Sound env stack (st.keepPrepared prepared) :=
  h.modify _ _ fun session live =>
    ⟨rfl, fun stream hstream => by cases hstream; exact ⟨rfl, genuine⟩,
      h.timer _ session live⟩

theorem takeResult (h : Sound env stack st) : Sound env stack st.takeResult :=
  { h with result := fun result hmem => h.result result (List.mem_of_mem_tail hmem) }

theorem takeRetry (h : Sound env stack st) : Sound env stack st.takeRetry :=
  { h with retry := fun retry hmem => h.retry retry (List.mem_of_mem_tail hmem) }

theorem takePrepared (h : Sound env stack st) : Sound env stack st.takePrepared :=
  { h with message := fun stream hmem => h.message stream (List.mem_of_mem_tail hmem) }

/-- A frame may be pushed if its goal is addressed and its streams are genuine. -/
theorem push (h : Sound env stack st) {frame : Frame}
    (goal : ∀ goal todo, frame = .leaving goal todo → goal.Addressed env)
    (starting : ∀ release todo roles, frame = .starting release todo roles →
      ∀ stream ∈ todo, stream.Genuine env st.streams) : Sound env (frame :: stack) st := by
  refine { h with goal := ?_, starting := ?_ }
  · intro other todo hmem
    rcases List.mem_cons.mp hmem with heq | hmem
    · exact goal other todo heq.symm
    · exact h.goal other todo hmem
  · intro release todo roles hmem
    rcases List.mem_cons.mp hmem with heq | hmem
    · exact starting release todo roles heq.symm
    · exact h.starting release todo roles hmem

theorem pop {frame : Frame} (h : Sound env (frame :: stack) st) : Sound env stack st :=
  { h with
    goal := fun goal todo hmem => h.goal goal todo (List.mem_cons_of_mem _ hmem)
    starting := fun release todo roles hmem =>
      h.starting release todo roles (List.mem_cons_of_mem _ hmem) }

theorem pushLeaving (h : Sound env stack st) {goal : Goal} (address : goal.Addressed env)
    (todo : List SessionId) : Sound env (.leaving goal todo :: stack) st :=
  h.push (fun _ _ heq => by cases heq; exact address) fun _ _ _ heq => nomatch heq

theorem pushChecking (h : Sound env stack st) : Sound env (.checking :: stack) st :=
  h.push (fun _ _ heq => nomatch heq) fun _ _ _ heq => nomatch heq

theorem pushStarting (h : Sound env stack st) (release : Release)
    {todo : List PreparedDownstream} (genuine : ∀ stream ∈ todo, stream.Genuine env st.streams)
    (roles : AssocMap SessionId NativeMember) :
    Sound env (.starting release todo roles :: stack) st :=
  h.push (fun _ _ heq => nomatch heq) fun _ _ _ heq => by cases heq; exact genuine

/-! ### The moves -/

theorem streams_openPlay (prepared : List PreparedDownstream) :
    (st.openPlay env prepared).streams = st.streams := by
  unfold BridgeRuntime.openPlay openRelease
  split <;> rfl

theorem inner {stack' : List Frame} {st' : BridgeRuntime} (h : Sound env stack st)
    (move : Inner env stack st stack' st') : Sound env stack' st' := by
  cases move with
  | memberSkipped => exact h.pop.pushLeaving (h.goal _ _ List.mem_cons_self) _
  | @memberRestarted stack _ goal member rest session live wanted =>
    exact (((h.pop.pushLeaving (h.goal _ _ List.mem_cons_self) rest).cancelDownstreamRetry
      member).disband member).pushLeaving
      (by exact h.zone member session live) _
  | vanished => exact h.pop
  | rendererMissing => exact h.pop.retireDownstream _
  | buildFailed live renderer_eq failed =>
    have address := h.goal _ _ List.mem_cons_self
    exact (h.pop.invalidateDownstream address).scheduleDownstreamRetry address _
  | built live renderer_eq created =>
    have address := h.goal _ _ List.mem_cons_self
    exact ((h.pop.invalidateDownstream address).admitDownstream address renderer_eq
      (createDownstreamStream_named created).1).pushChecking
  | left => exact h.pop
  | pauseFinished => exact (h.pop.stopPaused (h.goal _ _ List.mem_cons_self)).pushChecking
  | @stopFinished stack _ id zoneId generation =>
    have address : zoneId = env.zoneOf id := h.goal _ _ List.mem_cons_self
    subst address
    exact (h.pop.sendCommand (TransportCommand.genuine_stop env _ id generation)).pushChecking
  | cohortDropped first => exact h.takeCohort first
  | @cohortReleased stack _ cohort rest first listed starts =>
    have htaken := (h.takeCohort first).record
      (.released (st.pruneCohort cohort) st.now
        fun id => (st.session id).map SessionRuntime.generation)
    refine (htaken.openPlay _).pushStarting _ ?_ _
    intro stream hmem
    rw [streams_openPlay]
    obtain ⟨id, -, hfound⟩ := List.mem_filterMap.mp hmem
    exact (h.waiting cohort (by rw [first]; exact List.mem_cons_self) id stream
      ((AssocMap.lookup_retain_eq_some _ _).mp hfound).1).2
  | cohortKept first => exact (h.pop.keepCohort first).record _
  | cohortsDone => exact h.pop.takeNoCohort.record _
  | @streamStarted stack _ release stream rest roles =>
    have hgenuine := h.starting _ _ _ List.mem_cons_self
    refine (h.pop.startStream _ _ _ roles (hgenuine stream List.mem_cons_self)).pushStarting _ ?_ _
    intro other hmem
    have hother := hgenuine other (List.mem_cons_of_mem _ hmem)
    rw [streams_startStream]
    exact hother
  | startsDone => exact h.pop

theorem workerReplied (h : Sound env stack st) {zoneId : ZoneId} {worker worker' : ZoneWorker}
    {reply : Reply} {outputs : List WorkerOutput}
    (found : st.zoneWorkers zoneId = some worker)
    (replied : worker.reply st.now reply = some (worker', outputs)) :
    Sound env stack (outputs.foldl deliver (st.setWorker zoneId worker')) := by
  obtain ⟨task, request, hrunning, -, effect⟩ := ZoneWorker.reply_spec replied
  have hcommand := (h.worker zoneId worker found).2 _ (ZoneWorker.mem_commands_of_running hrunning)
  have hworker : Sound env stack (st.setWorker zoneId worker') := by
    refine h.setWorker _ _ found ?_ (effect.commands_subset hrunning)
    cases effect <;> rfl
  obtain ⟨groupJoins, heq⟩ := deliver_eq (st.setWorker zoneId worker') outputs
  rw [heq]
  refine { hworker with result := fun result hmem => ?_ }
  rcases List.mem_append.mp hmem with hold | hnew
  · exact h.result result hold
  · cases effect with
    | goesOn => cases hnew
    | abandons => cases hnew
    | reports _ ends =>
      rw [results_of_report, List.mem_singleton] at hnew
      subst result
      rw [ends.zoneId, ends.sessionId, hcommand.zone, hcommand.address]

theorem workerReady (h : Sound env stack st) {zoneId : ZoneId} {worker worker' : ZoneWorker}
    {prepared : PreparedDownstream} (found : st.zoneWorkers zoneId = some worker)
    (ready : worker.ready = some (worker', prepared)) :
    Sound env stack ((st.setWorker zoneId worker').sendPrepared prepared) := by
  obtain ⟨start, hrunning, rfl, rfl⟩ := ZoneWorker.ready_spec ready
  have hcommand := (h.worker zoneId worker found).2 _ (ZoneWorker.mem_commands_of_running hrunning)
  have hworker := h.setWorker worker { worker with running := none } found rfl
    fun _ hmem => List.mem_append_left _ (by simpa [ZoneWorker.commands] using hmem)
  refine { hworker with message := fun stream hmem => ?_ }
  rcases List.mem_append.mp hmem with hmem | hmem
  · exact h.message stream hmem
  · cases List.mem_singleton.mp hmem
    exact hcommand.payload _ rfl

theorem sendRetry (h : Sound env stack st) {id : SessionId} {session : SessionRuntime}
    {task : TimerTask DownstreamRetry} (live : st.session id = some session)
    (timer : session.retryTask = some task) : Sound env stack (st.sendRetry id task) := by
  have htimer := h.timer id session live task timer
  have hmodified := h.modify id (fun session =>
    { session with retryTask := some { task with fired := true } }) fun session live =>
      ⟨rfl, h.kept id session live, fun other hother => by cases hother; exact htimer⟩
  refine { hmodified with retry := fun retry hmem => ?_ }
  rcases List.mem_append.mp hmem with hmem | hmem
  · exact h.retry retry hmem
  · cases List.mem_singleton.mp hmem
    exact htimer.2

theorem deferCleanup (h : Sound env stack st) (id : SessionId) :
    Sound env stack (st.deferCleanup id) := by
  have hmarked := h.modify id (fun session =>
    { session with resetNeeded := true }) fun session live =>
      ⟨rfl, h.kept id session live, h.timer id session live⟩
  have hcancelled := hmarked.modify id (fun session =>
    { session with cleanupDeadline := none, cleanupTask := none }) fun session live =>
      ⟨rfl, hmarked.kept id session live, hmarked.timer id session live⟩
  exact hcancelled.modify _ _ fun session live =>
    ⟨rfl, hcancelled.kept id session live, hcancelled.timer id session live⟩

theorem replayPrepared (h : Sound env stack st) {retry : DownstreamRetry}
    {rest : List DownstreamRetry} {session : SessionRuntime} {prepared : PreparedDownstream}
    (first : st.retryRx = retry :: rest) (live : st.session retry.sessionId = some session)
    (kept : session.prepared = some prepared) : Sound env stack
      (st.takeRetry.replayPrepared env retry.sessionId retry.zoneId prepared) := by
  have address := h.retry retry (by rw [first]; exact List.mem_cons_self)
  obtain ⟨hid, hgenuine⟩ := h.kept _ session live prepared kept
  have hmodified := h.takeRetry.modify retry.sessionId (fun session =>
    { session with prepared := some prepared.released, retryTask := none }) fun session live =>
      ⟨rfl, fun stream hstream => by cases hstream; exact ⟨hid, hgenuine.held none⟩,
        fun task htask => by cases htask⟩
  have hzone : retry.zoneId = prepared.released.zoneId := by
    rw [address, ← hid]
    exact hgenuine.zone.symm
  refine (hmodified.planStream _ _ _).sendCommand ?_
  rw [hzone]
  refine TransportCommand.genuine_start ?_ rfl rfl
  cases prepared.heldDelay <;> exact hgenuine.held none

theorem move {guard : BridgeRuntime → BridgeLabel → Prop} {stack' : List Frame}
    {st' : BridgeRuntime} (h : Sound env stack st) (move : Move env guard stack st stack' st') :
    Sound env stack' st' := by
  cases move with
  | inner move => exact h.inner move
  | tick => exact { h with }
  | workerTook found took =>
    refine h.setWorker _ _ found ?_ (ZoneWorker.commands_take took ▸ List.Subset.refl _)
    obtain ⟨_, _, _, -, -, -, rfl⟩ := ZoneWorker.take_spec took
    rfl
  | workerReplied guarded found replied => exact h.workerReplied found replied
  | workerSuperseded found superseded =>
    obtain ⟨task, hrunning, -, -, rfl⟩ := ZoneWorker.supersede_spec superseded
    exact h.setWorker _ _ found rfl fun _ hmem => List.mem_append_left _ (by
      simpa [ZoneWorker.commands] using hmem)
  | workerReady found ready => exact h.workerReady found ready
  | @groupReleased _ zoneId worker stream joins delay since _ found waiting released =>
    obtain ⟨-, rfl⟩ := releaseGroup_spec released
    have hfixed : Sound env [] (st.fixRelease joins) := { h with }
    refine (hfixed.planStream stream _ delay).setWorker worker _ ?_ rfl ?_
    · cases delay <;> exact found
    · simp only [ZoneWorker.commands, waiting]
      exact fun _ hmem => hmem
  | retryFired live timer => exact h.sendRetry live timer
  | @cleanupFired _ id session task live timer pending due =>
    exact { h.modify id (fun session =>
      { session with cleanupTask := some { task with fired := true } }) fun session live =>
        ⟨rfl, h.kept id session live, h.timer id session live⟩ with }
  | wakeFired => exact { h with }
  | volumeSet zoneId value => exact h.setVolume zoneId value
  | sessionsWalked => exact { h with }
  | cleanupTaken => exact { h with }
  | cleanupDeferred => exact h.deferCleanup _
  | resumed => exact h.resumePlayback _
  | resumedRestart address =>
    exact (((h.resumePlayback _).cancelDownstreamRetry _).disband _).pushLeaving (by exact address) _
  | @flushedPlaying _ id zoneId session playbackEpoch address =>
    exact (((h.setPlaybackEpoch id playbackEpoch).cancelDownstreamRetry id).disband
      id).pushLeaving (by exact address) _
  | paused address => exact ((h.pausePlayback _).disband _).pushLeaving (by exact address) _
  | @flushedPaused _ id zoneId session playbackEpoch =>
    have hflushed := h.setPlaybackEpoch id playbackEpoch
    exact (hflushed.modify id (fun session => { session with encoder := none })
      fun session live =>
        ⟨rfl, hflushed.kept id session live, hflushed.timer id session live⟩).removeStream id
  | @sessionRemoved _ id zoneId session live address =>
    refine ((h.removeSession id).disband id).pushLeaving ?_ _
    rcases address with rfl | rfl
    · exact h.zone id session live
    · rfl
  | sessionInserted format sender address =>
    exact (((h.insertSession address format sender).cancelDownstreamRetry _).disband
      _).pushLeaving (by exact address) _
  | encoderClosed guarded live => exact h.encoderInputClosed live
  | resultDropped => exact h.takeResult
  | resultPaused =>
    exact h.takeResult.modify _ _ fun session live =>
      ⟨rfl, h.kept _ session live, h.timer _ session live⟩
  | startSucceeded => exact h.takeResult.startSucceeded _ _
  | @startRetried _ result rest session first =>
    have address := h.result result (by rw [first]; exact List.mem_cons_self)
    exact (h.takeResult.startUncertain _ _).scheduleDownstreamRetry address _
  | @startExhausted _ result rest session first =>
    have address := h.result result (by rw [first]; exact List.mem_cons_self)
    exact (((h.takeResult.startUncertain _ _).scheduleDownstreamRetry address _).disband
      _).pushLeaving (by exact trivial) _
  | startAbandoned =>
    exact ((h.takeResult.abandonStart _).disband _).pushLeaving (by exact trivial) _
  | retryDropped => exact h.takeRetry
  | retryReplayed guarded first live current wanted kept => exact h.replayPrepared first live kept
  | @retryRestarted _ retry rest session first =>
    have address := h.retry retry (by rw [first]; exact List.mem_cons_self)
    exact (((h.takeRetry.cancelDownstreamRetry _).cancelDownstreamRetry _).disband
      _).pushLeaving (by exact address) _
  | preparedDropped => exact h.takePrepared
  | @preparedListed _ prepared rest session first =>
    have hgenuine := h.message prepared (by rw [first]; exact List.mem_cons_self)
    exact ((h.takePrepared.keepPrepared hgenuine).enlistPrepared hgenuine).pushChecking
  | @preparedPlayed _ prepared rest session first =>
    have hgenuine := h.message prepared (by rw [first]; exact List.mem_cons_self)
    refine ((h.takePrepared.keepPrepared hgenuine).openPlay [prepared]).pushStarting _ ?_ _
    intro stream hmem
    cases List.mem_singleton.mp hmem
    rw [streams_openPlay]
    exact hgenuine
  | wakeTaken =>
    have htaken : Sound env [] st.takeWake := { h with }
    exact htaken.pushChecking
  | workersClosed =>
    refine { h with worker := fun zoneId worker found => ?_ }
    obtain ⟨old, hold, rfl⟩ := Option.map_eq_some_iff.mp found
    exact h.worker zoneId old hold

end Sound

theorem Visited.sound {env : Env} {guard : BridgeRuntime → BridgeLabel → Prop}
    {stack : List Frame} {st : BridgeRuntime} (h : Visited env guard stack st) :
    Sound env stack st :=
  h.invariant Sound.start fun _ _ _ _ _ sound move => sound.move move

end AirSonos
