import AirSonos.Bridge.Generations
import AirSonos.Bridge.WorkerSteps

/-!
# A pause ends in silence

The runtime sends a command that prepares or starts a stream only to a zone whose session wants
playback, and the last command sent to any other zone is a Stop. A worker carries out the last
command it was sent, so the room has been told to stop once the worker is drained.
-/

namespace AirSonos

open Relation BridgeRuntime

variable {env : Env} {guard : BridgeRuntime → BridgeLabel → Prop}

/-! ### What holds of every worker -/

/-- Everything that can happen to a worker keeps `P`. -/
structure ZoneWorker.Keeps (P : ZoneWorker → Prop) : Prop where
  new : ∀ renderer, P (.new renderer)
  sendCommand : ∀ worker command, P worker → P (worker.sendCommand command)
  setVolume : ∀ worker value, P worker → P (worker.setVolume value)
  shutdown : ∀ worker, P worker → P worker.shutdown
  take : ∀ worker now worker', P worker → worker.take now = some worker' → P worker'
  reply : ∀ worker now reply worker' outputs, P worker →
    worker.reply now reply = some (worker', outputs) → P worker'
  supersede : ∀ worker worker', P worker → worker.supersede = some worker' → P worker'
  ready : ∀ worker worker' prepared, P worker → worker.ready = some (worker', prepared) → P worker'
  release : ∀ worker stream joins delay since, P worker →
    worker.running = some (.groupWait stream joins delay since) →
    P (worker.goto (.groupPlay stream joins delay))

def BridgeRuntime.AllWorkers (P : ZoneWorker → Prop) (st : BridgeRuntime) : Prop :=
  ∀ zoneId worker, st.zoneWorkers zoneId = some worker → P worker

theorem BridgeRuntime.AllWorkers.move {P : ZoneWorker → Prop} {stack stack' : List Frame}
    {st st' : BridgeRuntime} (h : st.AllWorkers P) (keeps : ZoneWorker.Keeps P)
    (move : Move env guard stack st stack' st') : st'.AllWorkers P := by
  intro zoneId worker found
  have hstep := WorkersStep.move move zoneId worker found
  clear found
  induction hstep with
  | old found => exact h zoneId _ found
  | new => exact keeps.new _
  | sent _ _ before => exact keeps.sendCommand _ _ before
  | volume _ value before => exact keeps.setVolume _ value before
  | closed found => exact keeps.shutdown _ (h zoneId _ found)
  | took found took => exact keeps.take _ _ _ (h zoneId _ found) took
  | replied found replied => exact keeps.reply _ _ _ _ _ (h zoneId _ found) replied
  | superseded found superseded => exact keeps.supersede _ _ (h zoneId _ found) superseded
  | ready found ready => exact keeps.ready _ _ _ (h zoneId _ found) ready
  | released found waiting => exact keeps.release _ _ _ _ _ (h zoneId _ found) waiting

theorem Visited.allWorkers {P : ZoneWorker → Prop} (keeps : ZoneWorker.Keeps P)
    {stack : List Frame} {st : BridgeRuntime} (h : Visited env guard stack st) :
    st.AllWorkers P :=
  h.invariant (P := fun _ st => st.AllWorkers P) (fun _ _ found => nomatch found)
    fun _ _ _ _ _ all move => all.move keeps move

/-! ### A worker carries out its last command -/

theorem TransportCommand.not_stop {command : TransportCommand}
    (h : command.isPrepare = true ∨ command.isStart = true) : ¬command.isStop = true := by
  cases command with
  | stop => rcases h with h | h <;> cases h
  | _ => exact Bool.false_ne_true

/-- The last command issued waits, is being worked on, or is done. A Stop that is done was the
last request. -/
structure ZoneWorker.Follows (worker : ZoneWorker) : Prop where
  waits : ∀ command, worker.slot = some command → worker.issued.head? = some command
  runs : worker.slot = none → ∀ task, worker.running = some task →
    worker.issued.head? = some task.command
  done : worker.Drained → ∀ command, worker.issued.head? = some command →
    command.isStop = true → ∃ reply, worker.exchanges.head? = some ⟨.stop, reply⟩
  idle : worker.issued = [] → worker.exchanges = []

namespace ZoneWorker.Follows

variable {worker worker' : ZoneWorker} {task : TransportTask}

theorem issued_ne_nil (h : worker.Follows) (running : worker.running = some task) :
    worker.issued ≠ [] := by
  intro hissued
  cases hslot : worker.slot with
  | some command =>
    have hhead := h.waits command hslot
    rw [hissued] at hhead
    cases hhead
  | none =>
    have hhead := h.runs hslot task running
    rw [hissued] at hhead
    cases hhead

/-- The loop goes on with its command. -/
theorem goesOn (h : worker.Follows) (running : worker.running = some task)
    (slot : worker'.slot = worker.slot) (issued : worker'.issued = worker.issued)
    {next : TransportTask} (running' : worker'.running = some next)
    (same : next.command = task.command) : worker'.Follows where
  waits := by
    rw [slot, issued]
    exact h.waits
  runs := by
    intro hslot other hother
    rw [running'] at hother
    cases hother
    rw [issued, same]
    exact h.runs (slot ▸ hslot) task running
  done := by
    intro hdrained
    have hnone := hdrained.1
    rw [running'] at hnone
    cases hnone
  idle := by
    intro hempty
    exact absurd (issued ▸ hempty) (h.issued_ne_nil running)

/-- The command ends. -/
theorem ends (h : worker.Follows) (running : worker.running = some task)
    (slot : worker'.slot = worker.slot) (issued : worker'.issued = worker.issued)
    (running' : worker'.running = none)
    (stops : task.command.isStop = true →
      ∃ reply, worker'.exchanges.head? = some ⟨.stop, reply⟩) : worker'.Follows where
  waits := by
    rw [slot, issued]
    exact h.waits
  runs := by
    intro hslot other hother
    rw [running'] at hother
    cases hother
  done := by
    intro hdrained command hhead hstop
    rw [issued, h.runs (slot ▸ hdrained.2) task running] at hhead
    cases hhead
    exact stops hstop
  idle := by
    intro hempty
    exact absurd (issued ▸ hempty) (h.issued_ne_nil running)

theorem new (renderer : Renderer) : (ZoneWorker.new renderer).Follows where
  waits := by
    intro _ hnone
    cases hnone
  runs := by
    intro _ _ hnone
    cases hnone
  done := by
    intro _ _ hnone
    cases hnone
  idle := fun _ => rfl

theorem sendCommand (command : TransportCommand) : (worker.sendCommand command).Follows where
  waits := fun _ hslot => hslot
  runs := by
    intro hnone
    cases hnone
  done := by
    intro hdrained
    cases hdrained.2
  idle := by
    intro hnil
    cases hnil

theorem take (h : worker.Follows) {now : Instant} (took : worker.take now = some worker') :
    worker'.Follows := by
  obtain ⟨command, task, joined, hrunning, hslot, hcommand, rfl⟩ := ZoneWorker.take_spec took
  constructor
  · intro _ hnone
    cases hnone
  · intro _ other hother
    cases hother
    rw [hcommand]
    exact h.waits command hslot
  · intro hdrained
    cases hdrained.1
  · exact h.idle

theorem reply (h : worker.Follows) {now : Instant} {reply : Reply} {outputs : List WorkerOutput}
    (replied : worker.reply now reply = some (worker', outputs)) : worker'.Follows := by
  obtain ⟨task, request, hrunning, hrequest, heffect⟩ := ZoneWorker.reply_spec replied
  cases heffect with
  | goesOn same => exact h.goesOn hrunning rfl rfl rfl same
  | abandons prepare newer =>
    exact h.ends hrunning rfl rfl rfl fun hstop =>
      absurd hstop (TransportCommand.not_stop (.inl prepare))
  | reports joins ends stops =>
    refine h.ends hrunning rfl rfl rfl fun hstop => ?_
    have hsent : request = .stop := stops hstop
    subst request
    exact ⟨reply, rfl⟩

theorem supersede (h : worker.Follows) (superseded : worker.supersede = some worker') :
    worker'.Follows := by
  obtain ⟨task, hrunning, -, hcommand, rfl⟩ := ZoneWorker.supersede_spec superseded
  exact h.ends hrunning rfl rfl rfl fun hstop => absurd hstop (TransportCommand.not_stop hcommand)

theorem ready (h : worker.Follows) {prepared : PreparedDownstream}
    (ready : worker.ready = some (worker', prepared)) : worker'.Follows := by
  obtain ⟨start, hrunning, -, rfl⟩ := ZoneWorker.ready_spec ready
  exact h.ends hrunning rfl rfl rfl fun hstop => by cases hstop

theorem keeps : ZoneWorker.Keeps ZoneWorker.Follows where
  new := fun _ => new _
  sendCommand := fun _ command _ => sendCommand command
  setVolume := fun _ _ h => ⟨h.waits, h.runs, h.done, h.idle⟩
  shutdown := fun _ h => ⟨h.waits, h.runs, h.done, h.idle⟩
  take := fun _ _ _ h took => h.take took
  reply := fun _ _ _ _ _ h replied => h.reply replied
  supersede := fun _ _ h superseded => h.supersede superseded
  ready := fun _ _ _ h ready => h.ready ready
  release := fun _ _ _ _ _ h waiting => h.goesOn waiting rfl rfl rfl rfl

end ZoneWorker.Follows

/-! ### What is issued -/

def BridgeRuntime.issued (st : BridgeRuntime) (zoneId : ZoneId) : List TransportCommand :=
  (st.zoneWorkers zoneId).elim [] ZoneWorker.issued

/-- A session of the zone wants playback. -/
def BridgeRuntime.Wanted (st : BridgeRuntime) (zoneId : ZoneId) : Prop :=
  ∃ id session, st.session id = some session ∧ session.zoneId = zoneId ∧
    session.desiredPlayback = true

/-- More commands were issued, those that are not a Stop to wanted zones only. -/
def Issues (wanted : ZoneId → Prop) (st st' : BridgeRuntime) : Prop :=
  ∀ zoneId, ∃ sent, st'.issued zoneId = sent ++ st.issued zoneId ∧
    ∀ command ∈ sent, command.isStop = false → wanted zoneId

namespace Issues

variable {wanted : ZoneId → Prop} {st mid st' : BridgeRuntime}

theorem none (same : st'.zoneWorkers = st.zoneWorkers) : Issues wanted st st' := by
  intro zoneId
  refine ⟨[], ?_, List.forall_mem_nil _⟩
  unfold BridgeRuntime.issued
  rw [same]
  rfl

theorem trans (first : Issues wanted st mid) (second : Issues wanted mid st') :
    Issues wanted st st' := by
  intro zoneId
  obtain ⟨sent, heq, hsent⟩ := first zoneId
  obtain ⟨sent', heq', hsent'⟩ := second zoneId
  refine ⟨sent' ++ sent, by rw [heq', heq, List.append_assoc], ?_⟩
  intro command hmem
  rcases List.mem_append.mp hmem with hmem | hmem
  · exact hsent' command hmem
  · exact hsent command hmem

theorem mono {wanted' : ZoneId → Prop} (h : Issues wanted st st')
    (weaker : ∀ zoneId, wanted zoneId → wanted' zoneId) : Issues wanted' st st' := by
  intro zoneId
  obtain ⟨sent, heq, hsent⟩ := h zoneId
  exact ⟨sent, heq, fun command hmem hstop => weaker zoneId (hsent command hmem hstop)⟩

theorem sendCommand (zoneId : ZoneId) (command : TransportCommand)
    (allowed : command.isStop = false → wanted zoneId) :
    Issues wanted st (st.sendCommand env zoneId command) := by
  intro other
  by_cases hother : other = zoneId
  · subst other
    unfold BridgeRuntime.issued
    simp only [BridgeRuntime.sendCommand, Function.update_self]
    cases hworker : st.worker env zoneId with
    | none =>
      have hnone : st.zoneWorkers zoneId = Option.none := (Option.or_eq_none_iff.mp hworker).1
      exact ⟨[], by rw [hnone]; rfl, List.forall_mem_nil _⟩
    | some worker =>
      refine ⟨[command], ?_, fun sent hmem => ?_⟩
      · rcases worker_cases hworker with hfound | ⟨hnone, renderer, -, rfl⟩
        · rw [hfound]
          rfl
        · rw [hnone]
          rfl
      · rw [List.mem_singleton.mp hmem]
        exact allowed
  · refine ⟨[], ?_, List.forall_mem_nil _⟩
    unfold BridgeRuntime.issued
    simp only [BridgeRuntime.sendCommand, Function.update_of_ne hother, List.nil_append]

theorem sendStop (zoneId : ZoneId) (id : SessionId) (generation : Nat) :
    Issues wanted st (st.sendCommand env zoneId (.stop id zoneId generation)) :=
  sendCommand zoneId _ fun hstop => by cases hstop

theorem setWorker {zoneId : ZoneId} {worker worker' : ZoneWorker}
    (found : st.zoneWorkers zoneId = some worker) (same : worker'.issued = worker.issued) :
    Issues wanted st (st.setWorker zoneId worker') := by
  intro other
  refine ⟨[], ?_, List.forall_mem_nil _⟩
  unfold BridgeRuntime.issued
  simp only [BridgeRuntime.setWorker]
  by_cases hother : other = zoneId
  · subst other
    rw [Function.update_self, found]
    exact same
  · rw [Function.update_of_ne hother]
    rfl

theorem setVolume (zoneId : ZoneId) (value : Nat) :
    Issues wanted st (st.setVolume env zoneId value) := by
  intro other
  refine ⟨[], ?_, List.forall_mem_nil _⟩
  unfold BridgeRuntime.issued
  simp only [BridgeRuntime.setVolume]
  by_cases hother : other = zoneId
  · subst other
    rw [Function.update_self]
    cases hworker : st.worker env zoneId with
    | none =>
      have hnone : st.zoneWorkers zoneId = Option.none := (Option.or_eq_none_iff.mp hworker).1
      rw [hnone]
      rfl
    | some worker =>
      rcases worker_cases hworker with hfound | ⟨hnone, renderer, -, rfl⟩
      · rw [hfound]
        rfl
      · rw [hnone]
        rfl
  · rw [Function.update_of_ne hother]
    rfl

end Issues

/-- The streams that are being started belong to sessions that want playback. -/
def StartsWanted (stack : List Frame) (st : BridgeRuntime) : Prop :=
  ∀ release todo roles, .starting release todo roles ∈ stack → ∀ stream ∈ todo,
    ∃ session, st.session stream.sessionId = some session ∧ session.desiredPlayback = true

section Moves

variable {stack stack' : List Frame} {st st' : BridgeRuntime}

theorem wanted_of_session (sound : Sound env stack st) {id : SessionId} {session : SessionRuntime}
    (live : st.session id = some session) (wanted : session.desiredPlayback = true) :
    st.Wanted (env.zoneOf id) :=
  ⟨id, session, live, sound.zone id session live, wanted⟩

theorem Inner.issues (sound : Sound env stack st) (framed : Framed stack st)
    (starts : StartsWanted stack st) (move : Inner env stack st stack' st') :
    Issues st.Wanted st st' := by
  cases move with
  | buildFailed => exact .trans (.none rfl) (.sendStop _ _ _)
  | @built stack _ id zoneId session renderer liveStream =>
    have address : zoneId = env.zoneOf id := sound.goal _ _ List.mem_cons_self
    obtain ⟨wanting, live, wanted⟩ := framed _ _ List.mem_cons_self
    subst address
    have hinvalidated : Issues st.Wanted st (st.invalidateDownstream env id (env.zoneOf id)) :=
      .trans (.none rfl) (.sendStop _ _ _)
    refine hinvalidated.trans (.trans (.none rfl) (.sendCommand _ _ fun _ => ?_))
    exact wanted_of_session sound live wanted
  | pauseFinished => exact .trans (.none rfl) (.sendStop _ _ _)
  | stopFinished => exact .sendStop _ _ _
  | @cohortReleased stack _ cohort rest =>
    obtain ⟨groupJoins, nextGroupJoins, heq⟩ := openPlay_spec env
      (st.handOver (st.pruneCohort cohort) rest) (st.pruneCohort cohort).preparedStreams
    rw [heq]
    exact .none rfl
  | @streamStarted stack _ release stream rest roles =>
    obtain ⟨planned, playbackRelease, f, heq, -, -⟩ := startStream_spec env release.joins
      release.delays release.cutoff st roles stream
    obtain ⟨session, live, wanted⟩ := starts _ _ _ List.mem_cons_self stream List.mem_cons_self
    have hzone : stream.zoneId = env.zoneOf stream.sessionId :=
      (sound.starting _ _ _ List.mem_cons_self stream List.mem_cons_self).zone
    rw [heq]
    refine .trans (.none rfl) (.sendCommand _ _ fun _ => ?_)
    rw [hzone]
    exact wanted_of_session sound live wanted
  | _ => exact .none rfl

theorem Move.issues (sound : Sound env stack st) (framed : Framed stack st)
    (starts : StartsWanted stack st) (move : Move env guard stack st stack' st') :
    Issues st.Wanted st st' := by
  cases move with
  | inner move => exact move.issues sound framed starts
  | workerTook found took =>
    obtain ⟨command, task, joined, -, -, -, rfl⟩ := ZoneWorker.take_spec took
    exact .setWorker found rfl
  | @workerReplied _ zoneId worker reply worker' outputs guarded found replied =>
    obtain ⟨groupJoins, heq⟩ := deliver_eq (st.setWorker zoneId worker') outputs
    obtain ⟨task, request, -, -, heffect⟩ := ZoneWorker.reply_spec replied
    rw [heq]
    refine .trans (.setWorker found ?_) (.none rfl)
    cases heffect <;> rfl
  | workerSuperseded found superseded =>
    obtain ⟨task, -, -, -, rfl⟩ := ZoneWorker.supersede_spec superseded
    exact .setWorker found rfl
  | @workerReady _ zoneId worker worker' prepared found ready =>
    obtain ⟨start, -, -, rfl⟩ := ZoneWorker.ready_spec ready
    have hset : Issues st.Wanted st (st.setWorker zoneId { worker with running := none }) :=
      .setWorker found rfl
    exact hset.trans (.none rfl)
  | @groupReleased _ zoneId worker stream joins delay since _ found waiting released =>
    obtain ⟨-, rfl⟩ := releaseGroup_spec released
    have hsame : ((st.fixRelease joins).planStream stream
        ((st.groupJoins joins.ref).released.getD st.now + SYNC_START_LEAD)
        delay).zoneWorkers = st.zoneWorkers := by
      cases delay <;> rfl
    have hfound := found
    rw [← hsame] at hfound
    exact .trans (.none hsame) (.setWorker hfound rfl)
  | volumeSet zoneId value => exact .setVolume zoneId value
  | @encoderClosed _ id zoneId frames session =>
    have hretired : Issues st.Wanted st (st.retireEncoder env id session.zoneId) :=
      .trans (.none rfl) (.sendStop _ _ _)
    unfold BridgeRuntime.encoderInputClosed
    split
    · exact hretired.trans (.none rfl)
    · exact hretired
  | @startSucceeded _ result =>
    obtain ⟨nativeGroups, heq⟩ := startSucceeded_spec st.takeResult result.sessionId result.outcome
    rw [heq]
    exact .none rfl
  | @startRetried _ result =>
    obtain ⟨nativeGroups, heq⟩ := startUncertain_spec st.takeResult result.sessionId result.outcome
    rw [heq]
    exact .none rfl
  | @startExhausted _ result =>
    obtain ⟨nativeGroups, heq⟩ := startUncertain_spec st.takeResult result.sessionId result.outcome
    rw [heq]
    exact .none rfl
  | @retryReplayed _ retry rest session prepared guarded first live current wanted =>
    obtain ⟨playbackRelease, heq⟩ := replayPrepared_spec env st.takeRetry retry.sessionId
      retry.zoneId prepared
    have address := sound.retry retry (by rw [first]; exact List.mem_cons_self)
    rw [heq]
    refine .trans (.none rfl) (.sendCommand _ _ fun _ => ?_)
    rw [address]
    exact wanted_of_session sound live wanted
  | @preparedPlayed _ prepared =>
    obtain ⟨groupJoins, nextGroupJoins, heq⟩ := openPlay_spec env
      (st.takePrepared.keepPrepared prepared) [prepared]
    rw [heq]
    exact .none rfl
  | workersClosed =>
    intro zoneId
    refine ⟨[], ?_, List.forall_mem_nil _⟩
    simp only [BridgeRuntime.issued, BridgeRuntime.closeWorkers]
    cases st.zoneWorkers zoneId <;> rfl
  | _ => exact .none rfl

/-- Inside a handler the same sessions want playback, and a released cohort lists only such. -/
theorem StartsWanted.inner (h : StartsWanted stack st) (sound : Sound env stack st)
    (move : Inner env stack st stack' st') : StartsWanted stack' st' := by
  have same := move.demand
  have hkept (stream : PreparedDownstream)
      (h : ∃ session, st.session stream.sessionId = some session ∧
        session.desiredPlayback = true) :
      ∃ session, st'.session stream.sessionId = some session ∧ session.desiredPlayback = true := by
    obtain ⟨session, live, wanted⟩ := h
    obtain ⟨session', live', hdemand⟩ := session_of_demand same live
    exact ⟨session', live', (congrArg Demand.desiredPlayback hdemand).trans wanted⟩
  have hold (release : Release) (todo : List PreparedDownstream)
      (roles : AssocMap SessionId NativeMember) (hmem : .starting release todo roles ∈ stack)
      (stream : PreparedDownstream) (hstream : stream ∈ todo) :=
    hkept stream (h release todo roles hmem stream hstream)
  intro release todo roles hmem stream hstream
  cases move with
  | memberSkipped =>
    have hmem := (List.mem_cons.mp hmem).resolve_left fun heq => by cases heq
    exact hold _ _ _ (List.mem_cons_of_mem _ hmem) stream hstream
  | memberRestarted =>
    have hmem := (List.mem_cons.mp hmem).resolve_left fun heq => by cases heq
    have hmem := (List.mem_cons.mp hmem).resolve_left fun heq => by cases heq
    exact hold _ _ _ (List.mem_cons_of_mem _ hmem) stream hstream
  | built =>
    have hmem := (List.mem_cons.mp hmem).resolve_left fun heq => by cases heq
    exact hold _ _ _ (List.mem_cons_of_mem _ hmem) stream hstream
  | pauseFinished =>
    have hmem := (List.mem_cons.mp hmem).resolve_left fun heq => by cases heq
    exact hold _ _ _ (List.mem_cons_of_mem _ hmem) stream hstream
  | stopFinished =>
    have hmem := (List.mem_cons.mp hmem).resolve_left fun heq => by cases heq
    exact hold _ _ _ (List.mem_cons_of_mem _ hmem) stream hstream
  | cohortDropped => exact hold _ _ _ hmem stream hstream
  | @cohortReleased stack _ cohort rest first =>
    rcases List.mem_cons.mp hmem with heq | hmem
    · cases heq
      apply hkept
      obtain ⟨id, hid, hfound⟩ := List.mem_filterMap.mp hstream
      have hnamed : stream.sessionId = id :=
        (sound.waiting cohort (by rw [first]; exact List.mem_cons_self) id stream
          ((AssocMap.lookup_retain_eq_some _ _).mp hfound).1).1
      have hwanted := (List.mem_filter.mp hid).2
      rw [Option.any_eq_true] at hwanted
      rw [hnamed]
      exact hwanted
    · exact hold _ _ _ hmem stream hstream
  | streamStarted =>
    rcases List.mem_cons.mp hmem with heq | hmem
    · cases heq
      exact hold _ _ _ List.mem_cons_self stream (List.mem_cons_of_mem _ hstream)
    · exact hold _ _ _ (List.mem_cons_of_mem _ hmem) stream hstream
  | _ => exact hold _ _ _ (List.mem_cons_of_mem _ hmem) stream hstream

theorem StartsWanted.move (h : StartsWanted stack st) (sound : Sound env stack st)
    (move : Move env guard stack st stack' st') : StartsWanted stack' st' := by
  cases move with
  | inner move => exact h.inner sound move
  | @preparedPlayed _ prepared rest session first live current wanted =>
    intro release todo roles hmem stream hstream
    cases List.mem_singleton.mp hmem
    cases List.mem_singleton.mp hstream
    simp [live, wanted]
  | _ =>
    intro release todo roles hmem
    exact absurd hmem (by simp [leaveFrame])

/-- What follows once the members have left is the Stop of the zone. -/
def Goal.Stops (zoneId : ZoneId) : Goal → Prop
  | pause _ other => other = zoneId
  | stop _ other _ => other = zoneId
  | _ => False

def Stopping (stack : List Frame) (zoneId : ZoneId) : Prop :=
  ∃ goal todo, .leaving goal todo ∈ stack ∧ goal.Stops zoneId

theorem not_stopping_nil (zoneId : ZoneId) : ¬Stopping [] zoneId := by
  rintro ⟨goal, todo, hframe, -⟩
  cases hframe

theorem Stopping.push {zoneId : ZoneId} (frame : Frame) (h : Stopping stack zoneId) :
    Stopping (frame :: stack) zoneId := by
  obtain ⟨goal, todo, hframe, hstops⟩ := h
  exact ⟨goal, todo, List.mem_cons_of_mem _ hframe, hstops⟩

theorem Stopping.cases_cons {zoneId : ZoneId} {frame : Frame} (h : Stopping (frame :: stack) zoneId) :
    (∃ goal todo, frame = .leaving goal todo ∧ goal.Stops zoneId) ∨ Stopping stack zoneId := by
  obtain ⟨goal, todo, hframe, hstops⟩ := h
  rcases List.mem_cons.mp hframe with rfl | hframe
  · exact .inl ⟨goal, todo, rfl, hstops⟩
  · exact .inr ⟨goal, todo, hframe, hstops⟩

/-- Nothing was sent to the zone, or a Stop last. -/
def BridgeRuntime.Silenced (st : BridgeRuntime) (zoneId : ZoneId) : Prop :=
  ∀ command, (st.issued zoneId).head? = some command → command.isStop = true

theorem silenced_sendStop (zoneId : ZoneId) (id : SessionId) (generation : Nat) :
    (st.sendCommand env zoneId (.stop id zoneId generation)).Silenced zoneId := by
  intro command hhead
  simp only [BridgeRuntime.issued, BridgeRuntime.sendCommand, Function.update_self] at hhead
  cases hworker : st.worker env zoneId with
  | none =>
    rw [hworker] at hhead
    cases hhead
  | some worker =>
    rw [hworker] at hhead
    cases hhead
    rfl

/-- The Stop of a zone stays to be sent until it is sent. -/
theorem Stopping.inner {zoneId : ZoneId} (h : Stopping stack zoneId)
    (move : Inner env stack st stack' st') : Stopping stack' zoneId ∨ st'.Silenced zoneId := by
  cases move with
  | memberSkipped =>
    rcases h.cases_cons with ⟨goal, todo, heq, hstops⟩ | h
    · cases heq
      exact .inl ⟨_, _, List.mem_cons_self, hstops⟩
    · exact .inl (h.push _)
  | memberRestarted =>
    rcases h.cases_cons with ⟨goal, todo, heq, hstops⟩ | h
    · cases heq
      exact .inl (.push _ ⟨_, _, List.mem_cons_self, hstops⟩)
    · exact .inl ((h.push _).push _)
  | pauseFinished =>
    rcases h.cases_cons with ⟨goal, todo, heq, hstops⟩ | h
    · cases heq
      cases hstops
      exact .inr (silenced_sendStop _ _ _)
    · exact .inl (h.push _)
  | stopFinished =>
    rcases h.cases_cons with ⟨goal, todo, heq, hstops⟩ | h
    · cases heq
      cases hstops
      exact .inr (silenced_sendStop _ _ _)
    · exact .inl (h.push _)
  | cohortDropped => exact .inl h
  | cohortReleased => exact .inl (h.push _)
  | _ =>
    rcases h.cases_cons with ⟨goal, todo, heq, hstops⟩ | h
    · cases heq
      all_goals cases hstops
    · first
        | exact .inl h
        | exact .inl (h.push _)

/-! ### Who wants playback -/

/-- The zone of a session, and whether it wants playback. -/
def BridgeRuntime.wants (st : BridgeRuntime) (id : SessionId) : Option (ZoneId × Bool) :=
  (st.session id).map fun session => (session.zoneId, session.desiredPlayback)

theorem wanted_iff (st : BridgeRuntime) (zoneId : ZoneId) :
    st.Wanted zoneId ↔ ∃ id, st.wants id = some (zoneId, true) := by
  unfold BridgeRuntime.Wanted BridgeRuntime.wants
  simp only [Option.map_eq_some_iff, Prod.mk.injEq]

theorem wants_of_demand (same : st'.demand = st.demand) : st'.wants = st.wants := by
  have hwants (st : BridgeRuntime) (id : SessionId) : st.wants id =
      (st.demand id).map fun demand => (demand.zoneId, demand.desiredPlayback) := by
    unfold BridgeRuntime.wants BridgeRuntime.demand
    rw [Option.map_map]
    rfl
  funext id
  rw [hwants, hwants, same]

theorem wants_modifySession (st : BridgeRuntime) (id : SessionId)
    {f : SessionRuntime → SessionRuntime}
    (hf : ∀ session, (f session).zoneId = session.zoneId ∧
      (f session).desiredPlayback = session.desiredPlayback) :
    (st.modifySession id f).wants = st.wants := by
  funext other
  simp only [BridgeRuntime.wants, session_modifySession]
  split
  · rw [Option.map_map]
    exact congrArg (Option.map · (st.session other))
      (funext fun session => Prod.ext (hf session).1 (hf session).2)
  · rfl

theorem wants_setPlayback (st : BridgeRuntime) {id : SessionId} {session : SessionRuntime}
    (live : st.session id = some session) {f : SessionRuntime → SessionRuntime} (playing : Bool)
    (hf : ∀ session, (f session).zoneId = session.zoneId ∧
      (f session).desiredPlayback = playing) :
    (st.modifySession id f).wants =
      Function.update st.wants id (some (session.zoneId, playing)) := by
  funext other
  simp only [BridgeRuntime.wants, session_modifySession, Function.update_apply]
  split
  · next heq =>
    subst other
    rw [live]
    exact congrArg some (Prod.ext (hf session).1 (hf session).2)
  · rfl

/-- What a move does to the wishes of the sessions. -/
inductive WantsStep (env : Env) (guard : BridgeRuntime → BridgeLabel → Prop) (st : BridgeRuntime)
    (stack' : List Frame) : (SessionId → Option (ZoneId × Bool)) → Prop
  | same : WantsStep env guard st stack' st.wants
  | resumed {id zoneId session} (live : st.session id = some session)
      (guarded : guard st (.event (.playbackState id zoneId true))) :
      WantsStep env guard st stack' (Function.update st.wants id (some (session.zoneId, true)))
  | inserted {id zoneId format sender} (address : zoneId = env.zoneOf id)
      (renderer : (env.renderers zoneId).isSome = true) (restarts : Restarting stack' id)
      (guarded : ∃ origin, guard origin (.event (.sessionStarted id zoneId format sender))) :
      WantsStep env guard st stack' (Function.update st.wants id (some (zoneId, true)))
  | paused {id session} (live : st.session id = some session)
      (stops : Stopping stack' session.zoneId) :
      WantsStep env guard st stack' (Function.update st.wants id (some (session.zoneId, false)))
  | removed {id session} (live : st.session id = some session)
      (stops : Stopping stack' session.zoneId) :
      WantsStep env guard st stack' (Function.update st.wants id none)

theorem wants_resumePlayback {id : SessionId} {session : SessionRuntime}
    (live : st.session id = some session) : (st.resumePlayback id).wants =
      Function.update st.wants id (some (session.zoneId, true)) :=
  (wants_modifySession _ id fun _ => by exact ⟨rfl, rfl⟩).trans
    (wants_setPlayback st live true fun _ => by exact ⟨rfl, rfl⟩)

theorem wants_pausePlayback {id : SessionId} {session : SessionRuntime}
    (live : st.session id = some session) : (st.pausePlayback id).wants =
      Function.update st.wants id (some (session.zoneId, false)) :=
  (wants_modifySession _ id fun _ => by exact ⟨rfl, rfl⟩).trans
    (wants_setPlayback st live false fun _ => by exact ⟨rfl, rfl⟩)

theorem wants_removeSession (st : BridgeRuntime) (id : SessionId) :
    (st.removeSession id).wants = Function.update st.wants id none := by
  funext other
  simp only [BridgeRuntime.wants, session_removeSession, Function.update_apply]
  split <;> rfl

theorem wants_insertSession (st : BridgeRuntime) (id : SessionId) (zoneId : ZoneId)
    (format : PcmFormat) (sender : Option IpAddr) :
    (st.insertSession id zoneId format sender).wants =
      Function.update st.wants id (some (zoneId, true)) := by
  funext other
  simp only [BridgeRuntime.wants, session_insertSession, Function.update_apply]
  split <;> rfl

theorem wants_cancelDownstreamRetry (st : BridgeRuntime) (id : SessionId) :
    (st.cancelDownstreamRetry id).wants = st.wants :=
  wants_modifySession st id fun _ => ⟨rfl, rfl⟩

theorem wants_scheduleDownstreamRetry (st : BridgeRuntime) (id : SessionId) (zoneId : ZoneId)
    (generation : Nat) : (st.scheduleDownstreamRetry id zoneId generation).1.wants = st.wants :=
  wants_modifySession st id fun session => by
    unfold retryOrReset
    split <;> exact ⟨rfl, rfl⟩

theorem wants_startUncertain (st : BridgeRuntime) (id : SessionId)
    (outcome : DownstreamStartOutcome) : (st.startUncertain id outcome).wants = st.wants := by
  obtain ⟨nativeGroups, heq⟩ := startUncertain_spec st id outcome
  rw [heq]
  exact wants_modifySession st id fun _ => ⟨rfl, rfl⟩

theorem wants_retireEncoder (st : BridgeRuntime) (id : SessionId) (zoneId : ZoneId) :
    (st.retireEncoder env id zoneId).wants = st.wants :=
  (wants_modifySession _ id fun _ => by exact ⟨rfl, rfl⟩).trans
    (wants_modifySession st id fun _ => by exact ⟨rfl, rfl⟩)

theorem Move.wants (sound : Sound env stack st) (move : Move env guard stack st stack' st') :
    WantsStep env guard st stack' st'.wants := by
  have hsame {st'' : BridgeRuntime} (same : st''.wants = st.wants) :
      WantsStep env guard st stack' st''.wants := same ▸ .same
  have hmarked (id : SessionId) {f : SessionRuntime → SessionRuntime}
      (hf : ∀ session, (f session).zoneId = session.zoneId ∧
        (f session).desiredPlayback = session.desiredPlayback) :
      (st.modifySession id f).wants = st.wants := wants_modifySession st id hf
  cases move with
  | inner move => exact hsame (wants_of_demand move.demand)
  | @workerReplied _ zoneId worker reply worker' outputs =>
    obtain ⟨groupJoins, heq⟩ := deliver_eq (st.setWorker zoneId worker') outputs
    rw [heq]
    exact .same
  | @groupReleased _ zoneId worker stream joins delay since _ found waiting released =>
    obtain ⟨-, rfl⟩ := releaseGroup_spec released
    cases delay <;> exact .same
  | retryFired => exact hsame (hmarked _ fun _ => ⟨rfl, rfl⟩)
  | cleanupFired => exact hsame (hmarked _ fun _ => ⟨rfl, rfl⟩)
  | cleanupDeferred =>
    refine hsame ((wants_modifySession _ _ fun _ => by exact ⟨rfl, rfl⟩).trans ?_)
    exact (wants_modifySession _ _ fun _ => by exact ⟨rfl, rfl⟩).trans
      (hmarked _ fun _ => by exact ⟨rfl, rfl⟩)
  | resumed live wanted clean guarded =>
    rw [wants_resumePlayback live]
    exact .resumed live guarded
  | @resumedRestart _ id zoneId session address live stale guarded =>
    have hwants := (wants_cancelDownstreamRetry _ id).trans (wants_resumePlayback live)
    exact hwants ▸ WantsStep.resumed live guarded
  | flushedPlaying =>
    exact hsame ((wants_cancelDownstreamRetry _ _).trans (hmarked _ fun _ => ⟨rfl, rfl⟩))
  | @paused _ id zoneId session address live =>
    have hwants := wants_pausePlayback live
    have hzone : zoneId = session.zoneId := address.trans (sound.zone id session live).symm
    exact hwants ▸ WantsStep.paused live ⟨_, _, List.mem_cons_self, hzone⟩
  | flushedPaused =>
    exact hsame ((wants_modifySession _ _ fun _ => by exact ⟨rfl, rfl⟩).trans
      (hmarked _ fun _ => by exact ⟨rfl, rfl⟩))
  | @sessionRemoved _ id zoneId session live address =>
    have hzone : zoneId = session.zoneId :=
      address.elim (fun heq => heq) fun heq => heq.trans (sound.zone id session live).symm
    exact wants_removeSession st id ▸ WantsStep.removed live ⟨_, _, List.mem_cons_self, hzone⟩
  | @sessionInserted _ id zoneId renderer format sender address renderer_eq free guarded =>
    have hwants := (wants_cancelDownstreamRetry _ id).trans
      (wants_insertSession st id zoneId format sender)
    exact hwants ▸ WantsStep.inserted address (by rw [renderer_eq]; rfl)
      ⟨_, _, List.mem_cons_self⟩ guarded
  | @encoderClosed _ id zoneId frames session =>
    unfold BridgeRuntime.encoderInputClosed
    split
    · exact hsame ((wants_scheduleDownstreamRetry _ _ _ _).trans (wants_retireEncoder _ _ _))
    · exact hsame (wants_retireEncoder _ _ _)
  | resultPaused => exact hsame (hmarked _ fun _ => ⟨rfl, rfl⟩)
  | @startSucceeded _ result =>
    obtain ⟨nativeGroups, heq⟩ := startSucceeded_spec st.takeResult result.sessionId result.outcome
    rw [heq]
    exact hsame (hmarked _ fun _ => ⟨rfl, rfl⟩)
  | startRetried =>
    exact hsame ((wants_scheduleDownstreamRetry _ _ _ _).trans (wants_startUncertain _ _ _))
  | startExhausted =>
    exact hsame ((wants_scheduleDownstreamRetry _ _ _ _).trans (wants_startUncertain _ _ _))
  | startAbandoned => exact hsame (hmarked _ fun _ => ⟨rfl, rfl⟩)
  | @retryReplayed _ retry rest session prepared =>
    obtain ⟨playbackRelease, heq⟩ := replayPrepared_spec env st.takeRetry retry.sessionId
      retry.zoneId prepared
    rw [heq]
    exact hsame (hmarked _ fun _ => ⟨rfl, rfl⟩)
  | retryRestarted =>
    exact hsame ((wants_cancelDownstreamRetry _ _).trans (hmarked _ fun _ => ⟨rfl, rfl⟩))
  | preparedListed => exact hsame (hmarked _ fun _ => ⟨rfl, rfl⟩)
  | @preparedPlayed _ prepared =>
    obtain ⟨groupJoins, nextGroupJoins, heq⟩ := openPlay_spec env
      (st.takePrepared.keepPrepared prepared) [prepared]
    rw [heq]
    exact hsame (hmarked _ fun _ => ⟨rfl, rfl⟩)
  | _ => exact .same

/-! ### The last command to a zone -/

theorem Issues.silenced {wanted : ZoneId → Prop} {zoneId : ZoneId} (h : Issues wanted st st')
    (silenced : st.Silenced zoneId) : st'.Silenced zoneId ∨ wanted zoneId := by
  obtain ⟨sent, heq, hsent⟩ := h zoneId
  cases sent with
  | nil =>
    left
    intro command hhead
    rw [heq] at hhead
    exact silenced command hhead
  | cons last earlier =>
    cases hstop : last.isStop with
    | true =>
      left
      intro command hhead
      rw [heq] at hhead
      cases hhead
      exact hstop
    | false => exact .inr (hsent last List.mem_cons_self hstop)

theorem zone_of_wants (sound : Sound env stack st) {id : SessionId} {zoneId : ZoneId}
    {wanted : Bool} (h : st.wants id = some (zoneId, wanted)) : zoneId = env.zoneOf id := by
  obtain ⟨session, live, heq⟩ := Option.map_eq_some_iff.mp h
  cases heq
  exact sound.zone id session live

theorem BridgeRuntime.Wanted.move {zoneId : ZoneId} (h : st.Wanted zoneId)
    (sound : Sound env stack st) (step : WantsStep env guard st stack' st'.wants) :
    st'.Wanted zoneId ∨ Stopping stack' zoneId := by
  obtain ⟨id, hid⟩ := (wanted_iff st zoneId).mp h
  have hzone {session : SessionRuntime} (live : st.session id = some session) :
      session.zoneId = zoneId := by
    simp only [BridgeRuntime.wants, live, Option.map_some, Option.some.injEq, Prod.mk.injEq] at hid
    exact hid.1
  rw [wanted_iff]
  generalize st'.wants = wants at step
  cases step with
  | same => exact .inl ⟨id, hid⟩
  | @resumed other zone session live =>
    refine .inl ⟨id, ?_⟩
    rw [Function.update_apply]
    split
    · next heq =>
      subst other
      rw [hzone live]
    · exact hid
  | @inserted other zone format sender address =>
    refine .inl ⟨id, ?_⟩
    rw [Function.update_apply]
    split
    · next heq =>
      subst other
      rw [address, zone_of_wants sound hid]
    · exact hid
  | @paused other session live stops =>
    by_cases heq : id = other
    · subst other
      exact .inr (hzone live ▸ stops)
    · exact .inl ⟨id, by rw [Function.update_of_ne heq]; exact hid⟩
  | @removed other session live stops =>
    by_cases heq : id = other
    · subst other
      exact .inr (hzone live ▸ stops)
    · exact .inl ⟨id, by rw [Function.update_of_ne heq]; exact hid⟩

/-- Every zone is wanted, or is being stopped, or was told to stop last. -/
def Quiet (stack : List Frame) (st : BridgeRuntime) : Prop :=
  ∀ zoneId, st.Silenced zoneId ∨ st.Wanted zoneId ∨ Stopping stack zoneId

theorem Quiet.move (h : Quiet stack st) (sound : Sound env stack st) (framed : Framed stack st)
    (starts : StartsWanted stack st) (move : Move env guard stack st stack' st') :
    Quiet stack' st' := by
  have hissues := move.issues sound framed starts
  have hwants := move.wants sound
  intro zoneId
  rcases h zoneId with silenced | wanted | stopping
  · rcases hissues.silenced silenced with silenced | wanted
    · exact .inl silenced
    · exact .inr (wanted.move sound hwants)
  · exact .inr (wanted.move sound hwants)
  · cases move with
    | inner move =>
      rcases stopping.inner move with stopping | silenced
      · exact .inr (.inr stopping)
      · exact .inl silenced
    | _ => exact absurd stopping (not_stopping_nil zoneId)

/-- The zone of every session was sent something, unless the session is only being started. -/
def Reached (stack : List Frame) (st : BridgeRuntime) : Prop :=
  ∀ id zoneId wanted, st.wants id = some (zoneId, wanted) →
    st.issued zoneId ≠ [] ∨ Restarting stack id

theorem Issues.ne_nil {wanted : ZoneId → Prop} {zoneId : ZoneId} (h : Issues wanted st st')
    (reached : st.issued zoneId ≠ []) : st'.issued zoneId ≠ [] := by
  obtain ⟨sent, heq, -⟩ := h zoneId
  rw [heq]
  exact List.append_ne_nil_of_right_ne_nil _ reached

theorem issued_sendCommand_ne_nil (zoneId : ZoneId) (command : TransportCommand)
    (renderer : (env.renderers zoneId).isSome = true) :
    (st.sendCommand env zoneId command).issued zoneId ≠ [] := by
  obtain ⟨renderer, hrenderer⟩ := Option.isSome_iff_exists.mp renderer
  obtain ⟨worker, hworker⟩ : ∃ worker, st.worker env zoneId = some worker := by
    unfold BridgeRuntime.worker
    rw [hrenderer]
    cases st.zoneWorkers zoneId with
    | none => exact ⟨_, rfl⟩
    | some worker => exact ⟨worker, rfl⟩
  simp only [BridgeRuntime.issued, BridgeRuntime.sendCommand, Function.update_self, hworker]
  exact List.cons_ne_nil _ _

/-- A session is restarting until its zone is sent something. -/
theorem Restarting.inner {id : SessionId} (h : Restarting stack id) (sound : Sound env stack st)
    {session : SessionRuntime} (live : st.session id = some session)
    (renderer : (env.renderers (env.zoneOf id)).isSome = true)
    (move : Inner env stack st stack' st') :
    Restarting stack' id ∨ st'.issued (env.zoneOf id) ≠ [] := by
  have htop {zoneId : ZoneId} {other : SessionId} {todo : List SessionId} {rest : List Frame}
      (hstack : stack = .leaving (.restart other zoneId) todo :: rest) :
      Restarting rest id ∨ id = other ∧ zoneId = env.zoneOf id := by
    subst hstack
    obtain ⟨zone, todo', hframe⟩ := h
    rcases List.mem_cons.mp hframe with heq | hframe
    · cases heq
      exact .inr ⟨rfl, sound.goal _ _ List.mem_cons_self⟩
    · exact .inl ⟨zone, todo', hframe⟩
  cases move with
  | memberSkipped => exact .inl h.advance
  | memberRestarted => exact .inl (h.advance.push _)
  | vanished gone =>
    rcases htop rfl with h | ⟨rfl, -⟩
    · exact .inl h
    · rw [gone] at live
      cases live
  | rendererMissing other missing =>
    rcases htop rfl with h | ⟨-, rfl⟩
    · exact .inl h
    · rw [missing] at renderer
      cases renderer
  | buildFailed =>
    rcases htop rfl with h | ⟨-, rfl⟩
    · exact .inl h
    · exact .inr (issued_sendCommand_ne_nil _ _ renderer)
  | built =>
    rcases htop rfl with h | ⟨-, rfl⟩
    · exact .inl (h.push _)
    · exact .inr (issued_sendCommand_ne_nil _ _ renderer)
  | left => exact .inl (h.pop fun _ _ heq => by cases heq)
  | pauseFinished => exact .inl ((h.pop fun _ _ heq => by cases heq).push _)
  | stopFinished => exact .inl ((h.pop fun _ _ heq => by cases heq).push _)
  | cohortDropped => exact .inl h
  | cohortReleased => exact .inl (h.push _)
  | streamStarted => exact .inl ((h.pop fun _ _ heq => by cases heq).push _)
  | _ => exact .inl (h.pop fun _ _ heq => by cases heq)

theorem Reached.move (h : Reached stack st) (sound : Sound env stack st)
    (coherent : Coherent env stack st) (framed : Framed stack st)
    (starts : StartsWanted stack st) (move : Move env guard stack st stack' st') :
    Reached stack' st' := by
  have hissues := move.issues sound framed starts
  intro id zoneId wanted hid
  have hold (wanted : Bool) (hid : st.wants id = some (zoneId, wanted)) :
      st'.issued zoneId ≠ [] ∨ Restarting stack' id := by
    rcases h id zoneId wanted hid with reached | restarting
    · exact .inl (hissues.ne_nil reached)
    · cases move with
      | inner move =>
        obtain ⟨session, live, heq⟩ := Option.map_eq_some_iff.mp hid
        cases heq
        have hzone := sound.zone id session live
        obtain ⟨renderer, hrenderer⟩ := (coherent.session id session live).renderer
        rw [hzone] at hrenderer ⊢
        exact (restarting.inner sound live (by rw [hrenderer]; rfl) move).symm
      | _ => exact absurd restarting (not_restarting_nil id)
  have hwants := move.wants sound
  generalize st'.wants = wants at hwants hid
  have hchanged {other : SessionId} {value : Option (ZoneId × Bool)}
      (hid : Function.update st.wants other value id = some (zoneId, wanted)) :
      id = other ∧ value = some (zoneId, wanted) ∨ st.wants id = some (zoneId, wanted) := by
    rw [Function.update_apply] at hid
    split at hid
    · exact .inl ⟨‹_›, hid⟩
    · exact .inr hid
  have hlive {other : SessionId} {session : SessionRuntime} {playing : Bool}
      (live : st.session other = some session)
      (hid : Function.update st.wants other (some (session.zoneId, playing)) id =
        some (zoneId, wanted)) : ∃ wanted, st.wants id = some (zoneId, wanted) := by
    rcases hchanged hid with ⟨rfl, heq⟩ | hid
    · cases heq
      exact ⟨session.desiredPlayback, by rw [BridgeRuntime.wants, live]; rfl⟩
    · exact ⟨wanted, hid⟩
  cases hwants with
  | same => exact hold wanted hid
  | resumed live =>
    obtain ⟨wanted, hid⟩ := hlive live hid
    exact hold wanted hid
  | inserted address renderer restarts =>
    rcases hchanged hid with ⟨rfl, -⟩ | hid
    · exact .inr restarts
    · exact hold wanted hid
  | paused live =>
    obtain ⟨wanted, hid⟩ := hlive live hid
    exact hold wanted hid
  | removed live =>
    rcases hchanged hid with ⟨-, heq⟩ | hid
    · cases heq
    · exact hold wanted hid

end Moves

/-- What holds of the commands to the zones in every visited state. -/
structure Silent (env : Env) (stack : List Frame) (st : BridgeRuntime) : Prop where
  starts : StartsWanted stack st
  quiet : Quiet stack st
  reached : Reached stack st

theorem Visited.silent {stack : List Frame} {st : BridgeRuntime}
    (h : Visited env guard stack st) : Silent env stack st := by
  refine h.invariant (P := Silent env) ⟨?_, fun zoneId => .inl ?_, ?_⟩ ?_
  · intro release todo roles hmem
    cases hmem
  · intro command hnone
    cases hnone
  · intro id zoneId wanted hnone
    cases hnone
  intro stack st stack' st' before silent move
  exact {
    starts := silent.starts.move before.sound move
    quiet := silent.quiet.move before.sound before.framed silent.starts move
    reached := silent.reached.move before.sound before.coherent before.framed silent.starts move }

/-! ### One step -/

section Steps

variable {st st' : BridgeRuntime}

theorem wants_restart {id : SessionId} {zoneId : ZoneId}
    (h : st.restart env id zoneId = some st') : st'.wants = st.wants :=
  (wants_of_demand (restart_chain [] h).demand).trans (wants_cancelDownstreamRetry st id)

/-- A session that is told to play wants playback when the step is done. -/
theorem wants_of_playing (sound : Sound env [] st) {id : SessionId} {zoneId : ZoneId}
    (taken : st.step env (.event (.playbackState id zoneId true)) = some st') :
    st' = st ∨ st'.wants id = some (env.zoneOf id, true) := by
  simp only [BridgeRuntime.step, serve, handleEvent] at taken
  split at taken
  · cases taken
  · split at taken
    · unfold setPlaybackState at taken
      cases live : st.session id with
      | none =>
        rw [live] at taken
        cases taken
        exact .inl rfl
      | some session =>
        right
        have hresumed : (st.resumePlayback id).wants id = some (env.zoneOf id, true) := by
          rw [wants_resumePlayback live, Function.update_self, sound.zone id session live]
        rw [live] at taken
        simp only [if_true] at taken
        split at taken
        · rw [wants_restart taken]
          exact hresumed
        · cases taken
          exact hresumed
    · cases taken

/-- A session that is started wants playback when the step is done, if its zone is known. -/
theorem wants_of_started {id : SessionId} {zoneId : ZoneId} {format : PcmFormat}
    {sender : Option IpAddr} (renderer : (env.renderers zoneId).isSome = true)
    (taken : st.step env (.event (.sessionStarted id zoneId format sender)) = some st') :
    st'.wants id = some (zoneId, true) := by
  simp only [BridgeRuntime.step, serve, handleEvent, startSession] at taken
  split at taken
  · cases taken
  · split at taken
    · split at taken
      · cases taken
      · split at taken
        · next hnone =>
          rw [hnone] at renderer
          cases renderer
        · rw [wants_restart taken, wants_insertSession, Function.update_self]
    · cases taken

/-- The moves of a step that neither resumes nor starts a session of the zone. -/
theorem issues_of_chain {label : BridgeLabel} {zoneId : ZoneId} {a b : List Frame × BridgeRuntime}
    (chain : Chain env (fun _ other => other = label) a b)
    (known : Sound env a.1 a.2 ∧ Framed a.1 a.2 ∧ StartsWanted a.1 a.2)
    (resumed : ∀ id other, label = .event (.playbackState id other true) →
      env.zoneOf id ≠ zoneId)
    (started : ∀ id other format sender, label = .event (.sessionStarted id other format sender) →
      (env.renderers other).isSome = true → other ≠ zoneId)
    (unwanted : ¬a.2.Wanted zoneId) :
    (Sound env b.1 b.2 ∧ Framed b.1 b.2 ∧ StartsWanted b.1 b.2) ∧ ¬b.2.Wanted zoneId ∧
      ∃ sent, b.2.issued zoneId = sent ++ a.2.issued zoneId ∧
        ∀ command ∈ sent, command.isStop = true := by
  induction chain with
  | refl => exact ⟨known, unwanted, [], rfl, List.forall_mem_nil _⟩
  | @tail mid c chain move ih =>
    obtain ⟨⟨sound, framed, starts⟩, hunwanted, sent, heq, hsent⟩ := ih
    have hmove : Move env (fun _ other => other = label) mid.1 mid.2 c.1 c.2 := move
    refine ⟨⟨sound.move hmove, framed.move hmove, starts.move sound hmove⟩, ?_, ?_⟩
    · have hwants := hmove.wants sound
      rw [wanted_iff] at hunwanted ⊢
      generalize c.2.wants = wants at hwants
      rintro ⟨id, hid⟩
      have hchanged {other : SessionId} {value : Option (ZoneId × Bool)}
          (hid : Function.update mid.2.wants other value id = some (zoneId, true)) :
          value = some (zoneId, true) := by
        rw [Function.update_apply] at hid
        split at hid
        · exact hid
        · exact absurd ⟨id, hid⟩ hunwanted
      cases hwants with
      | same => exact hunwanted ⟨id, hid⟩
      | @resumed other zone session live guarded =>
        cases hchanged hid
        exact resumed other zone guarded.symm (sound.zone other session live).symm
      | @inserted other zone format sender address renderer restarts guarded =>
        cases hchanged hid
        obtain ⟨-, guarded⟩ := guarded
        exact started other zoneId format sender guarded.symm renderer rfl
      | paused => cases hchanged hid
      | removed => cases hchanged hid
    · obtain ⟨more, hmore, hstops⟩ := hmove.issues sound framed starts zoneId
      refine ⟨more ++ sent, by rw [hmore, heq, List.append_assoc], ?_⟩
      intro command hmem
      rcases List.mem_append.mp hmem with hmem | hmem
      · cases hstop : command.isStop with
        | true => rfl
        | false => exact absurd (hstops command hmem hstop) hunwanted
      · exact hsent command hmem

/-- A step that leaves the zone unwanted sends it nothing but Stops. -/
theorem stops_of_step (visited : Visited env guard [] st) {label : BridgeLabel}
    (taken : st.step env label = some st') {zoneId : ZoneId} (before : ¬st.Wanted zoneId)
    (after : ¬st'.Wanted zoneId) : ∃ sent, st'.issued zoneId = sent ++ st.issued zoneId ∧
      ∀ command ∈ sent, command.isStop = true := by
  have known := And.intro visited.sound (And.intro visited.framed visited.silent.starts)
  rw [wanted_iff] at after
  by_cases hsame : st' = st
  · subst st'
    exact ⟨[], rfl, List.forall_mem_nil _⟩
  · refine (issues_of_chain (step_chain rfl taken) known ?_ ?_ before).2.2
    · rintro id other rfl hzone
      refine after ⟨id, ?_⟩
      rw [← hzone]
      exact (wants_of_playing visited.sound taken).resolve_left hsame
    · rintro id other format sender rfl renderer rfl
      exact after ⟨id, wants_of_started renderer taken⟩

end Steps

/-- Nothing but Stops is issued to the zone while it stays unwanted, its worker was sent a
command, and once the worker is drained a Stop was its last request. -/
structure PauseWins (env : Env) (zoneId : ZoneId) (st : BridgeRuntime) : Prop where
  issues : ∀ label st', st.step env label = some st' → ¬st'.Wanted zoneId →
    ∃ sent, st'.issued zoneId = sent ++ st.issued zoneId ∧
      ∀ command ∈ sent, command.isStop = true
  reached : ∃ worker, st.zoneWorkers zoneId = some worker ∧ worker.issued ≠ []
  stops : ∀ worker, st.zoneWorkers zoneId = some worker → worker.Drained →
    ∃ reply, worker.exchanges.head? = some ⟨.stop, reply⟩

/-- What was issued to a zone stays issued. -/
theorem issued_ne_nil_of_chain {zoneId : ZoneId} {a b : List Frame × BridgeRuntime}
    (visited : Visited env guard a.1 a.2) (chain : Chain env guard a b)
    (reached : a.2.issued zoneId ≠ []) : b.2.issued zoneId ≠ [] := by
  have hboth : Visited env guard b.1 b.2 ∧ b.2.issued zoneId ≠ [] := by
    induction chain with
    | refl => exact ⟨visited, reached⟩
    | @tail mid c chain move ih =>
      obtain ⟨hvisited, hreached⟩ := ih
      have hmove : Move env guard mid.1 mid.2 c.1 c.2 := move
      refine ⟨ReflTransGen.tail hvisited hmove, ?_⟩
      exact (hmove.issues hvisited.sound hvisited.framed hvisited.silent.starts).ne_nil hreached
  exact hboth.2

/-- Once the zone of a session is no longer wanted, by a pause or by the end of the session, the
pause wins. -/
theorem pause_wins (env : Env) {st : BridgeRuntime} (reachable : (bridge env).Reachable st)
    {id : SessionId} {session : SessionRuntime} (live : st.session id = some session)
    {labels : List BridgeLabel} {later : BridgeRuntime}
    (run : (bridge env).run st labels = some later) (quiet : ¬later.Wanted session.zoneId) :
    PauseWins env session.zoneId later := by
  have visited := Visited.of_reachable reachable
  have hlater := Visited.of_reachable (reachable.of_run run)
  have hfollows := hlater.allWorkers ZoneWorker.Follows.keeps
  have hissued : later.issued session.zoneId ≠ [] := by
    apply issued_ne_nil_of_chain visited (chain_of_run run)
    have hwants : st.wants id = some (session.zoneId, session.desiredPlayback) := by
      rw [BridgeRuntime.wants, live]
      rfl
    exact (visited.silent.reached id _ _ hwants).resolve_right (not_restarting_nil id)
  have hsilenced : later.Silenced session.zoneId :=
    (hlater.silent.quiet session.zoneId).resolve_right fun h =>
      h.elim quiet (not_stopping_nil session.zoneId)
  constructor
  · intro label st' taken after
    exact stops_of_step hlater taken quiet after
  · unfold BridgeRuntime.issued at hissued
    cases hfound : later.zoneWorkers session.zoneId with
    | none =>
      rw [hfound] at hissued
      exact absurd rfl hissued
    | some worker =>
      rw [hfound] at hissued
      exact ⟨worker, rfl, hissued⟩
  · intro worker hfound drained
    have hhead : later.issued session.zoneId = worker.issued := by
      rw [BridgeRuntime.issued, hfound]
      rfl
    obtain ⟨command, hcommand⟩ : ∃ command, worker.issued.head? = some command := by
      rw [← hhead, ← Option.isSome_iff_exists, List.isSome_head?]
      simpa using hissued
    refine (hfollows _ worker hfound).done drained command hcommand (hsilenced command ?_)
    rw [hhead]
    exact hcommand

/-- The theorem where the pause arrives while the Play of the Kitchen is in flight. -/
theorem pause_wins_over_play :
    ∃ st later worker, (bridge Household.env).run .new
        (Household.started 0 1 :: Household.prepares 0 ++ [Household.moves 0 .take]) = some st ∧
      (bridge Household.env).run st
        [.event (.playbackState ⟨0⟩ (Household.room 0) false), Household.replies 0,
          Household.moves 0 .take, Household.replies 0] = some later ∧
      later.zoneWorkers (Household.room 0) = some worker ∧ worker.Drained ∧
      PauseWins Household.env (Household.room 0) later := by
  have hruns : ((bridge Household.env).run .new
      (Household.started 0 1 :: Household.prepares 0 ++ [Household.moves 0 .take])).bind (fun st =>
        ((bridge Household.env).run st
          [.event (.playbackState ⟨0⟩ (Household.room 0) false), Household.replies 0,
            Household.moves 0 .take, Household.replies 0]).bind fun later =>
          (later.zoneWorkers (Household.room 0)).map fun worker =>
            ((st.session ⟨0⟩).isSome, decide worker.Drained, later.sessions.keys,
              (later.session ⟨0⟩).map SessionRuntime.desiredPlayback)) =
      some (true, true, [⟨0⟩], some false) := by
    decide +kernel
  obtain ⟨st, hst, hruns⟩ := Option.bind_eq_some_iff.mp hruns
  obtain ⟨later, hlater, hruns⟩ := Option.bind_eq_some_iff.mp hruns
  obtain ⟨worker, hworker, heq⟩ := Option.map_eq_some_iff.mp hruns
  simp only [Prod.mk.injEq, decide_eq_true_eq] at heq
  obtain ⟨hlive, hdrained, hkeys, hpaused⟩ := heq
  obtain ⟨session, hlive⟩ := Option.isSome_iff_exists.mp hlive
  have hreachable : (bridge Household.env).Reachable st := .of_run .init hst
  have hzone : session.zoneId = Household.room 0 :=
    (Visited.of_reachable hreachable).sound.zone _ session hlive
  have hquiet : ¬later.Wanted (Household.room 0) := by
    rintro ⟨id, other, hother, -, wanted⟩
    have hid : id ∈ later.sessions.keys := AssocMap.mem_keys_iff_lookup.mpr ⟨other, hother⟩
    rw [hkeys, List.mem_singleton] at hid
    rw [hid] at hother
    rw [hother, Option.map_some, wanted] at hpaused
    cases hpaused
  refine ⟨st, later, worker, hst, hlater, hworker, hdrained, ?_⟩
  have hwins := pause_wins Household.env hreachable hlive hlater (hzone ▸ hquiet)
  rw [hzone] at hwins
  exact hwins

end AirSonos
