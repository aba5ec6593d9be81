import AirSonos.Bridge.Silence

/-!
# What a move does to the worker of one zone

A Stop or a Prepare is sent to a zone only when its session gets a new generation or is gone.
So while the generation of a session stays, its worker goes on by itself or is sent the start of
a stream.
-/

namespace AirSonos

open Relation BridgeRuntime

variable {env : Env} {guard : BridgeRuntime → BridgeLabel → Prop}

/-! ### Zones without a session -/

/-- Inside a handler only restarts of members are added to the unfinished work. -/
theorem Inner.goal_cases {stack stack' : List Frame} {st st' : BridgeRuntime} {goal : Goal}
    {todo : List SessionId} (move : Inner env stack st stack' st')
    (mem : .leaving goal todo ∈ stack') :
    (∃ todo, .leaving goal todo ∈ stack) ∨ ∃ id zoneId, goal = .restart id zoneId := by
  cases move with
  | memberSkipped =>
    rcases List.mem_cons.mp mem with heq | hmem
    · cases heq
      exact .inl ⟨_, List.mem_cons_self⟩
    · exact .inl ⟨_, List.mem_cons_of_mem _ hmem⟩
  | memberRestarted =>
    rcases List.mem_cons.mp mem with heq | hmem
    · cases heq
      exact .inr ⟨_, _, rfl⟩
    · rcases List.mem_cons.mp hmem with heq | hmem
      · cases heq
        exact .inl ⟨_, List.mem_cons_self⟩
      · exact .inl ⟨_, List.mem_cons_of_mem _ hmem⟩
  | cohortDropped => exact .inl ⟨_, mem⟩
  | cohortReleased => exact .inl ⟨_, (List.mem_cons.mp mem).resolve_left nofun⟩
  | streamStarted =>
    exact .inl ⟨_, List.mem_cons_of_mem _ ((List.mem_cons.mp mem).resolve_left nofun)⟩
  | built => exact .inl ⟨_, List.mem_cons_of_mem _ ((List.mem_cons.mp mem).resolve_left nofun)⟩
  | pauseFinished =>
    exact .inl ⟨_, List.mem_cons_of_mem _ ((List.mem_cons.mp mem).resolve_left nofun)⟩
  | stopFinished =>
    exact .inl ⟨_, List.mem_cons_of_mem _ ((List.mem_cons.mp mem).resolve_left nofun)⟩
  | _ => exact .inl ⟨_, List.mem_cons_of_mem _ mem⟩

/-- While a session is being stopped, its zone has no session. -/
def Vacant (stack : List Frame) (st : BridgeRuntime) : Prop :=
  ∀ id zoneId generation todo, .leaving (.stop id zoneId generation) todo ∈ stack →
    ∀ other session, st.session other = some session → session.zoneId ≠ zoneId

theorem Visited.vacant {stack : List Frame} {st : BridgeRuntime}
    (h : Visited env guard stack st) : Vacant stack st := by
  refine h.invariant (P := Vacant) (fun _ _ _ _ hmem => by cases hmem) ?_
  intro stack st stack' st' visited vacant move id zoneId generation todo hmem other session' live'
  cases move with
  | inner move =>
    rcases move.goal_cases hmem with ⟨before, hmem⟩ | ⟨_, _, heq⟩
    · obtain ⟨session, live, hdemand⟩ := session_of_demand move.demand.symm live'
      have hzone : session.zoneId = session'.zoneId := congrArg Demand.zoneId hdemand
      rw [← hzone]
      exact vacant id zoneId generation before hmem other session live
    · cases heq
  | @sessionRemoved _ removed address session live known =>
    cases List.mem_singleton.mp hmem
    rw [session_disband, session_removeSession] at live'
    split at live'
    · cases live'
    · next hother =>
      intro heq
      apply hother
      apply visited.coherent.unique other id session' session live' live
      rw [heq]
      rcases known with hzone | hzone
      · exact hzone
      · exact hzone.trans (visited.sound.zone id session live).symm
  | _ => exact absurd hmem (by simp [leaveFrame, startFrame])

/-! ### Zones with a new generation -/

/-- The session of the zone, if there is one, has a new generation. -/
def Renewed (st st' : BridgeRuntime) (zoneId : ZoneId) : Prop :=
  ∀ id session, st'.session id = some session → session.zoneId = zoneId →
    st.nextGeneration < session.generation

/-- A zone has one session, so it is renewed with that session. -/
theorem Renewed.of_generation {stack : List Frame} {st st' : BridgeRuntime}
    (visited : Visited env guard stack st') {id : SessionId}
    (new : st'.generationOf id = some (st.nextGeneration + 1)) :
    Renewed st st' (env.zoneOf id) := by
  obtain ⟨session, live, hgeneration⟩ := Option.map_eq_some_iff.mp new
  intro other session' live' hzone
  have hsame : other = id := visited.coherent.unique other id session' session live' live
    (hzone.trans (visited.sound.zone id session live).symm)
  subst other
  rw [live] at live'
  cases live'
  rw [hgeneration]
  exact Nat.lt_succ_self _

theorem worker_sendCommand (st : BridgeRuntime) (zoneId : ZoneId) (command : TransportCommand) :
    (st.sendCommand env zoneId command).worker env zoneId =
      (st.worker env zoneId).map fun worker => worker.sendCommand command := by
  have hsent : (st.sendCommand env zoneId command).worker env zoneId =
      ((st.worker env zoneId).map fun worker => worker.sendCommand command).or
        ((env.renderers zoneId).map ZoneWorker.new) := by
    simp only [BridgeRuntime.worker, BridgeRuntime.sendCommand, Function.update_self]
  rw [hsent]
  cases hworker : st.worker env zoneId with
  | some worker => rfl
  | none => exact (Option.or_eq_none_iff.mp hworker).2

/-- How the worker of a zone comes out of a move, with what is known of its session. -/
inductive ZoneStep (env : Env) (guard : BridgeRuntime → BridgeLabel → Prop) (stack : List Frame)
    (st st' : BridgeRuntime) (zoneId : ZoneId) : ZoneWorker → Prop
  | kept {worker} (found : st.zoneWorkers zoneId = some worker) :
      ZoneStep env guard stack st st' zoneId worker
  | volume {worker} (current : st.worker env zoneId = some worker) (value : Nat) :
      ZoneStep env guard stack st st' zoneId (worker.setVolume value)
  | closed {worker} (found : st.zoneWorkers zoneId = some worker) :
      ZoneStep env guard stack st st' zoneId worker.shutdown
  | took {worker worker'} (found : st.zoneWorkers zoneId = some worker)
      (took : worker.take st.now = some worker') : ZoneStep env guard stack st st' zoneId worker'
  | replied {worker reply worker' outputs} (found : st.zoneWorkers zoneId = some worker)
      (replied : worker.reply st.now reply = some (worker', outputs)) :
      ZoneStep env guard stack st st' zoneId worker'
  | superseded {worker worker'} (found : st.zoneWorkers zoneId = some worker)
      (superseded : worker.supersede = some worker') : ZoneStep env guard stack st st' zoneId worker'
  | ready {worker worker' prepared} (found : st.zoneWorkers zoneId = some worker)
      (ready : worker.ready = some (worker', prepared)) : ZoneStep env guard stack st st' zoneId worker'
  | released {worker stream joins delay since} (found : st.zoneWorkers zoneId = some worker)
      (waiting : worker.running = some (.groupWait stream joins delay since)) :
      ZoneStep env guard stack st st' zoneId (worker.goto (.groupPlay stream joins delay))
  | started {worker release stream rest roles tail} (current : st.worker env zoneId = some worker)
      (top : stack = .starting release (stream :: rest) roles :: tail)
      (address : zoneId = stream.zoneId) :
      ZoneStep env guard stack st st' zoneId (worker.sendCommand (startCommand release.joins
        (release.delays.lookup stream.sessionId) (roles.lookup stream.sessionId) stream))
  | replayed {worker retry rest session stream} (current : st.worker env zoneId = some worker)
      (guarded : guard st .retry) (first : st.retryRx = retry :: rest)
      (live : st.session retry.sessionId = some session)
      (same : session.generation = retry.generation) (kept : session.prepared = some stream)
      (address : zoneId = retry.zoneId) :
      ZoneStep env guard stack st st' zoneId (worker.sendCommand (.play stream.released))
  | stopped {worker} (current : st.worker env zoneId = some worker)
      (renewed : Renewed st st' zoneId) (id : SessionId) (generation : Nat) :
      ZoneStep env guard stack st st' zoneId (worker.sendCommand (.stop id zoneId generation))
  | prepared {worker} (current : st.worker env zoneId = some worker)
      (renewed : Renewed st st' zoneId) (id : SessionId) (generation : Nat)
      (start : StreamPrepare) :
      ZoneStep env guard stack st st' zoneId
        ((worker.sendCommand (.stop id zoneId generation)).sendCommand (.prepare start))

namespace ZoneStep

variable {stack stack' : List Frame} {st st' : BridgeRuntime} {zoneId : ZoneId}
  {worker : ZoneWorker}

theorem same (workers : st'.zoneWorkers = st.zoneWorkers)
    (found : st'.zoneWorkers zoneId = some worker) : ZoneStep env guard stack st st' zoneId worker := by
  rw [workers] at found
  exact .kept found

/-- A worker takes a step of its own. -/
theorem setWorker {other : ZoneId} {worker' : ZoneWorker} (workers :
      st'.zoneWorkers = (st.setWorker other worker').zoneWorkers)
    (step : ZoneStep env guard stack st st' other worker')
    (found : st'.zoneWorkers zoneId = some worker) : ZoneStep env guard stack st st' zoneId worker := by
  rw [workers] at found
  simp only [BridgeRuntime.setWorker] at found
  by_cases hother : zoneId = other
  · subst other
    rw [Function.update_self] at found
    cases found
    exact step
  · rw [Function.update_of_ne hother] at found
    exact .kept found

/-- A command is sent to a zone, and the other workers are as before. -/
theorem sendCommand (mid : BridgeRuntime) (workers : mid.zoneWorkers = st.zoneWorkers)
    {other : ZoneId} {command : TransportCommand}
    (sent : st'.zoneWorkers = (mid.sendCommand env other command).zoneWorkers)
    (step : ∀ worker, st.worker env other = some worker →
      ZoneStep env guard stack st st' other (worker.sendCommand command))
    (found : st'.zoneWorkers zoneId = some worker) : ZoneStep env guard stack st st' zoneId worker := by
  rw [sent] at found
  rcases zoneWorkers_sendCommand found with ⟨rfl, old, hold, rfl⟩ | ⟨-, found⟩
  · apply step
    unfold BridgeRuntime.worker at hold ⊢
    rw [workers] at hold
    exact hold
  · rw [workers] at found
    exact .kept found

theorem inner (visited : Visited env guard stack st) (move : Inner env stack st stack' st')
    (found : st'.zoneWorkers zoneId = some worker) : ZoneStep env guard stack st st' zoneId worker := by
  have hvisited : Visited env guard stack' st' := visited.tail (.inner move)
  cases move with
  | @buildFailed _ _ id zone session renderer live =>
    have address : zone = env.zoneOf id := visited.sound.goal _ _ List.mem_cons_self
    subst address
    refine sendCommand (st.retireDownstream id) rfl rfl (fun old hold => ?_) found
    refine .stopped hold (.of_generation hvisited ?_) _ _
    simp [BridgeRuntime.generationOf, live, GenerationStep.retryOrReset_generation]
  | @built _ _ id zone session renderer liveStream live renderer_eq created =>
    have address : zone = env.zoneOf id := visited.sound.goal _ _ List.mem_cons_self
    subst address
    have hrenewed : Renewed st ((st.invalidateDownstream env id
        (env.zoneOf id)).admitDownstream env id (env.zoneOf id) renderer liveStream)
        (env.zoneOf id) := by
      refine .of_generation hvisited ?_
      simp [BridgeRuntime.generationOf, live]
    rcases zoneWorkers_sendCommand found with ⟨rfl, old, hold, rfl⟩ | ⟨hother, found⟩
    · have hsent : ((st.retireDownstream id).sendCommand env (env.zoneOf id)
          (.stop id (env.zoneOf id) (st.retireDownstream id).nextGeneration)).worker env
            (env.zoneOf id) = some old := hold
      rw [worker_sendCommand] at hsent
      obtain ⟨older, holder, rfl⟩ := Option.map_eq_some_iff.mp hsent
      have hcurrent : st.worker env (env.zoneOf id) = some older := holder
      exact .prepared hcurrent hrenewed _ _ _
    · have hsame : (st.invalidateDownstream env id (env.zoneOf id)).zoneWorkers zoneId =
          st.zoneWorkers zoneId := Function.update_of_ne hother _ _
      exact .kept (hsame.symm.trans found)
  | @pauseFinished _ _ id zone =>
    have address : zone = env.zoneOf id := visited.sound.goal _ _ List.mem_cons_self
    subst address
    obtain ⟨session, live, -⟩ := visited.framed _ _ List.mem_cons_self
    refine sendCommand (st.nextDownstreamGeneration id) rfl rfl (fun old hold => ?_) found
    refine .stopped hold (.of_generation hvisited ?_) _ _
    simp [BridgeRuntime.generationOf, live]
  | @stopFinished _ _ id zone generation =>
    refine sendCommand st rfl rfl (fun old hold => ?_) found
    refine .stopped hold ?_ _ _
    intro other session live hzone
    exact absurd hzone (visited.vacant id zone generation _ List.mem_cons_self other session live)
  | @cohortReleased tail _ cohort rest =>
    obtain ⟨groupJoins, nextGroupJoins, heq⟩ := openPlay_spec env
      (st.handOver (st.pruneCohort cohort) rest) (st.pruneCohort cohort).preparedStreams
    rw [heq] at found ⊢
    exact same rfl found
  | @streamStarted tail _ release stream rest roles =>
    obtain ⟨planned, playbackRelease, f, heq, -, -⟩ := startStream_spec env release.joins
      release.delays release.cutoff st roles stream
    rw [heq] at found ⊢
    exact sendCommand { st with sessions := planned, playbackRelease := playbackRelease }
      rfl rfl (fun old hold => .started hold rfl rfl) found
  | _ => exact same rfl found

theorem move (visited : Visited env guard stack st) (move : Move env guard stack st stack' st')
    (found : st'.zoneWorkers zoneId = some worker) : ZoneStep env guard stack st st' zoneId worker := by
  have hvisited : Visited env guard stack' st' := visited.tail move
  cases move with
  | inner move => exact inner visited move found
  | workerTook found' took => exact setWorker rfl (.took found' took) found
  | @workerReplied _ zone worker reply worker' outputs guarded found' replied =>
    obtain ⟨groupJoins, heq⟩ := deliver_eq (st.setWorker zone worker') outputs
    rw [heq] at found ⊢
    exact setWorker rfl (.replied found' replied) found
  | workerSuperseded found' superseded => exact setWorker rfl (.superseded found' superseded) found
  | workerReady found' ready => exact setWorker rfl (.ready found' ready) found
  | @groupReleased _ zone worker stream joins delay since _ found' waiting released =>
    obtain ⟨-, rfl⟩ := releaseGroup_spec released
    refine setWorker ?_ (.released found' waiting) found
    cases delay <;> rfl
  | volumeSet zone value =>
    simp only [BridgeRuntime.setVolume] at found
    by_cases hother : zoneId = zone
    · subst zone
      rw [Function.update_self] at found
      obtain ⟨old, hold, rfl⟩ := Option.map_eq_some_iff.mp found
      exact .volume hold value
    · rw [Function.update_of_ne hother] at found
      exact .kept found
  | @encoderClosed _ id zone frames session guarded live =>
    have hzone : session.zoneId = env.zoneOf id := visited.sound.zone id session live
    have hworkers : (st.encoderInputClosed env id session).zoneWorkers =
        (st.sendCommand env session.zoneId
          (.stop id session.zoneId (st.nextGeneration + 1))).zoneWorkers := by
      unfold BridgeRuntime.encoderInputClosed
      split <;> rfl
    refine sendCommand st rfl hworkers (fun old hold => ?_) found
    refine .stopped hold ?_ _ _
    rw [hzone]
    refine .of_generation hvisited ?_
    unfold BridgeRuntime.encoderInputClosed
    split <;> simp [BridgeRuntime.generationOf, live, GenerationStep.retryOrReset_generation]
  | @startSucceeded _ result =>
    obtain ⟨nativeGroups, heq⟩ := startSucceeded_spec st.takeResult result.sessionId result.outcome
    rw [heq] at found ⊢
    exact same rfl found
  | @startRetried _ result =>
    obtain ⟨nativeGroups, heq⟩ := startUncertain_spec st.takeResult result.sessionId result.outcome
    rw [heq] at found ⊢
    exact same rfl found
  | @startExhausted _ result =>
    obtain ⟨nativeGroups, heq⟩ := startUncertain_spec st.takeResult result.sessionId result.outcome
    rw [heq] at found ⊢
    exact same rfl found
  | @retryReplayed _ retry rest session prepared guarded first live current wanted kept =>
    obtain ⟨playbackRelease, heq⟩ := replayPrepared_spec env st.takeRetry retry.sessionId
      retry.zoneId prepared
    rw [heq] at found ⊢
    exact sendCommand st.takeRetry rfl rfl
      (fun old hold => .replayed hold guarded first live current kept rfl) found
  | @preparedPlayed _ prepared =>
    obtain ⟨groupJoins, nextGroupJoins, heq⟩ := openPlay_spec env
      (st.takePrepared.keepPrepared prepared) [prepared]
    rw [heq] at found ⊢
    exact same rfl found
  | workersClosed =>
    obtain ⟨old, hold, rfl⟩ := Option.map_eq_some_iff.mp found
    exact .closed hold
  | _ => exact same rfl found

theorem running_current {st : BridgeRuntime} {worker : ZoneWorker} {task : TransportTask}
    (current : st.worker env zoneId = some worker) (running : worker.running = some task) :
    ∃ old, st.zoneWorkers zoneId = some old ∧ task.command ∈ old.commands := by
  rcases worker_cases current with hfound | ⟨-, renderer, -, rfl⟩
  · exact ⟨worker, hfound, ZoneWorker.mem_commands_of_running running⟩
  · cases running

/-- What a worker works on, it had before. -/
theorem running_old (h : ZoneStep env guard stack st st' zoneId worker) {task : TransportTask}
    (running : worker.running = some task) :
    ∃ old, st.zoneWorkers zoneId = some old ∧ task.command ∈ old.commands := by
  cases h with
  | kept found => exact ⟨_, found, ZoneWorker.mem_commands_of_running running⟩
  | volume current => exact running_current current running
  | @closed old found =>
    have hrunning : old.running = some task := running
    exact ⟨_, found, ZoneWorker.mem_commands_of_running hrunning⟩
  | took found took =>
    exact ⟨_, found, ZoneWorker.commands_take took ▸ ZoneWorker.mem_commands_of_running running⟩
  | replied found replied =>
    obtain ⟨before, request, hrunning, -, heffect⟩ := ZoneWorker.reply_spec replied
    exact ⟨_, found, heffect.commands_subset hrunning
      (ZoneWorker.mem_commands_of_running running)⟩
  | superseded found superseded =>
    obtain ⟨before, -, -, -, rfl⟩ := ZoneWorker.supersede_spec superseded
    cases running
  | ready found ready =>
    obtain ⟨start, -, -, rfl⟩ := ZoneWorker.ready_spec ready
    cases running
  | released found waiting =>
    have hmem := ZoneWorker.mem_commands_of_running waiting
    cases running
    exact ⟨_, found, hmem⟩
  | started current => exact running_current current running
  | replayed current => exact running_current current running
  | stopped current => exact running_current current running
  | prepared current => exact running_current current running

/-- A command that is new to a worker waits in its slot. -/
theorem slot_of_new (h : ZoneStep env guard stack st st' zoneId worker)
    {command : TransportCommand} (mem : command ∈ worker.commands)
    (new : ∀ old, st.zoneWorkers zoneId = some old → command ∉ old.commands) :
    worker.slot = some command ∧
      ∀ task, worker.running = some task → task.command ≠ command := by
  have hrunning (task : TransportTask) (running : worker.running = some task) :
      task.command ≠ command := by
    rintro rfl
    obtain ⟨old, found, hmem⟩ := h.running_old running
    exact new old found hmem
  refine ⟨?_, hrunning⟩
  rcases List.mem_append.mp mem with hslot | hmem
  · exact Option.mem_toList.mp hslot
  · obtain ⟨task, running, heq⟩ := Option.map_eq_some_iff.mp (Option.mem_toList.mp hmem)
    exact absurd heq (hrunning task running)

end ZoneStep

end AirSonos
