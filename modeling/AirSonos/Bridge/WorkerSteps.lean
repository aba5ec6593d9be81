import AirSonos.Bridge.Payload

/-!
# What a move does to the workers

A move sends commands, of which there are four kinds, or lets one worker go on with its loop.
What holds of the single workers, and where their commands come from, follows from this.
-/

namespace AirSonos

open BridgeRuntime

variable {env : Env} {guard : BridgeRuntime → BridgeLabel → Prop}

/-- The commands that a move sends: a Stop, the Prepare of a new generation, the start of a
released stream, and the Play of the stream that a session already has. -/
inductive Sends (env : Env) (stack : List Frame) (st : BridgeRuntime) (st' : BridgeRuntime) :
    TransportCommand → Prop
  | stop (id : SessionId) (zoneId : ZoneId) (generation : Nat) :
      Sends env stack st st' (.stop id zoneId generation)
  | prepare {start : StreamPrepare} (fresh : st.nextGeneration < start.generation)
      (bounded : start.generation ≤ st'.nextGeneration) : Sends env stack st st' (.prepare start)
  | start {release stream rest roles tail}
      (top : stack = .starting release (stream :: rest) roles :: tail)
      (after : st' = (startStream env release.joins release.delays release.cutoff (st, roles)
        stream).1) :
      Sends env stack st st' (startCommand release.joins (release.delays.lookup stream.sessionId)
        (roles.lookup stream.sessionId) stream)
  | replay {retry rest session prepared} (first : st.retryRx = retry :: rest)
      (live : st.session retry.sessionId = some session)
      (current : session.generation = retry.generation)
      (kept : session.prepared = some prepared)
      (after : st' = st.takeRetry.replayPrepared env retry.sessionId retry.zoneId prepared) :
      Sends env stack st st' (.play prepared.released)

/-- How the worker of a zone comes out of a move. -/
inductive WorkerStep (env : Env) (stack : List Frame) (st : BridgeRuntime) (st' : BridgeRuntime)
    (zoneId : ZoneId) : ZoneWorker → Prop
  | old {worker} (found : st.zoneWorkers zoneId = some worker) :
      WorkerStep env stack st st' zoneId worker
  | new {renderer} (known : env.renderers zoneId = some renderer) :
      WorkerStep env stack st st' zoneId (.new renderer)
  | sent {worker command} (before : WorkerStep env stack st st' zoneId worker)
      (sends : Sends env stack st st' command) :
      WorkerStep env stack st st' zoneId (worker.sendCommand command)
  | volume {worker} (before : WorkerStep env stack st st' zoneId worker) (value : Nat) :
      WorkerStep env stack st st' zoneId (worker.setVolume value)
  | closed {worker} (found : st.zoneWorkers zoneId = some worker) :
      WorkerStep env stack st st' zoneId worker.shutdown
  | took {worker worker'} (found : st.zoneWorkers zoneId = some worker)
      (took : worker.take st.now = some worker') : WorkerStep env stack st st' zoneId worker'
  | replied {worker reply worker' outputs} (found : st.zoneWorkers zoneId = some worker)
      (replied : worker.reply st.now reply = some (worker', outputs)) :
      WorkerStep env stack st st' zoneId worker'
  | superseded {worker worker'} (found : st.zoneWorkers zoneId = some worker)
      (superseded : worker.supersede = some worker') : WorkerStep env stack st st' zoneId worker'
  | ready {worker worker' prepared} (found : st.zoneWorkers zoneId = some worker)
      (ready : worker.ready = some (worker', prepared)) :
      WorkerStep env stack st st' zoneId worker'
  | released {worker stream joins delay since} (found : st.zoneWorkers zoneId = some worker)
      (waiting : worker.running = some (.groupWait stream joins delay since))
      (released : st.releaseGroup zoneId worker stream joins delay since = some st') :
      WorkerStep env stack st st' zoneId (worker.goto (.groupPlay stream joins delay))

/-- The commands of a worker are those it had and those it was sent. -/
theorem WorkerStep.commands {stack : List Frame} {st st' : BridgeRuntime} {zoneId : ZoneId}
    {worker : ZoneWorker} {command : TransportCommand} (h : WorkerStep env stack st st' zoneId worker)
    (mem : command ∈ worker.commands) :
    (∃ old, st.zoneWorkers zoneId = some old ∧ command ∈ old.commands) ∨
      Sends env stack st st' command := by
  induction h with
  | old found => exact .inl ⟨_, found, mem⟩
  | new => cases mem
  | @sent worker sent before sends ih =>
    rw [ZoneWorker.commands_sendCommand, List.mem_cons] at mem
    rcases mem with rfl | hrunning
    · exact .inr sends
    · exact ih (List.mem_append_right _ hrunning)
  | volume before value ih => exact ih mem
  | closed found => exact .inl ⟨_, found, mem⟩
  | took found took => exact .inl ⟨_, found, ZoneWorker.commands_take took ▸ mem⟩
  | replied found replied =>
    obtain ⟨task, request, running, -, effect⟩ := ZoneWorker.reply_spec replied
    exact .inl ⟨_, found, effect.commands_subset running mem⟩
  | superseded found superseded =>
    obtain ⟨task, -, -, -, rfl⟩ := ZoneWorker.supersede_spec superseded
    refine .inl ⟨_, found, List.mem_append_left _ ?_⟩
    simpa [ZoneWorker.commands] using mem
  | ready found ready =>
    obtain ⟨start, -, -, rfl⟩ := ZoneWorker.ready_spec ready
    refine .inl ⟨_, found, List.mem_append_left _ ?_⟩
    simpa [ZoneWorker.commands] using mem
  | released found waiting =>
    refine .inl ⟨_, found, ?_⟩
    simpa [ZoneWorker.commands, ZoneWorker.goto, waiting, TransportTask.command] using mem

/-- How the workers come out of a move. -/
def WorkersStep (env : Env) (stack : List Frame) (st st' after : BridgeRuntime) : Prop :=
  ∀ zoneId worker, after.zoneWorkers zoneId = some worker →
    WorkerStep env stack st st' zoneId worker

namespace WorkersStep

variable {stack stack' : List Frame} {st st' mid after : BridgeRuntime}

theorem same (workers : after.zoneWorkers = st.zoneWorkers) :
    WorkersStep env stack st st' after := by
  intro zoneId worker found
  rw [workers] at found
  exact .old found

theorem of_eq (h : WorkersStep env stack st st' mid)
    (workers : after.zoneWorkers = mid.zoneWorkers) : WorkersStep env stack st st' after := by
  intro zoneId worker found
  rw [workers] at found
  exact h zoneId worker found

theorem ofWorker (h : WorkersStep env stack st st' mid) {zoneId : ZoneId} {worker : ZoneWorker}
    (found : mid.worker env zoneId = some worker) : WorkerStep env stack st st' zoneId worker := by
  rcases worker_cases found with hfound | ⟨-, renderer, known, rfl⟩
  · exact h zoneId worker hfound
  · exact .new known

theorem sendCommand (h : WorkersStep env stack st st' mid) (zoneId : ZoneId)
    {command : TransportCommand} (sends : Sends env stack st st' command) :
    WorkersStep env stack st st' (mid.sendCommand env zoneId command) := by
  intro other worker found
  rcases zoneWorkers_sendCommand found with ⟨rfl, old, hold, rfl⟩ | ⟨-, found⟩
  · exact .sent (h.ofWorker hold) sends
  · exact h other worker found

variable (st) in
/-- Only a Stop is sent. -/
theorem sendStop (mid : BridgeRuntime) (workers : mid.zoneWorkers = st.zoneWorkers)
    (zoneId : ZoneId) (id : SessionId) (generation : Nat) :
    WorkersStep env stack st st' (mid.sendCommand env zoneId (.stop id zoneId generation)) :=
  (same workers).sendCommand zoneId (.stop id zoneId generation)

theorem setVolume (h : WorkersStep env stack st st' mid) (zoneId : ZoneId) (value : Nat) :
    WorkersStep env stack st st' (mid.setVolume env zoneId value) := by
  intro other worker found
  simp only [BridgeRuntime.setVolume] at found
  by_cases hother : other = zoneId
  · subst other
    rw [Function.update_self] at found
    obtain ⟨old, hold, rfl⟩ := Option.map_eq_some_iff.mp found
    exact .volume (h.ofWorker hold) value
  · rw [Function.update_of_ne hother] at found
    exact h other worker found

theorem setWorker (h : WorkersStep env stack st st' mid) {zoneId : ZoneId} {worker : ZoneWorker}
    (new : WorkerStep env stack st st' zoneId worker) :
    WorkersStep env stack st st' (mid.setWorker zoneId worker) := by
  intro other current found
  simp only [BridgeRuntime.setWorker] at found
  by_cases hother : other = zoneId
  · subst other
    rw [Function.update_self] at found
    cases found
    exact new
  · rw [Function.update_of_ne hother] at found
    exact h other current found

theorem inner (move : Inner env stack st stack' st') : WorkersStep env stack st st' st' := by
  cases move with
  | @buildFailed _ _ id zoneId =>
    exact (sendStop st (st.retireDownstream id) rfl zoneId id (st.nextGeneration + 1)).of_eq rfl
  | @built tail _ id zoneId session renderer liveStream live renderer_eq created =>
    have hadded : WorkersStep env (.leaving (.restart id zoneId) [] :: tail) st
        ((st.invalidateDownstream env id zoneId).admitDownstream env id zoneId renderer liveStream)
        (((st.invalidateDownstream env id zoneId).registerStream id
          liveStream).addSessionToSyncCohort env id) :=
      (sendStop st (st.retireDownstream id) rfl zoneId id (st.nextGeneration + 1)).of_eq rfl
    have hnamed : liveStream.session.generation = st.nextGeneration + 1 :=
      (Sound.createDownstreamStream_named created).2
    refine hadded.sendCommand zoneId (.prepare ?_ hnamed.le)
    exact (Nat.lt_succ_self _).trans_eq hnamed.symm
  | @pauseFinished _ _ id zoneId =>
    exact sendStop st (st.nextDownstreamGeneration id) rfl zoneId id (st.nextGeneration + 1)
  | @stopFinished _ _ id zoneId generation => exact sendStop st st rfl zoneId id generation
  | @cohortReleased tail _ cohort rest =>
    obtain ⟨groupJoins, nextGroupJoins, heq⟩ := openPlay_spec env
      (st.handOver (st.pruneCohort cohort) rest) (st.pruneCohort cohort).preparedStreams
    rw [heq]
    exact same rfl
  | @streamStarted tail _ release stream rest roles =>
    have hsends : Sends env (.starting release (stream :: rest) roles :: tail) st
        (startStream env release.joins release.delays release.cutoff (st, roles) stream).1
        (startCommand release.joins (release.delays.lookup stream.sessionId)
          (roles.lookup stream.sessionId) stream) := .start rfl rfl
    obtain ⟨planned, playbackRelease, f, heq, -, -⟩ := startStream_spec env release.joins
      release.delays release.cutoff st roles stream
    rw [heq] at hsends ⊢
    have hplanned : WorkersStep env (.starting release (stream :: rest) roles :: tail) st
        (({ st with sessions := planned, playbackRelease := playbackRelease } :
          BridgeRuntime).sendCommand env stream.zoneId (startCommand release.joins
            (release.delays.lookup stream.sessionId) (roles.lookup stream.sessionId) stream))
        { st with sessions := planned, playbackRelease := playbackRelease } := same rfl
    exact hplanned.sendCommand _ hsends
  | _ => exact same rfl

theorem move (h : Move env guard stack st stack' st') : WorkersStep env stack st st' st' := by
  have hsame : WorkersStep env stack st st' st := same rfl
  cases h with
  | inner move => exact inner move
  | workerTook found took => exact hsame.setWorker (.took found took)
  | @workerReplied _ zoneId worker reply worker' outputs guarded found replied =>
    obtain ⟨groupJoins, heq⟩ := deliver_eq (st.setWorker zoneId worker') outputs
    have hset := hsame.setWorker (.replied found replied)
    rw [heq] at hset ⊢
    exact hset.of_eq rfl
  | workerSuperseded found superseded => exact hsame.setWorker (.superseded found superseded)
  | workerReady found ready => exact (hsame.setWorker (.ready found ready)).of_eq rfl
  | @groupReleased _ zoneId worker stream joins delay since _ found waiting released =>
    have hworker : WorkerStep env [] st st' zoneId (worker.goto (.groupPlay stream joins delay)) :=
      .released found waiting released
    obtain ⟨-, rfl⟩ := releaseGroup_spec released
    refine setWorker (same ?_) hworker
    cases delay <;> rfl
  | volumeSet zoneId value => exact hsame.setVolume zoneId value
  | @encoderClosed _ id zoneId frames session =>
    have hretired : WorkersStep env [] st (st.encoderInputClosed env id session)
        (st.retireEncoder env id session.zoneId) :=
      sendStop st (((st.modifySession id fun session =>
        { session with
          prepared := none
          resetNeeded := true
          encoder := none }).nextDownstreamGeneration id).removeStream id) rfl session.zoneId id
        (st.nextGeneration + 1)
    refine hretired.of_eq ?_
    unfold BridgeRuntime.encoderInputClosed
    split <;> rfl
  | @startSucceeded _ result =>
    obtain ⟨nativeGroups, heq⟩ := startSucceeded_spec st.takeResult result.sessionId result.outcome
    rw [heq]
    exact same rfl
  | @startRetried _ result =>
    obtain ⟨nativeGroups, heq⟩ := startUncertain_spec st.takeResult result.sessionId result.outcome
    rw [heq]
    exact same rfl
  | @startExhausted _ result =>
    obtain ⟨nativeGroups, heq⟩ := startUncertain_spec st.takeResult result.sessionId result.outcome
    rw [heq]
    exact same rfl
  | @retryReplayed _ retry rest session prepared guarded first live current wanted kept =>
    have hsends : Sends env [] st
        (st.takeRetry.replayPrepared env retry.sessionId retry.zoneId prepared)
        (.play prepared.released) := .replay first live current kept rfl
    obtain ⟨playbackRelease, heq⟩ := replayPrepared_spec env st.takeRetry retry.sessionId
      retry.zoneId prepared
    rw [heq] at hsends ⊢
    refine sendCommand (same ?_) _ hsends
    rfl
  | @preparedPlayed _ prepared =>
    obtain ⟨groupJoins, nextGroupJoins, heq⟩ := openPlay_spec env
      (st.takePrepared.keepPrepared prepared) [prepared]
    rw [heq]
    exact same rfl
  | workersClosed =>
    intro zoneId worker found
    obtain ⟨old, hold, rfl⟩ := Option.map_eq_some_iff.mp found
    exact .closed hold
  | _ => exact same rfl

end WorkersStep

end AirSonos
