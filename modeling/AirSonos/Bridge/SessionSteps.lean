import AirSonos.Bridge.Generations

/-!
# What a move does to one session

Every move keeps a session, edits it in one of a few ways, removes it or inserts it. What holds
of the single sessions follows from these edits.
-/

namespace AirSonos

open Relation BridgeRuntime

variable {env : Env} {guard : BridgeRuntime → BridgeLabel → Prop}

/-- A new stream has the playback epoch of its session. -/
theorem playbackEpoch_of_created {st : BridgeRuntime} {id : SessionId} {session : SessionRuntime}
    {zoneId : ZoneId} {generation : Nat} {liveStream : LiveStream}
    (live : st.session id = some session)
    (created : (st.invalidateDownstream env id zoneId).createDownstreamStream env id zoneId
      generation = some liveStream) : liveStream.playbackEpoch = session.playbackEpoch := by
  unfold createDownstreamStream at created
  split at created
  · cases created
  · split at created
    · cases created
      simp [live]
    · cases created

/-- The edits of a session that stays. Retries are kept in books of their own, which no edit
below depends on. -/
inductive SessionEdit (guard : BridgeRuntime → BridgeLabel → Prop) (stack : List Frame)
    (st : BridgeRuntime) (stack' : List Frame) (id : SessionId) (session : SessionRuntime) :
    SessionRuntime → Prop
  | kept (attempts : Nat) (task : Option (TimerTask DownstreamRetry)) :
      SessionEdit guard stack st stack' id session
        { session with retryAttempts := attempts, retryTask := task }
  | planned {session'} (plan : Planned session session') {release stream todo roles tail}
      (top : stack = .starting release (stream :: todo) roles :: tail)
      (names : stream.sessionId = id) :
      SessionEdit guard stack st stack' id session session'
  | retired (attempts : Nat) (task : Option (TimerTask DownstreamRetry))
      (encoder : Option FfmpegEncoder)
      (matching : ∀ new, encoder = some new → new.stream.playbackEpoch = session.playbackEpoch) :
      SessionEdit guard stack st stack' id session
        { session with
          resetNeeded := true
          observed := .unknown
          prepared := none
          encoder := encoder
          generation := st.nextGeneration + 1
          retryAttempts := attempts
          retryTask := task }
  | stopped (pausing : Pausing stack id) :
      SessionEdit guard stack st stack' id session
        { session with generation := st.nextGeneration + 1 }
  | cleanupFired (task : TimerTask SessionId) (begins : stack = [])
      (timer : session.cleanupTask = some task) (pending : task.fired = false)
      (due : task.due ≤ st.now) :
      SessionEdit guard stack st stack' id session
        { session with cleanupTask := some { task with fired := true } }
  | cleanupDeferred (zoneId : ZoneId) (begins : stack = [])
      (unwanted : session.desiredPlayback = false)
      (guarded : guard st (.event (.streamEndedWhilePaused id zoneId))) :
      SessionEdit guard stack st stack' id session
        { session with
          resetNeeded := true
          cleanupDeadline := some (st.now + Duration.fromSecs PAUSED_SESSION_GRACE_SECS)
          cleanupTask := some
            ⟨st.now + Duration.fromSecs PAUSED_SESSION_GRACE_SECS, id, false⟩ }
  | resumed (zoneId : ZoneId) (task : Option (TimerTask DownstreamRetry)) (begins : stack = [])
      (guarded : guard st (.event (.playbackState id zoneId true))) :
      SessionEdit guard stack st stack' id session
        { session with
          desiredPlayback := true
          retryAttempts := 0
          cleanupDeadline := none
          cleanupTask := none
          retryTask := task }
  | flushed (playbackEpoch : Nat) (encoder : Option FfmpegEncoder)
      (task : Option (TimerTask DownstreamRetry)) (begins : stack = [])
      (newer : session.playbackEpoch < playbackEpoch)
      (keeps : session.desiredPlayback = true → encoder = session.encoder)
      (renewed : encoder = none ∨ Restarting stack' id) :
      SessionEdit guard stack st stack' id session
        { session with playbackEpoch := playbackEpoch, encoder := encoder, retryTask := task }
  | paused (begins : stack = []) (pausing : Pausing stack' id) :
      SessionEdit guard stack st stack' id session
        { session with
          desiredPlayback := false
          resetNeeded := true
          observed := .unknown
          prepared := none
          retryTask := none }
  | encoderClosed (zoneId : ZoneId) (frames : List BridgeFrame) (attempts : Nat)
      (task : Option (TimerTask DownstreamRetry)) (reset : Bool) (begins : stack = [])
      (guarded : guard st (.event (.pcm id zoneId frames)))
      (closes : frames.any session.closes = true) :
      SessionEdit guard stack st stack' id session
        { session with
          prepared := none
          resetNeeded := reset
          encoder := none
          generation := st.nextGeneration + 1
          retryAttempts := attempts
          retryTask := task }
  | noted (observed : ObservedPlayback) (begins : stack = []) (quiet : observed ≠ .playing) :
      SessionEdit guard stack st stack' id session { session with observed := observed }
  | unsettled (reset : Bool) (attempts : Nat) (task : Option (TimerTask DownstreamRetry))
      (begins : stack = []) :
      SessionEdit guard stack st stack' id session
        { session with
          observed := .unknown
          resetNeeded := reset
          retryAttempts := attempts
          retryTask := task }
  | played (result : DownstreamStartResult) (begins : stack = [])
      (reported : result ∈ st.resultRx) (names : result.sessionId = id)
      (current : session.generation = result.generation)
      (wanted : session.desiredPlayback = true)
      (outcome : result.outcome = .started ∨ result.outcome = .joined) :
      SessionEdit guard stack st stack' id session
        { session with
          observed := .playing
          resetNeeded := false
          retryAttempts := 0
          retryTask := none }
  | prepared (stream : PreparedDownstream) (begins : stack = []) (names : stream.sessionId = id)
      (current : session.generation = stream.generation)
      (wanted : session.desiredPlayback = true) :
      SessionEdit guard stack st stack' id session { session with prepared := some stream }
  | replayed (stream : PreparedDownstream) (begins : stack = [])
      (known : session.prepared = some stream) :
      SessionEdit guard stack st stack' id session
        { session with prepared := some stream.released, retryTask := none }

/-- What a move does to the entry of one session. -/
inductive SessionStep (guard : BridgeRuntime → BridgeLabel → Prop) (stack : List Frame)
    (st : BridgeRuntime) (stack' : List Frame) (id : SessionId) :
    Option SessionRuntime → Option SessionRuntime → Prop
  | absent : SessionStep guard stack st stack' id none none
  | edited {session session'} (edit : SessionEdit guard stack st stack' id session session') :
      SessionStep guard stack st stack' id (some session) (some session')
  | removed {session} (begins : stack = []) :
      SessionStep guard stack st stack' id (some session) none
  | inserted {old} (zoneId : ZoneId) (format : PcmFormat) (sender : Option IpAddr)
      (begins : stack = [])
      (guarded : ∃ origin, guard origin (.event (.sessionStarted id zoneId format sender))) :
      SessionStep guard stack st stack' id old
        (some { SessionRuntime.new zoneId format with sender := sender })

namespace SessionStep

variable {stack stack' : List Frame} {st st' : BridgeRuntime}

variable (st st') in
theorem same (sessions : st'.session = st.session) (id : SessionId) :
    SessionStep guard stack st stack' id (st.session id) (st'.session id) := by
  rw [sessions]
  cases st.session id with
  | none => exact .absent
  | some session => exact .edited (.kept session.retryAttempts session.retryTask)

variable (st st') in
theorem edit {f : SessionRuntime → SessionRuntime} (edited : SessionId)
    (sessions : ∀ other, st'.session other =
      if other = edited then (st.session other).map f else st.session other)
    (hf : ∀ session, st.session edited = some session →
      SessionEdit guard stack st stack' edited session (f session)) (id : SessionId) :
    SessionStep guard stack st stack' id (st.session id) (st'.session id) := by
  rw [sessions id]
  cases hlive : st.session id with
  | none =>
    rw [Option.map_none, ite_self]
    exact .absent
  | some session =>
    split
    · case isTrue heq =>
      subst heq
      exact .edited (hf session hlive)
    · exact .edited (.kept session.retryAttempts session.retryTask)

theorem retryOrReset_eq (now : Instant) (retry : DownstreamRetry) (session : SessionRuntime) :
    ∃ attempts task reset, retryOrReset now retry session =
      { session with retryAttempts := attempts, retryTask := task, resetNeeded := reset } ∧
        (session.resetNeeded = true → reset = true) := by
  unfold retryOrReset
  split
  · exact ⟨_, _, session.resetNeeded, rfl, id⟩
  · exact ⟨session.retryAttempts, none, true, rfl, fun _ => rfl⟩

theorem inner (move : Inner env stack st stack' st') (id : SessionId) :
    SessionStep guard stack st stack' id (st.session id) (st'.session id) := by
  cases move with
  | memberRestarted =>
    exact edit st _ _ (session_cancelDownstreamRetry st _) (fun session _ => .kept _ _) id
  | rendererMissing =>
    exact edit st _ _ (session_retireDownstream st _) (fun session _ => .retired _ _ none nofun) id
  | @buildFailed _ _ edited zoneId =>
    refine edit st _ edited (session_buildFailed st edited zoneId) (fun session _ => ?_) id
    obtain ⟨attempts, task, reset, heq, hreset⟩ := retryOrReset_eq st.now
      ⟨edited, zoneId, st.nextGeneration + 1⟩ { session with
        resetNeeded := true
        observed := .unknown
        prepared := none
        encoder := none
        generation := st.nextGeneration + 1 }
    simp only [heq, hreset rfl]
    exact .retired attempts task none nofun
  | @built _ _ edited zoneId session renderer liveStream live renderer_eq created =>
    refine edit st _ edited (session_built st edited zoneId renderer liveStream)
      (fun session live' => ?_) id
    refine .retired _ _ _ fun new heq => ?_
    cases heq
    exact playbackEpoch_of_created live' created
  | pauseFinished =>
    exact edit st _ _ (session_nextDownstreamGeneration st _)
      (fun session _ => .stopped ⟨_, _, List.mem_cons_self⟩) id
  | cohortReleased => exact same st _ (by rw [session_openPlay, session_handOver]) id
  | @streamStarted _ _ release stream rest roles =>
    obtain ⟨planned, playbackRelease, f, heq, hlookup, hf⟩ := startStream_spec env release.joins
      release.delays release.cutoff st roles stream
    rw [heq]
    refine edit st _ stream.sessionId (fun other => ?_)
      (fun session _ => .planned (hf session) rfl rfl) id
    exact hlookup other
  | _ => exact same st _ rfl id

theorem encoderClosed {edited : SessionId} {zoneId : ZoneId} {frames : List BridgeFrame}
    {session : SessionRuntime} (begins : stack = [])
    (guarded : guard st (.event (.pcm edited zoneId frames)))
    (live : st.session edited = some session) (closes : frames.any session.closes = true)
    (id : SessionId) : SessionStep guard stack st stack' id (st.session id)
      ((st.encoderInputClosed env edited session).session id) := by
  unfold BridgeRuntime.encoderInputClosed
  split
  · refine edit st _ edited (session_encoderRetried st edited session.zoneId)
      (fun old live' => ?_) id
    rw [live] at live'
    cases live'
    obtain ⟨attempts, task, reset, heq, -⟩ := retryOrReset_eq st.now
      ⟨edited, session.zoneId, st.nextGeneration + 1⟩ { session with
        prepared := none
        resetNeeded := true
        encoder := none
        generation := st.nextGeneration + 1 }
    simp only [heq]
    exact .encoderClosed zoneId frames attempts task reset begins guarded closes
  · refine edit st _ _ (session_retireEncoder env st edited session.zoneId) (fun old live' => ?_) id
    rw [live] at live'
    cases live'
    exact .encoderClosed zoneId frames _ _ true begins guarded closes

/-- A start whose outcome leaves the room uncertain schedules a retry or resets. -/
theorem uncertain (result : DownstreamStartResult) (begins : stack = []) (id : SessionId)
    (sessions : st'.session =
      ((st.takeResult.startUncertain result.sessionId result.outcome).scheduleDownstreamRetry
        result.sessionId result.zoneId result.generation).1.session) :
    SessionStep guard stack st stack' id (st.session id) (st'.session id) := by
  refine edit st st' _ (fun other => (congrFun sessions other).trans
    (GenerationStep.session_startUncertain_retry st result other)) (fun session _ => ?_) id
  obtain ⟨attempts, task, reset, heq, -⟩ := retryOrReset_eq
    (st.takeResult.startUncertain result.sessionId result.outcome).now
    ⟨result.sessionId, result.zoneId, result.generation⟩
    { session with observed := .unknown, resetNeeded := session.prepared.isNone }
  simp only [heq]
  exact .unsettled reset attempts task begins

theorem move (h : Move env guard stack st stack' st') (id : SessionId) :
    SessionStep guard stack st stack' id (st.session id) (st'.session id) := by
  cases h with
  | inner move => exact inner move id
  | workerReplied => exact same st _ (session_deliver (st.setWorker _ _) _) id
  | @groupReleased _ zoneId worker stream joins delay since _ found waiting released =>
    obtain ⟨-, rfl⟩ := releaseGroup_spec released
    cases delay <;> exact same st _ rfl id
  | retryFired => exact edit st _ _ (session_sendRetry st _ _) (fun session _ => .kept _ _) id
  | @cleanupFired _ _ session task live timer pending due =>
    refine edit st _ _ (session_sendCleanup st _ task) (fun session' live' => ?_) id
    rw [live] at live'
    cases live'
    exact .cleanupFired task rfl timer pending due
  | @cleanupDeferred _ _ zoneId session live unwanted guarded =>
    refine edit st _ _ (session_deferCleanup st _) (fun session' live' => ?_) id
    rw [live] at live'
    cases live'
    exact .cleanupDeferred zoneId rfl unwanted guarded
  | resumed live wanted clean guarded =>
    exact edit st _ _ (session_resumePlayback st _) (fun session _ => .resumed _ _ rfl guarded) id
  | @resumedRestart _ edited zoneId session address live stale guarded =>
    exact edit st _ edited (session_resumedRestart st edited)
      (fun session _ => .resumed zoneId _ rfl guarded) id
  | @flushedPlaying _ edited zoneId session playbackEpoch address live wanted newer =>
    refine edit st _ edited (session_flushedPlaying st edited playbackEpoch)
      (fun session' live' => ?_) id
    rw [live] at live'
    cases live'
    exact .flushed playbackEpoch _ _ rfl newer (fun _ => rfl)
      (.inr ⟨zoneId, _, List.mem_singleton_self _⟩)
  | paused =>
    exact edit st _ _ (session_pausePlayback st _)
      (fun session _ => .paused rfl ⟨_, _, List.mem_singleton_self _⟩) id
  | @flushedPaused _ edited zoneId session playbackEpoch live unwanted newer =>
    refine edit st _ edited (session_flushedPaused st edited playbackEpoch)
      (fun session' live' => ?_) id
    rw [live] at live'
    cases live'
    refine .flushed playbackEpoch none _ rfl newer (fun wanted => ?_) (.inl rfl)
    rw [unwanted] at wanted
    cases wanted
  | @sessionRemoved _ gone zoneId session live =>
    rw [session_disband, session_removeSession]
    split
    · case isTrue heq =>
      subst heq
      rw [live]
      exact .removed rfl
    · exact same st _ rfl id
  | @sessionInserted _ new zoneId renderer format sender address renderer_eq free guarded =>
    by_cases hid : id = new
    · subst hid
      rw [session_disband, session_cancelDownstreamRetry, if_pos rfl, session_insertSession,
        if_pos rfl]
      exact .inserted zoneId format sender rfl guarded
    · rw [session_disband, session_cancelDownstreamRetry, if_neg hid, session_insertSession,
        if_neg hid]
      exact same st _ rfl id
  | @encoderClosed _ edited zoneId frames session guarded live closes =>
    exact encoderClosed rfl guarded live closes id
  | @resultPaused _ result =>
    refine edit st _ _ (session_notePaused st.takeResult _ _) (fun session _ => .noted _ rfl ?_) id
    split <;> exact fun h => by cases h
  | @startSucceeded _ result rest session first live current wanted outcome =>
    refine edit st _ _ (session_startSucceeded st.takeResult _ _) (fun session' live' => ?_) id
    rw [live] at live'
    cases live'
    exact .played result rfl (first ▸ List.mem_cons_self) rfl current wanted outcome
  | @startRetried _ result => exact uncertain result rfl id rfl
  | @startExhausted _ result => exact uncertain result rfl id rfl
  | startAbandoned =>
    exact edit st _ _ (session_abandonStart st.takeResult _) (fun session _ => .unsettled _ _ _ rfl) id
  | @retryReplayed _ retry rest session prepared guarded first live current wanted kept =>
    refine edit st _ _ (session_replayPrepared env st.takeRetry _ _ _) (fun session' live' => ?_) id
    rw [live] at live'
    cases live'
    exact .replayed prepared rfl kept
  | @retryRestarted _ retry =>
    exact edit st _ _ (session_retryRestarted st retry.sessionId) (fun session _ => .kept _ _) id
  | @preparedListed _ prepared rest session first live current wanted =>
    refine edit st _ _ (session_keepPrepared st.takePrepared prepared) (fun session' live' => ?_) id
    rw [live] at live'
    cases live'
    exact .prepared prepared rfl rfl current wanted
  | @preparedPlayed _ prepared rest session first live current wanted =>
    refine edit st _ _ (session_preparedPlayed st prepared) (fun session' live' => ?_) id
    rw [live] at live'
    cases live'
    exact .prepared prepared rfl rfl current wanted
  | _ => exact same st _ rfl id

end SessionStep

theorem Pausing.inner {stack stack' : List Frame} {st st' : BridgeRuntime} {id : SessionId}
    (move : Inner env stack st stack' st') (h : Pausing stack id) :
    Pausing stack' id ∨
      ∀ session, st'.session id = some session → session.generation = st.nextGeneration + 1 := by
  cases move with
  | memberSkipped =>
    obtain ⟨zoneId, todo, hframe⟩ := h
    obtain heq | hmem := List.mem_cons.mp hframe
    · cases heq
      exact .inl ⟨zoneId, _, List.mem_cons_self⟩
    · exact .inl ⟨zoneId, todo, List.mem_cons_of_mem _ hmem⟩
  | memberRestarted =>
    obtain ⟨zoneId, todo, hframe⟩ := h
    obtain heq | hmem := List.mem_cons.mp hframe
    · cases heq
      exact .inl ⟨zoneId, _, List.mem_cons_of_mem _ List.mem_cons_self⟩
    · exact .inl ⟨zoneId, todo, List.mem_cons_of_mem _ (List.mem_cons_of_mem _ hmem)⟩
  | @pauseFinished _ _ paused zoneId =>
    by_cases hid : id = paused
    · subst hid
      right
      intro session live
      rw [session_stopPaused, session_nextDownstreamGeneration, if_pos rfl] at live
      obtain ⟨old, -, rfl⟩ := Option.map_eq_some_iff.mp live
      rfl
    · left
      refine (h.pop fun other todo heq => hid ?_).push _
      cases heq
      rfl
  | cohortDropped => exact .inl h
  | cohortReleased => exact .inl (h.push _)
  | built => exact .inl ((h.pop fun _ _ heq => by cases heq).push _)
  | stopFinished => exact .inl ((h.pop fun _ _ heq => by cases heq).push _)
  | streamStarted => exact .inl ((h.pop fun _ _ heq => by cases heq).push _)
  | _ => exact .inl (h.pop fun _ _ heq => by cases heq)

/-- The pause of a session ends with a new generation. -/
theorem Pausing.move {stack stack' : List Frame} {st st' : BridgeRuntime} {id : SessionId}
    (move : Move env guard stack st stack' st') (h : Pausing stack id) :
    Pausing stack' id ∨
      ∀ session, st'.session id = some session → session.generation = st.nextGeneration + 1 := by
  cases move with
  | inner move => exact h.inner move
  | _ =>
    obtain ⟨zoneId, todo, hframe⟩ := h
    cases hframe

end AirSonos
