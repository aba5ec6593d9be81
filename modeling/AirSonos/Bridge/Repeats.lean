import AirSonos.Bridge.Generations

/-!
# Repeated requests for playback

A session that wants playback is asked for it again. Whether its downstream is replaced depends
on one flag, which every replacement sets. It stays set until a room has reported how a start
of the current generation ended.
-/

namespace AirSonos

open Relation BridgeRuntime

variable {env : Env} {guard : BridgeRuntime → BridgeLabel → Prop}

namespace SessionRuntime

/-- The session wants playback, and nothing asks for a new downstream. -/
def Clean (session : SessionRuntime) : Prop :=
  session.desiredPlayback = true ∧ session.resetNeeded = false

end SessionRuntime

/-- The result tells how a start of this generation of the session ended. -/
structure DownstreamStartResult.Settles (id : SessionId) (generation : Nat)
    (result : DownstreamStartResult) : Prop where
  names : result.sessionId = id
  current : result.generation = generation
  starts : result.outcome ≠ .stopped ∧ result.outcome ≠ .stopUnknown

/-- A move takes results, and a session is clean after it only if it was before, is about to be
rebuilt, or has a result. -/
structure CleanStep (stack : List Frame) (st : BridgeRuntime) (stack' : List Frame)
    (st' : BridgeRuntime) : Prop where
  results : st'.resultRx ⊆ st.resultRx
  clean : ∀ id session', st'.session id = some session' → session'.Clean →
    (∃ session, st.session id = some session ∧ session.Clean ∧
      session.generation = session'.generation ∧ (Restarting stack id → Restarting stack' id)) ∨
    Restarting stack' id ∨ ∃ result ∈ st.resultRx, result.Settles id session'.generation

namespace CleanStep

variable {stack stack' : List Frame} {st st' : BridgeRuntime}

theorem same (results : st'.resultRx ⊆ st.resultRx) (sessions : st'.session = st.session)
    (hstack : ∀ id, Restarting stack id → Restarting stack' id) :
    CleanStep stack st stack' st' := by
  refine ⟨results, ?_⟩
  intro id session' live' hclean
  rw [sessions] at live'
  exact .inl ⟨session', live', hclean, rfl, hstack id⟩

theorem edit {f : SessionRuntime → SessionRuntime} (id : SessionId)
    (results : st'.resultRx ⊆ st.resultRx)
    (sessions : ∀ other, st'.session other =
      if other = id then (st.session other).map f else st.session other)
    (hf : ∀ session, st.session id = some session → (f session).Clean →
      (session.Clean ∧ session.generation = (f session).generation ∧
        (Restarting stack id → Restarting stack' id)) ∨
      Restarting stack' id ∨ ∃ result ∈ st.resultRx, result.Settles id (f session).generation)
    (hstack : ∀ other, other ≠ id → Restarting stack other → Restarting stack' other) :
    CleanStep stack st stack' st' := by
  refine ⟨results, ?_⟩
  intro other session' live' hclean
  rw [sessions] at live'
  split at live'
  · case isTrue heq =>
    subst heq
    obtain ⟨session, live, rfl⟩ := Option.map_eq_some_iff.mp live'
    obtain ⟨hold, hsame, hkeep⟩ | hother := hf session live hclean
    · exact .inl ⟨session, live, hold, hsame, hkeep⟩
    · exact .inr hother
  · case isFalse hne =>
    exact .inl ⟨session', live', hclean, rfl, hstack other hne⟩

/-- A session whose flag is set is not clean. -/
theorem not_clean {session : SessionRuntime} {P : Prop} (clean : session.Clean)
    (reset : session.resetNeeded = true) : P :=
  absurd (reset.symm.trans clean.2) nofun

theorem retryOrReset_clean {now : Instant} {retry : DownstreamRetry} {session : SessionRuntime}
    (clean : (retryOrReset now retry session).Clean) : session.Clean := by
  unfold retryOrReset at clean
  split at clean
  · exact clean
  · exact not_clean clean rfl

theorem resultRx_invalidateDownstream (st : BridgeRuntime) (id : SessionId) (zoneId : ZoneId) :
    (st.invalidateDownstream env id zoneId).resultRx = st.resultRx := rfl

theorem resultRx_admitDownstream (st : BridgeRuntime) (id : SessionId) (zoneId : ZoneId)
    (renderer : Renderer) (liveStream : LiveStream) :
    (st.admitDownstream env id zoneId renderer liveStream).resultRx = st.resultRx := rfl

theorem inner (framed : Framed stack st) (move : Inner env stack st stack' st') :
    CleanStep stack st stack' st' := by
  have hsame : st.resultRx ⊆ st.resultRx := fun _ h => h
  cases move with
  | memberSkipped => exact same hsame rfl fun _ => Restarting.advance
  | memberRestarted =>
    refine edit _ hsame (session_cancelDownstreamRetry st _) ?_ ?_
    · intro session live hclean
      exact .inl ⟨hclean, rfl, fun h => h.advance.push _⟩
    · intro other _ h
      exact h.advance.push _
  | @vanished _ _ id zoneId gone =>
    refine ⟨hsame, ?_⟩
    intro other session' live' hclean
    refine .inl ⟨session', live', hclean, rfl, fun restarting => ?_⟩
    apply restarting.pop
    intro zoneId todo heq
    cases heq
    rw [gone] at live'
    cases live'
  | rendererMissing =>
    refine edit _ hsame (session_retireDownstream st _) ?_ ?_
    · intro session _ hclean
      exact not_clean hclean rfl
    · intro other hne h
      exact h.pop fun zoneId todo heq => hne (by cases heq; rfl)
  | @buildFailed _ _ id zoneId =>
    refine edit id hsame (session_buildFailed st id zoneId) ?_ ?_
    · intro session _ hclean
      exact not_clean (retryOrReset_clean hclean) rfl
    · intro other hne h
      exact h.pop fun zoneId todo heq => hne (by cases heq; rfl)
  | @built _ _ id zoneId session renderer liveStream =>
    refine edit id ?_ (session_built st id zoneId renderer liveStream) ?_ ?_
    · rw [resultRx_admitDownstream, resultRx_invalidateDownstream]
      exact hsame
    · intro session _ hclean
      exact not_clean hclean rfl
    · intro other hne h
      exact (h.pop fun zoneId todo heq => hne (by cases heq; rfl)).push _
  | left => exact same hsame rfl fun _ h => h.pop (by nofun)
  | @pauseFinished _ _ id zoneId =>
    refine edit id hsame (session_nextDownstreamGeneration st id) ?_ ?_
    · intro session live hclean
      obtain ⟨paused, hpaused, hunwanted⟩ := framed _ _ List.mem_cons_self
      rw [live] at hpaused
      cases hpaused
      exact absurd (hclean.1.symm.trans hunwanted) nofun
    · intro other _ h
      exact (h.pop (by nofun)).push _
  | stopFinished => exact same hsame rfl fun _ h => (h.pop (by nofun)).push _
  | cohortDropped => exact same hsame rfl fun _ h => h
  | @cohortReleased _ _ cohort rest =>
    refine same ?_ ?_ fun _ h => h.push _
    · obtain ⟨groupJoins, nextGroupJoins, heq⟩ := openPlay_spec env
        (st.handOver (st.pruneCohort cohort) rest) (st.pruneCohort cohort).preparedStreams
      rw [heq]
      exact hsame
    · rw [session_openPlay, session_handOver]
  | cohortKept => exact same hsame rfl fun _ h => h.pop (by nofun)
  | cohortsDone => exact same hsame rfl fun _ h => h.pop (by nofun)
  | @streamStarted _ _ release stream rest roles =>
    obtain ⟨planned, playbackRelease, f, heq, hlookup, hf⟩ := startStream_spec env release.joins
      release.delays release.cutoff st roles stream
    rw [heq]
    refine edit stream.sessionId hsame hlookup ?_ ?_
    · intro session live hclean
      obtain ⟨delay, held, hplanned, -⟩ := (hf session).spec
      rw [hplanned] at hclean ⊢
      exact .inl ⟨hclean, rfl, fun h => (h.pop (by nofun)).push _⟩
    · intro other _ h
      exact (h.pop (by nofun)).push _
  | startsDone => exact same hsame rfl fun _ h => h.pop (by nofun)

/-- Nothing is being rebuilt when the move begins. -/
theorem sameOuter (results : st'.resultRx ⊆ st.resultRx) (sessions : st'.session = st.session) :
    CleanStep [] st stack' st' :=
  same results sessions fun id h => absurd h (not_restarting_nil id)

theorem editOuter {f : SessionRuntime → SessionRuntime} (id : SessionId)
    (results : st'.resultRx ⊆ st.resultRx)
    (sessions : ∀ other, st'.session other =
      if other = id then (st.session other).map f else st.session other)
    (hf : ∀ session, st.session id = some session → (f session).Clean →
      (session.Clean ∧ session.generation = (f session).generation) ∨
      Restarting stack' id ∨ ∃ result ∈ st.resultRx, result.Settles id (f session).generation) :
    CleanStep [] st stack' st' := by
  refine edit id results sessions ?_ fun other _ h => absurd h (not_restarting_nil other)
  intro session live hclean
  obtain ⟨hold, hsame⟩ | hother := hf session live hclean
  · exact .inl ⟨hold, hsame, fun h => absurd h (not_restarting_nil id)⟩
  · exact .inr hother

/-- A result of the current generation says how the start of the session ended. -/
theorem settled {f : SessionRuntime → SessionRuntime} {result : DownstreamStartResult}
    {rest : List DownstreamStartResult} {session : SessionRuntime}
    (first : st.resultRx = result :: rest) (live : st.session result.sessionId = some session)
    (current : session.generation = result.generation)
    (starts : result.outcome ≠ .stopped ∧ result.outcome ≠ .stopUnknown)
    (results : st'.resultRx ⊆ st.resultRx)
    (sessions : ∀ other, st'.session other =
      if other = result.sessionId then (st.session other).map f else st.session other)
    (kept : ∀ session, (f session).generation = session.generation) :
    CleanStep [] st stack' st' := by
  refine editOuter _ results sessions fun session' live' _ => ?_
  rw [live] at live'
  cases live'
  rw [kept]
  exact .inr (.inr ⟨result, first ▸ List.mem_cons_self, rfl, current.symm, starts⟩)

theorem uncertain {result : DownstreamStartResult} {rest : List DownstreamStartResult}
    {session : SessionRuntime} (first : st.resultRx = result :: rest)
    (live : st.session result.sessionId = some session)
    (current : session.generation = result.generation)
    (outcome : result.outcome = .unknown ∨ result.outcome = .failed)
    (results : st'.resultRx =
      (st.takeResult.startUncertain result.sessionId result.outcome).resultRx)
    (sessions : st'.session =
      ((st.takeResult.startUncertain result.sessionId result.outcome).scheduleDownstreamRetry
        result.sessionId result.zoneId result.generation).1.session) :
    CleanStep [] st stack' st' := by
  have starts : result.outcome ≠ .stopped ∧ result.outcome ≠ .stopUnknown := by
    obtain heq | heq := outcome <;> rw [heq] <;> decide
  refine settled first live current starts ?_ (fun other => (congrFun sessions other).trans
    (GenerationStep.session_startUncertain_retry st result other))
    fun _ => GenerationStep.retryOrReset_generation _ _ _
  obtain ⟨nativeGroups, heq⟩ := startUncertain_spec st.takeResult result.sessionId result.outcome
  rw [results, heq]
  exact fun _ => List.mem_of_mem_tail

theorem removed (id : SessionId) (results : st'.resultRx ⊆ st.resultRx)
    (sessions : ∀ other, st'.session other = if other = id then none else st.session other) :
    CleanStep [] st stack' st' := by
  refine ⟨results, fun other session' live' hclean => ?_⟩
  rw [sessions] at live'
  split at live'
  · cases live'
  · exact .inl ⟨session', live', hclean, rfl, fun h => absurd h (not_restarting_nil other)⟩

theorem encoderClosed (id : SessionId) (session : SessionRuntime) :
    CleanStep [] st stack' (st.encoderInputClosed env id session) := by
  have hsame : st.resultRx ⊆ st.resultRx := fun _ h => h
  unfold BridgeRuntime.encoderInputClosed
  split
  · refine editOuter id hsame (session_encoderRetried st id session.zoneId) ?_
    intro old _ hclean
    exact not_clean (retryOrReset_clean hclean) rfl
  · refine editOuter id hsame (session_retireEncoder env st id session.zoneId) ?_
    intro old _ hclean
    exact not_clean hclean rfl

/-- No worker replies under the guard. -/
theorem move (silent : ∀ st zoneId reply, ¬guard st (.worker zoneId (.reply reply)))
    (framed : Framed stack st) (h : Move env guard stack st stack' st') :
    CleanStep stack st stack' st' := by
  have hsame : st.resultRx ⊆ st.resultRx := fun _ h => h
  have htail : st.resultRx.tail ⊆ st.resultRx := fun _ => List.mem_of_mem_tail
  cases h with
  | inner move => exact inner framed move
  | workerReplied guarded => exact absurd guarded (silent _ _ _)
  | @groupReleased _ zoneId worker stream joins delay since _ found waiting released =>
    obtain ⟨-, rfl⟩ := releaseGroup_spec released
    cases delay <;> exact sameOuter hsame rfl
  | @retryFired _ id session task =>
    refine editOuter id hsame (session_sendRetry st id task) ?_
    intro session _ hclean
    exact .inl ⟨hclean, rfl⟩
  | @cleanupFired _ id session task =>
    refine editOuter id hsame (session_sendCleanup st id task) ?_
    intro session _ hclean
    exact .inl ⟨hclean, rfl⟩
  | @cleanupDeferred _ id =>
    refine editOuter id hsame (session_deferCleanup st id) ?_
    intro session _ hclean
    exact not_clean hclean rfl
  | @resumed _ id zoneId session live wanted clean =>
    refine editOuter id hsame (session_resumePlayback st id) ?_
    intro session' live' _
    rw [live] at live'
    cases live'
    exact .inl ⟨⟨wanted, clean⟩, rfl⟩
  | @resumedRestart _ id zoneId =>
    refine editOuter id hsame (session_resumedRestart st id) ?_
    intro session _ _
    exact .inr (.inl ⟨zoneId, _, List.mem_singleton_self _⟩)
  | @flushedPlaying _ id zoneId session playbackEpoch =>
    refine editOuter id hsame (session_flushedPlaying st id playbackEpoch) ?_
    intro session _ hclean
    exact .inl ⟨hclean, rfl⟩
  | @paused _ id =>
    refine editOuter id hsame (session_pausePlayback st id) ?_
    intro session _ hclean
    exact not_clean hclean rfl
  | @flushedPaused _ id zoneId session playbackEpoch =>
    refine editOuter id hsame (session_flushedPaused st id playbackEpoch) ?_
    intro session _ hclean
    exact .inl ⟨hclean, rfl⟩
  | @sessionRemoved _ id => exact removed id hsame (session_removeSession st id)
  | @sessionInserted _ id zoneId renderer format sender =>
    refine ⟨hsame, ?_⟩
    intro other session' live' hclean
    by_cases hid : other = id
    · subst other
      exact .inr (.inl ⟨zoneId, _, List.mem_singleton_self _⟩)
    · rw [session_disband, session_cancelDownstreamRetry, if_neg hid, session_insertSession,
        if_neg hid] at live'
      exact .inl ⟨session', live', hclean, rfl, fun h => absurd h (not_restarting_nil other)⟩
  | @encoderClosed _ id zoneId frames session => exact encoderClosed id session
  | resultDropped => exact sameOuter htail rfl
  | resultPaused =>
    refine editOuter _ htail (session_notePaused st.takeResult _ _) ?_
    intro session _ hclean
    exact .inl ⟨hclean, rfl⟩
  | @startSucceeded _ result rest session first live current wanted outcome =>
    have starts : result.outcome ≠ .stopped ∧ result.outcome ≠ .stopUnknown := by
      obtain heq | heq := outcome <;> rw [heq] <;> decide
    refine settled first live current starts ?_ (session_startSucceeded st.takeResult _ _)
      fun _ => rfl
    obtain ⟨nativeGroups, heq⟩ := startSucceeded_spec st.takeResult result.sessionId result.outcome
    rw [heq]
    exact htail
  | @startRetried _ result rest session first live current wanted outcome =>
    exact uncertain first live current outcome rfl rfl
  | @startExhausted _ result rest session first live current wanted outcome =>
    exact uncertain first live current outcome rfl rfl
  | startAbandoned =>
    refine editOuter _ htail (session_abandonStart st.takeResult _) ?_
    intro session _ hclean
    exact not_clean hclean rfl
  | @retryReplayed _ retry rest session prepared =>
    refine editOuter _ ?_ (session_replayPrepared env st.takeRetry _ _ _) ?_
    · obtain ⟨playbackRelease, heq⟩ := replayPrepared_spec env st.takeRetry
        retry.sessionId retry.zoneId prepared
      rw [heq]
      exact hsame
    · intro session _ hclean
      exact .inl ⟨hclean, rfl⟩
  | @retryRestarted _ retry =>
    refine editOuter _ hsame (session_retryRestarted st retry.sessionId) ?_
    intro session _ hclean
    exact .inl ⟨hclean, rfl⟩
  | @preparedListed _ prepared =>
    refine editOuter _ hsame (session_keepPrepared st.takePrepared prepared) ?_
    intro session _ hclean
    exact .inl ⟨hclean, rfl⟩
  | @preparedPlayed _ prepared =>
    refine editOuter _ ?_ (session_preparedPlayed st prepared) ?_
    · obtain ⟨groupJoins, nextGroupJoins, heq⟩ := openPlay_spec env
        (st.takePrepared.keepPrepared prepared) [prepared]
      rw [heq]
      exact hsame
    · intro session _ hclean
      exact .inl ⟨hclean, rfl⟩
  | _ => exact sameOuter hsame rfl

end CleanStep

/-- A step clears the flag of a session only with a result of its generation. -/
theorem clean_step {st st' : BridgeRuntime} {label : BridgeLabel}
    (taken : st.step env label = some st') {id : SessionId} {session' : SessionRuntime}
    (live' : st'.session id = some session') (clean : session'.Clean) :
    (∃ session, st.session id = some session ∧ session.Clean ∧
      session.generation = session'.generation) ∨
    ∃ result ∈ st.resultRx, result.Settles id session'.generation := by
  by_cases hreply : ∃ zoneId reply, label = .worker zoneId (.reply reply)
  · obtain ⟨zoneId, reply, rfl⟩ := hreply
    obtain ⟨worker, -, hstep⟩ := Option.bind_eq_some_iff.mp taken
    obtain ⟨⟨worker', outputs⟩, -, rfl⟩ := Option.map_eq_some_iff.mp hstep
    rw [session_deliver, session_setWorker] at live'
    exact .inl ⟨session', live', clean, rfl⟩
  · have hchain : Chain env (fun _ l => l = label) ([], st) ([], st') := step_chain rfl taken
    have hsilent : ∀ (st : BridgeRuntime) zoneId reply,
        ¬(fun (_ : BridgeRuntime) l => l = label) st (.worker zoneId (.reply reply)) := by
      intro _ zoneId reply heq
      exact hreply ⟨zoneId, reply, heq.symm⟩
    have hsteps : ∀ b, Chain env (fun _ l => l = label) ([], st) b →
        Framed b.1 b.2 ∧ b.2.resultRx ⊆ st.resultRx ∧
        ∀ session', b.2.session id = some session' → session'.Clean →
          (∃ session, st.session id = some session ∧ session.Clean ∧
            session.generation = session'.generation) ∨
          Restarting b.1 id ∨ ∃ result ∈ st.resultRx, result.Settles id session'.generation := by
      intro b steps
      induction steps with
      | refl =>
        refine ⟨.nil st, fun _ h => h, ?_⟩
        intro session live hclean
        exact .inl ⟨session, live, hclean, rfl⟩
      | tail _ move ih =>
        obtain ⟨hframed, hresults, hclean⟩ := ih
        have hmove := CleanStep.move hsilent hframed move
        refine ⟨hframed.move move, fun _ h => hresults (hmove.results h), ?_⟩
        intro session' live' hclean'
        obtain ⟨session, live, hold, hsame, hkeep⟩ | hrestarting | ⟨result, hmem, hsettles⟩ :=
          hmove.clean id session' live' hclean'
        · rw [← hsame]
          exact (hclean session live hold).imp_right fun h => h.imp_left hkeep
        · exact .inr (.inl hrestarting)
        · exact .inr (.inr ⟨result, hresults hmem, hsettles⟩)
    obtain hold | hrestarting | hresult := (hsteps _ hchain).2.2 session' live' clean
    · exact .inl hold
    · exact absurd hrestarting (not_restarting_nil id)
    · exact .inr hresult

/-- At some point of the run a result of this generation waited for the runtime. -/
def Reported (env : Env) (labels : List BridgeLabel) (id : SessionId) (generation : Nat) : Prop :=
  ∃ earlier later before, labels = earlier ++ later ∧
    (bridge env).run .new earlier = some before ∧
    ∃ result ∈ before.resultRx, result.Settles id generation

theorem Reported.append {labels : List BridgeLabel} {id : SessionId} {generation : Nat}
    (h : Reported env labels id generation) (more : List BridgeLabel) :
    Reported env (labels ++ more) id generation := by
  obtain ⟨earlier, later, before, rfl, hrun, hresult⟩ := h
  exact ⟨earlier, later ++ more, before, List.append_assoc _ _ _, hrun, hresult⟩

/-- A session is clean at the end of a run only if a start of its generation was reported. -/
theorem reported_of_clean {labels : List BridgeLabel} {st : BridgeRuntime}
    (h : (bridge env).run .new labels = some st) {id : SessionId} {session : SessionRuntime}
    (live : st.session id = some session) (clean : session.Clean) :
    Reported env labels id session.generation := by
  have hruns : ∀ session, st.session id = some session → session.Clean →
      Reported env labels id session.generation := by
    refine TransitionSystem.run_induction (S := bridge env)
      (P := fun labels st => ∀ session, st.session id = some session → session.Clean →
        Reported env labels id session.generation) ?_ ?_ h
    · intro session live
      cases live
    · intro labels st label st' hrun ih taken session' live' hclean
      obtain ⟨session, live, hold, hsame⟩ | hresult := clean_step taken live' hclean
      · rw [← hsame]
        exact (ih session live hold).append [label]
      · exact ⟨labels, [label], st, rfl, hrun, hresult⟩
  exact hruns session live clean

/-- The request for playback of a session, addressed to its room. -/
def playAgain (env : Env) (id : SessionId) : BridgeLabel :=
  .event (.playbackState id (env.zoneOf id) true)

/-- What a further request does to a session that wants playback already. -/
structure RepeatedPlay (env : Env) (labels : List BridgeLabel) (st : BridgeRuntime)
    (id : SessionId) (session : SessionRuntime) : Prop where
  answered : st.stopped = false → ∃ st', st.step env (playAgain env id) = some st'
  unreported : ¬Reported env labels id session.generation → session.resetNeeded = true
  replaced : session.resetNeeded = true → ∀ st', st.step env (playAgain env id) = some st' →
    ∃ session', st'.session id = some session' ∧ session'.desiredPlayback = true ∧
      session.generation < session'.generation
  kept : session.resetNeeded = false → ∀ st', st.step env (playAgain env id) = some st' →
    (∃ session', st'.session id = some session' ∧ session'.generation = session.generation ∧
      session'.encoder = session.encoder ∧ session'.prepared = session.prepared) ∧
    st'.cohorts = st.cohorts ∧ st'.nativeGroups = st.nativeGroups ∧
    st'.zoneWorkers = st.zoneWorkers

/-- A session that is being rebuilt has a new generation at the end. -/
theorem InnerChain.generation_lt {a b : List Frame × BridgeRuntime} (h : InnerChain env a b)
    {id : SessionId} (restarting : Restarting a.1 id) :
    a.2.nextGeneration ≤ b.2.nextGeneration ∧
      ∀ generation, b.2.generationOf id = some generation →
        a.2.nextGeneration < generation ∨ Restarting b.1 id := by
  induction h with
  | refl => exact ⟨le_rfl, fun _ _ => .inr restarting⟩
  | tail _ move ih =>
    have hmove := GenerationStep.inner move
    refine ⟨ih.1.trans hmove.next, ?_⟩
    intro generation live
    obtain ⟨hsame, hkeep⟩ | hnew | hrestarting := hmove.session id generation live
    · exact (ih.2 generation hsame).imp_right hkeep
    · exact .inl (ih.1.trans_lt hnew)
    · exact .inr hrestarting

/-- A restart gives the session a later generation than any before, and keeps its demand. -/
theorem restart_replaces {st st' : BridgeRuntime} {id : SessionId} {zoneId : ZoneId}
    {session : SessionRuntime} (live : st.session id = some session)
    (h : st.restart env id zoneId = some st') :
    ∃ session', st'.session id = some session' ∧ session'.demand = session.demand ∧
      st.nextGeneration < session'.generation := by
  have hchain := restart_chain [] h
  have hdemand : st'.demand = st.demand :=
    hchain.demand.trans ((demand_of_sessions rfl).trans (demand_cancelDownstreamRetry st id))
  obtain ⟨session', live', hsame⟩ := session_of_demand hdemand live
  refine ⟨session', live', hsame, ?_⟩
  have hrestarting : Restarting [(st.cancelDownstreamRetry id).leaveFrame (.restart id zoneId)] id :=
    ⟨zoneId, _, List.mem_singleton_self _⟩
  obtain hlater | hleft := (hchain.generation_lt hrestarting).2 session'.generation
    (by simp [BridgeRuntime.generationOf, live'])
  · exact hlater
  · exact absurd hleft (not_restarting_nil id)

theorem step_playAgain (st : BridgeRuntime) (id : SessionId) :
    st.step env (playAgain env id) =
      if st.stopped then none else st.setPlaybackState env id (env.zoneOf id) true := by
  have haddress : (AirPlayEvent.playbackState id (env.zoneOf id) true).WellFormed env := by
    intro id' zoneId heq
    cases heq
    rfl
  simp only [playAgain, BridgeRuntime.step, serve, handleEvent, if_pos haddress]

/-- A repeated request is decided by the flag. It is set while no start of the generation was
reported, and then the downstream is replaced; where it is clear, nothing is touched. -/
theorem repeated_play (env : Env) {labels : List BridgeLabel} {st : BridgeRuntime}
    (h : (bridge env).run .new labels = some st) {id : SessionId} {session : SessionRuntime}
    (live : st.session id = some session) (wanted : session.desiredPlayback = true) :
    RepeatedPlay env labels st id session := by
  have hreachable : (bridge env).Reachable st := TransitionSystem.Reachable.of_run .init h
  have hbounded : session.generation ≤ st.nextGeneration :=
    ((Visited.of_reachable hreachable).coherent.session id session live).bounded
  have hresumed : (st.resumePlayback id).session id = some
      { session with
        desiredPlayback := true
        retryAttempts := 0
        cleanupDeadline := none
        cleanupTask := none } := by
    rw [session_resumePlayback, if_pos rfl, live]
    rfl
  constructor
  · intro running
    rw [step_playAgain, running]
    exact setPlaybackState_total env st id _ true
  · intro unreported
    rw [← Bool.not_eq_false]
    intro hclear
    exact unreported (reported_of_clean h live ⟨wanted, hclear⟩)
  · intro hset st' taken
    rw [step_playAgain] at taken
    split at taken
    · cases taken
    · simp only [setPlaybackState, live, wanted, hset, shouldRestartDownstreamForPlay,
        Bool.or_true, if_true] at taken
      obtain ⟨session', live', hdemand, hlater⟩ := restart_replaces hresumed taken
      exact ⟨session', live', congrArg Demand.desiredPlayback hdemand, hbounded.trans_lt hlater⟩
  · intro hclear st' taken
    rw [step_playAgain] at taken
    split at taken
    · cases taken
    · simp only [setPlaybackState, live, wanted, hclear, shouldRestartDownstreamForPlay, if_true] at taken
      cases taken
      exact ⟨⟨_, hresumed, rfl, rfl, rfl⟩, rfl, rfl, rfl⟩

/-- The theorem where the Kitchen plays and is asked to play again. -/
theorem repeated_play_in_kitchen :
    ∃ st session, (bridge Household.env).run .new
        (Household.started 0 1 :: Household.prepares 0 ++ Household.plays 0) = some st ∧
      st.session ⟨0⟩ = some session ∧ session.resetNeeded = false ∧
      RepeatedPlay Household.env
        (Household.started 0 1 :: Household.prepares 0 ++ Household.plays 0) st ⟨0⟩ session := by
  have hruns : (((bridge Household.env).run .new
      (Household.started 0 1 :: Household.prepares 0 ++ Household.plays 0)).bind fun st =>
        (st.session ⟨0⟩).map fun session => (session.desiredPlayback, session.resetNeeded)) =
      some (true, false) := by
    decide +kernel
  obtain ⟨st, hrun, hsession⟩ := Option.bind_eq_some_iff.mp hruns
  obtain ⟨session, live, hflags⟩ := Option.map_eq_some_iff.mp hsession
  obtain ⟨hwanted, hclear⟩ := Prod.mk.inj hflags
  exact ⟨st, session, hrun, live, hclear, repeated_play Household.env hrun live hwanted⟩

/-- The Kitchen prepares generation 1 and has reported nothing. A second request for playback
gives the session generation 2. -/
theorem play_again_while_preparing :
    ∃ st st', (bridge Household.env).run .new
        [Household.started 0 1, Household.moves 0 .take] = some st ∧
      (st.session ⟨0⟩).map (fun session => (session.desiredPlayback, session.generation)) =
        some (true, 1) ∧
      (st.zoneWorkers (Household.room 0)).bind (fun worker =>
        worker.running.map fun task => (task.command.isPrepare, task.command.generation)) =
          some (true, 1) ∧
      st.resultRx = [] ∧
      st.step Household.env (playAgain Household.env ⟨0⟩) = some st' ∧
      (st'.session ⟨0⟩).map SessionRuntime.generation = some 2 := by
  have hruns : (((bridge Household.env).run .new
      [Household.started 0 1, Household.moves 0 .take]).bind fun st =>
        (st.step Household.env (playAgain Household.env ⟨0⟩)).map fun st' =>
          ((st.session ⟨0⟩).map fun session => (session.desiredPlayback, session.generation),
            (st.zoneWorkers (Household.room 0)).bind fun worker =>
              worker.running.map fun task => (task.command.isPrepare, task.command.generation),
            st.resultRx.length, (st'.session ⟨0⟩).map SessionRuntime.generation)) =
      some (some (true, 1), some (true, 1), 0, some 2) := by
    decide +kernel
  obtain ⟨st, hrun, hstep⟩ := Option.bind_eq_some_iff.mp hruns
  obtain ⟨st', taken, hvalues⟩ := Option.map_eq_some_iff.mp hstep
  obtain ⟨hsession, hrest⟩ := Prod.mk.inj hvalues
  obtain ⟨hworker, hrest⟩ := Prod.mk.inj hrest
  obtain ⟨hresults, hafter⟩ := Prod.mk.inj hrest
  exact ⟨st, st', hrun, hsession, hworker, List.length_eq_zero_iff.mp hresults, taken, hafter⟩

end AirSonos
