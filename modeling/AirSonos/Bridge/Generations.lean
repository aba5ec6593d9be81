import AirSonos.Bridge.Coherence

/-!
# Generations never decrease

A handler may give a session several generations while it restarts it. Each of them is new, so
the generation of a session that stays only grows, and messages of older generations are told
apart from the current ones.
-/

namespace AirSonos

open Relation BridgeRuntime

variable {env : Env} {guard : BridgeRuntime → BridgeLabel → Prop}

def BridgeRuntime.generationOf (st : BridgeRuntime) (id : SessionId) : Option Nat :=
  (st.session id).map SessionRuntime.generation

/-- The session is being rebuilt. -/
def Restarting (stack : List Frame) (id : SessionId) : Prop :=
  ∃ zoneId todo, .leaving (.restart id zoneId) todo ∈ stack

theorem Restarting.push {stack : List Frame} {id : SessionId} (frame : Frame)
    (h : Restarting stack id) : Restarting (frame :: stack) id := by
  obtain ⟨zoneId, todo, hframe⟩ := h
  exact ⟨zoneId, todo, List.mem_cons_of_mem _ hframe⟩

theorem Restarting.pop {stack : List Frame} {frame : Frame} {id : SessionId}
    (other : ∀ zoneId todo, frame ≠ .leaving (.restart id zoneId) todo)
    (h : Restarting (frame :: stack) id) : Restarting stack id := by
  obtain ⟨zoneId, todo, hframe⟩ := h
  exact ⟨zoneId, todo,
    (List.mem_cons.mp hframe).resolve_left fun heq => other zoneId todo heq.symm⟩

/-- The frame on top has fewer members left to restart. -/
theorem Restarting.advance {stack : List Frame} {goal : Goal} {member : SessionId}
    {rest : List SessionId} {id : SessionId}
    (h : Restarting (.leaving goal (member :: rest) :: stack) id) :
    Restarting (.leaving goal rest :: stack) id := by
  obtain ⟨zoneId, todo, hframe⟩ := h
  rcases List.mem_cons.mp hframe with heq | hmem
  · cases heq
    exact ⟨zoneId, rest, List.mem_cons_self⟩
  · exact ⟨zoneId, todo, List.mem_cons_of_mem _ hmem⟩

theorem not_restarting_nil (id : SessionId) : ¬Restarting [] id := by
  rintro ⟨zoneId, todo, hframe⟩
  cases hframe

/-- A move keeps the generation of a session, gives it a new one, or leaves it to be rebuilt. -/
structure GenerationStep (stack : List Frame) (st : BridgeRuntime) (stack' : List Frame)
    (st' : BridgeRuntime) : Prop where
  next : st.nextGeneration ≤ st'.nextGeneration
  session : ∀ id generation, st'.generationOf id = some generation →
    st.generationOf id = some generation ∧ (Restarting stack id → Restarting stack' id) ∨
      st.nextGeneration < generation ∨ Restarting stack' id

namespace GenerationStep

variable {stack stack' : List Frame} {st st' : BridgeRuntime}

theorem same (next : st.nextGeneration ≤ st'.nextGeneration)
    (sessions : ∀ id, st'.generationOf id = st.generationOf id)
    (hstack : ∀ id, Restarting stack id → Restarting stack' id) :
    GenerationStep stack st stack' st' where
  next := next
  session := fun id _ h => .inl ⟨(sessions id).symm.trans h, hstack id⟩

theorem edit {f : SessionRuntime → SessionRuntime} (id : SessionId)
    (sessions : ∀ other, st'.session other =
      if other = id then (st.session other).map f else st.session other)
    (next : st.nextGeneration ≤ st'.nextGeneration)
    (hf : ∀ session, (f session).generation = session.generation ∧
        (Restarting stack id → Restarting stack' id) ∨
      st.nextGeneration < (f session).generation)
    (hstack : ∀ other, other ≠ id → Restarting stack other → Restarting stack' other) :
    GenerationStep stack st stack' st' where
  next := next
  session := fun other generation h => by
    simp only [BridgeRuntime.generationOf, sessions] at h ⊢
    split at h
    · next heq =>
      subst other
      rw [Option.map_map] at h
      obtain ⟨session, hlive, rfl⟩ := Option.map_eq_some_iff.mp h
      rcases hf session with ⟨hsame, hkeep⟩ | hnew
      · left
        rw [hlive, Function.comp_apply, hsame]
        exact ⟨rfl, hkeep⟩
      · exact .inr (.inl hnew)
    · exact .inl ⟨h, hstack other ‹_›⟩

theorem retryOrReset_generation (now : Instant) (retry : DownstreamRetry)
    (session : SessionRuntime) :
    (retryOrReset now retry session).generation = session.generation := by
  unfold retryOrReset
  split <;> rfl

theorem generationOf_startStream (joins : Option GroupJoins) (delays : AssocMap SessionId Duration)
    (cutoff : Instant) (roles : AssocMap SessionId NativeMember) (stream : PreparedDownstream)
    (id : SessionId) :
    (startStream env joins delays cutoff (st, roles) stream).1.generationOf id =
      st.generationOf id := by
  have hmodify (st : BridgeRuntime) (other : SessionId) (f : SessionRuntime → SessionRuntime)
      (hf : ∀ session, (f session).generation = session.generation) :
      (st.modifySession other f).generationOf id = st.generationOf id := by
    simp only [BridgeRuntime.generationOf, session_modifySession]
    split
    · cases st.session id with
      | none => rfl
      | some session => exact congrArg some (hf session)
    · rfl
  have hrecord (st : BridgeRuntime) (delay : Option Duration) :
      (st.recordDelay stream.sessionId delay).generationOf id = st.generationOf id := by
    cases delay with
    | none => rfl
    | some delay => exact hmodify st _ _ fun _ => rfl
  have hplan (st : BridgeRuntime) (delay : Option Duration) (command : TransportCommand) :
      (st.planStart cutoff delay command).generationOf id = st.generationOf id := by
    cases command with
    | join stream _ _ => exact hmodify st _ _ fun _ => rfl
    | play stream => cases delay <;> rfl
    | _ => rfl
  exact (hplan _ _ _).trans (hrecord _ _)

theorem nextGeneration_startStream (joins : Option GroupJoins)
    (delays : AssocMap SessionId Duration) (cutoff : Instant)
    (acc : BridgeRuntime × AssocMap SessionId NativeMember) (stream : PreparedDownstream) :
    (startStream env joins delays cutoff acc stream).1.nextGeneration = acc.1.nextGeneration := by
  have hrecord (st : BridgeRuntime) (id : SessionId) (delay : Option Duration) :
      (st.recordDelay id delay).nextGeneration = st.nextGeneration := by
    cases delay <;> rfl
  have hplan (st : BridgeRuntime) (delay : Option Duration) (command : TransportCommand) :
      (st.planStart cutoff delay command).nextGeneration = st.nextGeneration := by
    cases command with
    | play stream => cases delay <;> rfl
    | _ => rfl
  exact (hplan _ _ _).trans (hrecord _ _ _)

theorem inner (move : Inner env stack st stack' st') : GenerationStep stack st stack' st' := by
  cases move with
  | memberSkipped => exact same le_rfl (fun _ => rfl) fun _ => Restarting.advance
  | memberRestarted =>
    exact edit _ (session_cancelDownstreamRetry _ _) le_rfl
      (fun _ => .inl ⟨rfl, fun h => h.advance.push _⟩) fun _ _ h => h.advance.push _
  | @vanished _ _ id zoneId gone =>
    refine ⟨le_rfl, fun other generation h => .inl ⟨h, fun restarting => ?_⟩⟩
    refine restarting.pop fun zoneId todo heq => ?_
    cases heq
    rw [BridgeRuntime.generationOf, gone] at h
    cases h
  | rendererMissing =>
    exact edit _ (session_retireDownstream _ _) (Nat.le_succ _)
      (fun _ => .inr (Nat.lt_succ_self _))
      fun other hne h => h.pop fun zoneId todo heq => hne (by cases heq; rfl)
  | @buildFailed _ _ id zoneId =>
    refine edit id (session_buildFailed st id zoneId) (Nat.le_succ _) (fun session => ?_)
      fun other hne h => h.pop fun zoneId todo heq => hne (by cases heq; rfl)
    rw [retryOrReset_generation]
    exact .inr (Nat.lt_succ_self _)
  | @built _ _ id zoneId session renderer liveStream =>
    exact edit id (session_built st id zoneId renderer liveStream) (Nat.le_succ _)
      (fun session => .inr (Nat.lt_succ_self _))
      fun other hne h => (h.pop fun zoneId todo heq => hne (by cases heq; rfl)).push _
  | left => exact same le_rfl (fun _ => rfl) fun _ h => h.pop (by nofun)
  | pauseFinished =>
    exact edit _ (session_nextDownstreamGeneration _ _) (Nat.le_succ _)
      (fun _ => .inr (Nat.lt_succ_self _)) fun _ _ h => (h.pop (by nofun)).push _
  | stopFinished => exact same le_rfl (fun _ => rfl) fun _ h => (h.pop (by nofun)).push _
  | cohortDropped => exact same le_rfl (fun _ => rfl) fun _ h => h
  | cohortReleased =>
    refine same ?_ (fun id => ?_) fun _ h => h.push _
    · unfold BridgeRuntime.openPlay openRelease
      split <;> exact le_rfl
    · simp only [BridgeRuntime.generationOf, session_openPlay, session_handOver]
  | cohortKept => exact same le_rfl (fun _ => rfl) fun _ h => h.pop (by nofun)
  | cohortsDone => exact same le_rfl (fun _ => rfl) fun _ h => h.pop (by nofun)
  | streamStarted =>
    exact same (nextGeneration_startStream _ _ _ (st, _) _).ge (generationOf_startStream _ _ _ _ _)
      fun _ h => (h.pop (by nofun)).push _
  | startsDone => exact same le_rfl (fun _ => rfl) fun _ h => h.pop (by nofun)

/-- Nothing is being rebuilt when the move begins. -/
theorem sameOuter (next : st.nextGeneration ≤ st'.nextGeneration)
    (sessions : st'.session = st.session) : GenerationStep [] st stack' st' :=
  same next (fun id => by rw [BridgeRuntime.generationOf, sessions]; rfl) fun id h =>
    absurd h (not_restarting_nil id)

theorem editOuter {f : SessionRuntime → SessionRuntime} (id : SessionId)
    (sessions : ∀ other, st'.session other =
      if other = id then (st.session other).map f else st.session other)
    (next : st.nextGeneration ≤ st'.nextGeneration)
    (hf : ∀ session, (f session).generation = session.generation ∨
      st.nextGeneration < (f session).generation) : GenerationStep [] st stack' st' :=
  edit id sessions next
    (fun session => (hf session).imp_left fun h => ⟨h, fun h => absurd h (not_restarting_nil id)⟩)
    fun other _ h => absurd h (not_restarting_nil other)

theorem session_startUncertain_retry (st : BridgeRuntime) (result : DownstreamStartResult)
    (other : SessionId) :
    ((st.takeResult.startUncertain result.sessionId result.outcome).scheduleDownstreamRetry
      result.sessionId result.zoneId result.generation).1.session other =
      if other = result.sessionId then
        (st.session other).map fun session =>
          retryOrReset (st.takeResult.startUncertain result.sessionId result.outcome).now
            ⟨result.sessionId, result.zoneId, result.generation⟩
            { session with observed := .unknown, resetNeeded := session.prepared.isNone }
      else st.session other := by
  rw [session_scheduleDownstreamRetry, session_startUncertain]
  exact edit_twice

theorem next_startUncertain (st : BridgeRuntime) (result : DownstreamStartResult) :
    st.nextGeneration ≤
      (st.takeResult.startUncertain result.sessionId result.outcome).nextGeneration := by
  unfold BridgeRuntime.startUncertain
  split <;> exact le_rfl

theorem move (h : Move env guard stack st stack' st') : GenerationStep stack st stack' st' := by
  cases h with
  | inner move => exact inner move
  | tick => exact sameOuter le_rfl rfl
  | workerTook => exact sameOuter le_rfl rfl
  | @workerReplied _ zoneId worker reply worker' outputs =>
    obtain ⟨groupJoins, heq⟩ := deliver_eq (st.setWorker zoneId worker') outputs
    rw [heq]
    exact sameOuter le_rfl rfl
  | workerSuperseded => exact sameOuter le_rfl rfl
  | workerReady => exact sameOuter le_rfl rfl
  | @groupReleased _ zoneId worker stream joins delay since _ found waiting released =>
    obtain ⟨-, rfl⟩ := releaseGroup_spec released
    cases delay <;> exact sameOuter le_rfl rfl
  | @retryFired _ id session task =>
    exact editOuter id (session_sendRetry st id task) le_rfl fun _ => .inl rfl
  | @cleanupFired _ id session task =>
    exact editOuter id (session_sendCleanup st id task) le_rfl fun _ => .inl rfl
  | wakeFired => exact sameOuter le_rfl rfl
  | volumeSet => exact sameOuter le_rfl rfl
  | sessionsWalked => exact sameOuter le_rfl rfl
  | cleanupTaken => exact sameOuter le_rfl rfl
  | @cleanupDeferred _ id => exact editOuter id (session_deferCleanup st id) le_rfl fun _ => .inl rfl
  | @resumed _ id => exact editOuter id (session_resumePlayback st id) le_rfl fun _ => .inl rfl
  | @resumedRestart _ id =>
    exact editOuter id (session_resumedRestart st id) le_rfl fun _ => .inl rfl
  | @flushedPlaying _ id zoneId session playbackEpoch =>
    exact editOuter id (session_flushedPlaying st id playbackEpoch) le_rfl fun _ => .inl rfl
  | @paused _ id => exact editOuter id (session_pausePlayback st id) le_rfl fun _ => .inl rfl
  | @flushedPaused _ id zoneId session playbackEpoch =>
    exact editOuter id (session_flushedPaused st id playbackEpoch) le_rfl fun _ => .inl rfl
  | @sessionRemoved _ id =>
    refine ⟨le_rfl, fun other generation h => ?_⟩
    rw [BridgeRuntime.generationOf, session_disband, session_removeSession] at h
    split at h
    · cases h
    · exact .inl ⟨h, fun h => absurd h (not_restarting_nil other)⟩
  | @sessionInserted _ id zoneId renderer format sender =>
    refine ⟨le_rfl, fun other generation h => ?_⟩
    by_cases hid : other = id
    · subst other
      exact .inr (.inr ⟨zoneId, _, List.mem_singleton_self _⟩)
    · rw [BridgeRuntime.generationOf, session_disband, session_cancelDownstreamRetry, if_neg hid,
        session_insertSession, if_neg hid] at h
      exact .inl ⟨h, fun h => absurd h (not_restarting_nil other)⟩
  | @encoderClosed _ id zoneId frames session =>
    unfold BridgeRuntime.encoderInputClosed
    split
    · refine editOuter id (session_encoderRetried st id session.zoneId) (Nat.le_succ _) fun old => ?_
      rw [retryOrReset_generation]
      exact .inr (Nat.lt_succ_self _)
    · exact editOuter id (session_retireEncoder env st id session.zoneId) (Nat.le_succ _) fun _ =>
        .inr (Nat.lt_succ_self _)
  | resultDropped => exact sameOuter le_rfl rfl
  | resultPaused =>
    exact editOuter _ (session_notePaused st.takeResult _ _) le_rfl fun _ => .inl rfl
  | startSucceeded =>
    refine editOuter _ (session_startSucceeded st.takeResult _ _) ?_ fun _ => .inl rfl
    unfold BridgeRuntime.startSucceeded
    split <;> exact le_rfl
  | @startRetried _ result =>
    exact editOuter _ (session_startUncertain_retry st result) (next_startUncertain st result)
      fun _ => .inl (retryOrReset_generation _ _ _)
  | @startExhausted _ result =>
    exact editOuter _ (session_startUncertain_retry st result) (next_startUncertain st result)
      fun _ => .inl (retryOrReset_generation _ _ _)
  | startAbandoned =>
    exact editOuter _ (session_abandonStart st.takeResult _) le_rfl fun _ => .inl rfl
  | retryDropped => exact sameOuter le_rfl rfl
  | @retryReplayed _ retry rest session prepared =>
    refine editOuter _ (session_replayPrepared env st.takeRetry _ _ _) ?_ fun _ => .inl rfl
    unfold BridgeRuntime.replayPrepared planStream
    split <;> exact le_rfl
  | @retryRestarted _ retry =>
    exact editOuter _ (session_retryRestarted st retry.sessionId) le_rfl fun _ => .inl rfl
  | preparedDropped => exact sameOuter le_rfl rfl
  | preparedListed =>
    exact editOuter _ (session_keepPrepared st.takePrepared _) le_rfl fun _ => .inl rfl
  | @preparedPlayed _ prepared =>
    refine editOuter _ (session_preparedPlayed st prepared) ?_ fun _ => .inl rfl
    unfold BridgeRuntime.openPlay openRelease
    split <;> exact le_rfl
  | wakeTaken => exact sameOuter le_rfl rfl
  | workersClosed => exact sameOuter le_rfl rfl

end GenerationStep

/-- Along a chain a session that stays keeps its generation or has a later one, unless it is
still to be rebuilt. -/
theorem Chain.generation_le {st : BridgeRuntime}
    (bounded : ∀ id session, st.session id = some session →
      session.generation ≤ st.nextGeneration)
    {b : List Frame × BridgeRuntime} (h : Chain env guard ([], st) b) :
    st.nextGeneration ≤ b.2.nextGeneration ∧
      ∀ id generation, b.2.generationOf id = some generation →
        (∀ old, st.generationOf id = some old → old ≤ generation) ∨ Restarting b.1 id := by
  induction h with
  | refl =>
    refine ⟨le_rfl, fun id generation h => .inl fun old hold => ?_⟩
    exact (Option.some.inj (hold.symm.trans h)).le
  | tail _ move ih =>
    have hmove := GenerationStep.move move
    refine ⟨ih.1.trans hmove.next, fun id generation h => ?_⟩
    rcases hmove.session id generation h with ⟨hsame, hkeep⟩ | hnew | hrestarting
    · exact (ih.2 id generation hsame).imp_right hkeep
    · refine .inl fun old hold => ?_
      obtain ⟨session, live, rfl⟩ := Option.map_eq_some_iff.mp hold
      exact ((bounded id session live).trans ih.1).trans hnew.le
    · exact .inr hrestarting

/-! ### Between handlers -/

/-- The streams of the registry, the sessions and the workers agree. -/
structure StreamsCoherent (st : BridgeRuntime) : Prop where
  zone : ∀ id other session session', st.session id = some session →
    st.session other = some session' → session.zoneId = session'.zoneId → id = other
  encoder : ∀ id session, st.session id = some session →
    (session.encoder.isSome = true ↔ ∃ stream, st.registry.lookup id = some stream)
  known : ∀ id stream, st.registry.lookup id = some stream →
    stream ∈ st.streams ∧ ∃ session, st.session id = some session
  prepared : ∀ id session stream, st.session id = some session → session.prepared = some stream →
    session.desiredPlayback = true ∧ stream.generation = session.generation ∧
      ∃ registered, st.registry.lookup id = some registered ∧
        registered.session.generation = session.generation
  distinct : st.streams.Pairwise fun stream other =>
    stream.session.generation ≠ other.session.generation

/-- No step gives a session that stays an older generation. -/
def GenerationsGrow (env : Env) (st : BridgeRuntime) : Prop :=
  ∀ label st', st.step env label = some st' → ∀ id session session',
    st.session id = some session → st'.session id = some session' →
      session.generation ≤ session'.generation

/-- A message of another generation than the current one of its session changes nothing. -/
structure StaleIgnored (env : Env) (st : BridgeRuntime) : Prop where
  result : ∀ result session, st.session result.sessionId = some session →
    result.generation ≠ session.generation →
      st.handleDownstreamStartResult env result = some st
  retry : ∀ retry session, st.session retry.sessionId = some session →
    retry.generation ≠ session.generation → st.handleDownstreamRetry env retry = some st
  prepared : ∀ prepared session, st.session prepared.sessionId = some session →
    prepared.generation ≠ session.generation → st.handlePreparedDownstream env prepared = st

theorem StreamsCoherent.of_visited {st : BridgeRuntime} (h : Visited env guard [] st) :
    StreamsCoherent st := by
  have coherent := h.coherent
  have sound := h.sound
  refine ⟨coherent.unique, fun id session live => ?_, fun id stream found => ?_,
    fun id session stream live kept => ?_, ?_⟩
  · rw [coherent.stream, live, Option.bind_some, Option.isSome_iff_exists]
    constructor
    · rintro ⟨encoder, hencoder⟩
      exact ⟨encoder.stream, by rw [hencoder]; rfl⟩
    · rintro ⟨stream, hstream⟩
      obtain ⟨encoder, hencoder, -⟩ := Option.map_eq_some_iff.mp hstream
      exact ⟨encoder, hencoder⟩
  · rw [coherent.stream] at found
    obtain ⟨encoder, hencoder, rfl⟩ := Option.map_eq_some_iff.mp found
    obtain ⟨session, live, hsession⟩ := Option.bind_eq_some_iff.mp hencoder
    exact ⟨((coherent.session id session live).registered encoder hsession).1, session, live⟩
  · have hprepared := (coherent.session id session live).prepared stream kept
    refine ⟨hprepared.1, hprepared.2.1, stream.liveStream, ?_, ?_⟩
    · rw [coherent.stream, live, Option.bind_some, hprepared.2.2]
      rfl
    · exact (sound.kept id session live stream kept).2.generation.trans hprepared.2.1
  · exact coherent.ordered.imp fun h => (Nat.ne_of_lt h).symm

theorem GenerationsGrow.of_visited {st : BridgeRuntime}
    (h : Visited env (fun _ _ => True) [] st) : GenerationsGrow env st := by
  intro label st' taken id session session' live live'
  have hsteps : Chain env (fun _ _ => True) ([], st) ([], st') := step_chain trivial taken
  have hchain := Chain.generation_le
    (fun id session live => (h.coherent.session id session live).bounded) hsteps
  rcases hchain.2 id session'.generation (by simp [BridgeRuntime.generationOf, live']) with
    hle | hrestarting
  · exact hle _ (by simp [BridgeRuntime.generationOf, live])
  · exact absurd hrestarting (not_restarting_nil id)

theorem staleIgnored (env : Env) (st : BridgeRuntime) : StaleIgnored env st where
  result := fun result session live stale => by
    simp only [handleDownstreamStartResult, live]
    exact if_pos stale.symm
  retry := fun retry session live stale => by
    simp only [handleDownstreamRetry, live]
    exact if_pos (.inl stale.symm)
  prepared := fun prepared session live stale => by
    simp only [handlePreparedDownstream, live]
    exact if_pos (.inl stale.symm)

/-- Sessions, streams and generations agree in every reachable state. -/
theorem coherent_of_reachable (env : Env) {st : BridgeRuntime} (h : (bridge env).Reachable st) :
    StreamsCoherent st ∧ GenerationsGrow env st ∧ StaleIgnored env st :=
  ⟨.of_visited (Visited.of_reachable h), .of_visited (Visited.of_reachable h), staleIgnored env st⟩

/-- The theorem at the state in which the Kitchen plays. -/
theorem coherent_when_kitchen_plays :
    ∃ st, (bridge Household.env).run .new
        (Household.started 0 1 :: Household.prepares 0 ++ Household.plays 0) = some st ∧
      (st.session ⟨0⟩).map SessionRuntime.observed = some .playing ∧
      StreamsCoherent st ∧ GenerationsGrow Household.env st ∧ StaleIgnored Household.env st := by
  have hruns : (((bridge Household.env).run .new
      (Household.started 0 1 :: Household.prepares 0 ++ Household.plays 0)).bind fun st =>
        (st.session ⟨0⟩).map SessionRuntime.observed) = some .playing := by
    decide +kernel
  obtain ⟨st, hrun, hplays⟩ := Option.bind_eq_some_iff.mp hruns
  exact ⟨st, hrun, hplays,
    coherent_of_reachable Household.env (TransitionSystem.Reachable.of_run .init hrun)⟩

end AirSonos
