import AirSonos.Bridge.Chains

/-!
# The steps of the bridge as chains

Each handler begins with one move of its own and goes on with inner moves. A visited state is
one that some chain from the initial state passes through.
-/

namespace AirSonos

open Relation BridgeRuntime

variable {env : Env} {guard : BridgeRuntime → BridgeLabel → Prop}

/-! ### Stopping and starting sessions -/

variable (guard) in
theorem stopSession_chain {st st' : BridgeRuntime} {id : SessionId} {session : SessionRuntime}
    {fallback : Option ZoneId} (live : st.session id = some session)
    (address : ∀ zoneId, fallback = some zoneId → zoneId = env.zoneOf id)
    (h : st.stopSession env id fallback = some st') :
    Chain env guard ([], st) ([], st') ∧ st'.demand = (st.removeSession id).demand := by
  simp only [stopSession, live] at h
  split at h
  · cases h
  · next st₁ hst₁ =>
    cases h
    have haddress : fallback.getD session.zoneId = session.zoneId ∨
        fallback.getD session.zoneId = env.zoneOf id := by
      cases fallback with
      | none => exact .inl rfl
      | some zoneId => exact .inr (address zoneId rfl)
    have hinner : InnerChain env
        ([(st.removeSession id).leaveFrame
          (.stop id (fallback.getD session.zoneId) session.generation)],
          (st.removeSession id).disband id) ([], _) :=
      (leaveGroup_chain [] (.stop id (fallback.getD session.zoneId) session.generation) hst₁).trans
        (Inner.stopFinished.andThen (check_chain [] _))
    exact ⟨(Move.sessionRemoved live haddress).thenInner hinner,
      hinner.demand.trans (demand_of_sessions rfl)⟩

theorem demand_removeSession (st : BridgeRuntime) (id other : SessionId) :
    (st.removeSession id).demand other = if other = id then none else st.demand other := by
  unfold BridgeRuntime.demand BridgeRuntime.session removeSession
  rw [AssocMap.lookup_erase_ite]
  split <;> rfl

theorem session_eq_none_of_demand {st : BridgeRuntime} {id : SessionId}
    (h : st.demand id = none) : st.session id = none := by
  simpa [BridgeRuntime.demand] using h

variable (guard) in
/-- Stopping sessions one after the other removes these sessions and leaves the demand of the
others alone. -/
theorem stopSessions_chain (ids : List SessionId) {st st' : BridgeRuntime}
    (h : ids.foldlM (fun st id => st.stopSession env id none) st = some st') :
    Chain env guard ([], st) ([], st') ∧
      ∀ id, st'.demand id = if id ∈ ids then none else st.demand id := by
  induction ids generalizing st with
  | nil =>
    cases h
    exact ⟨.refl, fun id => by simp⟩
  | cons id rest ih =>
    simp only [List.foldlM_cons, Option.bind_eq_bind] at h
    obtain ⟨st₁, hst₁, hrest⟩ := Option.bind_eq_some_iff.mp h
    obtain ⟨hchain, hdemand⟩ := ih hrest
    cases hlive : st.session id with
    | none =>
      simp only [stopSession, hlive] at hst₁
      cases hst₁
      refine ⟨hchain, fun other => ?_⟩
      rw [hdemand other]
      by_cases hother : other = id
      · subst other
        simp [BridgeRuntime.demand, hlive]
      · simp [hother]
    | some session =>
      obtain ⟨hstop, hstopped⟩ := stopSession_chain guard hlive
        (fun _ h => by cases h) hst₁
      refine ⟨hstop.trans hchain, fun other => ?_⟩
      rw [hdemand other, hstopped, demand_removeSession]
      by_cases hother : other = id
      · simp [hother]
      · simp [hother]

theorem mem_zoneSessions (st : BridgeRuntime) (zoneId : ZoneId) (id : SessionId) :
    id ∈ st.zoneSessions env zoneId ↔
      ∃ session, st.session id = some session ∧ session.zoneId = zoneId := by
  unfold zoneSessions
  rw [List.mem_filter, (env.hashOrder_perm _ _).mem_iff, AssocMap.mem_keys_iff_lookup]
  constructor
  · rintro ⟨⟨session, hsession⟩, hzone⟩
    refine ⟨session, hsession, ?_⟩
    have hlive : st.session id = some session := hsession
    simpa [hlive] using hzone
  · rintro ⟨session, hlive, hzone⟩
    exact ⟨⟨session, hlive⟩, by simp [hlive, hzone]⟩

theorem startSession_chain {st st' : BridgeRuntime} {id : SessionId} {zoneId : ZoneId}
    {format : PcmFormat} {sender : Option IpAddr} (address : zoneId = env.zoneOf id)
    (guarded : guard st (.event (.sessionStarted id zoneId format sender)))
    (h : st.startSession env id zoneId format sender = some st') :
    Chain env guard ([], st) ([], st') := by
  unfold startSession at h
  split at h
  · cases h
  · next st₁ hst₁ =>
    obtain ⟨hstops, hdemand⟩ := stopSessions_chain guard _ hst₁
    have hbegin : Chain env guard ([], st) ([], st₁) :=
      (Move.sessionsWalked.chain).trans hstops
    split at h
    · cases h
      exact hbegin
    · next renderer hrenderer =>
      refine hbegin.trans ((Move.sessionInserted format sender address hrenderer ?_
        ⟨st, guarded⟩).thenInner (restart_chain [] h))
      rintro other session hlive hzone
      have hother : st₁.demand other = some session.demand := by
        simp only [BridgeRuntime.demand, hlive, Option.map_some]
      rw [hdemand] at hother
      split at hother
      · cases hother
      · next hnot =>
        refine hnot ((mem_zoneSessions st zoneId other).mpr ?_)
        have hwalked : st.walkSessions.demand other = (st.session other).map (·.demand) := rfl
        rw [hwalked] at hother
        obtain ⟨old, hold, hsame⟩ := Option.map_eq_some_iff.mp hother
        exact ⟨old, hold, (congrArg Demand.zoneId hsame).trans hzone⟩

theorem shutdown_chain {st st' : BridgeRuntime} (h : st.shutdown env = some st') :
    Chain env guard ([], st) ([], st') := by
  unfold shutdown at h
  split at h
  · cases h
  · next st₁ hst₁ =>
    cases h
    obtain ⟨hstops, hdemand⟩ := stopSessions_chain guard _ hst₁
    refine (Move.sessionsWalked.chain.trans hstops).trans (Move.workersClosed fun id => ?_).chain
    apply session_eq_none_of_demand
    rw [hdemand]
    split
    · rfl
    · next hnot =>
      cases hlive : st.session id with
      | none =>
        have : st.walkSessions.demand id = (st.session id).map (·.demand) := rfl
        rw [this, hlive]
        rfl
      | some session =>
        refine absurd ?_ hnot
        rw [(env.hashOrder_perm _ _).mem_iff, AssocMap.mem_keys_iff_lookup]
        exact ⟨session, hlive⟩

/-! ### The other events -/

theorem setPlaybackState_chain {st st' : BridgeRuntime} {id : SessionId} {zoneId : ZoneId}
    {playing : Bool} (address : zoneId = env.zoneOf id)
    (guarded : playing = true → guard st (.event (.playbackState id zoneId true)))
    (h : st.setPlaybackState env id zoneId playing = some st') :
    Chain env guard ([], st) ([], st') := by
  unfold setPlaybackState at h
  split at h
  · cases h
    exact .refl
  · next session hlive =>
    split at h
    · next hplaying =>
      split at h
      · next hrestart =>
        refine (Move.resumedRestart address hlive (fun hwanted => ?_)
          (guarded hplaying)).thenInner (restart_chain [] h)
        simpa [shouldRestartDownstreamForPlay, hwanted] using hrestart
      · next hkeep =>
        cases h
        simp only [shouldRestartDownstreamForPlay, Bool.or_eq_true, not_or, beq_iff_eq,
          Option.some.injEq, Bool.not_eq_false, Bool.not_eq_true] at hkeep
        exact (Move.resumed hlive hkeep.1 hkeep.2 (guarded hplaying)).chain
    · split at h
      · cases h
      · next st₁ hst₁ =>
        cases h
        exact (Move.paused address hlive).thenInner
          ((leaveGroup_chain [] (.pause id zoneId) hst₁).trans
            (Inner.pauseFinished.andThen (check_chain [] _)))

theorem flushed_chain {st st' : BridgeRuntime} {id : SessionId} {playbackEpoch : Nat}
    {zoneId : ZoneId} (address : zoneId = env.zoneOf id)
    (guarded : guard st (.event (.flushed id playbackEpoch zoneId)))
    (h : st.flushed env id playbackEpoch zoneId = some st') :
    Chain env guard ([], st) ([], st') := by
  unfold flushed at h
  split at h
  · cases h
    exact .refl
  · next session hlive =>
    split at h
    · cases h
      exact .refl
    · next hnewer =>
      have hnewer := Nat.lt_of_not_le hnewer
      split at h
      · next hwanted =>
        exact (Move.flushedPlaying address hlive hwanted hnewer guarded).thenInner
          (restart_chain [] h)
      · next hunwanted =>
        rw [Bool.not_eq_true] at hunwanted
        exact (Move.flushedPaused hlive hunwanted hnewer guarded).chain.trans
          (setPlaybackState_chain address (fun hplaying => Bool.noConfusion hplaying) h)

theorem feedFrames_of_encoder_none {st : BridgeRuntime} {id : SessionId}
    (h : ∀ session, st.session id = some session → session.encoder = none)
    (frames : List BridgeFrame) :
    frames.foldl (fun st frame => st.feedFrame env id frame) st = st := by
  induction frames with
  | nil => rfl
  | cons frame rest ih =>
    have hframe : st.feedFrame env id frame = st := by
      unfold feedFrame
      split
      · rfl
      · next session hlive => simp [SessionRuntime.closes, h session hlive]
    rw [List.foldl_cons, hframe, ih]

theorem encoder_encoderInputClosed (st : BridgeRuntime) (id : SessionId)
    (session after : SessionRuntime)
    (h : (st.encoderInputClosed env id session).session id = some after) :
    after.encoder = none := by
  unfold encoderInputClosed at h
  split at h
  · simp only [session_scheduleDownstreamRetry, session_retireEncoder, if_true, Option.map_map,
      Option.map_eq_some_iff] at h
    obtain ⟨old, -, rfl⟩ := h
    simp only [Function.comp_apply, retryOrReset]
    split <;> rfl
  · simp only [session_retireEncoder, if_true, Option.map_eq_some_iff] at h
    obtain ⟨old, -, rfl⟩ := h
    rfl

variable (env) in
/-- Of a batch of frames at most the first refused one has an effect. -/
theorem feedFrames_cases (st : BridgeRuntime) (id : SessionId) (frames : List BridgeFrame) :
    frames.foldl (fun st frame => st.feedFrame env id frame) st = st ∨
      ∃ session, st.session id = some session ∧ frames.any session.closes = true ∧
        frames.foldl (fun st frame => st.feedFrame env id frame) st =
          st.encoderInputClosed env id session := by
  induction frames with
  | nil => exact .inl rfl
  | cons frame rest ih =>
    rw [List.foldl_cons]
    cases hlive : st.session id with
    | none =>
      left
      have hframe : st.feedFrame env id frame = st := by simp only [feedFrame, hlive]
      rw [hframe]
      exact feedFrames_of_encoder_none (fun session h => by rw [hlive] at h; cases h) rest
    | some session =>
      cases hcloses : session.closes frame with
      | true =>
        right
        have hframe : st.feedFrame env id frame = st.encoderInputClosed env id session := by
          simp only [feedFrame, hlive, hcloses, if_true]
        refine ⟨session, rfl, by simp [hcloses], ?_⟩
        rw [hframe]
        exact feedFrames_of_encoder_none (encoder_encoderInputClosed st id session) rest
      | false =>
        have hframe : st.feedFrame env id frame = st := by
          simp [feedFrame, hlive, hcloses]
        rw [hframe]
        rcases ih with hsame | ⟨other, hother, hrest, hclosed⟩
        · exact .inl hsame
        · rw [hlive] at hother
          cases hother
          exact .inr ⟨session, rfl, by simp [hrest], hclosed⟩

theorem handleEvent_chain {st st' : BridgeRuntime} {event : AirPlayEvent}
    (guarded : guard st (.event event)) (wellFormed : event.WellFormed env)
    (h : st.handleEvent env event = some st') : Chain env guard ([], st) ([], st') := by
  cases event with
  | sessionStarted id zoneId format sender =>
    exact startSession_chain (wellFormed id zoneId rfl) guarded h
  | pcm id zoneId frames =>
    cases h
    rcases feedFrames_cases env st id frames with hsame | ⟨session, hlive, hcloses, heq⟩
    · rw [hsame]
      exact .refl
    · rw [heq]
      exact (Move.encoderClosed guarded hlive hcloses).chain
  | playbackState id zoneId playing =>
    exact setPlaybackState_chain (wellFormed id zoneId rfl) (fun hplaying => hplaying ▸ guarded) h
  | flushed id playbackEpoch zoneId => exact flushed_chain (wellFormed id zoneId rfl) guarded h
  | volume zoneId volumePercent =>
    cases h
    exact (Move.volumeSet zoneId volumePercent).chain
  | sessionStopped id zoneId =>
    cases hlive : st.session id with
    | none =>
      simp only [handleEvent, stopSession, hlive] at h
      cases h
      exact .refl
    | some session =>
      exact (stopSession_chain guard hlive (fun other heq => by
        cases heq
        exact wellFormed id zoneId rfl) h).1
  | streamEndedWhilePaused id zoneId =>
    cases h
    unfold streamEndedWhilePaused
    split
    · exact .refl
    · next session hlive =>
      split
      · exact .refl
      · next hunwanted =>
        rw [Bool.not_eq_true] at hunwanted
        exact (Move.cleanupDeferred hlive hunwanted guarded).chain

/-! ### Messages -/

theorem startFailed_chain {st st' : BridgeRuntime} {result : DownstreamStartResult}
    {rest : List DownstreamStartResult} {session : SessionRuntime}
    (first : st.resultRx = result :: rest) (live : st.session result.sessionId = some session)
    (current : session.generation = result.generation) (wanted : session.desiredPlayback = true)
    (outcome : result.outcome = .unknown ∨ result.outcome = .failed)
    (h : st.takeResult.startFailed env result = some st') :
    Chain env guard ([], st) ([], st') := by
  have hbudget : ((st.takeResult.startUncertain result.sessionId
      result.outcome).scheduleDownstreamRetry result.sessionId result.zoneId
        result.generation).2 = decide (session.retryAttempts < RETRY_BUDGET) := by
    simp [scheduleDownstreamRetry, live]
  unfold startFailed at h
  split at h
  · next scheduled =>
    cases h
    rw [scheduled] at hbudget
    have hmove : Move env guard [] st [] _ :=
      .startRetried first live current wanted outcome (of_decide_eq_true hbudget.symm)
    rw [scheduled] at hmove
    exact hmove.chain
  · next exhausted =>
    rw [exhausted] at hbudget
    have hmove : Move env guard [] st [_] _ :=
      .startExhausted first live current wanted outcome
        (Nat.le_of_not_lt (of_decide_eq_false hbudget.symm))
    rw [exhausted] at hmove
    exact hmove.thenInner ((leaveGroup_chain [] (.leave result.sessionId) h).trans Inner.left.chain)

theorem result_chain {st st' : BridgeRuntime} {result : DownstreamStartResult}
    {rest : List DownstreamStartResult} (first : st.resultRx = result :: rest)
    (h : st.takeResult.handleDownstreamStartResult env result = some st') :
    Chain env guard ([], st) ([], st') := by
  unfold handleDownstreamStartResult at h
  split at h
  · next hgone =>
    cases h
    exact (Move.resultDropped first fun session hlive => by
      rw [session_takeResult] at hgone
      rw [hgone] at hlive
      cases hlive).chain
  · next session hlive =>
    rw [session_takeResult] at hlive
    split at h
    · next hstale =>
      cases h
      exact (Move.resultDropped first fun other hother hcurrent => by
        rw [hlive] at hother
        cases hother
        exact absurd hcurrent hstale).chain
    · next hcurrent =>
      rw [not_not] at hcurrent
      split at h
      · next hunwanted =>
        cases h
        exact (Move.resultPaused first hlive hcurrent (by simpa using hunwanted)).chain
      · next hwanted =>
        have hwanted : session.desiredPlayback = true := by simpa using hwanted
        have hignored (hstop : result.outcome = .stopped ∨ result.outcome = .stopUnknown) :
            Chain env guard ([], st) ([], st.takeResult) :=
          (Move.resultDropped first fun other hother _ => by
            rw [hlive] at hother
            cases hother
            exact ⟨hwanted, hstop⟩).chain
        split at h
        · next houtcome =>
          cases h
          exact hignored (.inl houtcome)
        · next houtcome =>
          cases h
          exact hignored (.inr houtcome)
        · next houtcome =>
          cases h
          exact (Move.startSucceeded first hlive hcurrent hwanted (.inl houtcome)).chain
        · next houtcome =>
          cases h
          exact (Move.startSucceeded first hlive hcurrent hwanted (.inr houtcome)).chain
        · next houtcome =>
          exact (Move.startAbandoned first hlive hcurrent hwanted houtcome).thenInner
            ((leaveGroup_chain [] (.leave result.sessionId) h).trans Inner.left.chain)
        · next houtcome => exact startFailed_chain first hlive hcurrent hwanted (.inl houtcome) h
        · next houtcome => exact startFailed_chain first hlive hcurrent hwanted (.inr houtcome) h

theorem retry_chain {st st' : BridgeRuntime} {retry : DownstreamRetry}
    {rest : List DownstreamRetry} (guarded : guard st .retry) (first : st.retryRx = retry :: rest)
    (h : st.takeRetry.handleDownstreamRetry env retry = some st') :
    Chain env guard ([], st) ([], st') := by
  unfold handleDownstreamRetry at h
  split at h
  · next hgone =>
    cases h
    exact (Move.retryDropped first fun session hlive => by
      rw [session_takeRetry] at hgone
      rw [hgone] at hlive
      cases hlive).chain
  · next session hlive =>
    rw [session_takeRetry] at hlive
    split at h
    · next hstale =>
      cases h
      exact (Move.retryDropped first fun other hother hcurrent => by
        rw [hlive] at hother
        cases hother
        exact hstale.resolve_left fun hne => hne hcurrent).chain
    · next hcurrent =>
      simp only [not_or, not_not, Bool.not_eq_false] at hcurrent
      split at h
      · next hnone =>
        exact (Move.retryRestarted first hlive hcurrent.1 hcurrent.2 hnone).thenInner
          (restart_chain [] h)
      · next hkept =>
        cases h
        exact (Move.retryReplayed guarded first hlive hcurrent.1 hcurrent.2 hkept).chain

theorem prepared_chain {st : BridgeRuntime} {prepared : PreparedDownstream}
    {rest : List PreparedDownstream} (first : st.preparedRx = prepared :: rest) :
    Chain env guard ([], st) ([], st.takePrepared.handlePreparedDownstream env prepared) := by
  unfold handlePreparedDownstream
  split
  · next hgone =>
    exact (Move.preparedDropped first fun session hlive => by
      rw [session_takePrepared] at hgone
      rw [hgone] at hlive
      cases hlive).chain
  · next session hlive =>
    rw [session_takePrepared] at hlive
    split
    · next hstale =>
      exact (Move.preparedDropped first fun other hother hcurrent => by
        rw [hlive] at hother
        cases hother
        exact hstale.resolve_left fun hne => hne hcurrent).chain
    · next hcurrent =>
      simp only [not_or, not_not, Bool.not_eq_false] at hcurrent
      split
      · next hlisted =>
        simp only [List.any_eq_true, List.contains_iff_mem] at hlisted
        exact (Move.preparedListed first hlive hcurrent.1 hcurrent.2 hlisted).thenInner
          (check_chain [] _)
      · next hunlisted =>
        simp only [List.any_eq_true, List.contains_iff_mem, not_exists, not_and] at hunlisted
        exact (Move.preparedPlayed first hlive hcurrent.1 hcurrent.2 hunlisted).thenInner
          (play_chain [] _ _)

theorem cleanup_chain {st st' : BridgeRuntime} {id : SessionId}
    (h : st.takeCleanup.handleCleanup env id = some st') : Chain env guard ([], st) ([], st') := by
  refine Move.cleanupTaken.chain.trans ?_
  unfold handleCleanup at h
  split at h
  · cases h
    exact .refl
  · next session hlive =>
    split at h
    · exact (stopSession_chain guard hlive (fun _ heq => by cases heq) h).1
    · cases h
      exact .refl

theorem serve_chain {st st' : BridgeRuntime} {label : BridgeLabel} (guarded : guard st label)
    (h : st.serve env label = some st') : Chain env guard ([], st) ([], st') := by
  cases label with
  | event event =>
    simp only [serve] at h
    split at h
    · exact handleEvent_chain guarded ‹_› h
    · cases h
  | result =>
    obtain ⟨result, hfirst, h⟩ := Option.bind_eq_some_iff.mp h
    obtain ⟨rest, hrest⟩ := List.head?_eq_some_iff.mp hfirst
    exact result_chain hrest h
  | retry =>
    obtain ⟨retry, hfirst, h⟩ := Option.bind_eq_some_iff.mp h
    obtain ⟨rest, hrest⟩ := List.head?_eq_some_iff.mp hfirst
    exact retry_chain guarded hrest h
  | prepared =>
    obtain ⟨prepared, hfirst, rfl⟩ := Option.map_eq_some_iff.mp h
    obtain ⟨rest, hrest⟩ := List.head?_eq_some_iff.mp hfirst
    exact prepared_chain hrest
  | wake =>
    simp only [serve] at h
    split at h
    · cases h
    · next hwoken =>
      cases h
      exact (Move.wakeTaken (Nat.pos_of_ne_zero hwoken)).thenInner (check_chain [] _)
  | cleanup =>
    obtain ⟨id, -, h⟩ := Option.bind_eq_some_iff.mp h
    exact cleanup_chain h
  | shutdown => exact shutdown_chain h
  | _ => cases h

/-! ### The other parts of the system -/

theorem workerStep_chain {st st' : BridgeRuntime} {zoneId : ZoneId} {worker : ZoneWorker}
    {action : WorkerAction} (guarded : guard st (.worker zoneId action))
    (found : st.zoneWorkers zoneId = some worker)
    (h : st.workerStep zoneId worker action = some st') : Chain env guard ([], st) ([], st') := by
  cases action with
  | take =>
    obtain ⟨worker', htook, rfl⟩ := Option.map_eq_some_iff.mp h
    exact (Move.workerTook found htook).chain
  | reply reply =>
    obtain ⟨⟨worker', outputs⟩, hreplied, rfl⟩ := Option.map_eq_some_iff.mp h
    exact (Move.workerReplied guarded found hreplied).chain
  | supersede =>
    obtain ⟨worker', hsuperseded, rfl⟩ := Option.map_eq_some_iff.mp h
    exact (Move.workerSuperseded found hsuperseded).chain
  | ready =>
    obtain ⟨⟨worker', prepared⟩, hready, rfl⟩ := Option.map_eq_some_iff.mp h
    exact (Move.workerReady found hready).chain
  | release =>
    simp only [workerStep] at h
    split at h
    · exact (Move.groupReleased found ‹_› h).chain
    · cases h

theorem fireRetry_chain {st st' : BridgeRuntime} {id : SessionId}
    (h : st.fireRetry id = some st') : Chain env guard ([], st) ([], st') := by
  unfold fireRetry at h
  split at h
  · cases h
  · next task htask =>
    obtain ⟨session, hlive, htimer⟩ := Option.bind_eq_some_iff.mp htask
    split at h
    · next hdue =>
      cases h
      simp only [Bool.and_eq_true, Bool.not_eq_true', decide_eq_true_eq] at hdue
      exact (Move.retryFired hlive htimer hdue.1 hdue.2).chain
    · cases h

theorem fireCleanup_chain {st st' : BridgeRuntime} {id : SessionId}
    (h : st.fireCleanup id = some st') : Chain env guard ([], st) ([], st') := by
  unfold fireCleanup at h
  split at h
  · cases h
  · next task htask =>
    obtain ⟨session, hlive, htimer⟩ := Option.bind_eq_some_iff.mp htask
    split at h
    · next hdue =>
      cases h
      simp only [Bool.and_eq_true, Bool.not_eq_true', decide_eq_true_eq] at hdue
      exact (Move.cleanupFired hlive htimer hdue.1 hdue.2).chain
    · cases h

/-- A step of the bridge is a chain of moves. -/
theorem step_chain {st st' : BridgeRuntime} {label : BridgeLabel} (guarded : guard st label)
    (h : st.step env label = some st') : Chain env guard ([], st) ([], st') := by
  have hserve (h : (if st.stopped then none else st.serve env label) = some st') :
      Chain env guard ([], st) ([], st') := by
    split at h
    · cases h
    · exact serve_chain guarded h
  cases label with
  | tick elapsed =>
    cases h
    exact (Move.tick elapsed).chain
  | worker zoneId action =>
    obtain ⟨worker, hfound, h⟩ := Option.bind_eq_some_iff.mp h
    exact workerStep_chain guarded hfound h
  | retryTimer id => exact fireRetry_chain h
  | cleanupTimer id => exact fireCleanup_chain h
  | wakeTimer due =>
    simp only [step] at h
    split at h
    · next htimer =>
      cases h
      exact (Move.wakeFired htimer.1 htimer.2).chain
    · cases h
  | event event => exact hserve h
  | result => exact hserve h
  | retry => exact hserve h
  | prepared => exact hserve h
  | wake => exact hserve h
  | cleanup => exact hserve h
  | shutdown => exact hserve h

/-! ### Visited states -/

variable (env guard) in
def Visited (stack : List Frame) (st : BridgeRuntime) : Prop :=
  Chain env guard ([], .new) (stack, st)

theorem Visited.of_reachable {st : BridgeRuntime} (h : (bridge env).ReachableWhen guard st) :
    Visited env guard [] st := by
  induction h with
  | init => exact .refl
  | step _ allowed taken ih => exact ReflTransGen.trans ih (step_chain allowed taken)

/-- What every move preserves holds in every visited state. -/
theorem Visited.invariant {P : List Frame → BridgeRuntime → Prop} (start : P [] .new)
    (preserved : ∀ stack st stack' st', Visited env guard stack st → P stack st →
      Move env guard stack st stack' st' → P stack' st')
    {stack : List Frame} {st : BridgeRuntime} (h : Visited env guard stack st) : P stack st := by
  have hpair (a : List Frame × BridgeRuntime) (ha : Chain env guard ([], .new) a) : P a.1 a.2 := by
    induction ha with
    | refl => exact start
    | tail chain move ih => exact preserved _ _ _ _ chain ih move
  exact hpair (stack, st) h

theorem chain_of_run {st later : BridgeRuntime} {labels : List BridgeLabel}
    (run : (bridge env).run st labels = some later) :
    Chain env (fun _ _ => True) ([], st) ([], later) := by
  induction labels generalizing st with
  | nil =>
    cases run
    exact .refl
  | cons label rest ih =>
    obtain ⟨next, taken, run⟩ := Option.bind_eq_some_iff.mp run
    exact ReflTransGen.trans (step_chain trivial taken) (ih run)

/-! ### What the unfinished work is about -/

/-- A session that restarts or leaves its group wants playback, one that is paused does not,
and one that is stopped is gone. -/
def Goal.Holds (st : BridgeRuntime) : Goal → Prop
  | restart id _ => ∃ session, st.session id = some session ∧ session.desiredPlayback = true
  | pause id _ => ∃ session, st.session id = some session ∧ session.desiredPlayback = false
  | stop id _ _ => st.session id = none
  | leave id => ∃ session, st.session id = some session ∧ session.desiredPlayback = true

theorem session_of_demand {st st' : BridgeRuntime} (h : st'.demand = st.demand) {id : SessionId}
    {session : SessionRuntime} (live : st.session id = some session) :
    ∃ session', st'.session id = some session' ∧ session'.demand = session.demand := by
  have hid := congrFun h id
  simp only [BridgeRuntime.demand, live, Option.map_some] at hid
  obtain ⟨session', live', hsame⟩ := Option.map_eq_some_iff.mp hid
  exact ⟨session', live', hsame⟩

theorem Goal.Holds.of_demand {st st' : BridgeRuntime} {goal : Goal}
    (same : st'.demand = st.demand) (h : goal.Holds st) : goal.Holds st' := by
  have hwanted (id : SessionId) (wanted : Bool)
      (h : ∃ session, st.session id = some session ∧ session.desiredPlayback = wanted) :
      ∃ session, st'.session id = some session ∧ session.desiredPlayback = wanted := by
    obtain ⟨session, live, hsession⟩ := h
    obtain ⟨session', live', hdemand⟩ := session_of_demand same live
    exact ⟨session', live', (congrArg Demand.desiredPlayback hdemand).trans hsession⟩
  cases goal with
  | restart id zoneId => exact hwanted id true h
  | pause id zoneId => exact hwanted id false h
  | stop id zoneId generation =>
    apply session_eq_none_of_demand
    rw [same]
    have hgone : st.session id = none := h
    simp [BridgeRuntime.demand, hgone]
  | leave id => exact hwanted id true h

def Framed (stack : List Frame) (st : BridgeRuntime) : Prop :=
  ∀ goal todo, .leaving goal todo ∈ stack → goal.Holds st

theorem Framed.of_demand {stack : List Frame} {st st' : BridgeRuntime}
    (same : st'.demand = st.demand) (h : Framed stack st) : Framed stack st' :=
  fun goal todo hmem => (h goal todo hmem).of_demand same

theorem Framed.single {st : BridgeRuntime} {goal : Goal} (h : goal.Holds st)
    (todo : List SessionId) : Framed [.leaving goal todo] st := by
  intro other todo' hmem
  cases List.mem_singleton.mp hmem
  exact h

theorem Framed.nil (st : BridgeRuntime) : Framed [] st :=
  fun _ _ hmem => nomatch hmem

theorem Framed.inner {stack stack' : List Frame} {st st' : BridgeRuntime} (h : Framed stack st)
    (move : Inner env stack st stack' st') : Framed stack' st' := by
  have same := move.demand
  have hold (goal : Goal) (todo : List SessionId) (hmem : .leaving goal todo ∈ stack) :
      goal.Holds st' := (h goal todo hmem).of_demand same
  intro goal todo hmem
  cases move with
  | memberSkipped =>
    rcases List.mem_cons.mp hmem with heq | hmem
    · cases heq
      exact hold _ _ List.mem_cons_self
    · exact hold _ _ (List.mem_cons_of_mem _ hmem)
  | memberRestarted live wanted =>
    rcases List.mem_cons.mp hmem with heq | hmem
    · cases heq
      obtain ⟨session', live', hdemand⟩ := session_of_demand same live
      exact ⟨session', live', (congrArg Demand.desiredPlayback hdemand).trans wanted⟩
    · rcases List.mem_cons.mp hmem with heq | hmem
      · cases heq
        exact hold _ _ List.mem_cons_self
      · exact hold _ _ (List.mem_cons_of_mem _ hmem)
  | cohortReleased =>
    rcases List.mem_cons.mp hmem with heq | hmem
    · cases heq
    · exact hold _ _ hmem
  | streamStarted =>
    rcases List.mem_cons.mp hmem with heq | hmem
    · cases heq
    · exact hold _ _ (List.mem_cons_of_mem _ hmem)
  | built =>
    rcases List.mem_cons.mp hmem with heq | hmem
    · cases heq
    · exact hold _ _ (List.mem_cons_of_mem _ hmem)
  | pauseFinished =>
    rcases List.mem_cons.mp hmem with heq | hmem
    · cases heq
    · exact hold _ _ (List.mem_cons_of_mem _ hmem)
  | stopFinished =>
    rcases List.mem_cons.mp hmem with heq | hmem
    · cases heq
    · exact hold _ _ (List.mem_cons_of_mem _ hmem)
  | cohortDropped => exact hold _ _ hmem
  | _ => exact hold _ _ (List.mem_cons_of_mem _ hmem)

theorem Framed.move {stack stack' : List Frame} {st st' : BridgeRuntime} (h : Framed stack st)
    (move : Move env guard stack st stack' st') : Framed stack' st' := by
  have hretry (now : Instant) (retry : DownstreamRetry) (session : SessionRuntime) :
      (retryOrReset now retry session).desiredPlayback = session.desiredPlayback := by
    unfold retryOrReset
    split <;> rfl
  cases move with
  | inner move => exact h.inner move
  | resumedRestart address live =>
    refine .single ?_ _
    simp [Goal.Holds, live]
  | flushedPlaying address live wanted =>
    refine .single ?_ _
    simp [Goal.Holds, live, wanted]
  | paused address live =>
    refine .single ?_ _
    simp [Goal.Holds, live]
  | sessionRemoved =>
    refine .single ?_ _
    simp [Goal.Holds]
  | sessionInserted =>
    refine .single ?_ _
    simp [Goal.Holds, SessionRuntime.new]
  | startExhausted first live current wanted =>
    refine .single ?_ _
    simp [Goal.Holds, live, wanted, hretry]
  | startAbandoned first live current wanted =>
    refine .single ?_ _
    simp [Goal.Holds, live, wanted]
  | retryRestarted first live current wanted =>
    refine .single ?_ _
    simp [Goal.Holds, live, wanted]
  | preparedListed =>
    intro goal todo hmem
    cases List.mem_singleton.mp hmem
  | preparedPlayed =>
    intro goal todo hmem
    cases List.mem_singleton.mp hmem
  | wakeTaken =>
    intro goal todo hmem
    cases List.mem_singleton.mp hmem
  | _ => exact .nil _

theorem Visited.framed {stack : List Frame} {st : BridgeRuntime}
    (h : Visited env guard stack st) : Framed stack st :=
  h.invariant (Framed.nil _) fun _ _ _ _ _ framed move => framed.move move

end AirSonos
