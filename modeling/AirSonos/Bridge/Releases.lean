import AirSonos.Bridge.Attempts

/-!
# Playback releases

The encoder of a WAV stream waits until the stream is released. A stream that plays on its own
is released when it is started, by its worker when it waits for the joins of others, or by a
retry; a member's own stream is held for the case that its Join fails.
-/

namespace AirSonos

open BridgeRuntime

variable {env : Env} {guard : BridgeRuntime → BridgeLabel → Prop}

/-- The release of a generation after a move. It is set by the start of a stream that plays at
once, by the end of a wait for joins, and by a retry of a held stream. -/
inductive PlanStep (env : Env) (stack : List Frame) (st st' : BridgeRuntime) (generation : Nat) :
    Option PlaybackRelease → Prop
  | kept : PlanStep env stack st st' generation (st.playbackRelease generation)
  | started {release stream rest roles tail delay}
      (top : stack = .starting release (stream :: rest) roles :: tail)
      (names : stream.liveStream.session.generation = generation)
      (command : startCommand release.joins (release.delays.lookup stream.sessionId)
        (roles.lookup stream.sessionId) stream = .play stream)
      (planned : release.delays.lookup stream.sessionId = some delay)
      (after : st' = (startStream env release.joins release.delays release.cutoff (st, roles)
        stream).1) :
      PlanStep env stack st st' generation (some ⟨release.cutoff, delay⟩)
  | grouped {zoneId worker stream joins delay since}
      (found : st.zoneWorkers zoneId = some worker)
      (waiting : worker.running = some (.groupWait stream joins (some delay) since))
      (names : stream.liveStream.session.generation = generation)
      (after : st.releaseGroup zoneId worker stream joins (some delay) since = some st') :
      PlanStep env stack st st' generation
        (some ⟨(st.groupJoins joins.ref).released.getD st.now + SYNC_START_LEAD, delay⟩)
  | replayed {retry rest session stream delay} (first : st.retryRx = retry :: rest)
      (live : st.session retry.sessionId = some session)
      (current : session.generation = retry.generation) (kept : session.prepared = some stream)
      (held : stream.heldDelay = some delay)
      (names : stream.liveStream.session.generation = generation) :
      PlanStep env stack st st' generation (some ⟨st.now + SYNC_START_LEAD, delay⟩)

namespace PlanStep

variable {stack stack' : List Frame} {st st' : BridgeRuntime}

theorem same (plans : st'.playbackRelease = st.playbackRelease) (generation : Nat) :
    PlanStep env stack st st' generation (st'.playbackRelease generation) := by
  rw [plans]
  exact .kept

theorem playbackRelease_planStream (st : BridgeRuntime) (stream : PreparedDownstream)
    (cutoff : Instant) (delay : Option Duration) (generation : Nat) :
    (st.planStream stream cutoff delay).playbackRelease generation =
        st.playbackRelease generation ∨
      stream.liveStream.session.generation = generation ∧ ∃ planned, delay = some planned ∧
        (st.planStream stream cutoff delay).playbackRelease generation =
          some ⟨cutoff, planned⟩ := by
  cases delay with
  | none => exact .inl rfl
  | some planned =>
    by_cases hnames : generation = stream.liveStream.session.generation
    · refine .inr ⟨hnames.symm, planned, rfl, ?_⟩
      simp only [planStream, setPlaybackPlan, hnames, Function.update_self]
    · refine .inl ?_
      simp only [planStream, setPlaybackPlan]
      exact Function.update_of_ne hnames ..

theorem playbackRelease_recordDelay (st : BridgeRuntime) (id : SessionId)
    (delay : Option Duration) :
    (st.recordDelay id delay).playbackRelease = st.playbackRelease := by
  cases delay <;> rfl

theorem inner (move : Inner env stack st stack' st') (generation : Nat) :
    PlanStep env stack st st' generation (st'.playbackRelease generation) := by
  cases move with
  | @cohortReleased tail _ cohort rest =>
    obtain ⟨groupJoins, nextGroupJoins, heq⟩ := openPlay_spec env
      (st.handOver (st.pruneCohort cohort) rest) (st.pruneCohort cohort).preparedStreams
    rw [heq]
    exact .kept
  | @streamStarted tail _ release stream rest roles =>
    have hrecorded := playbackRelease_recordDelay st stream.sessionId
      (release.delays.lookup stream.sessionId)
    have hplan : (startStream env release.joins release.delays release.cutoff (st, roles)
        stream).1.playbackRelease = ((st.recordDelay stream.sessionId
          (release.delays.lookup stream.sessionId)).planStart release.cutoff
            (release.delays.lookup stream.sessionId) (startCommand release.joins
              (release.delays.lookup stream.sessionId) (roles.lookup stream.sessionId)
                stream)).playbackRelease := rfl
    have hpayload := (startCommand_spec release.joins (release.delays.lookup stream.sessionId)
      (roles.lookup stream.sessionId) stream).2
    generalize hafter : (startStream env release.joins release.delays release.cutoff (st, roles)
      stream).1 = after at hplan
    have hmid := hrecorded
    generalize st.recordDelay stream.sessionId
      (release.delays.lookup stream.sessionId) = mid at hplan hmid
    cases hcommand : startCommand release.joins (release.delays.lookup stream.sessionId)
      (roles.lookup stream.sessionId) stream with
    | play played =>
      rw [hcommand] at hplan hpayload
      cases hpayload
      have hset := playbackRelease_planStream mid stream release.cutoff
        (release.delays.lookup stream.sessionId) generation
      rw [hplan]
      rcases hset with heq | ⟨hnames, planned, hdelay, heq⟩
      · refine (congrArg (PlanStep env _ st after generation) (heq.trans ?_)).mpr .kept
        rw [hmid]
      · refine (congrArg (PlanStep env _ st after generation) heq).mpr ?_
        exact .started rfl hnames hcommand hdelay hafter.symm
    | _ =>
      rw [hcommand] at hplan
      refine same (hplan.trans ?_) generation
      exact hmid
  | _ => exact .kept

theorem move (h : Move env guard stack st stack' st') (generation : Nat) :
    PlanStep env stack st st' generation (st'.playbackRelease generation) := by
  cases h with
  | inner move => exact inner move generation
  | @workerReplied _ zoneId worker reply worker' outputs =>
    obtain ⟨groupJoins, heq⟩ := deliver_eq (st.setWorker zoneId worker') outputs
    rw [heq]
    exact .kept
  | @groupReleased _ zoneId worker stream joins delay since _ found waiting released =>
    have hafter := released
    obtain ⟨-, rfl⟩ := releaseGroup_spec released
    rcases playbackRelease_planStream (st.fixRelease joins) stream
      ((st.groupJoins joins.ref).released.getD st.now + SYNC_START_LEAD) delay generation with
      heq | ⟨hnames, planned, rfl, heq⟩
    · exact (congrArg (PlanStep env [] st _ generation) heq).mpr .kept
    · exact (congrArg (PlanStep env [] st _ generation) heq).mpr
        (.grouped found waiting hnames hafter)
  | encoderClosed =>
    unfold BridgeRuntime.encoderInputClosed
    split <;> exact .kept
  | @startSucceeded _ result =>
    obtain ⟨nativeGroups, heq⟩ := startSucceeded_spec st.takeResult result.sessionId result.outcome
    rw [heq]
    exact .kept
  | @startRetried _ result =>
    obtain ⟨nativeGroups, heq⟩ := startUncertain_spec st.takeResult result.sessionId result.outcome
    rw [heq]
    exact .kept
  | @startExhausted _ result =>
    obtain ⟨nativeGroups, heq⟩ := startUncertain_spec st.takeResult result.sessionId result.outcome
    rw [heq]
    exact .kept
  | @retryReplayed _ retry rest session prepared guarded first live current wanted kept =>
    unfold BridgeRuntime.replayPrepared
    rcases playbackRelease_planStream (st.takeRetry.modifySession retry.sessionId fun session =>
      { session with prepared := some prepared.released, retryTask := none }) prepared
        (st.now + SYNC_START_LEAD) prepared.heldDelay generation with
      heq | ⟨hnames, planned, hheld, heq⟩
    · exact (congrArg (PlanStep env [] st _ generation) heq).mpr .kept
    · exact (congrArg (PlanStep env [] st _ generation) heq).mpr
        (.replayed first live current kept hheld hnames)
  | @preparedPlayed _ prepared =>
    obtain ⟨groupJoins, nextGroupJoins, heq⟩ := openPlay_spec env
      (st.takePrepared.keepPrepared prepared) [prepared]
    rw [heq]
    exact .kept
  | _ => exact .kept

/-- A release stays set. -/
theorem mono (h : Move env guard stack st stack' st') {generation : Nat}
    (released : st.playbackRelease generation ≠ none) : st'.playbackRelease generation ≠ none := by
  have hstep := move h generation
  generalize st'.playbackRelease generation = plan at hstep
  cases hstep with
  | kept => exact released
  | _ => exact Option.some_ne_none _

end PlanStep

/-! ### Streams and their owners -/

/-- A move registers at most one stream, of a new generation. -/
inductive StreamStep (env : Env) (st : BridgeRuntime) : List LiveStream → Prop
  | kept : StreamStep env st st.streams
  | registered {mid id zoneId generation liveStream}
      (created : BridgeRuntime.createDownstreamStream env mid id zoneId generation =
        some liveStream) : StreamStep env st (liveStream :: st.streams)

theorem StreamStep.move {stack stack' : List Frame} {st st' : BridgeRuntime}
    (h : Move env guard stack st stack' st') : StreamStep env st st'.streams := by
  cases h with
  | inner move =>
    cases move with
    | built live renderer_eq created => exact .registered created
    | cohortReleased =>
      rw [Sound.streams_openPlay]
      exact .kept
    | @streamStarted tail _ release stream rest roles =>
      rw [Sound.streams_startStream]
      exact .kept
    | _ => exact .kept
  | @workerReplied _ zoneId worker reply worker' outputs =>
    obtain ⟨groupJoins, heq⟩ := deliver_eq (st.setWorker zoneId worker') outputs
    rw [heq]
    exact .kept
  | groupReleased found waiting released =>
    obtain ⟨-, rfl⟩ := releaseGroup_spec released
    unfold planStream
    split <;> exact .kept
  | encoderClosed =>
    unfold BridgeRuntime.encoderInputClosed
    split <;> exact .kept
  | @startSucceeded _ result =>
    obtain ⟨nativeGroups, heq⟩ := startSucceeded_spec st.takeResult result.sessionId result.outcome
    rw [heq]
    exact .kept
  | @startRetried _ result =>
    obtain ⟨nativeGroups, heq⟩ := startUncertain_spec st.takeResult result.sessionId result.outcome
    rw [heq]
    exact .kept
  | @startExhausted _ result =>
    obtain ⟨nativeGroups, heq⟩ := startUncertain_spec st.takeResult result.sessionId result.outcome
    rw [heq]
    exact .kept
  | @retryReplayed _ retry rest session prepared =>
    obtain ⟨playbackRelease, heq⟩ := replayPrepared_spec env st.takeRetry retry.sessionId
      retry.zoneId prepared
    rw [heq]
    exact .kept
  | preparedPlayed =>
    rw [Sound.streams_openPlay]
    exact .kept
  | _ => exact .kept

section Streams

variable {stack stack' : List Frame} {st st' : BridgeRuntime}

theorem streams_subset (h : Move env guard stack st stack' st') : st.streams ⊆ st'.streams := by
  have hstep := StreamStep.move h
  generalize st'.streams = streams at hstep
  cases hstep with
  | kept => exact List.Subset.refl _
  | registered => exact List.subset_cons_self _ _

/-- Every stream has the codec that is configured. -/
theorem Visited.codec (h : Visited env guard stack st) :
    ∀ stream ∈ st.streams, stream.session.codec = env.config.codec := by
  refine h.invariant (P := fun _ st => ∀ stream ∈ st.streams,
    stream.session.codec = env.config.codec) (fun _ hmem => by cases hmem) ?_
  intro stack st stack' st' _ codec move
  have hstep := StreamStep.move move
  generalize st'.streams = streams at hstep
  cases hstep with
  | kept => exact codec
  | registered created =>
    intro stream hmem
    rcases List.mem_cons.mp hmem with rfl | hmem
    · unfold createDownstreamStream at created
      split at created
      · cases created
      · split at created
        · cases created
          rfl
        · cases created
    · exact codec stream hmem

/-- A generation has one stream, so it belongs to one session. -/
theorem Coherent.owner (h : Coherent env stack st) {stream other : PreparedDownstream}
    (genuine : stream.Genuine env st.streams) (genuine' : other.Genuine env st.streams)
    (same : stream.generation = other.generation) : stream.sessionId = other.sessionId := by
  have hlive : stream.liveStream = other.liveStream := by
    apply h.eq_of_generation genuine.registered genuine'.registered
    rw [genuine.generation, genuine'.generation, same]
  rw [← genuine.sessionId, ← genuine'.sessionId, hlive]

end Streams

/-! ### Streams being started -/

/-- Where the streams that are being started come from: a frame that stays, one whose first
stream was started, or a release that opens. -/
inductive StartingStep (env : Env) (stack : List Frame) (st st' : BridgeRuntime) :
    Release → List PreparedDownstream → AssocMap SessionId NativeMember → Prop
  | kept {release todo roles} (mem : .starting release todo roles ∈ stack) :
      StartingStep env stack st st' release todo roles
  | advanced {release stream todo roles tail}
      (top : stack = .starting release (stream :: todo) roles :: tail) :
      StartingStep env stack st st' release todo (roles.erase stream.sessionId)
  | released {cohort rest} (first : st.cohorts = cohort :: rest)
      (after : st' = (st.handOver (st.pruneCohort cohort) rest).openPlay env
        (st.pruneCohort cohort).preparedStreams) :
      StartingStep env stack st st'
        ((st.handOver (st.pruneCohort cohort) rest).planRelease env
          (st.pruneCohort cohort).preparedStreams)
        (st.pruneCohort cohort).preparedStreams
        ((st.handOver (st.pruneCohort cohort) rest).planRelease env
          (st.pruneCohort cohort).preparedStreams).roles
  | arrived {prepared rest} (first : st.preparedRx = prepared :: rest)
      (after : st' = (st.takePrepared.keepPrepared prepared).openPlay env [prepared]) :
      StartingStep env stack st st'
        ((st.takePrepared.keepPrepared prepared).planRelease env [prepared]) [prepared]
        ((st.takePrepared.keepPrepared prepared).planRelease env [prepared]).roles

namespace StartingStep

variable {stack stack' : List Frame} {st st' : BridgeRuntime} {release : Release}
  {todo : List PreparedDownstream} {roles : AssocMap SessionId NativeMember}

theorem pushed {frame : Frame} (mem : .starting release todo roles ∈ frame :: stack)
    (other : ∀ release todo roles, frame ≠ .starting release todo roles) :
    StartingStep env stack st st' release todo roles :=
  .kept ((List.mem_cons.mp mem).resolve_left fun heq => other _ _ _ heq.symm)

theorem popped {frame : Frame} (mem : .starting release todo roles ∈ stack) :
    StartingStep env (frame :: stack) st st' release todo roles :=
  .kept (List.mem_cons_of_mem _ mem)

theorem inner (move : Inner env stack st stack' st')
    (mem : .starting release todo roles ∈ stack') :
    StartingStep env stack st st' release todo roles := by
  cases move with
  | memberSkipped => exact popped ((List.mem_cons.mp mem).resolve_left nofun)
  | memberRestarted =>
    have hrest := (List.mem_cons.mp mem).resolve_left nofun
    exact popped ((List.mem_cons.mp hrest).resolve_left nofun)
  | built => exact popped ((List.mem_cons.mp mem).resolve_left nofun)
  | pauseFinished => exact popped ((List.mem_cons.mp mem).resolve_left nofun)
  | stopFinished => exact popped ((List.mem_cons.mp mem).resolve_left nofun)
  | cohortDropped => exact .kept mem
  | cohortReleased first =>
    rcases List.mem_cons.mp mem with heq | hrest
    · cases heq
      exact .released first rfl
    · exact .kept hrest
  | streamStarted =>
    rcases List.mem_cons.mp mem with heq | hrest
    · cases heq
      exact .advanced rfl
    · exact popped hrest
  | _ => exact popped mem

theorem move (h : Move env guard stack st stack' st')
    (mem : .starting release todo roles ∈ stack') :
    StartingStep env stack st st' release todo roles := by
  cases h with
  | inner move => exact inner move mem
  | preparedPlayed first =>
    rcases List.mem_singleton.mp mem with heq
    cases heq
    exact .arrived first rfl
  | _ =>
    first
    | exact absurd mem List.not_mem_nil
    | exact absurd (List.mem_singleton.mp mem) nofun

end StartingStep

/-- A WAV stream that is handed to the players has a delay. -/
theorem lookup_syncDelays_ne_none (env : Env) (st : BridgeRuntime)
    {prepared : List PreparedDownstream} (members : AssocMap SessionId NativeMember)
    {stream : PreparedDownstream} (hmem : stream ∈ prepared)
    (wav : stream.liveStream.session.codec = .wav) :
    (st.syncDelays env prepared members).lookup stream.sessionId ≠ none := by
  have hfold (value : PreparedDownstream → Duration) (streams : List PreparedDownstream)
      (delays : AssocMap SessionId Duration)
      (h : delays.lookup stream.sessionId ≠ none ∨ stream ∈ streams) :
      (streams.foldl (fun delays stream => if stream.liveStream.session.codec = .wav then
        delays.insert stream.sessionId (value stream) else delays) delays).lookup
          stream.sessionId ≠ none := by
    induction streams generalizing delays with
    | nil => exact h.resolve_right List.not_mem_nil
    | cons first rest ih =>
      rw [List.foldl_cons]
      apply ih
      rcases h with h | h
      · left
        split
        · rw [AssocMap.lookup_insert_ite]
          split
          · exact Option.some_ne_none _
          · exact h
        · exact h
      · rcases List.mem_cons.mp h with rfl | h
        · left
          rw [if_pos wav, AssocMap.lookup_insert_ite, if_pos rfl]
          exact Option.some_ne_none _
        · exact .inr h
  exact hfold _ prepared ∅ (.inr hmem)

/-- The streams that are being started have delays. -/
def Delayed (stack : List Frame) : Prop :=
  ∀ release todo roles, .starting release todo roles ∈ stack → ∀ stream ∈ todo,
    release.delays.lookup stream.sessionId ≠ none

theorem Visited.delayed (wav : env.config.codec = .wav) {stack : List Frame} {st : BridgeRuntime}
    (h : Visited env guard stack st) : Delayed stack := by
  refine h.invariant (P := fun stack _ => Delayed stack)
    (fun _ _ _ hmem => by cases hmem) ?_
  intro stack st stack' st' visited delayed move release todo roles hmem stream hstream
  have hgenuine := (visited.sound.move move).starting release todo roles hmem stream hstream
  have hcodec : stream.liveStream.session.codec = .wav :=
    (Visited.codec (visited.tail move) _ hgenuine.registered).trans wav
  cases StartingStep.move move hmem with
  | kept hold => exact delayed _ _ _ hold stream hstream
  | advanced top =>
    subst top
    exact delayed _ _ _ List.mem_cons_self stream (List.mem_cons_of_mem _ hstream)
  | released => exact lookup_syncDelays_ne_none env _ _ hstream hcodec
  | arrived => exact lookup_syncDelays_ne_none env _ _ hstream hcodec

/-! ### When a stream is released -/

/-- The prepared stream of the generation is released, or held for a retry. -/
def BridgeRuntime.Settled (st : BridgeRuntime) (id : SessionId) (generation : Nat) : Prop :=
  ∀ session, st.session id = some session → ∀ stream, session.prepared = some stream →
    stream.generation = generation →
      st.playbackRelease generation ≠ none ∨ stream.heldDelay ≠ none

def BridgeRuntime.Unprepared (st : BridgeRuntime) (id : SessionId) (generation : Nat) : Prop :=
  ∀ session, st.session id = some session → ∀ stream, session.prepared = some stream →
    stream.generation ≠ generation

/-- What holds of an attempt at each place: before its start the stream is not released, a room
that plays or has reported has it released or held. -/
def Token.Timely (st : BridgeRuntime) : Token → Prop
  | command (.prepare start) =>
    st.playbackRelease start.generation = none ∧ st.Unprepared start.sessionId start.generation
  | command (.play stream) => st.playbackRelease stream.generation ≠ none
  | command (.playGroup _ _ delay) => delay ≠ none
  | command (.join stream _ _) =>
    st.playbackRelease stream.generation = none ∧ st.Settled stream.sessionId stream.generation
  | command (.stop _ _ _) => True
  | message stream =>
    st.playbackRelease stream.generation = none ∧ st.Unprepared stream.sessionId stream.generation
  | listed stream => st.playbackRelease stream.generation = none
  | handed stream => st.playbackRelease stream.generation = none
  | result report => st.Settled report.sessionId report.generation
  | timer due => st.Settled due.sessionId due.generation
  | retry due => st.Settled due.sessionId due.generation

structure Timed (stack : List Frame) (st : BridgeRuntime) : Prop where
  token : ∀ token, Has stack st token → token.Timely st
  bounded : ∀ generation, st.playbackRelease generation ≠ none → generation ≤ st.nextGeneration
  grouped : ∀ zoneId worker stream joins delay, st.zoneWorkers zoneId = some worker →
    worker.running = some (.groupPlay stream joins delay) →
      st.playbackRelease stream.generation ≠ none

section Timing

variable {stack stack' : List Frame} {st st' : BridgeRuntime}

theorem BridgeRuntime.Settled.of_unprepared {id : SessionId} {generation : Nat}
    (h : st.Unprepared id generation) : st.Settled id generation :=
  fun session live stream kept same => absurd same (h session live stream kept)

theorem BridgeRuntime.Settled.of_released {id : SessionId} {generation : Nat}
    (h : st.playbackRelease generation ≠ none) : st.Settled id generation :=
  fun _ _ _ _ _ => .inl h

theorem startCommand_delay {joins : Option GroupJoins} {delay planned : Option Duration}
    {role : Option NativeMember} {stream started : PreparedDownstream} {counter : GroupJoins}
    (h : startCommand joins delay role stream = .playGroup started counter planned) :
    planned = delay := by
  unfold startCommand at h
  split at h
  · cases h
  · cases h
    rfl
  · cases h

/-- A command that is sent to a known zone is there. -/
theorem Has.of_sendCommand {zoneId : ZoneId} {renderer : Renderer}
    (known : env.renderers zoneId = some renderer) {command : TransportCommand}
    (active : command.isStop = false) :
    Has stack (st.sendCommand env zoneId command) (.command command) := by
  obtain ⟨worker, hworker⟩ : ∃ worker, st.worker env zoneId = some worker := by
    unfold BridgeRuntime.worker
    rw [known]
    cases st.zoneWorkers zoneId with
    | none => exact ⟨_, rfl⟩
    | some worker => exact ⟨worker, rfl⟩
  have hfound : (st.sendCommand env zoneId command).zoneWorkers zoneId =
      some (worker.sendCommand command) := by
    simp only [BridgeRuntime.sendCommand, Function.update_self, hworker, Option.map_some]
  exact .command hfound List.mem_cons_self active

/-- A generation is released by the start of a stream, the end of a wait or a retry. -/
theorem PlanStep.token (visited : Visited env guard stack st)
    (move : Move env guard stack st stack' st') {generation : Nat}
    (before : st.playbackRelease generation = none)
    (released : st'.playbackRelease generation ≠ none) :
    ∃ (token : Token) (stream : PreparedDownstream),
      Has stack st token ∧ stream.Genuine env st.streams ∧
      stream.generation = generation ∧ token.sessionId = stream.sessionId ∧
      token.generation = generation ∧
      ((∃ started, token = .handed started ∧ Has stack' st' (.command (.play started))) ∨
        (∃ started joins delay, token = .command (.playGroup started joins delay)) ∨
        ∃ due, token = .retry due) := by
  have hstep := PlanStep.move move generation
  generalize hplan : st'.playbackRelease generation = plan at hstep
  cases hstep with
  | kept => exact absurd before (hplan ▸ released)
  | @started release stream rest roles tail delay top names command planned after =>
    have hhas : Has stack st (.handed stream) := .of_top top
    have hgenuine : stream.Genuine env st.streams := hhas.genuine visited.sound rfl
    have hgeneration := hgenuine.generation.symm.trans names
    refine ⟨_, stream, hhas, hgenuine, hgeneration, rfl, hgeneration, .inl ⟨stream, rfl, ?_⟩⟩
    obtain ⟨sessions, playbackRelease, f, heq, -, -⟩ := startStream_spec env release.joins
      release.delays release.cutoff st roles stream
    rw [after, heq, command]
    exact .of_sendCommand hgenuine.renderer rfl
  | @grouped zoneId worker stream joins delay since found waiting names =>
    have hhas : Has stack st (.command (.playGroup stream joins (some delay))) :=
      .command found (ZoneWorker.mem_commands_of_running waiting) rfl
    have hgenuine : stream.Genuine env st.streams := hhas.genuine visited.sound rfl
    have hgeneration := hgenuine.generation.symm.trans names
    exact ⟨_, stream, hhas, hgenuine, hgeneration, rfl, hgeneration, .inr (.inl ⟨_, _, _, rfl⟩)⟩
  | @replayed due rest session stream delay first live current kept held names =>
    have hhas : Has stack st (.retry due) := .retry (first ▸ List.mem_cons_self)
    obtain ⟨hid, hgenuine⟩ := visited.sound.kept _ session live stream kept
    have hgeneration := hgenuine.generation.symm.trans names
    have hcurrent := ((visited.coherent.session _ session live).prepared stream kept).2.1
    refine ⟨_, stream, hhas, hgenuine, hgeneration, hid.symm, ?_, .inr (.inr ⟨due, rfl⟩)⟩
    exact current.symm.trans (hcurrent.symm.trans hgeneration)

/-- A stream that was not released is released by its own token only. -/
theorem PlanStep.unreleased (visited : Visited env guard stack st)
    (move : Move env guard stack st stack' st') {token : Token} (has : Has stack st token)
    {stream : PreparedDownstream} (payload : token.payload = some stream)
    (names : token.sessionId = stream.sessionId ∧ token.generation = stream.generation)
    (before : st.playbackRelease token.generation = none) :
    st'.playbackRelease token.generation = none ∨
      (∃ started, token = .handed started ∧ Has stack' st' (.command (.play started))) ∨
      ∃ started joins delay, token = .command (.playGroup started joins delay) := by
  by_contra hnot
  obtain ⟨hreleased, hother⟩ := not_or.mp hnot
  obtain ⟨releasing, other, hhas, hgenuine, hgeneration, hid, hnames, hkind⟩ :=
    PlanStep.token visited move before hreleased
  have howner : other.sessionId = stream.sessionId :=
    visited.coherent.owner hgenuine (has.genuine visited.sound payload)
      (hgeneration.trans names.2)
  have hsame : releasing = token :=
    has.unique visited.sound visited.tokens hhas (hid.trans (howner.trans names.1.symm)) hnames
  subst hsame
  rcases hkind with hhanded | hgroup | ⟨due, rfl⟩
  · exact hother (.inl hhanded)
  · exact hother (.inr hgroup)
  · cases payload

/-- A session stays settled: its stream is held or released before it can be started again. -/
theorem Settled.move (visited : Visited env guard stack st) (delayed : Delayed stack)
    (timed : Timed stack st) (move : Move env guard stack st stack' st') {token : Token}
    (has : Has stack st token) (other : ∀ stream, token ≠ .message stream)
    (settled : st.Settled token.sessionId token.generation) :
    st'.Settled token.sessionId token.generation := by
  intro session' live' stream kept' same
  have hbooks := (Books.move move live').prepared stream kept'
  cases hbooks with
  | same live kept => exact (settled _ live _ kept same).imp (PlanStep.mono move) id
  | @held session old release started rest roles tail coordinator joins live kept top =>
    right
    subst top
    exact delayed _ _ _ List.mem_cons_self started List.mem_cons_self
  | arrived mem names =>
    have hmessage : Has stack st (.message stream) := .message mem
    exact absurd (hmessage.unique visited.sound visited.tokens has names.symm same.symm)
      (other stream)
  | @replayed due rest session old first names live current kept after =>
    left
    rcases settled session live old kept same with hreleased | hheld
    · exact PlanStep.mono move hreleased
    · have hgenuine := (visited.sound.kept _ session live old kept).2
      have hafter := after hheld
      rw [hgenuine.generation] at hafter
      exact same ▸ hafter

/-- A session stays unprepared until its prepared stream arrives. -/
theorem Unprepared.move (visited : Visited env guard stack st)
    (move : Move env guard stack st stack' st') {token : Token} (has : Has stack st token)
    (stays : ∀ stream, token = .message stream → Has stack' st' token)
    (unprepared : st.Unprepared token.sessionId token.generation) :
    st'.Unprepared token.sessionId token.generation := by
  intro session' live' stream kept' same
  have hbooks := (Books.move move live').prepared stream kept'
  cases hbooks with
  | same live kept => exact unprepared _ live _ kept same
  | held live kept => exact unprepared _ live _ kept same
  | arrived mem names after =>
    have hmessage : Has stack st (.message stream) := .message mem
    have htoken : token = .message stream :=
      hmessage.unique visited.sound visited.tokens has names.symm same.symm
    have hvisited : Visited env guard stack' st' := visited.tail move
    have hstays := stays stream htoken
    rcases after with hafter | hafter
    · have hsame := hstays.unique hvisited.sound hvisited.tokens hafter names same
      rw [htoken] at hsame
      cases hsame
    · have hsame := hstays.unique hvisited.sound hvisited.tokens hafter names same
      rw [htoken] at hsame
      cases hsame
  | replayed first names live current kept => exact unprepared _ live _ kept same

/-- No stream has a generation that is still to come. -/
theorem Unprepared.of_fresh (visited : Visited env guard stack st)
    (move : Move env guard stack st stack' st') {id : SessionId} {generation : Nat}
    (fresh : st.nextGeneration < generation) : st'.Unprepared id generation := by
  have hbounded (stream : PreparedDownstream) (genuine : stream.Genuine env st.streams) :
      stream.generation ≠ generation := by
    intro hsame
    have hle := visited.coherent.bounded _ genuine.registered
    rw [genuine.generation, hsame] at hle
    omega
  intro session' live' stream kept'
  have hbooks := (Books.move move live').prepared stream kept'
  cases hbooks with
  | same live kept => exact hbounded _ (visited.sound.kept _ _ live _ kept).2
  | held live kept =>
    have hold := hbounded _ (visited.sound.kept _ _ live _ kept).2
    exact hold
  | arrived mem => exact hbounded _ (visited.sound.message _ mem)
  | replayed first names live current kept =>
    have hold := hbounded _ (visited.sound.kept _ _ live _ kept).2
    exact hold

/-- Nothing is released for a generation that is still to come. -/
theorem PlanStep.fresh (visited : Visited env guard stack st) (timed : Timed stack st)
    (move : Move env guard stack st stack' st') {generation : Nat}
    (fresh : st.nextGeneration < generation) : st'.playbackRelease generation = none := by
  by_contra hreleased
  have hbefore : st.playbackRelease generation = none := by
    by_contra hbefore
    exact absurd (timed.bounded generation hbefore) (Nat.not_le.mpr fresh)
  obtain ⟨token, stream, hhas, -, -, -, hnames, -⟩ := PlanStep.token visited move hbefore hreleased
  have hle := hhas.bounded visited.sound visited.tokens
  omega

/-- A room that waited for the joins plays when its stream is released. -/
theorem grouped_move (visited : Visited env guard stack st) (timed : Timed stack st)
    (move : Move env guard stack st stack' st') {zoneId : ZoneId} {worker : ZoneWorker}
    (found : st'.zoneWorkers zoneId = some worker) {stream : PreparedDownstream}
    {joins : GroupJoins} {delay : Option Duration}
    (running : worker.running = some (.groupPlay stream joins delay)) :
    st'.playbackRelease stream.generation ≠ none := by
  have hstep := WorkersStep.move move zoneId worker found
  clear found
  induction hstep with
  | old found => exact PlanStep.mono move (timed.grouped _ _ _ _ _ found running)
  | new => cases running
  | sent before sends ih => exact ih running
  | volume before value ih => exact ih running
  | closed found => exact PlanStep.mono move (timed.grouped _ _ _ _ _ found running)
  | took found took => exact absurd running (ZoneWorker.not_groupPlay_of_take took _ _ _)
  | replied found replied =>
    exact absurd running (ZoneWorker.not_groupPlay_of_reply replied _ _ _)
  | superseded found superseded =>
    obtain ⟨task, -, -, -, rfl⟩ := ZoneWorker.supersede_spec superseded
    cases running
  | ready found ready =>
    obtain ⟨start, -, -, rfl⟩ := ZoneWorker.ready_spec ready
    cases running
  | @released worker waited counter planned since found waiting released =>
    cases running
    have hhas : Has stack st (.command (.playGroup stream joins delay)) :=
      .command found (ZoneWorker.mem_commands_of_running waiting) rfl
    have hgenuine : stream.Genuine env st.streams := hhas.genuine visited.sound rfl
    obtain ⟨planned, rfl⟩ := Option.ne_none_iff_exists'.mp (timed.token _ hhas)
    obtain ⟨-, rfl⟩ := releaseGroup_spec released
    rw [← hgenuine.generation]
    simp [planStream, setPlaybackPlan, BridgeRuntime.setWorker]

/-- A token that stays is as timely as before. -/
theorem Timed.old (timed : Timed stack st) (visited : Visited env guard stack st)
    (delayed : Delayed stack) (move : Move env guard stack st stack' st') {token : Token}
    (has : Has stack st token) (has' : Has stack' st' token) : token.Timely st' := by
  have hvisited : Visited env guard stack' st' := visited.tail move
  have htimely := timed.token token has
  cases token with
  | command sent =>
    cases sent with
    | prepare start =>
      refine ⟨?_, Unprepared.move visited move has (fun _ heq => by cases heq) htimely.2⟩
      exact (PlanStep.unreleased visited move has rfl ⟨rfl, rfl⟩ htimely.1).resolve_right nofun
    | play stream => exact PlanStep.mono move htimely
    | playGroup stream joins delay => exact htimely
    | join stream coordinator joins =>
      refine ⟨?_, Settled.move visited delayed timed move has nofun htimely.2⟩
      exact (PlanStep.unreleased visited move has rfl ⟨rfl, rfl⟩ htimely.1).resolve_right nofun
    | stop => exact trivial
  | message stream =>
    refine ⟨?_, Unprepared.move visited move has (fun _ _ => has') htimely.2⟩
    exact (PlanStep.unreleased visited move has rfl ⟨rfl, rfl⟩ htimely.1).resolve_right nofun
  | listed stream =>
    exact (PlanStep.unreleased visited move has rfl ⟨rfl, rfl⟩ htimely).resolve_right nofun
  | handed stream =>
    rcases PlanStep.unreleased visited move has rfl ⟨rfl, rfl⟩ htimely with
      hnone | ⟨started, heq, hplay⟩ | ⟨started, joins, delay, heq⟩
    · exact hnone
    · cases heq
      cases has'.unique hvisited.sound hvisited.tokens hplay rfl rfl
    · cases heq
  | result report => exact Settled.move visited delayed timed move has nofun htimely
  | timer due => exact Settled.move visited delayed timed move has nofun htimely
  | retry due => exact Settled.move visited delayed timed move has nofun htimely

/-- A command that a move sends comes in time. -/
theorem Timed.sends (timed : Timed stack st) (visited : Visited env guard stack st)
    (delayed : Delayed stack) (move : Move env guard stack st stack' st')
    {command : TransportCommand} (sends : Sends env stack st st' command)
    (has' : Has stack' st' (.command command)) : (Token.command command).Timely st' := by
  have hvisited : Visited env guard stack' st' := visited.tail move
  cases sends with
  | stop => exact trivial
  | prepare fresh =>
    exact ⟨PlanStep.fresh visited timed move fresh, Unprepared.of_fresh visited move fresh⟩
  | @start release stream rest roles tail top after =>
    have hhas : Has stack st (.handed stream) := .of_top top
    have hgenuine : stream.Genuine env st.streams := hhas.genuine visited.sound rfl
    have hdelay : release.delays.lookup stream.sessionId ≠ none := by
      subst top
      exact delayed _ _ _ List.mem_cons_self stream List.mem_cons_self
    obtain ⟨hstart, hpayload⟩ := startCommand_spec release.joins
      (release.delays.lookup stream.sessionId) (roles.lookup stream.sessionId) stream
    cases hcommand : startCommand release.joins (release.delays.lookup stream.sessionId)
      (roles.lookup stream.sessionId) stream with
    | prepare => rw [hcommand] at hstart; cases hstart
    | stop => rw [hcommand] at hstart; cases hstart
    | play played =>
      rw [hcommand] at hpayload
      cases hpayload
      obtain ⟨delay, hsome⟩ := Option.ne_none_iff_exists'.mp hdelay
      have hplan : st'.playbackRelease = ((st.recordDelay stream.sessionId
          (release.delays.lookup stream.sessionId)).planStart release.cutoff
            (release.delays.lookup stream.sessionId) (startCommand release.joins
              (release.delays.lookup stream.sessionId) (roles.lookup stream.sessionId)
                stream)).playbackRelease := by
        rw [after]
        rfl
      rw [hcommand, hsome] at hplan
      change st'.playbackRelease stream.generation ≠ none
      rw [hplan, ← hgenuine.generation]
      simp [planStart, planStream, setPlaybackPlan]
    | playGroup started joins delay =>
      have hplanned := startCommand_delay hcommand
      change delay ≠ none
      rw [hplanned]
      exact hdelay
    | join joined coordinator joins =>
      rw [hcommand] at has' hpayload
      cases hpayload
      constructor
      · rcases PlanStep.unreleased visited move hhas rfl ⟨rfl, rfl⟩ (timed.token _ hhas) with
          hnone | ⟨started, heq, hplay⟩ | ⟨started, joins, delay, heq⟩
        · exact hnone
        · cases heq
          cases has'.unique hvisited.sound hvisited.tokens hplay rfl rfl
        · cases heq
      · intro session' live' held kept _
        obtain ⟨f, hsessions, hf⟩ := startStream_kept env release.joins release.delays
          release.cutoff st roles stream
        rw [after, hsessions, if_pos rfl] at live'
        obtain ⟨session, live, rfl⟩ := Option.map_eq_some_iff.mp live'
        rcases (hf session).2 with ⟨hother, -⟩ | ⟨-, hheld⟩
        · exact absurd hcommand (hother coordinator joins)
        · rw [hheld] at kept
          obtain ⟨old, -, rfl⟩ := Option.map_eq_some_iff.mp kept
          exact .inr hdelay
  | @replay due rest session prepared first live current kept after =>
    have hhas : Has stack st (.retry due) := .retry (first ▸ List.mem_cons_self)
    have hgenuine := (visited.sound.kept _ session live prepared kept).2
    have hsame : prepared.generation = due.generation :=
      ((visited.coherent.session _ session live).prepared prepared kept).2.1.trans current
    change st'.playbackRelease prepared.generation ≠ none
    rcases timed.token _ hhas session live prepared kept hsame with hreleased | hheld
    · rw [hsame]
      exact PlanStep.mono move hreleased
    · obtain ⟨delay, hdelay⟩ := Option.ne_none_iff_exists'.mp hheld
      rw [after, ← hgenuine.generation]
      unfold BridgeRuntime.replayPrepared
      rw [hdelay]
      simp [planStream, setPlaybackPlan, BridgeRuntime.sendCommand]

/-- A result of a start finds the stream released or held. -/
theorem Timed.result (timed : Timed stack st) (visited : Visited env guard stack st)
    (delayed : Delayed stack) (move : Move env guard stack st stack' st') {zoneId : ZoneId}
    {worker : ZoneWorker} {task : TransportTask} {result : DownstreamStartResult}
    (found : st.zoneWorkers zoneId = some worker) (running : worker.running = some task)
    (request : task.request.isSome = true) (last : ∀ next, task ≠ .leave next)
    (ends : result.Ends task.command) (start : result.outcome.stops = false) :
    st'.Settled result.sessionId result.generation := by
  have hhas (active : task.command.isStop = false) : Has stack st (.command task.command) :=
    .command found (ZoneWorker.mem_commands_of_running running) active
  have hprepare (start : StreamPrepare) (has : Has stack st (.command (.prepare start))) :
      st'.Settled start.sessionId start.generation :=
    .of_unprepared (Unprepared.move visited move has (fun _ heq => by cases heq)
      (timed.token _ has).2)
  rw [ends.sessionId, ends.generation]
  cases task with
  | leave next => exact absurd rfl (last next)
  | prepareStandalone start => exact hprepare start (hhas rfl)
  | prepareStop start => exact hprepare start (hhas rfl)
  | prepareSetUri start => exact hprepare start (hhas rfl)
  | prepareReady => cases request
  | groupWait => cases request
  | play stream => exact .of_released (PlanStep.mono move (timed.token _ (hhas rfl)))
  | groupPlay stream joins delay =>
    exact .of_released (PlanStep.mono move (timed.grouped _ _ _ _ _ found running))
  | join stream coordinator joins =>
    exact Settled.move visited delayed timed move (hhas rfl) nofun (timed.token _ (hhas rfl)).2
  | stop id zoneId generation =>
    rcases ends.stop.mp rfl with heq | heq <;> rw [heq] at start <;> cases start

theorem Timed.move (timed : Timed stack st) (visited : Visited env guard stack st)
    (delayed : Delayed stack) (move : Move env guard stack st stack' st') : Timed stack' st' := by
  have hvisited : Visited env guard stack' st' := visited.tail move
  refine ⟨fun token has => ?_, fun generation released => ?_,
    fun zoneId worker stream joins delay found running =>
      grouped_move visited timed move found running⟩
  · rcases has.step move with hold | hborn
    · exact timed.old visited delayed move hold has
    cases hborn with
    | command sends => exact timed.sends visited delayed move sends has
    | message origin =>
      have htimely := timed.token _ origin
      refine ⟨?_, Unprepared.move visited move origin (fun _ heq => by cases heq) htimely.2⟩
      exact (PlanStep.unreleased visited move origin rfl ⟨rfl, rfl⟩ htimely.1).resolve_right nofun
    | listed origin =>
      have htimely := (timed.token _ origin).1
      exact (PlanStep.unreleased visited move origin rfl ⟨rfl, rfl⟩ htimely).resolve_right nofun
    | arrived origin =>
      have htimely := (timed.token _ origin).1
      exact (PlanStep.unreleased visited move origin rfl ⟨rfl, rfl⟩ htimely).resolve_right nofun
    | handed origin =>
      have htimely := timed.token _ origin
      exact (PlanStep.unreleased visited move origin rfl ⟨rfl, rfl⟩ htimely).resolve_right nofun
    | result found running request last ends start =>
      exact timed.result visited delayed move found running request last ends start
    | scheduled origin =>
      exact Settled.move visited delayed timed move origin nofun (timed.token _ origin)
    | rebuilt fresh => exact Settled.of_unprepared (Unprepared.of_fresh visited move fresh)
    | fired origin =>
      exact Settled.move visited delayed timed move origin nofun (timed.token _ origin)
  · by_contra hnew
    have hfresh : st.nextGeneration < generation :=
      (GenerationStep.move move).next.trans_lt (Nat.not_le.mp hnew)
    exact released (PlanStep.fresh visited timed move hfresh)

theorem Visited.timed (wav : env.config.codec = .wav) {stack : List Frame} {st : BridgeRuntime}
    (h : Visited env guard stack st) : Timed stack st := by
  refine h.invariant (P := Timed) ⟨fun token has => absurd has (not_has_new token), ?_, ?_⟩
    fun _ _ _ _ visited timed move => timed.move visited (Visited.delayed wav visited) move
  · exact fun _ released => absurd rfl released
  · intro zoneId worker stream joins delay found
    cases found

/-! ### A Join that succeeded -/

/-- Nothing is left of the attempt but the report that the room joined. -/
structure Joined (env : Env) (id : SessionId) (generation : Nat) (stack : List Frame)
    (st : BridgeRuntime) : Prop where
  owned : ∃ stream : PreparedDownstream, stream.Genuine env st.streams ∧ stream.sessionId = id ∧
    stream.generation = generation
  unreleased : st.playbackRelease generation = none
  reported : ∀ token, Has stack st token → token.sessionId = id →
    token.generation = generation → ∃ result, token = .result result ∧ result.outcome = .joined

theorem Joined.move {id : SessionId} {generation : Nat} (h : Joined env id generation stack st)
    (visited : Visited env guard stack st) (move : Move env guard stack st stack' st') :
    Joined env id generation stack' st' := by
  obtain ⟨stream, hgenuine, hid, hgeneration⟩ := h.owned
  have hbounded : generation ≤ st.nextGeneration := by
    have hle := (visited.coherent.bounded _ hgenuine.registered).2
    rwa [hgenuine.generation, hgeneration] at hle
  refine ⟨⟨stream, hgenuine.mono (streams_subset move), hid, hgeneration⟩, ?_, ?_⟩
  · by_contra hreleased
    obtain ⟨token, other, hhas, hother, hsame, hnames, htoken, hkind⟩ :=
      PlanStep.token visited move h.unreleased hreleased
    have howner := visited.coherent.owner hother hgenuine (hsame.trans hgeneration.symm)
    obtain ⟨result, rfl, -⟩ := h.reported token hhas (hnames.trans (howner.trans hid)) htoken
    rcases hkind with ⟨_, heq, -⟩ | ⟨_, _, _, heq⟩ | ⟨_, heq⟩ <;> cases heq
  · intro token has hnames htoken
    rcases has.step move with hold | hborn
    · exact h.reported token hold hnames htoken
    have hnone (other : Token) (origin : Has stack st other) (names : other.sessionId = id)
        (generation_eq : other.generation = generation)
        (kind : ∀ result, other ≠ .result result) : False := by
      obtain ⟨result, heq, -⟩ := h.reported other origin names generation_eq
      exact kind result heq
    cases hborn with
    | command sends active =>
      cases sends with
      | stop => cases active
      | @prepare start fresh =>
        change start.generation = generation at htoken
        omega
      | @start release started rest roles tail top =>
        obtain ⟨hsession, -, hsame⟩ := TransportCommand.names_of_payload
          (startCommand_spec release.joins (release.delays.lookup started.sessionId)
            (roles.lookup started.sessionId) started).2
        exact (hnone _ (.of_top top) (hsession.symm.trans hnames) (hsame.symm.trans htoken)
          nofun).elim
      | @replay due rest session prepared first live current kept =>
        have hhas : Has stack st (.retry due) := .retry (first ▸ List.mem_cons_self)
        have hsession := (visited.sound.kept _ session live prepared kept).1
        have hsame := ((visited.coherent.session _ session live).prepared prepared kept).2.1
        exact (hnone _ hhas (hsession.symm.trans hnames)
          (current.symm.trans (hsame.symm.trans htoken)) nofun).elim
    | message origin => exact (hnone _ origin hnames htoken nofun).elim
    | listed origin => exact (hnone _ origin hnames htoken nofun).elim
    | arrived origin => exact (hnone _ origin hnames htoken nofun).elim
    | handed origin => exact (hnone _ origin hnames htoken nofun).elim
    | @result zoneId worker task result found running request last ends start =>
      have hhas : Has stack st (.command task.command) :=
        .command found (ZoneWorker.mem_commands_of_running running) (ends.active start)
      exact (hnone _ hhas (ends.sessionId.symm.trans hnames)
        (ends.generation.symm.trans htoken) nofun).elim
    | scheduled origin outcome =>
      obtain ⟨result, heq, hjoined⟩ := h.reported _ origin hnames htoken
      cases heq
      rw [hjoined] at outcome
      rcases outcome with heq | heq <;> cases heq
    | rebuilt fresh =>
      have hsame := htoken
      dsimp only [Token.generation] at hsame
      omega
    | fired origin => exact (hnone _ origin hnames htoken nofun).elim

theorem Joined.run {id : SessionId} {generation : Nat} (visited : Visited env guard [] st)
    (h : Joined env id generation [] st) {later : BridgeRuntime}
    (chain : Chain env guard ([], st) ([], later)) : Joined env id generation [] later := by
  have hpair (a : List Frame × BridgeRuntime) (ha : Chain env guard ([], st) a) :
      Joined env id generation a.1 a.2 := by
    induction ha with
    | refl => exact h
    | tail chain move ih => exact ih.move (visited.trans chain) move
  exact hpair ([], later) chain

/-- The report of a Join that succeeded is all that is left of the attempt. -/
theorem Joined.of_reply (visited : Visited env guard [] st) (timed : Timed [] st)
    {zoneId : ZoneId} {worker : ZoneWorker} {stream : PreparedDownstream} {coordinator : String}
    {joins : GroupJoins} (found : st.zoneWorkers zoneId = some worker)
    (running : worker.running = some (.join stream coordinator joins)) {after : BridgeRuntime}
    (guarded : guard st (.worker zoneId (.reply (.ok ()))))
    (taken : st.step env (.worker zoneId (.reply (.ok ()))) = some after) :
    Visited env guard [] after ∧ Joined env stream.sessionId stream.generation [] after := by
  have hjoin : Has [] st (.command (.join stream coordinator joins)) :=
    .command found (ZoneWorker.mem_commands_of_running running) rfl
  have hgenuine : stream.Genuine env st.streams := hjoin.genuine visited.sound rfl
  have hvisited : Visited env guard [] after := visited.trans (step_chain guarded taken)
  let report : DownstreamStartResult :=
    ⟨stream.sessionId, stream.zoneId, stream.generation, .joined⟩
  obtain ⟨worker', groupJoins, rfl⟩ : ∃ worker' groupJoins, after =
      { st.setWorker zoneId worker' with
        resultRx := st.resultRx ++ [report]
        groupJoins := groupJoins } := by
    simp only [step, found, Option.bind_some, workerStep, ZoneWorker.reply, running,
      TransportTask.request, ZoneWorker.resume, Option.map_some, Option.some.injEq] at taken
    rw [← taken]
    exact ⟨_, _, rfl⟩
  refine ⟨hvisited, ⟨stream, hgenuine, rfl, rfl⟩, (timed.token _ hjoin).1, ?_⟩
  intro token has hnames hgeneration
  have hreport : Has [] { st.setWorker zoneId worker' with
      resultRx := st.resultRx ++ [report], groupJoins := groupJoins } (.result report) :=
    .result (List.mem_append_right _ List.mem_cons_self) rfl
  exact ⟨report, hreport.unique hvisited.sound hvisited.tokens has hnames hgeneration, rfl⟩

end Timing

/-- A Play goes out for a stream that is released. The own stream of a room that joins a group
is not released while the Join is queued or in flight, nor at any time after it succeeded. -/
structure ReleasedInTime (env : Env) (st : BridgeRuntime) : Prop where
  playing : ∀ zoneId worker task url, st.zoneWorkers zoneId = some worker →
    worker.running = some task → task.request = some (.play url) →
      ∃ stream, task.command.payload = some stream ∧
        url = stream.liveStream.session.localUrl ∧
        st.playbackRelease stream.liveStream.session.generation ≠ none
  joining : ∀ zoneId worker stream coordinator joins, st.zoneWorkers zoneId = some worker →
    .join stream coordinator joins ∈ worker.commands →
      st.playbackRelease stream.liveStream.session.generation = none
  joined : ∀ zoneId worker stream coordinator joins, st.zoneWorkers zoneId = some worker →
    worker.running = some (.join stream coordinator joins) → ∀ after,
      st.step env (.worker zoneId (.reply (.ok ()))) = some after → ∀ labels later,
        (bridge env).run after labels = some later →
          later.playbackRelease stream.liveStream.session.generation = none

/-- Streams are released in time in every reachable state. -/
theorem released_in_time (env : Env) (wav : env.config.codec = .wav) {st : BridgeRuntime}
    (h : (bridge env).Reachable st) : ReleasedInTime env st := by
  have visited : Visited env (fun _ _ => True) [] st := .of_reachable h
  have timed := visited.timed wav
  have hgeneration (stream : PreparedDownstream) (token : Token) (has : Has [] st token)
      (payload : token.payload = some stream) :
      stream.liveStream.session.generation = stream.generation :=
    (has.genuine visited.sound payload).generation
  constructor
  · intro zoneId worker task url found running request
    have hhas (active : task.command.isStop = false) : Has [] st (.command task.command) :=
      .command found (ZoneWorker.mem_commands_of_running running) active
    cases task with
    | play stream =>
      refine ⟨stream, rfl, (TransportRequest.play.inj (Option.some.inj request)).symm, ?_⟩
      rw [hgeneration stream _ (hhas rfl) rfl]
      exact timed.token _ (hhas rfl)
    | groupPlay stream joins delay =>
      refine ⟨stream, rfl, (TransportRequest.play.inj (Option.some.inj request)).symm, ?_⟩
      rw [hgeneration stream _ (hhas rfl) rfl]
      exact timed.grouped zoneId worker stream joins delay found running
    | _ => cases request
  · intro zoneId worker stream coordinator joins found mem
    have hhas : Has [] st (.command (.join stream coordinator joins)) := .command found mem rfl
    rw [hgeneration stream _ hhas rfl]
    exact (timed.token _ hhas).1
  · intro zoneId worker stream coordinator joins found running after taken labels later run
    have hhas : Has [] st (.command (.join stream coordinator joins)) :=
      .command found (ZoneWorker.mem_commands_of_running running) rfl
    obtain ⟨hvisited, hjoined⟩ := Joined.of_reply visited timed found running trivial taken
    rw [hgeneration stream _ hhas rfl]
    exact (hjoined.run hvisited (chain_of_run run)).unreleased

/-- The theorem where the Office joins the Kitchen and the Kitchen plays, the wait for the Join
being over. -/
theorem released_in_time_for_two :
    ∃ st, (bridge Household.env).run .new
        ([Household.started 0 1, Household.started 1 1] ++ Household.prepares 0 ++
          Household.prepares 1 ++ [Household.moves 0 .take, Household.moves 1 .take,
            .tick GroupJoins.WAIT, Household.moves 0 .release]) = some st ∧
      (st.zoneWorkers (Household.room 0)).bind (fun worker =>
        worker.running.bind TransportTask.request) =
          some (.play (Household.stream 0 1).session.localUrl) ∧
      (st.zoneWorkers (Household.room 1)).bind (fun worker =>
        worker.running.bind TransportTask.request) = some (.joinGroup "Kitchen") ∧
      ReleasedInTime Household.env st := by
  have hruns : (((bridge Household.env).run .new
      ([Household.started 0 1, Household.started 1 1] ++ Household.prepares 0 ++
        Household.prepares 1 ++ [Household.moves 0 .take, Household.moves 1 .take,
          .tick GroupJoins.WAIT, Household.moves 0 .release])).map fun st =>
      ((st.zoneWorkers (Household.room 0)).bind fun worker =>
          worker.running.bind TransportTask.request,
        (st.zoneWorkers (Household.room 1)).bind fun worker =>
          worker.running.bind TransportTask.request)) =
      some (some (.play (Household.stream 0 1).session.localUrl), some (.joinGroup "Kitchen")) := by
    decide +kernel
  obtain ⟨st, hrun, hrequests⟩ := Option.map_eq_some_iff.mp hruns
  obtain ⟨hplay, hjoin⟩ := Prod.mk.inj hrequests
  exact ⟨st, hrun, hplay, hjoin,
    released_in_time Household.env rfl (TransitionSystem.Reachable.of_run .init hrun)⟩

end AirSonos
