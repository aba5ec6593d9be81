import AirSonos.Bridge.Playing
import AirSonos.Bridge.Releases
import AirSonos.Bridge.Uris
import AirSonos.Bridge.ZoneSteps

/-!
# A room plays the stream it was prepared for

From its Prepare to its Play the attempt of the current generation is alone in its room: nothing
else is sent there, so the URI that the Prepare loaded is still loaded. A Join loads another URI.
When it times out, the retry plays the stream all the same.
-/

namespace AirSonos

open BridgeRuntime

variable {env : Env} {guard : BridgeRuntime → BridgeLabel → Prop}

/-! ### Generations that are current -/

theorem SessionEdit.generation_cases {stack stack' : List Frame} {st : BridgeRuntime}
    {id : SessionId} {session session' : SessionRuntime}
    (h : SessionEdit guard stack st stack' id session session') :
    session'.generation = session.generation ∨
      session'.generation = st.nextGeneration + 1 := by
  cases h with
  | planned plan =>
    obtain ⟨delay, held, rfl, -⟩ := plan.spec
    exact .inl rfl
  | retired => exact .inr rfl
  | stopped => exact .inr rfl
  | encoderClosed => exact .inr rfl
  | _ => exact .inl rfl

section Moves

variable {stack stack' : List Frame} {st st' : BridgeRuntime}

/-- A generation that is not new was the generation of the session before. -/
theorem live_before (move : Move env guard stack st stack' st') {id : SessionId}
    {session' : SessionRuntime} (live' : st'.session id = some session')
    (positive : 0 < session'.generation) (old : session'.generation ≤ st.nextGeneration) :
    ∃ session, st.session id = some session ∧ session.generation = session'.generation := by
  have hstep := SessionStep.move move id
  rw [live'] at hstep
  generalize hlive : st.session id = before at hstep
  cases hstep with
  | inserted => exact absurd positive (lt_irrefl 0)
  | @edited session _ edit =>
    rcases edit.generation_cases with hsame | hnew
    · exact ⟨session, rfl, hsame.symm⟩
    · omega

/-- A token is of a new generation, or comes from the one before it of the same attempt. -/
theorem Born.origin (visited : Visited env guard stack st) {token : Token}
    (h : Born env stack st st' token) : st.nextGeneration < token.generation ∨
      ∃ origin, Has stack st origin ∧ origin.sessionId = token.sessionId ∧
        origin.generation = token.generation := by
  cases h with
  | command sends active =>
    cases sends with
    | stop => cases active
    | prepare fresh => exact .inl fresh
    | @start release stream rest roles tail top =>
      obtain ⟨hid, -, hgeneration⟩ := TransportCommand.names_of_payload
        (startCommand_spec release.joins (release.delays.lookup stream.sessionId)
          (roles.lookup stream.sessionId) stream).2
      exact .inr ⟨_, .of_top top, hid.symm, hgeneration.symm⟩
    | @replay retry rest session stream first live current kept =>
      have hid := (visited.sound.kept _ session live stream kept).1
      have hsame := ((visited.coherent.session _ session live).prepared stream kept).2.1
      exact .inr ⟨_, .retry (first ▸ List.mem_cons_self), hid.symm,
        current.symm.trans hsame.symm⟩
  | message origin => exact .inr ⟨_, origin, rfl, rfl⟩
  | listed origin => exact .inr ⟨_, origin, rfl, rfl⟩
  | arrived origin => exact .inr ⟨_, origin, rfl, rfl⟩
  | handed origin => exact .inr ⟨_, origin, rfl, rfl⟩
  | result found running request last ends start =>
    exact .inr ⟨_, .command found (ZoneWorker.mem_commands_of_running running)
      (ends.active start), ends.sessionId.symm, ends.generation.symm⟩
  | scheduled origin => exact .inr ⟨_, origin, rfl, rfl⟩
  | rebuilt fresh => exact .inl fresh
  | fired origin => exact .inr ⟨_, origin, rfl, rfl⟩

theorem Visited.positive (h : Visited env guard stack st) :
    ∀ token, Has stack st token → 0 < token.generation := by
  refine h.invariant (P := fun stack st => ∀ token, Has stack st token → 0 < token.generation)
    (fun token has => absurd has (not_has_new token)) ?_
  intro stack st stack' st' visited positive move token has
  rcases has.step move with hold | hborn
  · exact positive token hold
  · rcases hborn.origin visited with hfresh | ⟨origin, horigin, -, hgeneration⟩
    · exact Nat.zero_lt_of_lt hfresh
    · rw [← hgeneration]
      exact positive origin horigin

/-! ### Streams that are being started are current -/

theorem not_starting_of_leaving (below : stack.all Frame.isLeaving = true) {release : Release}
    {todo : List PreparedDownstream} {roles : AssocMap SessionId NativeMember} :
    .starting release todo roles ∉ stack := by
  intro hmem
  cases List.all_eq_true.mp below _ hmem

/-- Streams that are being started are worked on first. -/
theorem Shaped.top (shaped : Shaped stack) {release : Release} {todo : List PreparedDownstream}
    {roles : AssocMap SessionId NativeMember} (mem : .starting release todo roles ∈ stack) :
    ∃ rest, stack = .starting release todo roles :: rest ∧
      ∀ release todo roles, .starting release todo roles ∉ rest := by
  cases stack with
  | nil => cases mem
  | cons frame rest =>
    cases frame with
    | leaving =>
      exact absurd ((List.mem_cons.mp mem).resolve_left nofun) (not_starting_of_leaving shaped)
    | checking =>
      exact absurd ((List.mem_cons.mp mem).resolve_left nofun) (not_starting_of_leaving shaped)
    | starting =>
      have hbelow (release : Release) (todo : List PreparedDownstream)
          (roles : AssocMap SessionId NativeMember) : .starting release todo roles ∉ rest := by
        cases rest with
        | nil => exact List.not_mem_nil
        | cons frame below =>
          cases frame with
          | checking =>
            intro hmem
            exact not_starting_of_leaving shaped ((List.mem_cons.mp hmem).resolve_left nofun)
          | _ => cases shaped
      rcases List.mem_cons.mp mem with heq | hmem
      · cases heq
        exact ⟨rest, rfl, hbelow⟩
      · exact absurd hmem (hbelow _ _ _)

/-- The streams that are being started are of the current generations. -/
def StartsCurrent (stack : List Frame) (st : BridgeRuntime) : Prop :=
  ∀ release todo roles, .starting release todo roles ∈ stack → ∀ stream ∈ todo,
    st.generationOf stream.sessionId = some stream.generation

theorem generationOf_openPlay (prepared : List PreparedDownstream) :
    (st.openPlay env prepared).generationOf = st.generationOf := by
  unfold BridgeRuntime.generationOf
  rw [session_openPlay]

theorem StartsCurrent.inner (h : StartsCurrent stack st) (shaped : Shaped stack)
    (sound : Sound env stack st) (move : Inner env stack st stack' st') :
    StartsCurrent stack' st' := by
  intro release todo roles mem stream hstream
  obtain ⟨below, heq, hbelow⟩ := (shaped.inner move).top mem
  cases move with
  | @cohortReleased tail _ cohort rest first =>
    cases heq
    rw [generationOf_openPlay]
    obtain ⟨id, -, hfound⟩ := List.mem_filterMap.mp hstream
    obtain ⟨hfound, hretained⟩ := (AssocMap.lookup_retain_eq_some _ _).mp hfound
    have hnamed : stream.sessionId = id :=
      (sound.waiting cohort (by rw [first]; exact List.mem_cons_self) id stream hfound).1
    rw [Bool.and_eq_true, Option.any_eq_true] at hretained
    obtain ⟨-, session, live, hcurrent⟩ := hretained
    rw [hnamed]
    exact Option.map_eq_some_iff.mpr ⟨session, live, by simpa using hcurrent⟩
  | streamStarted =>
    cases heq
    rw [GenerationStep.generationOf_startStream]
    exact h _ _ _ List.mem_cons_self stream (List.mem_cons_of_mem _ hstream)
  | startsDone =>
    obtain ⟨rest, hrest, hnone⟩ := shaped.top List.mem_cons_self
    cases hrest
    exact absurd mem (hnone _ _ _)
  | cohortDropped => cases heq
  | memberSkipped => cases heq
  | memberRestarted => cases heq
  | built => cases heq
  | pauseFinished => cases heq
  | stopFinished => cases heq
  | _ => exact absurd mem (not_starting_of_leaving shaped)

theorem StartsCurrent.move (h : StartsCurrent stack st) (shaped : Shaped stack)
    (sound : Sound env stack st) (move : Move env guard stack st stack' st') :
    StartsCurrent stack' st' := by
  cases move with
  | inner move => exact h.inner shaped sound move
  | @preparedPlayed _ prepared rest session first live current =>
    intro release todo roles hmem stream hstream
    cases List.mem_singleton.mp hmem
    cases List.mem_singleton.mp hstream
    rw [generationOf_openPlay]
    simp [BridgeRuntime.generationOf, live, current]
  | _ =>
    intro release todo roles hmem
    exact absurd hmem (by simp [leaveFrame])

theorem Visited.startsCurrent (h : Visited env guard stack st) : StartsCurrent stack st :=
  h.invariant (P := StartsCurrent) (fun _ _ _ hmem => by cases hmem)
    fun _ _ _ _ visited current move => current.move visited.scheduled.shaped visited.sound move

/-- A zone has one session, which has one generation. -/
theorem Visited.zone_session (visited : Visited env guard stack st) {id other : SessionId}
    {generation generation' : Nat} (live : st.generationOf id = some generation)
    (live' : st.generationOf other = some generation') (zone : env.zoneOf other = env.zoneOf id) :
    other = id ∧ generation' = generation := by
  obtain ⟨session, hsession, -⟩ := Option.map_eq_some_iff.mp live
  obtain ⟨session', hsession', -⟩ := Option.map_eq_some_iff.mp live'
  have hsame : other = id := by
    apply visited.coherent.unique other id session' session hsession' hsession
    rw [visited.sound.zone other session' hsession', visited.sound.zone id session hsession, zone]
  subst other
  rw [live] at live'
  exact ⟨rfl, (Option.some.inj live').symm⟩

/-! ### The room of an attempt -/

/-- The last request was a Join that timed out, which may have taken effect. -/
def joinTimedOut : List Exchange → Bool
  | ⟨.joinGroup _, reply⟩ :: _ => reply.isTimeout
  | _ => false

/-- The worker of the zone has carried out its commands, and `P` holds of its exchanges. -/
def BridgeRuntime.IdleAt (st : BridgeRuntime) (zoneId : ZoneId) (P : List Exchange → Prop) : Prop :=
  ∃ worker, st.zoneWorkers zoneId = some worker ∧ worker.issued ≠ [] ∧ worker.commands = [] ∧
    P worker.exchanges

theorem current_of_found {zoneId : ZoneId} {worker other : ZoneWorker}
    (current : st.worker env zoneId = some other) (found : st.zoneWorkers zoneId = some worker) :
    other = worker := by
  rcases worker_cases current with hother | ⟨hnone, -⟩
  · rw [found] at hother
    exact (Option.some.inj hother).symm
  · rw [found] at hnone
    cases hnone

theorem ZoneWorker.commands_eq_nil {worker : ZoneWorker} (h : worker.commands = []) :
    worker.slot = none ∧ worker.running = none := by
  obtain ⟨hslot, hrunning⟩ := List.append_eq_nil_iff.mp h
  rw [Option.toList_eq_nil_iff] at hslot hrunning
  exact ⟨hslot, Option.map_eq_none_iff.mp hrunning⟩

/-- A stream that is being started in the zone of a session is that of the session. -/
theorem Visited.started_names (visited : Visited env guard stack st) {release : Release}
    {stream : PreparedDownstream} {rest : List PreparedDownstream}
    {roles : AssocMap SessionId NativeMember} {tail : List Frame}
    (top : stack = .starting release (stream :: rest) roles :: tail) {id : SessionId}
    {generation : Nat} (live : st.generationOf id = some generation)
    (address : env.zoneOf id = stream.zoneId) :
    stream.sessionId = id ∧ stream.generation = generation := by
  have hmem : .starting release (stream :: rest) roles ∈ stack := by
    rw [top]
    exact List.mem_cons_self
  have hcurrent := visited.startsCurrent _ _ _ hmem stream List.mem_cons_self
  have hzone := (visited.sound.starting _ _ _ hmem stream List.mem_cons_self).zone
  exact visited.zone_session live hcurrent (hzone.symm.trans address.symm)

theorem Visited.replayed_names (visited : Visited env guard stack st) {retry : DownstreamRetry}
    {rest : List DownstreamRetry} {session : SessionRuntime} {stream : PreparedDownstream}
    (first : st.retryRx = retry :: rest) (known : st.session retry.sessionId = some session)
    (kept : session.prepared = some stream) {id : SessionId} {generation : Nat}
    (live : st.generationOf id = some generation) (address : env.zoneOf id = retry.zoneId) :
    stream.sessionId = id ∧ stream.generation = generation := by
  have hid := (visited.sound.kept _ session known stream kept).1
  have hsame := ((visited.coherent.session _ session known).prepared stream kept).2.1
  have hcurrent : st.generationOf stream.sessionId = some stream.generation := by
    rw [hid, hsame]
    exact Option.map_eq_some_iff.mpr ⟨session, known, rfl⟩
  have hzone := visited.sound.retry retry (by rw [first]; exact List.mem_cons_self)
  refine visited.zone_session live hcurrent ?_
  rw [hid]
  exact hzone.symm.trans address.symm

/-- A room stays idle as long as the attempt of its session is not in it. -/
theorem BridgeRuntime.IdleAt.move {P : List Exchange → Prop} {id : SessionId} {generation : Nat}
    (visited : Visited env guard stack st) (move : Move env guard stack st stack' st')
    (live : st.generationOf id = some generation) (live' : st'.generationOf id = some generation)
    (bounded : generation ≤ st.nextGeneration)
    (outside : ∀ command, Has stack' st' (.command command) → command.sessionId = id →
      command.generation ≠ generation)
    (idle : st.IdleAt (env.zoneOf id) P) : st'.IdleAt (env.zoneOf id) P := by
  have hvisited : Visited env guard stack' st' := visited.tail move
  obtain ⟨worker, found, issued, hcommands, holds⟩ := idle
  obtain ⟨hslot, hrunning⟩ := ZoneWorker.commands_eq_nil hcommands
  have hissued : st.issued (env.zoneOf id) ≠ [] := by
    rw [BridgeRuntime.issued, found]
    exact issued
  have hissued' := (move.issues visited.sound visited.framed visited.silent.starts).ne_nil hissued
  obtain ⟨worker', found'⟩ : ∃ worker', st'.zoneWorkers (env.zoneOf id) = some worker' := by
    rw [← Option.ne_none_iff_exists']
    intro hnone
    rw [BridgeRuntime.issued, hnone] at hissued'
    exact hissued' rfl
  have hsame (slot : worker'.slot = worker.slot) (running : worker'.running = worker.running)
      (exchanges : worker'.exchanges = worker.exchanges) : st'.IdleAt (env.zoneOf id) P := by
    refine ⟨worker', found', ?_, ?_, exchanges ▸ holds⟩
    · rw [BridgeRuntime.issued, found'] at hissued'
      exact hissued'
    · rw [ZoneWorker.commands, slot, running]
      exact hcommands
  have hrenewed (renewed : Renewed st st' (env.zoneOf id)) : False := by
    obtain ⟨session', hsession', hgeneration⟩ := Option.map_eq_some_iff.mp live'
    have hnew := renewed id session' hsession' (hvisited.sound.zone id session' hsession')
    omega
  have hsent (command : TransportCommand) (mem : command ∈ worker'.commands)
      (start : command.isStart = true) (names : command.sessionId = id)
      (same : command.generation = generation) : False :=
    outside command (.command found' mem (by cases command <;> first | rfl | cases start)) names
      same
  cases ZoneStep.move visited move found' with
  | kept before =>
    cases found.symm.trans before
    exact hsame rfl rfl rfl
  | volume current =>
    cases current_of_found current found
    exact hsame rfl rfl rfl
  | closed before =>
    cases found.symm.trans before
    exact hsame rfl rfl rfl
  | took before took =>
    cases found.symm.trans before
    obtain ⟨command, task, joined, -, hsome, -, -⟩ := ZoneWorker.take_spec took
    rw [hslot] at hsome
    cases hsome
  | replied before replied =>
    cases found.symm.trans before
    obtain ⟨task, request, hsome, -, -⟩ := ZoneWorker.reply_spec replied
    rw [hrunning] at hsome
    cases hsome
  | superseded before superseded =>
    cases found.symm.trans before
    obtain ⟨task, hsome, -⟩ := ZoneWorker.supersede_spec superseded
    rw [hrunning] at hsome
    cases hsome
  | ready before ready =>
    cases found.symm.trans before
    obtain ⟨start, hsome, -⟩ := ZoneWorker.ready_spec ready
    rw [hrunning] at hsome
    cases hsome
  | released before waiting =>
    cases found.symm.trans before
    rw [hrunning] at waiting
    cases waiting
  | @started other release stream rest roles tail current top address =>
    obtain ⟨hid, hgeneration⟩ := visited.started_names top live address
    obtain ⟨hstart, hpayload⟩ := startCommand_spec release.joins
      (release.delays.lookup stream.sessionId) (roles.lookup stream.sessionId) stream
    obtain ⟨hsession, -, hsame⟩ := TransportCommand.names_of_payload hpayload
    exact (hsent _ List.mem_cons_self hstart (hsession.trans hid) (hsame.trans hgeneration)).elim
  | replayed current guarded first known same kept address =>
    obtain ⟨hid, hgeneration⟩ := visited.replayed_names first known kept live address
    exact (hsent _ List.mem_cons_self rfl hid hgeneration).elim
  | stopped current renewed => exact (hrenewed renewed).elim
  | prepared current renewed => exact (hrenewed renewed).elim

/-! ### The attempt of a session is alone in its room -/

/-- The stream is loaded, unless the last request was a Join that timed out. -/
def PreparedDownstream.Replayable (stream : PreparedDownstream) (exchanges : List Exchange) :
    Prop :=
  joinTimedOut exchanges = true ∨ stream.LoadedAt exchanges

/-- The stream that the session keeps of the generation can be played. -/
def BridgeRuntime.Keeps (env : Env) (st : BridgeRuntime) (id : SessionId) (generation : Nat) :
    Prop :=
  ∀ session stream, st.session id = some session → session.prepared = some stream →
    stream.generation = generation → st.IdleAt (env.zoneOf id) stream.Replayable

/-- What holds of the room of a current attempt at each place. -/
def Token.Awaited (env : Env) (st : BridgeRuntime) : Token → Prop
  | command sent =>
    (sent.isPrepare = true → st.Unprepared sent.sessionId sent.generation) ∧
      ∀ worker, st.zoneWorkers (env.zoneOf sent.sessionId) = some worker →
        worker.slot = none ∨ worker.slot = some sent ∧
          ∀ task, worker.running = some task → task.command ≠ sent
  | message stream => st.IdleAt (env.zoneOf stream.sessionId) stream.LoadedAt
  | listed stream => st.IdleAt (env.zoneOf stream.sessionId) stream.LoadedAt
  | handed stream => st.IdleAt (env.zoneOf stream.sessionId) stream.LoadedAt
  | result report => report.outcome ≠ .joined → st.Keeps env report.sessionId report.generation
  | timer due => st.Keeps env due.sessionId due.generation
  | retry due => st.Keeps env due.sessionId due.generation

/-- No retry plays the stream of a room whose last request was a Join that timed out. -/
def ReplaysLoaded (st : BridgeRuntime) : BridgeLabel → Prop
  | .retry => ∀ retry rest session stream worker, st.retryRx = retry :: rest →
      st.session retry.sessionId = some session → session.generation = retry.generation →
      session.prepared = some stream → st.zoneWorkers retry.zoneId = some worker →
      joinTimedOut worker.exchanges = false
  | _ => True

structure Alone (env : Env) (stack : List Frame) (st : BridgeRuntime) : Prop where
  primed : st.AllWorkers ZoneWorker.Primed
  token : ∀ token, Has stack st token →
    st.generationOf token.sessionId = some token.generation → token.Awaited env st

def Token.isCommand : Token → Bool
  | command _ => true
  | _ => false

def Token.isMessage : Token → Bool
  | message _ => true
  | _ => false

/-- An attempt that is outside of its room has no command there. -/
theorem Has.outside {token : Token} (h : Has stack st token) (visited : Visited env guard stack st)
    (other : token.isCommand = false) (command : TransportCommand)
    (has : Has stack st (.command command)) (names : command.sessionId = token.sessionId) :
    command.generation ≠ token.generation := by
  intro hgeneration
  have hsame := h.unique visited.sound visited.tokens has names hgeneration
  rw [← hsame] at other
  cases other

theorem Has.idle {P : List Exchange → Prop} {origin token : Token}
    (visited : Visited env guard stack st) (move : Move env guard stack st stack' st')
    (has : Has stack st origin) (has' : Has stack' st' token)
    (same : origin.generation = token.generation)
    (other : token.isCommand = false)
    (live : st.generationOf token.sessionId = some token.generation)
    (live' : st'.generationOf token.sessionId = some token.generation)
    (idle : st.IdleAt (env.zoneOf token.sessionId) P) :
    st'.IdleAt (env.zoneOf token.sessionId) P := by
  have hvisited : Visited env guard stack' st' := visited.tail move
  refine idle.move visited move live live' ?_ fun command hcommand => ?_
  · rw [← same]
    exact has.bounded visited.sound visited.tokens
  · exact has'.outside hvisited other command hcommand

/-- What a session keeps of an attempt was kept before, but for the stream that arrives. -/
theorem Keeps.before (visited : Visited env guard stack st)
    (move : Move env guard stack st stack' st') {token : Token} (has : Has stack st token)
    (known : token.isMessage = false) {session' : SessionRuntime}
    (live' : st'.session token.sessionId = some session') {stream' : PreparedDownstream}
    (kept' : session'.prepared = some stream') (same : stream'.generation = token.generation) :
    ∃ session stream, st.session token.sessionId = some session ∧
      session.prepared = some stream ∧ stream.generation = token.generation ∧
      ∀ exchanges, stream.Replayable exchanges → stream'.Replayable exchanges := by
  cases (Books.move move live').prepared stream' kept' with
  | same live kept => exact ⟨_, _, live, kept, same, fun _ h => h⟩
  | held live kept => exact ⟨_, _, live, kept, same, fun _ h => h⟩
  | arrived mem names =>
    have hmessage : Has stack st (.message stream') := .message mem
    have htoken := hmessage.unique visited.sound visited.tokens has names.symm same.symm
    rw [htoken] at known
    cases known
  | replayed first names live current kept =>
    exact ⟨_, _, names ▸ live, kept, same, fun _ h => h⟩

theorem Keeps.move (visited : Visited env guard stack st)
    (move : Move env guard stack st stack' st') {origin token : Token}
    (has : Has stack st origin) (known : origin.isMessage = false)
    (has' : Has stack' st' token) (names : origin.sessionId = token.sessionId)
    (same : origin.generation = token.generation) (other : token.isCommand = false)
    (keeps : st.Keeps env origin.sessionId origin.generation) :
    st'.Keeps env token.sessionId token.generation := by
  have hvisited : Visited env guard stack' st' := visited.tail move
  intro session' stream' live' kept' hgeneration
  rw [← names] at live'
  obtain ⟨session, stream, live, kept, hstream, hreplayable⟩ :=
    Keeps.before visited move has known live' kept' (hgeneration.trans same.symm)
  have hcurrent := ((visited.coherent.session _ session live).prepared stream kept).2.1
  have hcurrent' := ((hvisited.coherent.session _ session' live').prepared stream' kept').2.1
  obtain ⟨worker, found, issued, idle, holds⟩ := keeps session stream live kept hstream
  rw [names] at live live' found
  refine has.idle visited move has' same other ?_ ?_
    ⟨worker, found, issued, idle, hreplayable _ holds⟩
  · exact Option.map_eq_some_iff.mpr ⟨session, live, hcurrent.symm.trans (hstream.trans same)⟩
  · exact Option.map_eq_some_iff.mpr ⟨session', live', hcurrent'.symm.trans hgeneration⟩

end Moves

/-! ### One move -/

section Attempts

variable {stack stack' : List Frame} {st st' : BridgeRuntime}

/-- The stream that is played was prepared in this room. -/
theorem Alone.primed_move (h : Alone env stack st) (visited : Visited env ReplaysLoaded stack st)
    (move : Move env ReplaysLoaded stack st stack' st') : st'.AllWorkers ZoneWorker.Primed := by
  intro zoneId worker' found'
  have hworker (worker : ZoneWorker) (current : st.worker env zoneId = some worker) :
      worker.Primed := by
    rcases worker_cases current with hfound | ⟨-, renderer, -, rfl⟩
    · exact h.primed zoneId worker hfound
    · exact .new renderer
  cases ZoneStep.move visited move found' with
  | kept found => exact h.primed zoneId _ found
  | volume current => exact (hworker _ current).same rfl rfl rfl
  | closed found => exact (h.primed zoneId _ found).same rfl rfl rfl
  | took found took => exact (h.primed zoneId _ found).take took
  | replied found replied => exact (h.primed zoneId _ found).reply replied
  | superseded found superseded => exact (h.primed zoneId _ found).supersede superseded
  | ready found ready => exact (h.primed zoneId _ found).ready ready
  | released found waiting => exact (h.primed zoneId _ found).release waiting
  | stopped current => exact (hworker _ current).sendCommand fun hstart => by cases hstart
  | prepared current renewed id generation =>
    have hstopped : (ZoneWorker.sendCommand _ (.stop id zoneId generation)).Primed :=
      (hworker _ current).sendCommand fun hstart => by cases hstart
    exact hstopped.sendCommand fun hstart => by cases hstart
  | @started worker release stream rest roles tail current top address =>
    have hhas : Has stack st (.handed stream) := .of_top top
    have hmem : .starting release (stream :: rest) roles ∈ stack := by
      rw [top]
      exact List.mem_cons_self
    have hlive := visited.startsCurrent _ _ _ hmem stream List.mem_cons_self
    have hzone := (hhas.genuine visited.sound rfl).zone
    obtain ⟨other, found, -, hcommands, hloaded⟩ := h.token _ hhas hlive
    rw [← hzone, ← address] at found
    have hsame : worker = other := current_of_found current found
    subst hsame
    refine (hworker worker current).sendCommand fun _ => ⟨?_, ?_⟩
    · exact (ZoneWorker.commands_eq_nil hcommands).2
    · intro _ started hpayload
      rw [(startCommand_spec _ _ _ _).2] at hpayload
      cases hpayload
      exact hloaded
  | @replayed worker retry rest session stream current guarded first live same kept address =>
    have hhas : Has stack st (.retry retry) := .retry (first ▸ List.mem_cons_self)
    have hlive : st.generationOf retry.sessionId = some retry.generation :=
      Option.map_eq_some_iff.mpr ⟨session, live, same⟩
    have hstream := ((visited.coherent.session _ session live).prepared stream kept).2.1
    have hzone := visited.sound.retry retry (by rw [first]; exact List.mem_cons_self)
    obtain ⟨other, found, -, hcommands, hloaded⟩ :=
      h.token _ hhas hlive session stream live kept (hstream.trans same)
    rw [← hzone] at found
    have hspared := guarded retry rest session stream other first live same kept found
    rw [← address] at found
    have hsame : worker = other := current_of_found current found
    subst hsame
    refine (hworker worker current).sendCommand fun _ => ⟨?_, ?_⟩
    · exact (ZoneWorker.commands_eq_nil hcommands).2
    · intro _ replayed hpayload
      cases hpayload
      rcases hloaded with htimeout | hloaded
      · rw [hspared] at htimeout
        cases htimeout
      · exact hloaded

/-- The generation of a token that was there before was current before. -/
theorem Has.current_before {token : Token} (h : Has stack st token)
    (visited : Visited env guard stack st) (move : Move env guard stack st stack' st')
    (live' : st'.generationOf token.sessionId = some token.generation) :
    st.generationOf token.sessionId = some token.generation := by
  obtain ⟨session', hsession', hgeneration⟩ := Option.map_eq_some_iff.mp live'
  have hpositive := visited.positive token h
  have hbounded := h.bounded visited.sound visited.tokens
  rw [← hgeneration] at hpositive hbounded ⊢
  obtain ⟨session, hsession, hsame⟩ := live_before move hsession' hpositive hbounded
  exact Option.map_eq_some_iff.mpr ⟨session, hsession, hsame⟩

/-- A command stays alone with its worker. -/
theorem Alone.command_move (visited : Visited env guard stack st)
    (move : Move env guard stack st stack' st') {sent : TransportCommand}
    (has : Has stack st (.command sent)) (live : st.generationOf sent.sessionId = some sent.generation)
    (live' : st'.generationOf sent.sessionId = some sent.generation)
    (alone : ∀ worker, st.zoneWorkers (env.zoneOf sent.sessionId) = some worker →
      worker.slot = none ∨ worker.slot = some sent ∧
        ∀ task, worker.running = some task → task.command ≠ sent)
    {worker' : ZoneWorker} (found' : st'.zoneWorkers (env.zoneOf sent.sessionId) = some worker') :
    worker'.slot = none ∨ worker'.slot = some sent ∧
      ∀ task, worker'.running = some task → task.command ≠ sent := by
  have hvisited : Visited env guard stack' st' := visited.tail move
  have hrenewed (renewed : Renewed st st' (env.zoneOf sent.sessionId)) : False := by
    obtain ⟨session', hsession', hgeneration⟩ := Option.map_eq_some_iff.mp live'
    have hnew := renewed _ session' hsession' (hvisited.sound.zone _ session' hsession')
    have hbounded : sent.generation ≤ st.nextGeneration := has.bounded visited.sound visited.tokens
    omega
  have hkept {worker : ZoneWorker} (found : st.zoneWorkers (env.zoneOf sent.sessionId) = some worker)
      (slot : worker'.slot = worker.slot) (running : ∀ task', worker'.running = some task' →
        ∃ task, worker.running = some task ∧ task'.command = task.command) :
      worker'.slot = none ∨ worker'.slot = some sent ∧
        ∀ task, worker'.running = some task → task.command ≠ sent := by
    rw [slot]
    refine (alone worker found).imp_right fun ⟨hslot, hother⟩ => ⟨hslot, fun task' htask' => ?_⟩
    obtain ⟨task, htask, heq⟩ := running task' htask'
    rw [heq]
    exact hother task htask
  cases ZoneStep.move visited move found' with
  | kept found => exact hkept found rfl fun task htask => ⟨task, htask, rfl⟩
  | volume current =>
    rcases worker_cases current with hfound | ⟨-, renderer, -, rfl⟩
    · exact hkept hfound rfl fun task htask => ⟨task, htask, rfl⟩
    · exact .inl rfl
  | closed found => exact hkept found rfl fun task htask => ⟨task, htask, rfl⟩
  | took found took =>
    obtain ⟨command, task, joined, -, -, -, rfl⟩ := ZoneWorker.take_spec took
    exact .inl rfl
  | replied found replied =>
    obtain ⟨task, request, hrunning, -, heffect⟩ := ZoneWorker.reply_spec replied
    cases heffect with
    | goesOn same =>
      refine hkept found rfl fun next hnext => ?_
      cases hnext
      exact ⟨task, hrunning, same⟩
    | abandons => exact hkept found rfl fun _ hnone => by cases hnone
    | reports => exact hkept found rfl fun _ hnone => by cases hnone
  | superseded found superseded =>
    obtain ⟨task, -, -, -, rfl⟩ := ZoneWorker.supersede_spec superseded
    exact hkept found rfl fun _ hnone => by cases hnone
  | ready found ready =>
    obtain ⟨start, -, -, rfl⟩ := ZoneWorker.ready_spec ready
    exact hkept found rfl fun _ hnone => by cases hnone
  | released found waiting =>
    refine hkept found rfl fun next hnext => ?_
    cases hnext
    exact ⟨_, waiting, rfl⟩
  | @started worker release stream rest roles tail current top address =>
    obtain ⟨hid, hgeneration⟩ := visited.started_names top live address
    have hhanded : Has stack st (.handed stream) := .of_top top
    cases has.unique visited.sound visited.tokens hhanded hid hgeneration
  | @replayed worker retry rest session stream current guarded first known same kept address =>
    obtain ⟨hid, hgeneration⟩ := visited.replayed_names first known kept live address
    have hretry : Has stack st (.retry retry) := .retry (first ▸ List.mem_cons_self)
    have hkeeper := visited.sound.kept _ session known stream kept
    have hcurrent := ((visited.coherent.session _ session known).prepared stream kept).2.1
    cases has.unique visited.sound visited.tokens hretry (hkeeper.1.symm.trans hid)
      (same.symm.trans (hcurrent.symm.trans hgeneration))
  | stopped current renewed => exact (hrenewed renewed).elim
  | prepared current renewed => exact (hrenewed renewed).elim

theorem TransportCommand.not_prepare {command : TransportCommand} (h : command.isStart = true) :
    command.isPrepare = false := by
  cases command with
  | prepare => cases h
  | _ => rfl

/-- A command that is sent was not there before. -/
theorem Sends.new {command : TransportCommand} (h : Sends env stack st st' command)
    (visited : Visited env guard stack st) (active : command.isStop = false) :
    ¬Has stack st (.command command) := by
  intro has
  cases h with
  | stop => cases active
  | prepare fresh =>
    exact absurd (has.bounded visited.sound visited.tokens) (Nat.not_le.mpr fresh)
  | @start release stream rest roles tail top =>
    obtain ⟨hid, -, hgeneration⟩ := TransportCommand.names_of_payload
      (startCommand_spec release.joins (release.delays.lookup stream.sessionId)
        (roles.lookup stream.sessionId) stream).2
    cases has.unique visited.sound visited.tokens (.of_top top) hid.symm hgeneration.symm
  | @replay retry rest session stream first live current kept =>
    have hid := (visited.sound.kept _ session live stream kept).1
    have hsame := ((visited.coherent.session _ session live).prepared stream kept).2.1
    have hretry : Has stack st (.retry retry) := .retry (first ▸ List.mem_cons_self)
    cases has.unique visited.sound visited.tokens hretry hid.symm
      (current.symm.trans hsame.symm)

/-- A prepared stream is loaded in its idle room. -/
theorem Alone.message_move (h : Alone env stack st) (visited : Visited env guard stack st)
    {start : StreamPrepare} (origin : Has stack st (.command (.prepare start)))
    (live : st.generationOf start.sessionId = some start.generation) {zoneId : ZoneId}
    {worker : ZoneWorker} (found : st.zoneWorkers zoneId = some worker)
    (running : worker.running = some (.prepareReady start))
    (after : st'.zoneWorkers zoneId = some worker.idle) :
    st'.IdleAt (env.zoneOf start.sessionId) (preparedOf start).LoadedAt := by
  have hgenuine := (visited.sound.worker zoneId worker found).2 _
    (ZoneWorker.mem_commands_of_running running)
  have haddress : env.zoneOf start.sessionId = zoneId := hgenuine.address
  have halone := (h.token _ origin live).2 worker (by
    rw [TransportCommand.sessionId, haddress]
    exact found)
  have hslot : worker.slot = none := by
    rcases halone with hnone | ⟨-, hother⟩
    · exact hnone
    · exact absurd rfl (hother _ running)
  have hfollows := visited.allWorkers ZoneWorker.Follows.keeps zoneId worker found
  rw [haddress]
  refine ⟨worker.idle, after, hfollows.issued_ne_nil running, ?_, fun hsonos => ?_⟩
  · simp [ZoneWorker.commands, ZoneWorker.idle, hslot]
  · have hloaded := (h.primed zoneId worker found).runs _ running hsonos
    rw [hgenuine.url start rfl] at hloaded
    exact hloaded

/-- A start that is over leaves the room idle; only a Join may have loaded another URI. -/
theorem Alone.result_move (h : Alone env stack st) (visited : Visited env guard stack st)
    (move : Move env guard stack st stack' st') {zoneId : ZoneId} {worker worker' : ZoneWorker}
    {task : TransportTask} {result : DownstreamStartResult} {reply : Reply}
    {outputs : List WorkerOutput} (found : st.zoneWorkers zoneId = some worker)
    (running : worker.running = some task) (ends : result.Ends task.command)
    (start : result.outcome.stops = false)
    (replied : worker.reply st.now reply = some (worker', outputs))
    (reports : .result result ∈ outputs) (after : st'.zoneWorkers zoneId = some worker')
    (live : st.generationOf task.command.sessionId = some task.command.generation)
    (other : result.outcome ≠ .joined) : st'.Keeps env result.sessionId result.generation := by
  have hhas : Has stack st (.command task.command) :=
    .command found (ZoneWorker.mem_commands_of_running running) (ends.active start)
  rw [ends.sessionId, ends.generation]
  have hawaited := h.token _ hhas live
  have hgenuine := (visited.sound.worker zoneId worker found).2 _
    (ZoneWorker.mem_commands_of_running running)
  have haddress : env.zoneOf task.command.sessionId = zoneId := hgenuine.address
  intro session' stream' live' kept' same'
  obtain ⟨session, stream, live, kept, hgeneration, hreplayable⟩ :=
    Keeps.before visited move hhas rfl live' kept' same'
  have hunprepared : task.command.isPrepare = false := by
    by_contra hprepare
    rw [Bool.not_eq_false] at hprepare
    exact hawaited.1 hprepare session live stream kept hgeneration
  have hslot : worker.slot = none := by
    rcases hawaited.2 worker (haddress ▸ found) with hnone | ⟨-, hother⟩
    · exact hnone
    · exact absurd rfl (hother task running)
  have hfollows := visited.allWorkers ZoneWorker.Follows.keeps zoneId worker found
  have hloaded (started : PreparedDownstream) (payload : task.command.payload = some started)
      (exchanges : List Exchange) (loaded : started.LoadedAt exchanges) :
      stream.LoadedAt exchanges := by
    have hstarted : started.Genuine env st.streams := hgenuine.payload started payload
    obtain ⟨hid, hkept⟩ := visited.sound.kept _ session live stream kept
    obtain ⟨hnames, -, hsame⟩ := TransportCommand.names_of_payload payload
    have hlive : started.liveStream = stream.liveStream := by
      apply visited.coherent.eq_of_generation hstarted.registered hkept.registered
      rw [hstarted.generation, hkept.generation, hgeneration]
      exact hsame.symm
    have hrenderer : some started.renderer = some stream.renderer := by
      rw [← hstarted.renderer, ← hkept.renderer, hstarted.zone, hkept.zone, hid]
      exact congrArg (fun id => env.renderers (env.zoneOf id)) hnames.symm
    intro hsonos
    rw [← hlive]
    apply loaded
    rw [Option.some.inj hrenderer]
    exact hsonos
  have hprimed := (h.primed zoneId worker found).runs task running
  have hissued := hfollows.issued_ne_nil running
  have hjoined {stream : PreparedDownstream} {coordinator : String} {joins : GroupJoins}
      (heq : task = .join stream coordinator joins) : reply.isErr = true := by
    by_contra hok
    subst heq
    cases reply with
    | ok =>
      unfold ZoneWorker.reply at replied
      rw [running] at replied
      have houtputs := congrArg Prod.snd (Option.some.inj replied)
      simp only at houtputs
      rw [← houtputs] at reports
      rcases List.mem_cons.mp reports with heq | hmem
      · cases heq
      · cases List.mem_singleton.mp hmem
        exact other rfl
    | error => exact hok rfl
  obtain ⟨_, request, hrunning, hrequest, heffect⟩ := ZoneWorker.reply_spec replied
  cases running.symm.trans hrunning
  have hlast := ZoneWorker.not_leave_of_reply replied running reports
  rw [haddress]
  cases heffect with
  | goesOn => cases reports
  | abandons => cases reports
  | reports =>
    refine ⟨_, after, hissued, ?_, hreplayable _ ?_⟩
    · simp [ZoneWorker.commands, hslot]
    cases task with
    | leave next => exact absurd rfl (hlast next)
    | prepareStandalone => cases hunprepared
    | prepareStop => cases hunprepared
    | prepareSetUri => cases hunprepared
    | prepareReady => cases hunprepared
    | groupWait => cases hrequest
    | play started =>
      cases hrequest
      exact .inr (hloaded started rfl _ (hprimed.later rfl))
    | groupPlay started =>
      cases hrequest
      exact .inr (hloaded started rfl _ (hprimed.later rfl))
    | join started coordinator joins =>
      cases hrequest
      have hfailed := hjoined rfl
      cases htimeout : reply.isTimeout with
      | true => exact .inl htimeout
      | false =>
        refine .inr (hloaded started rfl _ (hprimed.later ?_))
        simp [Exchange.mayHaveLoaded, Exchange.mayHaveTaken, hfailed, htimeout]
    | stop => cases ends.active start

theorem Alone.token_move (h : Alone env stack st) (visited : Visited env guard stack st)
    (move : Move env guard stack st stack' st') {token : Token} (has' : Has stack' st' token)
    (live' : st'.generationOf token.sessionId = some token.generation) :
    token.Awaited env st' := by
  have hvisited : Visited env guard stack' st' := visited.tail move
  rcases has'.step move with hold | hborn
  · have live := hold.current_before visited move live'
    have hawaited := h.token token hold live
    cases token with
    | command sent =>
      constructor
      · intro hprepare
        exact Unprepared.move visited move hold (fun _ heq => by cases heq) (hawaited.1 hprepare)
      · intro worker' found'
        exact Alone.command_move visited move hold live live' hawaited.2 found'
    | message stream => exact hold.idle visited move has' rfl rfl live live' hawaited
    | listed stream => exact hold.idle visited move has' rfl rfl live live' hawaited
    | handed stream => exact hold.idle visited move has' rfl rfl live live' hawaited
    | result report =>
      intro hother
      exact Keeps.move visited move hold rfl has' rfl rfl rfl (hawaited hother)
    | timer due => exact Keeps.move visited move hold rfl has' rfl rfl rfl hawaited
    | retry due => exact Keeps.move visited move hold rfl has' rfl rfl rfl hawaited
  have hbefore {origin : Token} (horigin : Has stack st origin)
      (names : origin.sessionId = token.sessionId)
      (same : origin.generation = token.generation) :
      st.generationOf origin.sessionId = some origin.generation :=
    horigin.current_before visited move (by rw [names, same]; exact live')
  cases hborn with
  | command sends active =>
    constructor
    · intro hprepare
      cases sends with
      | stop => cases active
      | prepare fresh => exact Unprepared.of_fresh visited move fresh
      | start =>
        rw [TransportCommand.not_prepare (startCommand_spec _ _ _ _).1] at hprepare
        cases hprepare
      | replay => cases hprepare
    · intro worker' found'
      have hnew := sends.new visited active
      refine .inr (ZoneStep.slot_of_new (ZoneStep.move visited move found') ?_ ?_)
      · cases has' with
        | command found mem =>
          have haddress := ((hvisited.sound.worker _ _ found).2 _ mem).address
          rw [haddress, found] at found'
          cases found'
          exact mem
      · intro old found mem
        exact hnew (.command found mem active)
  | message origin found running after =>
    exact h.message_move visited origin (hbefore origin rfl rfl) found running after
  | listed origin =>
    have live := hbefore origin rfl rfl
    exact origin.idle visited move has' rfl rfl live live' (h.token _ origin live)
  | arrived origin =>
    have live := hbefore origin rfl rfl
    exact origin.idle visited move has' rfl rfl live live' (h.token _ origin live)
  | handed origin =>
    have live := hbefore origin rfl rfl
    exact origin.idle visited move has' rfl rfl live live' (h.token _ origin live)
  | result found running request last ends start joined replied reports after =>
    intro hother
    have hcommand : Has stack st (.command _) :=
      .command found (ZoneWorker.mem_commands_of_running running) (ends.active start)
    exact h.result_move visited move found running ends start replied reports after
      (hbefore hcommand ends.sessionId.symm ends.generation.symm) hother
  | scheduled origin outcome =>
    refine Keeps.move visited move origin rfl has' rfl rfl rfl
      (h.token _ origin (hbefore origin rfl rfl) ?_)
    rcases outcome with heq | heq <;> rw [heq] <;> nofun
  | rebuilt fresh =>
    intro session stream live kept same
    exact absurd same (Unprepared.of_fresh visited move fresh session live stream kept)
  | fired origin =>
    exact Keeps.move visited move origin rfl has' rfl rfl rfl
      (h.token _ origin (hbefore origin rfl rfl))

end Attempts

theorem Visited.alone {stack : List Frame} {st : BridgeRuntime}
    (h : Visited env ReplaysLoaded stack st) : Alone env stack st := by
  refine h.invariant (P := Alone env) ⟨?_, ?_⟩ fun _ _ _ _ visited alone move => ⟨?_, ?_⟩
  · intro zoneId worker found
    cases found
  · intro token has
    exact absurd has (not_has_new token)
  · exact alone.primed_move visited move
  · intro token has' live'
    exact alone.token_move visited move has' live'

/-- Whenever Play is sent to a Sonos room, the last URI that the room may have loaded is that of
the stream, and it was sent after a Stop that returned Ok. -/
def PlaysOwnUri (st : BridgeRuntime) : Prop :=
  ∀ zoneId worker task url, st.zoneWorkers zoneId = some worker →
    worker.renderer.isSonos = true → worker.running = some task →
    task.request = some (.play url) →
    ∃ stream, task.command.payload = some stream ∧ url = stream.liveStream.session.localUrl ∧
      Loaded url worker.exchanges

/-- A room plays its own stream in every run in which no retry plays a stream after a Join that
timed out. -/
theorem plays_own_uri (env : Env) {st : BridgeRuntime}
    (reachable : (bridge env).ReachableWhen ReplaysLoaded st) : PlaysOwnUri st := by
  have visited := Visited.of_reachable reachable
  intro zoneId worker task url found sonos running request
  have hprimed := (visited.alone.primed zoneId worker found).runs task running
  obtain ⟨hrenderer, hcommands⟩ := visited.sound.worker zoneId worker found
  have hgenuine := hcommands _ (ZoneWorker.mem_commands_of_running running)
  have hloaded (stream : PreparedDownstream) (payload : task.command.payload = some stream)
      (primed : stream.LoadedAt worker.exchanges) :
      Loaded stream.liveStream.session.localUrl worker.exchanges := by
    apply primed
    have hstream := (hgenuine.payload stream payload).renderer
    rw [← (TransportCommand.names_of_payload payload).2.1, hgenuine.zone, hrenderer] at hstream
    rw [← Option.some.inj hstream]
    exact sonos
  cases task with
  | play stream =>
    cases request
    exact ⟨stream, rfl, rfl, hloaded stream rfl hprimed⟩
  | groupPlay stream =>
    cases request
    exact ⟨stream, rfl, rfl, hloaded stream rfl hprimed⟩
  | _ => cases request

/-- The theorem where the Kitchen is sent Play. -/
theorem plays_own_uri_in_kitchen :
    ∃ st, (bridge Household.env).run .new
        (Household.started 0 1 :: Household.prepares 0 ++ [Household.moves 0 .take]) = some st ∧
      (st.zoneWorkers (Household.room 0)).bind (fun worker =>
        worker.running.bind TransportTask.request) =
          some (.play (Household.stream 0 1).session.localUrl) ∧
      PlaysOwnUri st := by
  have hruns : (((bridge Household.env).run .new
      (Household.started 0 1 :: Household.prepares 0 ++ [Household.moves 0 .take])).map fun st =>
        (st.zoneWorkers (Household.room 0)).bind fun worker =>
          worker.running.bind TransportTask.request) =
      some (some (.play (Household.stream 0 1).session.localUrl)) := by
    decide +kernel
  obtain ⟨st, hrun, hplay⟩ := Option.map_eq_some_iff.mp hruns
  refine ⟨st, hrun, hplay, plays_own_uri Household.env (.of_run_forall .init ?_ hrun)⟩
  intro label hlabel st
  simp only [Household.started, Household.prepares, List.cons_append, List.nil_append,
    List.mem_cons, List.not_mem_nil, or_false] at hlabel
  obtain rfl | rfl | rfl | rfl | rfl | rfl | rfl := hlabel <;> trivial

/-- The Office is told to join the Kitchen, and the request times out. The retry sends Play to
the Office, whose last URI is the one of the Join. -/
theorem plays_after_join :
    ∃ st, (bridge Household.env).run .new
        ([Household.started 0 1, Household.started 1 1] ++ Household.prepares 0 ++
          Household.prepares 1 ++ [Household.moves 1 .take,
            Household.moves 1 (.reply (.error (.sonos (.http ⟨true, false, false, none⟩)))),
            .result, .tick (downstreamRetryDelay 0), .retryTimer ⟨1⟩, .retry,
            Household.moves 1 .take, Household.replies 1]) = some st ∧
      ¬PlaysOwnUri st := by
  have hruns : (((bridge Household.env).run .new
      ([Household.started 0 1, Household.started 1 1] ++ Household.prepares 0 ++
        Household.prepares 1 ++ [Household.moves 1 .take,
          Household.moves 1 (.reply (.error (.sonos (.http ⟨true, false, false, none⟩)))),
          .result, .tick (downstreamRetryDelay 0), .retryTimer ⟨1⟩, .retry,
          Household.moves 1 .take, Household.replies 1])).any fun st =>
      (st.zoneWorkers (Household.room 1)).any fun worker =>
        worker.renderer.isSonos && decide (worker.running =
          some (.play (Household.prepared 1 2))) &&
        !loaded (Household.stream 1 2).session.localUrl worker.exchanges) = true := by
    decide +kernel
  obtain ⟨st, hrun, hfacts⟩ := (Option.any_eq_true _ _).mp hruns
  obtain ⟨worker, found, hfacts⟩ := (Option.any_eq_true _ _).mp hfacts
  rw [Bool.and_eq_true, Bool.and_eq_true, decide_eq_true_eq, Bool.not_eq_true'] at hfacts
  obtain ⟨⟨hsonos, hrunning⟩, hloaded⟩ := hfacts
  refine ⟨st, hrun, fun plays => ?_⟩
  obtain ⟨stream, -, -, h⟩ := plays _ worker _ _ found hsonos hrunning rfl
  rw [← loaded_iff] at h
  exact Bool.false_ne_true (hloaded.symm.trans h)

end AirSonos
