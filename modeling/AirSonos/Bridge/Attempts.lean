import AirSonos.Bridge.Tokens
import AirSonos.Bridge.WorkerSteps

/-!
# The course of an attempt

The attempt to play a stream is first a Prepare and then a prepared stream, which waits in a
cohort, is handed to the players and becomes a command, a result and a retry. Every token of a
state was there before the move or comes from the token before it in this course, and an
attempt has one token at a time.
-/

namespace AirSonos

open BridgeRuntime

variable {env : Env} {guard : BridgeRuntime → BridgeLabel → Prop}

/-- Where an attempt is. -/
inductive Token
  | command (command : TransportCommand)
  | message (stream : PreparedDownstream)
  | listed (stream : PreparedDownstream)
  | handed (stream : PreparedDownstream)
  | result (result : DownstreamStartResult)
  | timer (retry : DownstreamRetry)
  | retry (retry : DownstreamRetry)

namespace Token

def sessionId : Token → SessionId
  | command sent => sent.sessionId
  | message stream => stream.sessionId
  | listed stream => stream.sessionId
  | handed stream => stream.sessionId
  | result report => report.sessionId
  | timer due => due.sessionId
  | retry due => due.sessionId

def generation : Token → Nat
  | command sent => sent.generation
  | message stream => stream.generation
  | listed stream => stream.generation
  | handed stream => stream.generation
  | result report => report.generation
  | timer due => due.generation
  | retry due => due.generation

def names (id : SessionId) (generation : Nat) (token : Token) : Bool :=
  token.sessionId == id && token.generation == generation

/-- The stream that the token carries. -/
def payload : Token → Option PreparedDownstream
  | command sent => sent.payload
  | message stream => some stream
  | listed stream => some stream
  | handed stream => some stream
  | _ => none

end Token

def DownstreamStartOutcome.stops (outcome : DownstreamStartOutcome) : Bool :=
  outcome == .stopped || outcome == .stopUnknown

/-- A result that does not report a stop ends a command that is not a Stop. -/
theorem DownstreamStartResult.Ends.active {result : DownstreamStartResult}
    {command : TransportCommand} (ends : result.Ends command)
    (start : result.outcome.stops = false) : command.isStop = false := by
  cases hstop : command.isStop with
  | false => rfl
  | true => rcases ends.stop.mp hstop with heq | heq <;> rw [heq] at start <;> cases start

def Frame.streams : Frame → List PreparedDownstream
  | starting _ todo _ => todo
  | _ => []

inductive Has (stack : List Frame) (st : BridgeRuntime) : Token → Prop
  | command {zoneId worker command} (found : st.zoneWorkers zoneId = some worker)
      (mem : command ∈ worker.commands) (active : command.isStop = false) :
      Has stack st (.command command)
  | message {stream} (mem : stream ∈ st.preparedRx) : Has stack st (.message stream)
  | listed {cohort id stream} (mem : cohort ∈ st.cohorts)
      (found : cohort.prepared.lookup id = some stream) : Has stack st (.listed stream)
  | handed {release todo roles stream} (frame : .starting release todo roles ∈ stack)
      (mem : stream ∈ todo) : Has stack st (.handed stream)
  | result {result} (mem : result ∈ st.resultRx) (start : result.outcome.stops = false) :
      Has stack st (.result result)
  | timer {id session task} (live : st.session id = some session)
      (timer : session.retryTask = some task) (pending : task.fired = false) :
      Has stack st (.timer task.message)
  | retry {retry} (mem : retry ∈ st.retryRx) : Has stack st (.retry retry)

theorem Has.of_top {stack tail : List Frame} {st : BridgeRuntime} {release : Release}
    {stream : PreparedDownstream} {rest : List PreparedDownstream}
    {roles : AssocMap SessionId NativeMember}
    (top : stack = .starting release (stream :: rest) roles :: tail) :
    Has stack st (.handed stream) := by
  subst top
  exact .handed List.mem_cons_self List.mem_cons_self

theorem not_has_new (token : Token) : ¬Has [] .new token := by
  intro h
  cases h with
  | command found => cases found
  | message mem => cases mem
  | listed mem => cases mem
  | handed frame => cases frame
  | result mem => cases mem
  | timer live => cases live
  | retry mem => cases mem

/-! ### One token at a time -/

/-- The tokens in the places where those of a session are. -/
def attempts (env : Env) (id : SessionId) (stack : List Frame) (st : BridgeRuntime) : List Token :=
  ((st.commands (env.zoneOf id)).filter fun command => !command.isStop).map .command ++
    st.preparedRx.map .message ++
    (st.cohorts.flatMap fun cohort => AssocMap.values cohort.prepared).map .listed ++
    (stack.flatMap Frame.streams).map .handed ++
    (st.resultRx.filter fun result => !result.outcome.stops).map .result ++
    st.retryRx.map .retry ++
    (((st.session id).bind SessionRuntime.retryTask).toList.filter fun task =>
      !task.fired).map fun task => .timer task.message

section Unique

variable {stack : List Frame} {st : BridgeRuntime} {token other : Token}

theorem Has.mem_attempts (sound : Sound env stack st) (h : Has stack st token) :
    token ∈ attempts env token.sessionId stack st := by
  simp only [attempts, List.mem_append, List.mem_map, List.mem_filter, List.mem_flatMap]
  cases h with
  | @command zoneId worker command found mem active =>
    have haddress := ((sound.worker zoneId worker found).2 command mem).address
    have hcommands : st.commands (env.zoneOf command.sessionId) = worker.commands := by
      unfold BridgeRuntime.commands
      rw [haddress, found]
      rfl
    refine .inl (.inl (.inl (.inl (.inl (.inl ⟨command, ⟨?_, by simp [active]⟩, rfl⟩)))))
    exact hcommands ▸ mem
  | message mem => exact .inl (.inl (.inl (.inl (.inl (.inr ⟨_, mem, rfl⟩)))))
  | listed mem found =>
    exact .inl (.inl (.inl (.inl (.inr ⟨_, ⟨_, mem, AssocMap.mem_values_iff.mpr ⟨_, found⟩⟩, rfl⟩))))
  | handed frame mem => exact .inl (.inl (.inl (.inr ⟨_, ⟨_, frame, mem⟩, rfl⟩)))
  | result mem start => exact .inl (.inl (.inr ⟨_, ⟨mem, by simp [start]⟩, rfl⟩))
  | @timer id session task live timer pending =>
    obtain ⟨hid, -⟩ := sound.timer id session live task timer
    refine .inr ⟨task, ⟨?_, by simp [pending]⟩, rfl⟩
    simp [Token.sessionId, hid, live, timer]
  | retry mem => exact .inl (.inr ⟨_, mem, rfl⟩)

theorem countP_active (id : SessionId) (generation : Nat) (commands : List TransportCommand) :
    ((commands.filter fun command => !command.isStop).map Token.command).countP
        (·.names id generation) =
      commands.countP (·.prepares id generation) + commands.countP (·.starts id generation) := by
  induction commands with
  | nil => rfl
  | cons command rest ih =>
    cases command <;>
      simp [TransportCommand.isStop, TransportCommand.prepares, TransportCommand.starts,
        TransportCommand.isPrepare, TransportCommand.isStart, List.countP_cons, Token.names,
        Token.sessionId, Token.generation] at ih ⊢ <;> omega

theorem countP_attempts_le (id : SessionId) (generation : Nat) (stack : List Frame)
    (st : BridgeRuntime) :
    (attempts env id stack st).countP (·.names id generation) ≤
      tokens id generation env stack st := by
  have hlisted : ((st.cohorts.flatMap fun cohort => AssocMap.values cohort.prepared).map
      Token.listed).countP (·.names id generation) = st.listed id generation := by
    rw [List.countP_map, List.countP_flatMap]
    rfl
  have htodo : ((stack.flatMap Frame.streams).map Token.handed).countP (·.names id generation) =
      todo id generation stack := by
    rw [List.countP_map, List.countP_flatMap, todo]
    congr 1
    refine List.map_congr_left fun frame _ => ?_
    cases frame <;> rfl
  have hresults : ((st.resultRx.filter fun result => !result.outcome.stops).map
      Token.result).countP (·.names id generation) = st.results id generation := by
    rw [List.countP_map, List.countP_filter]
    rfl
  have htimers : ((((st.session id).bind SessionRuntime.retryTask).toList.filter fun task =>
      !task.fired).map fun task => Token.timer task.message).countP (·.names id generation) ≤
      st.timers id generation := by
    rw [List.countP_map, List.countP_filter]
    refine List.countP_mono_left fun task _ hnames => ?_
    simp only [Function.comp_apply, Token.names, Token.generation, Bool.and_eq_true] at hnames ⊢
    exact ⟨hnames.2, hnames.1.2⟩
  have hmessages : (st.preparedRx.map Token.message).countP (·.names id generation) =
      st.messages id generation := List.countP_map ..
  have hretries : (st.retryRx.map Token.retry).countP (·.names id generation) =
      st.retries id generation := List.countP_map ..
  have hcommands := countP_active id generation (st.commands (env.zoneOf id))
  unfold attempts AirSonos.tokens BridgeRuntime.tickets BridgeRuntime.prepares BridgeRuntime.starts
  simp only [List.countP_append]
  omega

theorem eq_of_countP_le_one {α : Type} {p : α → Bool} {l : List α} {a b : α}
    (h : l.countP p ≤ 1) (ha : a ∈ l) (hb : b ∈ l) (pa : p a = true) (pb : p b = true) : a = b := by
  rw [List.countP_eq_length_filter] at h
  have ha' := List.mem_filter.mpr ⟨ha, pa⟩
  have hb' := List.mem_filter.mpr ⟨hb, pb⟩
  generalize l.filter p = l' at *
  match l', h with
  | [c], _ => rw [List.mem_singleton.mp ha', List.mem_singleton.mp hb']
  | [], _ => cases ha'

/-- A session and a generation have one token at a time. -/
theorem Has.unique (h : Has stack st token) (sound : Sound env stack st)
    (once : Tokens env stack st) (h' : Has stack st other) (id : other.sessionId = token.sessionId)
    (generation : other.generation = token.generation) : other = token := by
  have hcount := (countP_attempts_le token.sessionId token.generation stack st).trans
    (once.one token.sessionId token.generation)
  refine eq_of_countP_le_one hcount (id ▸ h'.mem_attempts sound) (h.mem_attempts sound) ?_ ?_
  · simp [Token.names, id, generation]
  · simp [Token.names]

/-- A generation that is still to come has no token. -/
theorem Has.bounded (h : Has stack st token) (sound : Sound env stack st)
    (once : Tokens env stack st) : token.generation ≤ st.nextGeneration := by
  by_contra hnew
  have hcount := (countP_attempts_le token.sessionId token.generation stack st).trans_eq
    (once.fresh token.sessionId token.generation (Nat.not_le.mp hnew)).1
  have hnone := List.countP_eq_zero.mp (Nat.le_zero.mp hcount) token (h.mem_attempts sound)
  simp [Token.names] at hnone

/-- The stream that a token carries is that of its session and generation. -/
theorem Has.genuine (h : Has stack st token) (sound : Sound env stack st)
    {stream : PreparedDownstream} (payload : token.payload = some stream) :
    stream.Genuine env st.streams := by
  cases h with
  | @command zoneId worker command found mem =>
    exact ((sound.worker zoneId worker found).2 command mem).payload stream payload
  | message mem =>
    cases payload
    exact sound.message _ mem
  | listed mem found =>
    cases payload
    exact (sound.waiting _ mem _ _ found).2
  | handed frame mem =>
    cases payload
    exact sound.starting _ _ _ frame _ mem
  | result => cases payload
  | timer => cases payload
  | retry => cases payload

end Unique

/-! ### Where tokens come from -/

/-- The tokens that a move makes, each from the one before it in the course of the attempt, or
for a generation that is new. -/
inductive Born (env : Env) (stack : List Frame) (st st' : BridgeRuntime) : Token → Prop
  | command {command} (sends : Sends env stack st st' command) (active : command.isStop = false) :
      Born env stack st st' (.command command)
  | message {start} (origin : Has stack st (.command (.prepare start))) {zoneId worker}
      (found : st.zoneWorkers zoneId = some worker)
      (running : worker.running = some (.prepareReady start))
      (after : st'.zoneWorkers zoneId = some worker.idle) :
      Born env stack st st' (.message (preparedOf start))
  | listed {stream session} (origin : Has stack st (.message stream))
      (live' : st'.session stream.sessionId = some session)
      (kept : session.prepared = some stream) : Born env stack st st' (.listed stream)
  | arrived {stream session} (origin : Has stack st (.message stream))
      (live' : st'.session stream.sessionId = some session)
      (kept : session.prepared = some stream) : Born env stack st st' (.handed stream)
  | handed {stream} (origin : Has stack st (.listed stream)) :
      Born env stack st st' (.handed stream)
  | result {zoneId worker task result} (found : st.zoneWorkers zoneId = some worker)
      (running : worker.running = some task) (request : task.request.isSome = true)
      (last : ∀ next, task ≠ .leave next) (ends : result.Ends task.command)
      (start : result.outcome.stops = false)
      (joined : result.outcome = .joined →
        ∃ stream coordinator joins, task = .join stream coordinator joins)
      {reply worker' outputs} (replied : worker.reply st.now reply = some (worker', outputs))
      (reports : .result result ∈ outputs) (after : st'.zoneWorkers zoneId = some worker') :
      Born env stack st st' (.result result)
  | scheduled {result} (origin : Has stack st (.result result))
      (outcome : result.outcome = .unknown ∨ result.outcome = .failed) :
      Born env stack st st' (.timer ⟨result.sessionId, result.zoneId, result.generation⟩)
  | rebuilt {retry} (fresh : st.nextGeneration < retry.generation) :
      Born env stack st st' (.timer retry)
  | fired {retry} (origin : Has stack st (.timer retry)) : Born env stack st st' (.retry retry)

theorem Born.scheduled_first {stack : List Frame} {st st' : BridgeRuntime}
    {result : DownstreamStartResult} {rest : List DownstreamStartResult}
    (first : st.resultRx = result :: rest)
    (outcome : result.outcome = .unknown ∨ result.outcome = .failed) :
    Born env stack st st' (.timer ⟨result.sessionId, result.zoneId, result.generation⟩) := by
  refine .scheduled (.result ?_ ?_) outcome
  · rw [first]
    exact List.mem_cons_self
  · rcases outcome with heq | heq <;> rw [heq] <;> rfl

/-- `Q` holds of every token that no worker and no timer has. -/
structure Places (Q : Token → Prop) (stack : List Frame) (st : BridgeRuntime) : Prop where
  message : ∀ stream ∈ st.preparedRx, Q (.message stream)
  waiting : ∀ cohort ∈ st.cohorts, ∀ id stream, cohort.prepared.lookup id = some stream →
    Q (.listed stream)
  starting : ∀ release todo roles, .starting release todo roles ∈ stack → ∀ stream ∈ todo,
    Q (.handed stream)
  result : ∀ result ∈ st.resultRx, result.outcome.stops = false → Q (.result result)
  retry : ∀ retry ∈ st.retryRx, Q (.retry retry)

namespace Places

variable {Q : Token → Prop} {stack stack' : List Frame} {st st' : BridgeRuntime}

theorem of_has (h : ∀ token, Has stack st token → Q token) : Places Q stack st where
  message := fun _ mem => h _ (.message mem)
  waiting := fun _ mem _ _ found => h _ (.listed mem found)
  starting := fun _ _ _ frame _ mem => h _ (.handed frame mem)
  result := fun _ mem start => h _ (.result mem start)
  retry := fun _ mem => h _ (.retry mem)

theorem pop {frame : Frame} (h : Places Q (frame :: stack) st) : Places Q stack st :=
  { h with
    starting := fun release todo roles hmem =>
      h.starting release todo roles (List.mem_cons_of_mem _ hmem) }

theorem push (h : Places Q stack st) {frame : Frame}
    (new : ∀ release todo roles, frame = .starting release todo roles → ∀ stream ∈ todo,
      Q (.handed stream)) : Places Q (frame :: stack) st := by
  refine { h with starting := fun release todo roles hmem => ?_ }
  obtain heq | hmem := List.mem_cons.mp hmem
  · exact new release todo roles heq.symm
  · exact h.starting release todo roles hmem

theorem pushLeaving (h : Places Q stack st) (goal : Goal) (todo : List SessionId) :
    Places Q (.leaving goal todo :: stack) st :=
  h.push fun _ _ _ heq => by cases heq

theorem pushChecking (h : Places Q stack st) : Places Q (.checking :: stack) st :=
  h.push fun _ _ _ heq => by cases heq

theorem addSessionToSyncCohort (h : Places Q stack st) (id : SessionId) :
    Places Q stack (st.addSessionToSyncCohort env id) := by
  refine { h with waiting := fun cohort hmem other stream hfound => ?_ }
  obtain ⟨old, hold, hfound⟩ := Sound.lookup_addSessionToSyncCohort hmem hfound
  exact h.waiting old hold other stream hfound

theorem enlistPrepared (h : Places Q stack st) {prepared : PreparedDownstream}
    (new : Q (.listed prepared)) : Places Q stack (st.enlistPrepared prepared) := by
  refine { h with waiting := fun cohort hmem id stream hfound => ?_ }
  rw [cohorts_enlistPrepared] at hmem
  obtain hmem | ⟨old, hold, rfl⟩ := Sound.mem_insertPrepared hmem
  · exact h.waiting cohort hmem id stream hfound
  · rw [AssocMap.lookup_insert_ite] at hfound
    split at hfound
    · cases hfound
      exact new
    · exact h.waiting old hold id stream hfound

theorem takeCohort (h : Places Q stack st) {cohort : SyncCohort} {rest : List SyncCohort}
    (first : st.cohorts = cohort :: rest) : Places Q stack (st.takeCohort rest) :=
  { h with
    waiting := fun other hmem =>
      h.waiting other (by rw [first]; exact List.mem_cons_of_mem _ hmem) }

theorem keepCohort (h : Places Q stack st) {cohort : SyncCohort} {rest : List SyncCohort}
    (first : st.cohorts = cohort :: rest) :
    Places Q stack (st.keepCohort (st.pruneCohort cohort) rest) := by
  refine { h with waiting := fun other hmem id stream hfound => ?_ }
  obtain rfl | hmem := List.mem_cons.mp hmem
  · exact h.waiting cohort (by rw [first]; exact List.mem_cons_self) id stream
      ((AssocMap.lookup_retain_eq_some _ _).mp hfound).1
  · exact h.waiting other (by rw [first]; exact List.mem_cons_of_mem _ hmem) id stream hfound

theorem leave (h : Places Q stack st) (goal : Goal) (members : List SessionId) (id : SessionId) :
    Places Q (.leaving goal members :: stack) (st.disband id) := by
  have hleft : Places Q stack (st.disband id) := { h with }
  exact hleft.pushLeaving goal members

theorem takeResult (h : Places Q stack st) : Places Q stack st.takeResult :=
  { h with result := fun result hmem => h.result result (List.mem_of_mem_tail hmem) }

theorem takeRetry (h : Places Q stack st) : Places Q stack st.takeRetry :=
  { h with retry := fun retry hmem => h.retry retry (List.mem_of_mem_tail hmem) }

theorem takePrepared (h : Places Q stack st) : Places Q stack st.takePrepared :=
  { h with message := fun stream hmem => h.message stream (List.mem_of_mem_tail hmem) }

/-- A released cohort hands the streams it lists to the players. -/
theorem release {cohort : SyncCohort} {rest : List SyncCohort} (h : Places Q stack st)
    (first : st.cohorts = cohort :: rest)
    (handed : ∀ stream, Has stack st (.listed stream) → Q (.handed stream)) :
    Places Q (((st.handOver (st.pruneCohort cohort) rest).startFrame env
        (st.pruneCohort cohort).preparedStreams) :: stack)
      ((st.handOver (st.pruneCohort cohort) rest).openPlay env
        (st.pruneCohort cohort).preparedStreams) := by
  have hopened : Places Q stack ((st.handOver (st.pruneCohort cohort) rest).openPlay env
      (st.pruneCohort cohort).preparedStreams) := by
    obtain ⟨groupJoins, nextGroupJoins, heq⟩ := openPlay_spec env
      (st.handOver (st.pruneCohort cohort) rest) (st.pruneCohort cohort).preparedStreams
    rw [heq]
    exact { h.takeCohort first with }
  refine hopened.push fun release todo roles heq stream hmem => ?_
  cases heq
  obtain ⟨id, -, hfound⟩ := List.mem_filterMap.mp hmem
  have hcohort : cohort ∈ st.cohorts := by
    rw [first]
    exact List.mem_cons_self
  exact handed stream (.listed hcohort ((AssocMap.lookup_retain_eq_some _ _).mp hfound).1)

theorem startStream {release : Release} {stream : PreparedDownstream}
    {rest : List PreparedDownstream} {roles : AssocMap SessionId NativeMember}
    (h : Places Q (.starting release (stream :: rest) roles :: stack) st) :
    Places Q (.starting release rest (roles.erase stream.sessionId) :: stack)
      (BridgeRuntime.startStream env release.joins release.delays release.cutoff (st, roles)
        stream).1 := by
  obtain ⟨planned, playbackRelease, f, heq, -, -⟩ := startStream_spec env release.joins
    release.delays release.cutoff st roles stream
  rw [heq]
  have hstarted : Places Q stack
      (({ st with sessions := planned, playbackRelease := playbackRelease } :
        BridgeRuntime).sendCommand env stream.zoneId (startCommand release.joins
          (release.delays.lookup stream.sessionId) (roles.lookup stream.sessionId) stream)) :=
    { h.pop with }
  refine hstarted.push fun _ todo _ heq other hmem => ?_
  cases heq
  exact h.starting release (stream :: rest) roles List.mem_cons_self other
    (List.mem_cons_of_mem _ hmem)

theorem inner (move : Inner env stack st stack' st') (old : ∀ token, Has stack st token → Q token)
    (born : ∀ token, Born env stack st st' token → Q token) : Places Q stack' st' := by
  have h : Places Q stack st := .of_has old
  cases move with
  | memberSkipped => exact h.pop.pushLeaving _ _
  | memberRestarted =>
    refine leave ?_ _ _ _
    exact { h.pop.pushLeaving _ _ with }
  | vanished => exact h.pop
  | rendererMissing => exact { h.pop with }
  | buildFailed => exact { h.pop with }
  | @built tail _ id zoneId session renderer liveStream =>
    have hregistered : Places Q tail
        ((st.invalidateDownstream env id zoneId).registerStream id liveStream) := { h.pop with }
    have hadded : Places Q tail (((st.invalidateDownstream env id zoneId).registerStream id
        liveStream).addSessionToSyncCohort env id) := hregistered.addSessionToSyncCohort id
    have hadmitted : Places Q tail ((st.invalidateDownstream env id zoneId).admitDownstream env id
        zoneId renderer liveStream) := { hadded with }
    exact hadmitted.pushChecking
  | left => exact h.pop
  | @pauseFinished tail _ id zoneId =>
    have hstopped : Places Q tail (st.stopPaused env id zoneId) := { h.pop with }
    exact hstopped.pushChecking
  | @stopFinished tail _ id zoneId generation =>
    have hstopped : Places Q tail (st.sendCommand env zoneId (.stop id zoneId generation)) :=
      { h.pop with }
    exact hstopped.pushChecking
  | cohortDropped first => exact h.takeCohort first
  | cohortReleased first => exact h.release first fun _ listed => born _ (.handed listed)
  | cohortKept first => exact { h.pop.keepCohort first with }
  | cohortsDone => exact { h.pop with waiting := fun _ hmem => by cases hmem }
  | streamStarted => exact h.startStream
  | startsDone => exact h.pop

/-- The results of a reply are those of the command it ends. -/
theorem workerReplied {zoneId : ZoneId} {worker worker' : ZoneWorker} {reply : Reply}
    {outputs : List WorkerOutput} (h : Places Q [] st)
    (found : st.zoneWorkers zoneId = some worker)
    (replied : worker.reply st.now reply = some (worker', outputs))
    (born : ∀ token, Born env [] st (outputs.foldl deliver (st.setWorker zoneId worker')) token →
      Q token) : Places Q [] (outputs.foldl deliver (st.setWorker zoneId worker')) := by
  obtain ⟨task, request, hrunning, hrequest, heffect⟩ := ZoneWorker.reply_spec replied
  have hworker : (outputs.foldl deliver (st.setWorker zoneId worker')).zoneWorkers zoneId =
      some worker' := by
    obtain ⟨groupJoins, heq⟩ := deliver_eq (st.setWorker zoneId worker') outputs
    rw [heq]
    exact Function.update_self ..
  have hborn (result : DownstreamStartResult) (mem : result ∈ outputs.filterMap
      WorkerOutput.result?) (start : result.outcome.stops = false) : Q (.result result) := by
    refine born _ ?_
    cases heffect with
    | goesOn => cases mem
    | abandons => cases mem
    | reports joins ends =>
      rw [results_of_report, List.mem_singleton] at mem
      subst mem
      have hreport : WorkerOutput.result result ∈
          joins.map WorkerOutput.joined ++ [WorkerOutput.result result] :=
        List.mem_append_right _ (List.mem_singleton_self _)
      exact .result found hrunning (by rw [hrequest]; rfl)
        (ZoneWorker.not_leave_of_reply replied hrunning hreport) ends start
        (ZoneWorker.joined_of_reply replied hrunning hreport) replied hreport hworker
  obtain ⟨groupJoins, heq⟩ := deliver_eq (st.setWorker zoneId worker') outputs
  rw [heq]
  refine { h with result := fun result hmem start => ?_ }
  obtain hold | hnew := List.mem_append.mp hmem
  · exact h.result result hold start
  · exact hborn result hnew start

/-- A prepared stream is listed in its cohort, or handed to the player at once. -/
theorem preparedArrived {prepared : PreparedDownstream} {rest : List PreparedDownstream}
    {session : SessionRuntime} (h : Places Q [] st) (first : st.preparedRx = prepared :: rest)
    (live : st.session prepared.sessionId = some session) :
    ((∀ token, Born env [] st ((st.takePrepared.keepPrepared prepared).enlistPrepared prepared)
        token → Q token) →
      Places Q [] ((st.takePrepared.keepPrepared prepared).enlistPrepared prepared)) ∧
    ((∀ token, Born env [] st ((st.takePrepared.keepPrepared prepared).openPlay env [prepared])
        token → Q token) →
      Places Q [(st.takePrepared.keepPrepared prepared).startFrame env [prepared]]
        ((st.takePrepared.keepPrepared prepared).openPlay env [prepared])) := by
  have hmessage : prepared ∈ st.preparedRx := by
    rw [first]
    exact List.mem_cons_self
  have hkept : Places Q [] (st.takePrepared.keepPrepared prepared) := { h.takePrepared with }
  refine ⟨fun born => ?_, fun born => ?_⟩
  · have hlive' : ((st.takePrepared.keepPrepared prepared).enlistPrepared prepared).session
        prepared.sessionId = some { session with prepared := some prepared } := by simp [live]
    exact hkept.enlistPrepared (born _ (.listed (.message hmessage) hlive' rfl))
  · have hlive' : ((st.takePrepared.keepPrepared prepared).openPlay env [prepared]).session
        prepared.sessionId = some { session with prepared := some prepared } := by simp [live]
    have hopened : Places Q [] ((st.takePrepared.keepPrepared prepared).openPlay env
        [prepared]) := by
      obtain ⟨groupJoins, nextGroupJoins, heq⟩ := openPlay_spec env
        (st.takePrepared.keepPrepared prepared) [prepared]
      rw [heq]
      exact { hkept with }
    refine hopened.push fun _ _ _ heq stream hmem => ?_
    cases heq
    cases List.mem_singleton.mp hmem
    exact born _ (.arrived (.message hmessage) hlive' rfl)

theorem move (move : Move env guard stack st stack' st')
    (old : ∀ token, Has stack st token → Q token)
    (born : ∀ token, Born env stack st st' token → Q token) : Places Q stack' st' := by
  have h : Places Q stack st := .of_has old
  cases move with
  | inner move => exact inner move old born
  | workerReplied _ found replied => exact h.workerReplied found replied born
  | workerReady found ready =>
    obtain ⟨start, running, rfl, rfl⟩ := ZoneWorker.ready_spec ready
    refine { h with message := fun stream hmem => ?_ }
    obtain hold | hnew := List.mem_append.mp hmem
    · exact h.message stream hold
    · cases List.mem_singleton.mp hnew
      exact born _ (.message (.command found (ZoneWorker.mem_commands_of_running running) rfl)
        found running (Function.update_self ..))
  | @groupReleased _ zoneId worker stream joins delay since _ found waiting released =>
    obtain ⟨-, rfl⟩ := releaseGroup_spec released
    cases delay <;> exact { h with }
  | retryFired live timer pending =>
    refine { h with retry := fun retry hmem => ?_ }
    obtain hold | hnew := List.mem_append.mp hmem
    · exact h.retry retry hold
    · cases List.mem_singleton.mp hnew
      exact born _ (.fired (.timer live timer pending))
  | resumedRestart =>
    refine leave ?_ _ _ _
    exact { h with }
  | flushedPlaying =>
    refine leave ?_ _ _ _
    exact { h with }
  | paused =>
    refine leave ?_ _ _ _
    exact { h with }
  | sessionRemoved =>
    refine leave ?_ _ _ _
    exact { h with }
  | sessionInserted =>
    refine leave ?_ _ _ _
    exact { h with }
  | encoderClosed =>
    unfold BridgeRuntime.encoderInputClosed
    split <;> exact { h with }
  | resultDropped => exact h.takeResult
  | resultPaused => exact { h.takeResult with }
  | @startSucceeded _ result =>
    obtain ⟨nativeGroups, heq⟩ := startSucceeded_spec st.takeResult result.sessionId result.outcome
    rw [heq]
    exact { h.takeResult with }
  | @startRetried _ result =>
    obtain ⟨nativeGroups, heq⟩ := startUncertain_spec st.takeResult result.sessionId result.outcome
    rw [heq]
    exact { h.takeResult with }
  | @startExhausted _ result =>
    obtain ⟨nativeGroups, heq⟩ := startUncertain_spec st.takeResult result.sessionId result.outcome
    rw [heq]
    refine leave ?_ _ _ _
    exact { h.takeResult with }
  | startAbandoned =>
    refine leave ?_ _ _ _
    exact { h.takeResult with }
  | retryDropped => exact h.takeRetry
  | @retryReplayed _ retry rest session prepared =>
    obtain ⟨playbackRelease, heq⟩ := replayPrepared_spec env st.takeRetry retry.sessionId
      retry.zoneId prepared
    rw [heq]
    exact { h.takeRetry with }
  | retryRestarted =>
    refine leave ?_ _ _ _
    exact { h.takeRetry with }
  | preparedDropped => exact h.takePrepared
  | preparedListed first live => exact ((h.preparedArrived first live).1 born).pushChecking
  | preparedPlayed first live => exact (h.preparedArrived first live).2 born
  | wakeTaken =>
    have htaken : Places Q [] st.takeWake := { h with }
    exact htaken.pushChecking
  | _ => exact { h with }

end Places

/-! ### What a session keeps -/

/-- Where the prepared stream of a session comes from: it was kept, it arrived, or it was held
or released by a start. -/
inductive KeptStep (stack : List Frame) (st : BridgeRuntime) (stack' : List Frame)
    (st' : BridgeRuntime) (id : SessionId) : PreparedDownstream → Prop
  | same {session stream} (live : st.session id = some session)
      (kept : session.prepared = some stream) : KeptStep stack st stack' st' id stream
  | held {session stream release started rest roles tail coordinator joins}
      (live : st.session id = some session) (kept : session.prepared = some stream)
      (top : stack = .starting release (started :: rest) roles :: tail)
      (names : started.sessionId = id)
      (command : startCommand release.joins (release.delays.lookup started.sessionId)
        (roles.lookup started.sessionId) started = .join started coordinator joins) :
      KeptStep stack st stack' st' id
        { stream with heldDelay := release.delays.lookup started.sessionId }
  | arrived {stream} (mem : stream ∈ st.preparedRx) (names : stream.sessionId = id)
      (after : Has stack' st' (.listed stream) ∨ Has stack' st' (.handed stream)) :
      KeptStep stack st stack' st' id stream
  | replayed {retry rest session stream} (first : st.retryRx = retry :: rest)
      (names : retry.sessionId = id) (live : st.session id = some session)
      (current : session.generation = retry.generation) (kept : session.prepared = some stream)
      (after : stream.heldDelay ≠ none →
        st'.playbackRelease stream.liveStream.session.generation ≠ none) :
      KeptStep stack st stack' st' id stream.released

/-- What a session keeps of its attempt after a move. -/
structure Books (env : Env) (stack : List Frame) (st : BridgeRuntime) (stack' : List Frame)
    (st' : BridgeRuntime) (id : SessionId) (session : SessionRuntime) : Prop where
  prepared : ∀ stream, session.prepared = some stream → KeptStep stack st stack' st' id stream
  timer : ∀ task, session.retryTask = some task → task.fired = false →
    Has stack st (.timer task.message) ∨ Born env stack st st' (.timer task.message)

theorem insertPrepared_lookup {prepared : PreparedDownstream} {cohorts : List SyncCohort}
    (listed : ∃ cohort ∈ cohorts, prepared.sessionId ∈ cohort.sessions) :
    ∃ cohort ∈ insertPrepared prepared cohorts,
      cohort.prepared.lookup prepared.sessionId = some prepared := by
  induction cohorts with
  | nil => obtain ⟨cohort, hmem, -⟩ := listed; cases hmem
  | cons first rest ih =>
    simp only [insertPrepared]
    split
    · exact ⟨_, List.mem_cons_self, by rw [AssocMap.lookup_insert_ite, if_pos rfl]⟩
    · next hother =>
      obtain ⟨cohort, hmem, hlisted⟩ := listed
      rcases List.mem_cons.mp hmem with rfl | hmem
      · exact absurd (List.contains_iff_mem.mpr hlisted) hother
      · obtain ⟨found, hmem, hfound⟩ := ih ⟨cohort, hmem, hlisted⟩
        exact ⟨found, List.mem_cons_of_mem _ hmem, hfound⟩

/-- Planning a start keeps the timer of the session, and its stream unless the stream is held
for a Join. -/
theorem planStart_kept (st : BridgeRuntime) (cutoff : Instant) (delay : Option Duration)
    {command : TransportCommand} {stream : PreparedDownstream}
    (payload : command.payload = some stream) :
    ∃ f, (∀ other, (st.planStart cutoff delay command).session other =
        if other = stream.sessionId then (st.session other).map f else st.session other) ∧
      ∀ session, (f session).retryTask = session.retryTask ∧
        ((∀ coordinator joins, command ≠ .join stream coordinator joins) ∧
            (f session).prepared = session.prepared ∨
          (∃ coordinator joins, command = .join stream coordinator joins) ∧
            (f session).prepared = session.prepared.map fun prepared =>
              { prepared with heldDelay := delay }) := by
  have hsame (after : BridgeRuntime) (h : after.session = st.session) (other : SessionId) :
      after.session other = if other = stream.sessionId then
        (st.session other).map fun session => session else st.session other := by
    rw [h, Option.map_id']
    exact (ite_self _).symm
  cases command with
  | join held coordinator joins =>
    cases payload
    exact ⟨_, fun other => session_modifySession .., fun session =>
      ⟨rfl, .inr ⟨⟨coordinator, joins, rfl⟩, rfl⟩⟩⟩
  | play played =>
    refine ⟨_, hsame _ ?_, fun session => ⟨rfl, .inl ⟨nofun, rfl⟩⟩⟩
    cases delay <;> rfl
  | _ => exact ⟨_, hsame _ rfl, fun session => ⟨rfl, .inl ⟨nofun, rfl⟩⟩⟩

theorem startStream_kept (env : Env) (joins : Option GroupJoins)
    (delays : AssocMap SessionId Duration) (cutoff : Instant) (st : BridgeRuntime)
    (roles : AssocMap SessionId NativeMember) (stream : PreparedDownstream) :
    ∃ f, (∀ other, (startStream env joins delays cutoff (st, roles) stream).1.session other =
        if other = stream.sessionId then (st.session other).map f else st.session other) ∧
      ∀ session, (f session).retryTask = session.retryTask ∧
        ((∀ coordinator counter, startCommand joins (delays.lookup stream.sessionId)
              (roles.lookup stream.sessionId) stream ≠ .join stream coordinator counter) ∧
            (f session).prepared = session.prepared ∨
          (∃ coordinator counter, startCommand joins (delays.lookup stream.sessionId)
              (roles.lookup stream.sessionId) stream = .join stream coordinator counter) ∧
            (f session).prepared = session.prepared.map fun prepared =>
              { prepared with heldDelay := delays.lookup stream.sessionId }) := by
  obtain ⟨recorded, f, hrecorded, hlookup, hf⟩ :=
    recordDelay_spec st stream.sessionId (delays.lookup stream.sessionId)
  obtain ⟨g, hplanned, hg⟩ := planStart_kept
    (st.recordDelay stream.sessionId (delays.lookup stream.sessionId)) cutoff
    (delays.lookup stream.sessionId) (startCommand_spec joins (delays.lookup stream.sessionId)
      (roles.lookup stream.sessionId) stream).2
  refine ⟨g ∘ f, fun other => ?_, fun session => ?_⟩
  · refine (hplanned other).trans ?_
    rw [hrecorded]
    have hrecorded' : ({ st with sessions := recorded } : BridgeRuntime).session other =
        recorded.lookup other := rfl
    rw [hrecorded', hlookup]
    split
    · exact Option.map_map ..
    · rfl
  · obtain ⟨delay, hdelay⟩ := hf session
    have hkept := hg (f session)
    rw [Function.comp_apply]
    rw [hdelay] at hkept ⊢
    exact hkept

namespace Books

variable {stack stack' : List Frame} {st st' : BridgeRuntime} {id : SessionId}

theorem same {session : SessionRuntime} (live : st.session id = some session) :
    Books env stack st stack' st' id session where
  prepared := fun _ kept => .same live kept
  timer := fun _ timer pending => .inl (.timer live timer pending)

/-- Nothing is prepared any more, or the stream stays. -/
theorem mild {session session' : SessionRuntime} (live : st.session id = some session)
    (prepared : session'.prepared = none ∨ session'.prepared = session.prepared)
    (timer : session'.retryTask = none ∨ session'.retryTask = session.retryTask) :
    Books env stack st stack' st' id session' := by
  constructor
  · intro stream kept
    rcases prepared with heq | heq
    · rw [heq] at kept
      cases kept
    · exact .same live (heq ▸ kept)
  · intro task htask pending
    rcases timer with heq | heq
    · rw [heq] at htask
      cases htask
    · exact .inl (.timer live (heq ▸ htask) pending)

/-- A retry is scheduled, or the budget is spent. -/
theorem scheduled {session : SessionRuntime} (live : st.session id = some session)
    (session' : SessionRuntime)
    (prepared : session'.prepared = none ∨ session'.prepared = session.prepared) (now : Instant)
    {retry : DownstreamRetry} (born : Born env stack st st' (.timer retry)) :
    Books env stack st stack' st' id (retryOrReset now retry session') := by
  constructor
  · intro stream kept
    have hsame : (retryOrReset now retry session').prepared = session'.prepared := by
      unfold retryOrReset
      split <;> rfl
    rw [hsame] at kept
    rcases prepared with heq | heq
    · rw [heq] at kept
      cases kept
    · exact .same live (heq ▸ kept)
  · intro task htask _
    unfold retryOrReset at htask
    split at htask
    · cases htask
      exact .inr born
    · cases htask

/-- The books of the sessions, all but one of which are as before. -/
theorem of_edit {session' : SessionRuntime} (live' : st'.session id = some session')
    {f : SessionRuntime → SessionRuntime} (edited : SessionId)
    (sessions : ∀ other, st'.session other =
      if other = edited then (st.session other).map f else st.session other)
    (new : ∀ session, st.session edited = some session →
      Books env stack st stack' st' edited (f session)) :
    Books env stack st stack' st' id session' := by
  rw [sessions] at live'
  split at live'
  · subst id
    obtain ⟨session, live, rfl⟩ := Option.map_eq_some_iff.mp live'
    exact new session live
  · exact same live'

theorem inner (move : Inner env stack st stack' st') {session' : SessionRuntime}
    (live' : st'.session id = some session') : Books env stack st stack' st' id session' := by
  cases move with
  | memberRestarted =>
    exact of_edit live' _ (session_cancelDownstreamRetry st _)
      fun session live => mild live (.inr rfl) (.inl rfl)
  | rendererMissing =>
    exact of_edit live' _ (session_retireDownstream st _)
      fun session live => mild live (.inl rfl) (.inr rfl)
  | @buildFailed _ _ edited zoneId =>
    exact of_edit live' edited (session_buildFailed st edited zoneId) fun session live =>
      scheduled live _ (.inl rfl) st.now (.rebuilt (Nat.lt_succ_self _))
  | @built _ _ edited zoneId session renderer liveStream =>
    exact of_edit live' edited (session_built st edited zoneId renderer liveStream)
      fun session live => mild live (.inl rfl) (.inr rfl)
  | pauseFinished =>
    exact of_edit live' _ (session_nextDownstreamGeneration st _)
      fun session live => mild live (.inr rfl) (.inr rfl)
  | cohortReleased =>
    rw [session_openPlay, session_handOver] at live'
    exact same live'
  | @streamStarted tail _ release stream rest roles =>
    obtain ⟨f, hsessions, hf⟩ := startStream_kept env release.joins release.delays release.cutoff st
      roles stream
    refine of_edit live' stream.sessionId hsessions fun session live => ?_
    obtain ⟨htimer, ⟨-, hsame⟩ | ⟨⟨coordinator, joins, hcommand⟩, hheld⟩⟩ := hf session
    · exact mild live (.inr hsame) (.inr htimer)
    · constructor
      · intro held kept
        rw [hheld] at kept
        obtain ⟨old, hold, rfl⟩ := Option.map_eq_some_iff.mp kept
        exact .held live hold rfl rfl hcommand
      · intro task htask pending
        exact .inl (.timer live (htimer ▸ htask) pending)
  | _ => exact same live'

theorem fresh {session' : SessionRuntime} (prepared : session'.prepared = none)
    (timer : session'.retryTask = none) : Books env stack st stack' st' id session' := by
  constructor
  · intro stream kept
    cases prepared.symm.trans kept
  · intro task htask
    cases timer.symm.trans htask

/-- The session keeps the stream that has just been prepared for it. -/
theorem arrived {prepared : PreparedDownstream} {rest : List PreparedDownstream}
    {session : SessionRuntime} (first : st.preparedRx = prepared :: rest)
    (live : st.session prepared.sessionId = some session)
    (after : Has stack' st' (.listed prepared) ∨ Has stack' st' (.handed prepared)) :
    Books env stack st stack' st' prepared.sessionId { session with prepared := some prepared } := by
  constructor
  · intro stream kept
    cases kept
    exact .arrived (first ▸ List.mem_cons_self) rfl after
  · intro task htask pending
    exact .inl (.timer live htask pending)

theorem move (h : Move env guard stack st stack' st') {session' : SessionRuntime}
    (live' : st'.session id = some session') : Books env stack st stack' st' id session' := by
  cases h with
  | inner move => exact inner move live'
  | workerReplied =>
    rw [session_deliver] at live'
    exact same live'
  | groupReleased found waiting released =>
    obtain ⟨-, rfl⟩ := releaseGroup_spec released
    have hlive : st.session id = some session' := by
      rw [← live']
      unfold planStream
      split <;> rfl
    exact same hlive
  | retryFired =>
    refine of_edit live' _ (session_sendRetry st _ _) fun session live => ?_
    constructor
    · intro stream kept
      exact .same live kept
    · intro task htask fired
      cases htask
      cases fired
  | cleanupFired =>
    exact of_edit live' _ (session_sendCleanup st _ _)
      fun session live => mild live (.inr rfl) (.inr rfl)
  | cleanupDeferred =>
    exact of_edit live' _ (session_deferCleanup st _)
      fun session live => mild live (.inr rfl) (.inr rfl)
  | resumed =>
    exact of_edit live' _ (session_resumePlayback st _)
      fun session live => mild live (.inr rfl) (.inr rfl)
  | @resumedRestart _ edited =>
    exact of_edit live' edited (session_resumedRestart st edited)
      fun session live => mild live (.inr rfl) (.inl rfl)
  | @flushedPlaying _ edited zoneId session playbackEpoch =>
    exact of_edit live' edited (session_flushedPlaying st edited playbackEpoch)
      fun session live => mild live (.inr rfl) (.inl rfl)
  | paused =>
    exact of_edit live' _ (session_pausePlayback st _)
      fun session live => mild live (.inl rfl) (.inl rfl)
  | @flushedPaused _ edited zoneId session playbackEpoch =>
    exact of_edit live' edited (session_flushedPaused st edited playbackEpoch)
      fun session live => mild live (.inr rfl) (.inr rfl)
  | sessionRemoved =>
    rw [session_disband, session_removeSession] at live'
    split at live'
    · cases live'
    · exact same live'
  | sessionInserted =>
    rw [session_disband, session_cancelDownstreamRetry] at live'
    split at live'
    · next heq =>
      rw [session_insertSession, if_pos heq] at live'
      cases live'
      exact fresh rfl rfl
    · next hne =>
      rw [session_insertSession, if_neg hne] at live'
      exact same live'
  | @encoderClosed _ edited zoneId frames session =>
    unfold BridgeRuntime.encoderInputClosed at live' ⊢
    split at live'
    · rw [if_pos ‹_›]
      exact of_edit live' edited (session_encoderRetried st edited session.zoneId)
        fun old live => scheduled live _ (.inl rfl) st.now (.rebuilt (Nat.lt_succ_self _))
    · rw [if_neg ‹_›]
      exact of_edit live' _ (session_retireEncoder env st edited session.zoneId)
        fun session live => mild live (.inl rfl) (.inr rfl)
  | resultPaused =>
    exact of_edit live' _ (session_notePaused st.takeResult _ _)
      fun session live => mild live (.inr rfl) (.inr rfl)
  | startSucceeded =>
    exact of_edit live' _ (session_startSucceeded st.takeResult _ _)
      fun session live => mild live (.inr rfl) (.inl rfl)
  | startRetried first _ _ _ outcome =>
    exact of_edit live' _ (GenerationStep.session_startUncertain_retry st _) fun session live =>
      scheduled live { session with
        observed := .unknown, resetNeeded := session.prepared.isNone } (.inr rfl) _
          (.scheduled_first first outcome)
  | startExhausted first _ _ _ outcome =>
    exact of_edit live' _ (GenerationStep.session_startUncertain_retry st _) fun session live =>
      scheduled live { session with
        observed := .unknown, resetNeeded := session.prepared.isNone } (.inr rfl) _
          (.scheduled_first first outcome)
  | startAbandoned =>
    exact of_edit live' _ (session_abandonStart st.takeResult _)
      fun session live => mild live (.inr rfl) (.inl rfl)
  | @retryReplayed _ retry rest session prepared guarded first live current wanted kept =>
    refine of_edit live' _ (session_replayPrepared env st.takeRetry _ _ _) fun session' hlive => ?_
    rw [live] at hlive
    cases hlive
    constructor
    · intro stream released
      cases released
      refine .replayed first rfl live current kept fun held => ?_
      unfold BridgeRuntime.replayPrepared
      obtain ⟨delay, hdelay⟩ := Option.ne_none_iff_exists'.mp held
      rw [hdelay]
      simp [planStream, BridgeRuntime.sendCommand, setPlaybackPlan]
    · intro task htask
      cases htask
  | @retryRestarted _ retry =>
    exact of_edit live' _ (session_retryRestarted st retry.sessionId)
      fun session live => mild live (.inr rfl) (.inl rfl)
  | @preparedListed _ prepared rest session first live current wanted listed =>
    refine of_edit live' _ (session_keepPrepared st.takePrepared prepared) fun session hlive => ?_
    obtain ⟨cohort, hmem, hfound⟩ := insertPrepared_lookup listed
    refine arrived first hlive (.inl (.listed ?_ hfound))
    rw [cohorts_enlistPrepared]
    exact hmem
  | @preparedPlayed _ prepared rest session first live current wanted =>
    exact of_edit live' _ (session_preparedPlayed st prepared) fun session hlive =>
      arrived first hlive (.inr (.handed List.mem_cons_self (List.mem_singleton_self _)))
  | _ => exact same live'

end Books

/-- Every token of the next state was there before or is born from the one before it. -/
theorem Has.step {stack stack' : List Frame} {st st' : BridgeRuntime} {token : Token}
    (h : Has stack' st' token) (move : Move env guard stack st stack' st') :
    Has stack st token ∨ Born env stack st st' token := by
  have hplaces := Places.move move (Q := fun token => Has stack st token ∨
    Born env stack st st' token) (fun _ => .inl) fun _ => .inr
  cases h with
  | command found mem active =>
    obtain ⟨worker, hfound, hmem⟩ | hsends :=
      (WorkersStep.move move _ _ found).commands mem
    · exact .inl (.command hfound hmem active)
    · exact .inr (.command hsends active)
  | message mem => exact hplaces.message _ mem
  | listed mem found => exact hplaces.waiting _ mem _ _ found
  | handed frame mem => exact hplaces.starting _ _ _ frame _ mem
  | result mem start => exact hplaces.result _ mem start
  | timer live timer pending => exact (Books.move move live).timer _ timer pending
  | retry mem => exact hplaces.retry _ mem

end AirSonos
