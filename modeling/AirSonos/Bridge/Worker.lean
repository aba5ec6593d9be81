import AirSonos.Bridge.Types
import AirSonos.Sonos.Client

/-!
# The transport loop of a zone worker

The worker owns the requests to one renderer. Its watch channel keeps only the latest
command, so a command is dropped when the next one arrives before the loop takes it. Every
`await` of the loop is a task below: the request in flight, or a wait that a newer command
may end. The history fields record what was issued and what was exchanged.
-/

namespace AirSonos

inductive TransportRequest
  | becomeStandalone
  | stop
  | setAvTransportUri (uri : StreamUrl)
  | joinGroup (coordinator : String)
  | play (url : StreamUrl)
deriving DecidableEq

/-- Joining a group also loads a transport URI, `x-rincon:` and the coordinator. -/
def TransportRequest.loadsUri : TransportRequest → Bool
  | setAvTransportUri _ => true
  | joinGroup _ => true
  | _ => false

structure Exchange where
  request : TransportRequest
  reply : Reply

inductive TransportTask
  | leave (next : TransportCommand)
  | prepareStandalone (start : StreamPrepare)
  | prepareStop (start : StreamPrepare)
  | prepareSetUri (start : StreamPrepare)
  | prepareReady (start : StreamPrepare)
  | play (stream : PreparedDownstream)
  | groupWait (stream : PreparedDownstream) (joins : GroupJoins) (delay : Option Duration)
      (since : Instant)
  | groupPlay (stream : PreparedDownstream) (joins : GroupJoins) (delay : Option Duration)
  | join (stream : PreparedDownstream) (coordinator : String) (joins : GroupJoins)
  | stop (sessionId : SessionId) (zoneId : ZoneId) (generation : Nat)
deriving DecidableEq

namespace TransportTask

/-- The command the loop is working on. -/
def command : TransportTask → TransportCommand
  | leave next => next
  | prepareStandalone start => .prepare start
  | prepareStop start => .prepare start
  | prepareSetUri start => .prepare start
  | prepareReady start => .prepare start
  | play stream => .play stream
  | groupWait stream joins delay _ => .playGroup stream joins delay
  | groupPlay stream joins delay => .playGroup stream joins delay
  | join stream coordinator joins => .join stream coordinator joins
  | stop sessionId zoneId generation => .stop sessionId zoneId generation

def request : TransportTask → Option TransportRequest
  | leave _ => some .becomeStandalone
  | prepareStandalone _ => some .becomeStandalone
  | prepareStop _ => some .stop
  | prepareSetUri start => some (.setAvTransportUri start.localUrl)
  | prepareReady _ => none
  | play stream => some (.play stream.liveStream.session.localUrl)
  | groupWait _ _ _ _ => none
  | groupPlay stream _ _ => some (.play stream.liveStream.session.localUrl)
  | join _ coordinator _ => some (.joinGroup coordinator)
  | stop _ _ _ => some .stop

/-- The first task of a command once the room is in no group. A Home Assistant player needs
neither a Stop barrier nor a loaded URI. -/
def enter (now : Instant) : TransportCommand → TransportTask
  | .prepare start =>
    if start.renderer.isSonos then
      if start.forceStandaloneOnStart then .prepareStandalone start else .prepareStop start
    else
      .prepareReady start
  | .play stream => .play stream
  | .playGroup stream joins delay => .groupWait stream joins delay now
  | .join stream coordinator joins => .join stream coordinator joins
  | .stop sessionId zoneId generation => .stop sessionId zoneId generation

@[simp] theorem command_enter (now : Instant) (command : TransportCommand) :
    (enter now command).command = command := by
  cases command with
  | prepare start =>
    simp only [enter]
    split
    · split <;> rfl
    · rfl
  | _ => rfl

end TransportTask

inductive WorkerOutput
  | result (result : DownstreamStartResult)
  | joined (joins : GroupJoins)
deriving DecidableEq

structure ZoneWorker where
  renderer : Renderer
  slot : Option TransportCommand
  closed : Bool
  running : Option TransportTask
  joined : Bool
  volume : Option Nat
  issued : List TransportCommand
  exchanges : List Exchange

/-- `start_outcome`: a timeout leaves playback unknown. -/
def startOutcome : Reply → DownstreamStartOutcome
  | .ok _ => .started
  | .error error =>
    if error.isTimeout then .unknown
    else if error.isRetryable then .failed
    else .permanentFailure

/-- Only the join failed: the retry plays the room's own stream. -/
def joinOutcome (reply : Reply) : DownstreamStartOutcome :=
  match startOutcome reply with
  | .started => .joined
  | .permanentFailure => .failed
  | outcome => outcome

def reportStart (stream : PreparedDownstream) (outcome : DownstreamStartOutcome) : WorkerOutput :=
  .result ⟨stream.sessionId, stream.zoneId, stream.generation, outcome⟩

def prepareFailure (start : StreamPrepare) (error : RendererError) : WorkerOutput :=
  .result ⟨start.sessionId, start.zoneId, start.generation,
    if error.isRetryable then .failed else .permanentFailure⟩

/-- The result carries the names of the command it ends. Only the end of a Stop reports that
the room stopped, and only a start reports that it plays. -/
structure DownstreamStartResult.Ends (result : DownstreamStartResult)
    (command : TransportCommand) : Prop where
  sessionId : result.sessionId = command.sessionId
  zoneId : result.zoneId = command.zoneId
  generation : result.generation = command.generation
  stop : command.isStop = true ↔ result.outcome = .stopped ∨ result.outcome = .stopUnknown
  start : result.outcome = .started ∨ result.outcome = .joined → command.isStart = true

namespace ZoneWorker

def new (renderer : Renderer) : ZoneWorker where
  renderer := renderer
  slot := none
  closed := false
  running := none
  joined := false
  volume := none
  issued := []
  exchanges := []

/-- `send_replace`: the latest command replaces one the loop has not taken. -/
def sendCommand (worker : ZoneWorker) (command : TransportCommand) : ZoneWorker :=
  { worker with slot := some command, issued := command :: worker.issued }

def setVolume (worker : ZoneWorker) (value : Nat) : ZoneWorker :=
  { worker with volume := some value }

/-- Dropping the sender: a command not yet taken is still drained. -/
def shutdown (worker : ZoneWorker) : ZoneWorker :=
  { worker with closed := true }

def hasChanged (worker : ZoneWorker) : Bool :=
  worker.slot.isSome || worker.closed

def idle (worker : ZoneWorker) : ZoneWorker :=
  { worker with running := none }

def goto (worker : ZoneWorker) (task : TransportTask) : ZoneWorker :=
  { worker with running := some task }

/-- Members reject Stop and Play, so a joined room leaves its group before Prepare, Play and
Stop. Home Assistant players never join a group and leave it without a request. -/
def begin (worker : ZoneWorker) (now : Instant) (command : TransportCommand) : ZoneWorker :=
  match command with
  | .playGroup _ _ _ | .join _ _ _ => worker.goto (.enter now command)
  | .prepare _ | .play _ | .stop _ _ _ =>
    if worker.joined then
      if worker.renderer.isSonos then worker.goto (.leave command)
      else { worker with joined := false, running := some (.enter now command) }
    else
      worker.goto (.enter now command)

/-- The loop takes the latest command. -/
def take (worker : ZoneWorker) (now : Instant) : Option ZoneWorker :=
  match worker.running, worker.slot with
  | none, some command => some (({ worker with slot := none } : ZoneWorker).begin now command)
  | _, _ => none

/-- The loop goes on after `reply` to the request of `task`. -/
def resume (worker : ZoneWorker) (now : Instant) (reply : Reply) :
    TransportTask → ZoneWorker × List WorkerOutput
  | .leave next => ({ worker with joined := reply.isErr, running := some (.enter now next) }, [])
  | .prepareStandalone start =>
    match reply with
    | .ok _ => (worker.goto (.prepareStop start), [])
    | .error error => (worker.idle, [prepareFailure start error])
  | .prepareStop start =>
    match reply with
    | .ok _ => (if worker.hasChanged then worker.idle else worker.goto (.prepareSetUri start), [])
    | .error error => (worker.idle, [prepareFailure start error])
  | .prepareSetUri start =>
    match reply with
    | .ok _ => (if worker.hasChanged then worker.idle else worker.goto (.prepareReady start), [])
    | .error error => (worker.idle, [prepareFailure start error])
  | .prepareReady _ => (worker, [])
  | .play stream =>
    ({ worker with joined := worker.joined && reply.isErr, running := none },
      [reportStart stream (startOutcome reply)])
  | .groupWait _ _ _ _ => (worker, [])
  | .groupPlay stream _ _ => (worker.idle, [reportStart stream (startOutcome reply)])
  | .join stream _ joins =>
    ({ worker with joined := !(reply.isErr && !reply.isTimeout), running := none },
      [.joined joins, reportStart stream (joinOutcome reply)])
  | .stop sessionId zoneId generation =>
    (worker.idle,
      [.result ⟨sessionId, zoneId, generation, if reply.isErr then .stopUnknown else .stopped⟩])

/-- The reply to the request in flight arrives. -/
def reply (worker : ZoneWorker) (now : Instant) (reply : Reply) :
    Option (ZoneWorker × List WorkerOutput) :=
  match worker.running with
  | none => none
  | some task =>
    match task.request with
    | none => none
    | some request =>
      some (({ worker with exchanges := ⟨request, reply⟩ :: worker.exchanges } : ZoneWorker).resume
        now reply task)

/-- A newer command, or the end of the channel, ends the readiness wait and the join wait. -/
def supersede (worker : ZoneWorker) : Option ZoneWorker :=
  match worker.running with
  | some (.prepareReady _) | some (.groupWait _ _ _ _) =>
    if worker.hasChanged then some worker.idle else none
  | _ => none

/-- The readiness wait ends with the stream prepared. -/
def ready (worker : ZoneWorker) : Option (ZoneWorker × PreparedDownstream) :=
  match worker.running with
  | some (.prepareReady start) => some (worker.idle, preparedOf start)
  | _ => none

/-- The command not yet taken and the command being worked on. -/
def commands (worker : ZoneWorker) : List TransportCommand :=
  worker.slot.toList ++ (worker.running.map TransportTask.command).toList

/-- Nothing is left to do: no request, no wait and no command to take. -/
def Drained (worker : ZoneWorker) : Prop :=
  worker.running = none ∧ worker.slot = none

instance (worker : ZoneWorker) : Decidable worker.Drained :=
  inferInstanceAs (Decidable (_ ∧ _))

/-! ### What each step of the loop does to the commands -/

theorem begin_spec (worker : ZoneWorker) (now : Instant) (command : TransportCommand) :
    ∃ task joined, worker.begin now command =
      { worker with running := some task, joined := joined } ∧ task.command = command := by
  unfold begin
  split
  · exact ⟨_, _, rfl, TransportTask.command_enter _ _⟩
  · exact ⟨_, _, rfl, TransportTask.command_enter _ _⟩
  all_goals
    split
    · split
      · exact ⟨_, _, rfl, rfl⟩
      · exact ⟨_, _, rfl, TransportTask.command_enter _ _⟩
    · exact ⟨_, _, rfl, TransportTask.command_enter _ _⟩

theorem take_spec {worker worker' : ZoneWorker} {now : Instant}
    (h : worker.take now = some worker') :
    ∃ command task joined, worker.running = none ∧ worker.slot = some command ∧
      task.command = command ∧
      worker' = { worker with slot := none, running := some task, joined := joined } := by
  unfold take at h
  split at h
  · next hrunning hslot =>
    cases h
    obtain ⟨task, joined, hbegin, hcommand⟩ :=
      begin_spec { worker with slot := none } now ‹TransportCommand›
    exact ⟨_, task, joined, hrunning, hslot, hcommand, hbegin⟩
  · cases h

theorem commands_sendCommand (worker : ZoneWorker) (command : TransportCommand) :
    (worker.sendCommand command).commands =
      command :: (worker.running.map TransportTask.command).toList := rfl

theorem mem_commands_of_running {worker : ZoneWorker} {task : TransportTask}
    (h : worker.running = some task) : task.command ∈ worker.commands := by
  simp [commands, h]

theorem commands_take {worker worker' : ZoneWorker} {now : Instant}
    (h : worker.take now = some worker') : worker'.commands = worker.commands := by
  obtain ⟨command, task, joined, hrunning, hslot, rfl, rfl⟩ := take_spec h
  simp [commands, hrunning, hslot]

/-- A reply lets the loop go on with the command, or ends a superseded Prepare without a word,
or ends the command with a result. -/
inductive ReplyEffect (worker : ZoneWorker) (exchange : Exchange) (command : TransportCommand) :
    ZoneWorker → List WorkerOutput → Prop
  | goesOn {next joined} (same : next.command = command) :
      ReplyEffect worker exchange command
        { worker with
          running := some next, joined := joined, exchanges := exchange :: worker.exchanges } []
  | abandons (prepare : command.isPrepare = true) (newer : worker.hasChanged = true) :
      ReplyEffect worker exchange command
        { worker with running := none, exchanges := exchange :: worker.exchanges } []
  | reports (joins : List GroupJoins) {result : DownstreamStartResult} {joined}
      (ends : result.Ends command)
      (stops : command.isStop = true → exchange.request = .stop) :
      ReplyEffect worker exchange command
        { worker with
          running := none, joined := joined, exchanges := exchange :: worker.exchanges }
        (joins.map WorkerOutput.joined ++ [.result result])

theorem ReplyEffect.commands_subset {worker worker' : ZoneWorker} {exchange : Exchange}
    {task : TransportTask} {outputs : List WorkerOutput} (running : worker.running = some task)
    (h : ReplyEffect worker exchange task.command worker' outputs) :
    worker'.commands ⊆ worker.commands := by
  cases h with
  | goesOn same =>
    simp only [commands, running, Option.map_some, same]
    exact List.Subset.refl _
  | abandons =>
    simp only [commands]
    exact fun _ hmem => List.mem_append_left _ (by simpa using hmem)
  | reports =>
    simp only [commands]
    exact fun _ hmem => List.mem_append_left _ (by simpa using hmem)

theorem startOutcome_ne (reply : Reply) :
    ¬(startOutcome reply = .stopped ∨ startOutcome reply = .stopUnknown) := by
  unfold startOutcome
  split
  · simp
  · split
    · simp
    · split <;> simp

theorem joinOutcome_ne (reply : Reply) :
    ¬(joinOutcome reply = .stopped ∨ joinOutcome reply = .stopUnknown) := by
  have hne := startOutcome_ne reply
  unfold joinOutcome
  split
  · simp
  · simp
  · exact hne

theorem resume_effect (worker : ZoneWorker) (now : Instant) (reply : Reply)
    (task : TransportTask) {request : TransportRequest} (hrequest : task.request = some request) :
    ReplyEffect worker ⟨request, reply⟩ task.command
      (({ worker with exchanges := ⟨request, reply⟩ :: worker.exchanges } : ZoneWorker).resume now
        reply task).1
      (({ worker with exchanges := ⟨request, reply⟩ :: worker.exchanges } : ZoneWorker).resume now
        reply task).2 := by
  have hfailed (start : StreamPrepare) (error : RendererError) : ReplyEffect worker
      ⟨request, reply⟩ (.prepare start)
      { worker with running := none, exchanges := ⟨request, reply⟩ :: worker.exchanges }
      [prepareFailure start error] :=
    .reports [] ⟨rfl, rfl, rfl, by
      simp only [TransportCommand.isStop, Bool.false_eq_true, false_iff]
      split <;> simp, by
      intro hstarted
      simp only at hstarted
      split at hstarted <;> simp at hstarted⟩ fun hstop => by cases hstop
  cases task with
  | leave next => exact .goesOn (TransportTask.command_enter now next)
  | prepareStandalone start =>
    cases reply with
    | ok => exact .goesOn rfl
    | error error => exact hfailed start error
  | prepareStop start =>
    cases reply with
    | ok =>
      simp only [resume]
      split
      · exact .abandons rfl ‹_›
      · exact .goesOn rfl
    | error error => exact hfailed start error
  | prepareSetUri start =>
    cases reply with
    | ok =>
      simp only [resume]
      split
      · exact .abandons rfl ‹_›
      · exact .goesOn rfl
    | error error => exact hfailed start error
  | prepareReady start => cases hrequest
  | play stream =>
    exact .reports [] ⟨rfl, rfl, rfl, by
      simpa [TransportTask.command, TransportCommand.isStop] using startOutcome_ne reply,
      fun _ => rfl⟩ fun hstop => by cases hstop
  | groupWait stream joins delay since => cases hrequest
  | groupPlay stream joins delay =>
    exact .reports [] ⟨rfl, rfl, rfl, by
      simpa [TransportTask.command, TransportCommand.isStop] using startOutcome_ne reply,
      fun _ => rfl⟩ fun hstop => by cases hstop
  | join stream coordinator joins =>
    exact .reports [joins] ⟨rfl, rfl, rfl, by
      simpa [TransportTask.command, TransportCommand.isStop] using joinOutcome_ne reply,
      fun _ => rfl⟩ fun hstop => by cases hstop
  | stop sessionId zoneId generation =>
    refine .reports [] ⟨rfl, rfl, rfl, ?_, ?_⟩ fun _ => (Option.some.inj hrequest).symm
    · simp only [TransportTask.command, TransportCommand.isStop, true_iff]
      split <;> simp
    · intro hstarted
      simp only at hstarted
      split at hstarted <;> simp at hstarted

theorem reply_spec {worker worker' : ZoneWorker} {now : Instant} {reply : Reply}
    {outputs : List WorkerOutput} (h : worker.reply now reply = some (worker', outputs)) :
    ∃ task request, worker.running = some task ∧ task.request = some request ∧
      ReplyEffect worker ⟨request, reply⟩ task.command worker' outputs := by
  unfold ZoneWorker.reply at h
  split at h
  · cases h
  · next task hrunning =>
    split at h
    · cases h
    · next request hrequest =>
      have heffect := resume_effect worker now reply task hrequest
      rw [Option.some.injEq] at h
      rw [h] at heffect
      exact ⟨task, request, hrunning, hrequest, heffect⟩

theorem startOutcome_ne_joined (reply : Reply) : startOutcome reply ≠ .joined := by
  unfold startOutcome
  split
  · simp
  · split
    · simp
    · split <;> simp

/-- Only a Join ends with the report that the room joined. -/
theorem joined_of_resume {worker : ZoneWorker} {now : Instant} {reply : Reply}
    {task : TransportTask} {result : DownstreamStartResult}
    (mem : WorkerOutput.result result ∈ (worker.resume now reply task).2)
    (joined : result.outcome = .joined) :
    ∃ stream coordinator joins, task = .join stream coordinator joins := by
  have hfailed (start : StreamPrepare) (error : RendererError)
      (mem : WorkerOutput.result result ∈ [prepareFailure start error]) : False := by
    cases List.mem_singleton.mp mem
    simp only at joined
    split at joined <;> cases joined
  cases task with
  | join stream coordinator joins => exact ⟨stream, coordinator, joins, rfl⟩
  | play stream =>
    cases List.mem_singleton.mp mem
    exact absurd joined (startOutcome_ne_joined reply)
  | groupPlay stream joins delay =>
    cases List.mem_singleton.mp mem
    exact absurd joined (startOutcome_ne_joined reply)
  | stop sessionId zoneId generation =>
    cases List.mem_singleton.mp mem
    simp only at joined
    split at joined <;> cases joined
  | prepareStandalone start =>
    cases reply with
    | ok => cases mem
    | error error => exact (hfailed start error mem).elim
  | prepareStop start =>
    cases reply with
    | ok => cases mem
    | error error => exact (hfailed start error mem).elim
  | prepareSetUri start =>
    cases reply with
    | ok => cases mem
    | error error => exact (hfailed start error mem).elim
  | _ => cases mem

theorem joined_of_reply {worker worker' : ZoneWorker} {now : Instant} {reply : Reply}
    {outputs : List WorkerOutput} {task : TransportTask}
    (h : worker.reply now reply = some (worker', outputs)) (running : worker.running = some task)
    {result : DownstreamStartResult} (mem : WorkerOutput.result result ∈ outputs)
    (joined : result.outcome = .joined) :
    ∃ stream coordinator joins, task = .join stream coordinator joins := by
  unfold ZoneWorker.reply at h
  rw [running] at h
  simp only at h
  split at h
  · cases h
  · have houtputs := congrArg Prod.snd (Option.some.inj h)
    simp only at houtputs
    rw [← houtputs] at mem
    exact joined_of_resume mem joined

/-- Leaving the group ends no command. -/
theorem not_leave_of_reply {worker worker' : ZoneWorker} {now : Instant} {reply : Reply}
    {outputs : List WorkerOutput} {task : TransportTask}
    (h : worker.reply now reply = some (worker', outputs)) (running : worker.running = some task)
    {result : DownstreamStartResult} (mem : WorkerOutput.result result ∈ outputs)
    (next : TransportCommand) : task ≠ .leave next := by
  rintro rfl
  unfold ZoneWorker.reply at h
  rw [running] at h
  have houtputs := congrArg Prod.snd (Option.some.inj h)
  simp only at houtputs
  rw [← houtputs] at mem
  cases mem

theorem begin_ne_groupPlay (worker : ZoneWorker) (now : Instant) (command : TransportCommand)
    (stream : PreparedDownstream) (joins : GroupJoins) (delay : Option Duration) :
    (worker.begin now command).running ≠ some (.groupPlay stream joins delay) ∧
      TransportTask.enter now command ≠ .groupPlay stream joins delay := by
  have henter : TransportTask.enter now command ≠ .groupPlay stream joins delay := by
    cases command with
    | prepare start =>
      simp only [TransportTask.enter]
      split
      · split <;> nofun
      · nofun
    | _ => nofun
  refine ⟨?_, henter⟩
  have hentered : some (TransportTask.enter now command) ≠
      some (.groupPlay stream joins delay) := fun h => henter (Option.some.inj h)
  unfold begin
  split
  · exact hentered
  · exact hentered
  all_goals
    split
    · split
      · nofun
      · exact hentered
    · exact hentered

/-- Only the end of the wait for the joins lets a coordinator play. -/
theorem not_groupPlay_of_take {worker worker' : ZoneWorker} {now : Instant}
    (h : worker.take now = some worker') (stream : PreparedDownstream) (joins : GroupJoins)
    (delay : Option Duration) : worker'.running ≠ some (.groupPlay stream joins delay) := by
  unfold take at h
  split at h
  · cases h
    exact (begin_ne_groupPlay _ _ _ _ _ _).1
  · cases h

theorem not_groupPlay_of_reply {worker worker' : ZoneWorker} {now : Instant} {reply : Reply}
    {outputs : List WorkerOutput} (h : worker.reply now reply = some (worker', outputs))
    (stream : PreparedDownstream) (joins : GroupJoins) (delay : Option Duration) :
    worker'.running ≠ some (.groupPlay stream joins delay) := by
  unfold ZoneWorker.reply at h
  split at h
  · cases h
  · next task running =>
    split at h
    · cases h
    · next request hrequest =>
      have hworker := congrArg Prod.fst (Option.some.inj h)
      simp only at hworker
      rw [← hworker]
      cases task with
      | leave next =>
        intro hrunning
        exact (begin_ne_groupPlay worker now next stream joins delay).2 (Option.some.inj hrunning)
      | prepareStandalone start => cases reply <;> nofun
      | prepareStop start =>
        cases reply with
        | ok => simp only [resume]; split <;> nofun
        | error => nofun
      | prepareSetUri start =>
        cases reply with
        | ok => simp only [resume]; split <;> nofun
        | error => nofun
      | prepareReady => cases hrequest
      | groupWait => cases hrequest
      | _ => nofun

theorem supersede_spec {worker worker' : ZoneWorker} (h : worker.supersede = some worker') :
    ∃ task, worker.running = some task ∧ worker.hasChanged = true ∧
      (task.command.isPrepare = true ∨ task.command.isStart = true) ∧
      worker' = { worker with running := none } := by
  unfold supersede at h
  split at h
  · next start hrunning =>
    split at h
    · cases h
      exact ⟨_, hrunning, ‹_›, .inl rfl, rfl⟩
    · cases h
  · next hrunning =>
    split at h
    · cases h
      exact ⟨_, hrunning, ‹_›, .inr rfl, rfl⟩
    · cases h
  · cases h

theorem ready_spec {worker worker' : ZoneWorker} {prepared : PreparedDownstream}
    (h : worker.ready = some (worker', prepared)) :
    ∃ start, worker.running = some (.prepareReady start) ∧ prepared = preparedOf start ∧
      worker' = { worker with running := none } := by
  unfold ready at h
  split at h
  · next start hrunning =>
    cases h
    exact ⟨start, hrunning, rfl, rfl⟩
  · cases h

end ZoneWorker

end AirSonos
