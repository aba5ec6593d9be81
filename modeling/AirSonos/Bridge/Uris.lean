import AirSonos.Bridge.Worker

/-!
# The transport URI of a room

The history of a worker says which URI its room may have loaded: the last one whose request
returned Ok or timed out. The loop sends the URI of a stream behind a Stop only, and loads
nothing else until the stream is prepared.
-/

namespace AirSonos

/-- The request returned Ok, or it timed out and may have taken effect. -/
def Exchange.mayHaveTaken (exchange : Exchange) : Bool :=
  !exchange.reply.isErr || exchange.reply.isTimeout

def Exchange.stopped (exchange : Exchange) : Bool :=
  decide (exchange.request = .stop) && !exchange.reply.isErr

def Exchange.mayHaveLoaded (exchange : Exchange) : Bool :=
  exchange.request.loadsUri && exchange.mayHaveTaken

/-- A Stop returned Ok, and no URI was sent since. -/
def Stopped (exchanges : List Exchange) : Prop :=
  ∃ newer older, exchanges = newer ++ ⟨.stop, .ok ()⟩ :: older ∧
    ∀ exchange ∈ newer, exchange.request.loadsUri = false

/-- The last URI that the room may have loaded is `url`, which was sent after a Stop that
returned Ok. -/
def Loaded (url : StreamUrl) (exchanges : List Exchange) : Prop :=
  ∃ newer reply older, exchanges = newer ++ ⟨.setAvTransportUri url, reply⟩ :: older ∧
    Exchange.mayHaveTaken ⟨.setAvTransportUri url, reply⟩ = true ∧ Stopped older ∧
      ∀ exchange ∈ newer, exchange.mayHaveLoaded = false

theorem Stopped.ok (older : List Exchange) : Stopped (⟨.stop, .ok ()⟩ :: older) :=
  ⟨[], older, rfl, List.forall_mem_nil _⟩

theorem Stopped.later {exchange : Exchange} {older : List Exchange} (h : Stopped older)
    (other : exchange.request.loadsUri = false) : Stopped (exchange :: older) := by
  obtain ⟨newer, oldest, rfl, hnewer⟩ := h
  exact ⟨exchange :: newer, oldest, rfl, List.forall_mem_cons.mpr ⟨other, hnewer⟩⟩

theorem Loaded.ok (url : StreamUrl) {older : List Exchange} (stopped : Stopped older) :
    Loaded url (⟨.setAvTransportUri url, .ok ()⟩ :: older) :=
  ⟨[], .ok (), older, rfl, rfl, stopped, List.forall_mem_nil _⟩

theorem Loaded.later {url : StreamUrl} {exchange : Exchange} {older : List Exchange}
    (h : Loaded url older) (harmless : exchange.mayHaveLoaded = false) :
    Loaded url (exchange :: older) := by
  obtain ⟨newer, reply, oldest, rfl, taken, stopped, hnewer⟩ := h
  exact ⟨exchange :: newer, reply, oldest, rfl, taken, stopped,
    List.forall_mem_cons.mpr ⟨harmless, hnewer⟩⟩

/-! ### The laws decide themselves -/

def stopped : List Exchange → Bool
  | [] => false
  | exchange :: older => exchange.stopped || !exchange.request.loadsUri && stopped older

def loaded (url : StreamUrl) : List Exchange → Bool
  | [] => false
  | exchange :: older =>
    if exchange.mayHaveLoaded then
      decide (exchange.request = .setAvTransportUri url) && stopped older
    else loaded url older

theorem stopped_iff (exchanges : List Exchange) :
    stopped exchanges = true ↔ Stopped exchanges := by
  constructor
  · intro h
    induction exchanges with
    | nil => cases h
    | cons exchange older ih =>
      rw [stopped, Bool.or_eq_true, Bool.and_eq_true, Bool.not_eq_true'] at h
      rcases h with hstopped | ⟨hother, hstopped⟩
      · obtain ⟨request, reply⟩ := exchange
        simp only [Exchange.stopped, Bool.and_eq_true, decide_eq_true_eq] at hstopped
        obtain ⟨rfl, hok⟩ := hstopped
        cases reply with
        | ok => exact .ok older
        | error => cases hok
      · exact (ih hstopped).later hother
  · rintro ⟨newer, older, rfl, hnewer⟩
    induction newer with
    | nil => rfl
    | cons exchange newer ih =>
      rw [List.forall_mem_cons] at hnewer
      rw [List.cons_append, stopped, hnewer.1, ih hnewer.2]
      simp

theorem loaded_iff (url : StreamUrl) (exchanges : List Exchange) :
    loaded url exchanges = true ↔ Loaded url exchanges := by
  constructor
  · intro h
    induction exchanges with
    | nil => cases h
    | cons exchange older ih =>
      rw [loaded] at h
      split at h
      · next hloads =>
        rw [Bool.and_eq_true, decide_eq_true_eq, stopped_iff] at h
        obtain ⟨request, reply⟩ := exchange
        obtain ⟨rfl, hstopped⟩ := h
        exact ⟨[], reply, older, rfl, hloads, hstopped, List.forall_mem_nil _⟩
      · next hharmless =>
        exact (ih h).later (Bool.eq_false_of_not_eq_true hharmless)
  · rintro ⟨newer, reply, older, rfl, taken, hstopped, hnewer⟩
    induction newer with
    | nil =>
      have hloads : Exchange.mayHaveLoaded ⟨.setAvTransportUri url, reply⟩ = true := taken
      rw [List.nil_append, loaded, if_pos hloads, (stopped_iff older).mpr hstopped]
      simp
    | cons exchange newer ih =>
      rw [List.forall_mem_cons] at hnewer
      rw [List.cons_append, loaded, hnewer.1]
      exact ih hnewer.2

instance (url : StreamUrl) (exchanges : List Exchange) : Decidable (Loaded url exchanges) :=
  decidable_of_iff _ (loaded_iff url exchanges)

/-! ### What the loop knows of the URI -/

/-- A Sonos room has the stream loaded. A Home Assistant player is given the URL with Play. -/
def PreparedDownstream.LoadedAt (stream : PreparedDownstream) (exchanges : List Exchange) : Prop :=
  stream.renderer.isSonos = true → Loaded stream.liveStream.session.localUrl exchanges

def TransportCommand.Primed (command : TransportCommand) (exchanges : List Exchange) : Prop :=
  command.isStart = true → ∀ stream, command.payload = some stream → stream.LoadedAt exchanges

def TransportTask.Primed (exchanges : List Exchange) : TransportTask → Prop
  | leave next => next.Primed exchanges
  | prepareStandalone _ => True
  | prepareStop _ => True
  | prepareSetUri _ => Stopped exchanges
  | prepareReady start => start.renderer.isSonos = true → Loaded start.localUrl exchanges
  | play stream => stream.LoadedAt exchanges
  | groupWait stream _ _ _ => stream.LoadedAt exchanges
  | groupPlay stream _ _ => stream.LoadedAt exchanges
  | join stream _ _ => stream.LoadedAt exchanges
  | stop _ _ _ => True

/-- A start waits only for an idle loop, with its stream loaded; a task goes on from the URI
that it needs. -/
structure ZoneWorker.Primed (worker : ZoneWorker) : Prop where
  waits : ∀ command, worker.slot = some command → command.isStart = true →
    worker.running = none ∧ command.Primed worker.exchanges
  runs : ∀ task, worker.running = some task → task.Primed worker.exchanges

theorem PreparedDownstream.LoadedAt.later {stream : PreparedDownstream} {exchange : Exchange}
    {older : List Exchange} (h : stream.LoadedAt older)
    (harmless : exchange.mayHaveLoaded = false) : stream.LoadedAt (exchange :: older) :=
  fun hsonos => (h hsonos).later harmless

theorem TransportTask.primed_enter (now : Instant) {command : TransportCommand}
    {exchanges : List Exchange} (h : command.Primed exchanges) :
    (enter now command).Primed exchanges := by
  cases command with
  | prepare start =>
    simp only [enter]
    split
    · split <;> exact trivial
    · next hother =>
      intro hsonos
      exact absurd hsonos hother
  | play stream => exact h rfl stream rfl
  | playGroup stream => exact h rfl stream rfl
  | join stream => exact h rfl stream rfl
  | stop => exact trivial

/-- The loop takes a command in its group or out of it. -/
theorem ZoneWorker.take_task {worker worker' : ZoneWorker} {now : Instant}
    (h : worker.take now = some worker') :
    ∃ command task joined, worker.running = none ∧ worker.slot = some command ∧
      (task = .leave command ∨ task = .enter now command) ∧
      worker' = { worker with slot := none, running := some task, joined := joined } := by
  unfold ZoneWorker.take at h
  split at h
  · next command hrunning hslot =>
    cases h
    unfold ZoneWorker.begin
    split
    · exact ⟨_, _, worker.joined, hrunning, hslot, .inr rfl, rfl⟩
    · exact ⟨_, _, worker.joined, hrunning, hslot, .inr rfl, rfl⟩
    all_goals
      split
      · split
        · exact ⟨_, _, worker.joined, hrunning, hslot, .inl rfl, rfl⟩
        · exact ⟨_, _, false, hrunning, hslot, .inr rfl, rfl⟩
      · exact ⟨_, _, worker.joined, hrunning, hslot, .inr rfl, rfl⟩
  · cases h

namespace ZoneWorker.Primed

variable {worker worker' : ZoneWorker}

theorem new (renderer : Renderer) : (ZoneWorker.new renderer).Primed where
  waits := by
    intro _ hnone
    cases hnone
  runs := by
    intro _ hnone
    cases hnone

/-- A worker that is left alone, but for its sender and its volume. -/
theorem same (h : worker.Primed) (slot : worker'.slot = worker.slot)
    (running : worker'.running = worker.running) (exchanges : worker'.exchanges = worker.exchanges) :
    worker'.Primed where
  waits := by
    rw [slot, running, exchanges]
    exact h.waits
  runs := by
    rw [running, exchanges]
    exact h.runs

/-- The loop works on a command, so that no start waits. -/
theorem busy (h : worker.Primed) {task : TransportTask} (running : worker.running = some task)
    (slot : worker'.slot = worker.slot)
    (runs : ∀ next, worker'.running = some next → next.Primed worker'.exchanges) :
    worker'.Primed where
  waits := by
    intro command hslot hstart
    rw [slot] at hslot
    have hidle := (h.waits command hslot hstart).1
    rw [running] at hidle
    cases hidle
  runs := runs

theorem sendCommand (h : worker.Primed) {command : TransportCommand}
    (start : command.isStart = true →
      worker.running = none ∧ command.Primed worker.exchanges) :
    (worker.sendCommand command).Primed where
  waits := by
    intro other hslot hstart
    cases hslot
    exact start hstart
  runs := h.runs

theorem take (h : worker.Primed) {now : Instant} (took : worker.take now = some worker') :
    worker'.Primed := by
  obtain ⟨command, task, joined, hrunning, hslot, htask, rfl⟩ := ZoneWorker.take_task took
  have hprimed : command.Primed worker.exchanges := by
    intro hstart
    exact (h.waits command hslot hstart).2 hstart
  constructor
  · intro other hother
    cases hother
  · intro next hnext
    cases hnext
    rcases htask with rfl | rfl
    · exact hprimed
    · exact TransportTask.primed_enter now hprimed

theorem reply (h : worker.Primed) {now : Instant} {reply : Reply} {outputs : List WorkerOutput}
    (replied : worker.reply now reply = some (worker', outputs)) : worker'.Primed := by
  obtain ⟨task, request, hrunning, hrequest, heffect⟩ := ZoneWorker.reply_spec replied
  have hprimed := h.runs task hrunning
  have hslot : worker'.slot = worker.slot := by
    cases heffect <;> rfl
  refine h.busy hrunning hslot ?_
  unfold ZoneWorker.reply at replied
  rw [hrunning] at replied
  simp only [hrequest, Option.some.injEq] at replied
  have hworker := congrArg Prod.fst replied
  simp only at hworker
  rw [← hworker]
  intro next hnext
  cases task with
  | leave command =>
    cases hrequest
    cases hnext
    refine TransportTask.primed_enter now fun hstart stream hstream => ?_
    exact (hprimed hstart stream hstream).later rfl
  | prepareStandalone start =>
    cases reply with
    | ok =>
      cases hnext
      exact trivial
    | error => cases hnext
  | prepareStop start =>
    cases hrequest
    cases reply with
    | ok =>
      simp only [ZoneWorker.resume] at hnext ⊢
      split at hnext
      · cases hnext
      · rw [if_neg ‹_›]
        cases hnext
        exact .ok worker.exchanges
    | error => cases hnext
  | prepareSetUri start =>
    cases hrequest
    cases reply with
    | ok =>
      simp only [ZoneWorker.resume] at hnext ⊢
      split at hnext
      · cases hnext
      · rw [if_neg ‹_›]
        cases hnext
        exact fun _ => .ok start.localUrl hprimed
    | error => cases hnext
  | prepareReady => cases hrequest
  | groupWait => cases hrequest
  | _ => cases hnext

theorem supersede (h : worker.Primed) (superseded : worker.supersede = some worker') :
    worker'.Primed := by
  obtain ⟨task, hrunning, -, -, rfl⟩ := ZoneWorker.supersede_spec superseded
  exact h.busy hrunning rfl fun _ hnone => by cases hnone

theorem ready (h : worker.Primed) {prepared : PreparedDownstream}
    (ready : worker.ready = some (worker', prepared)) : worker'.Primed := by
  obtain ⟨start, hrunning, -, rfl⟩ := ZoneWorker.ready_spec ready
  exact h.busy hrunning rfl fun _ hnone => by cases hnone

theorem release (h : worker.Primed) {stream : PreparedDownstream} {joins : GroupJoins}
    {delay : Option Duration} {since : Instant}
    (waiting : worker.running = some (.groupWait stream joins delay since)) :
    (worker.goto (.groupPlay stream joins delay)).Primed := by
  have hloaded : stream.LoadedAt worker.exchanges := h.runs _ waiting
  refine h.busy waiting rfl fun next hnext => ?_
  cases hnext
  exact hloaded

end ZoneWorker.Primed

end AirSonos
