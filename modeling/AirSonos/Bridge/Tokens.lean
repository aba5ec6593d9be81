import AirSonos.Bridge.CohortOrder

/-!
# One attempt for each generation

The preparation of a stream, the prepared stream, its start, the result and the retry follow
each other: for each session and generation at most one of them exists at a time. A ticket is a
stream on its way to the players, and it gets there at most once.
-/

namespace AirSonos

open BridgeRuntime

variable {env : Env} {guard : BridgeRuntime → BridgeLabel → Prop}

section Counts

variable (id : SessionId) (generation : Nat)

def TransportCommand.prepares (command : TransportCommand) : Bool :=
  command.isPrepare && command.sessionId == id && command.generation == generation

def TransportCommand.starts (command : TransportCommand) : Bool :=
  command.isStart && command.sessionId == id && command.generation == generation

def PreparedDownstream.names (stream : PreparedDownstream) : Bool :=
  stream.sessionId == id && stream.generation == generation

def DownstreamStartResult.ofStart (result : DownstreamStartResult) : Bool :=
  result.sessionId == id && result.generation == generation &&
    !(result.outcome == .stopped || result.outcome == .stopUnknown)

def DownstreamRetry.names (retry : DownstreamRetry) : Bool :=
  retry.sessionId == id && retry.generation == generation

def HistoryEvent.handed : HistoryEvent → Nat
  | played release => release.prepared.countP (·.names id generation)
  | _ => 0

def Frame.todo : Frame → Nat
  | starting _ todo _ => todo.countP (·.names id generation)
  | _ => 0

def SyncCohort.listed (cohort : SyncCohort) : Nat :=
  (AssocMap.values cohort.prepared).countP (·.names id generation)

namespace BridgeRuntime

variable (env : Env) (st : BridgeRuntime)

def prepares : Nat := (st.commands (env.zoneOf id)).countP (·.prepares id generation)

def messages : Nat := st.preparedRx.countP (·.names id generation)

def listed : Nat := (st.cohorts.map (·.listed id generation)).sum

def starts : Nat := (st.commands (env.zoneOf id)).countP (·.starts id generation)

def results : Nat := st.resultRx.countP (·.ofStart id generation)

def retries : Nat := st.retryRx.countP (·.names id generation)

def timers : Nat :=
  ((st.session id).bind SessionRuntime.retryTask).toList.countP fun task =>
    !task.fired && task.message.generation == generation

/-- Streams on their way to the players. -/
def tickets : Nat :=
  st.prepares id generation env + st.messages id generation + st.listed id generation

def handed : Nat := (st.history.map (·.handed id generation)).sum

end BridgeRuntime

def todo (stack : List Frame) : Nat := (stack.map (·.todo id generation)).sum

def tokens (env : Env) (stack : List Frame) (st : BridgeRuntime) : Nat :=
  st.tickets id generation env + todo id generation stack + st.starts id generation env +
    st.results id generation + st.retries id generation + st.timers id generation

end Counts

structure Tokens (env : Env) (stack : List Frame) (st : BridgeRuntime) : Prop where
  one : ∀ id generation, tokens id generation env stack st ≤ 1
  once : ∀ id generation, st.tickets id generation env + st.handed id generation ≤ 1
  fresh : ∀ id generation, st.nextGeneration < generation →
    tokens id generation env stack st = 0 ∧ st.handed id generation = 0

/-- One generation in a move: no new token, or the first one of a new generation. -/
structure TokenStep (env : Env) (id : SessionId) (generation : Nat) (stack : List Frame)
    (st : BridgeRuntime) (stack' : List Frame) (st' : BridgeRuntime) : Prop where
  next : st.nextGeneration ≤ st'.nextGeneration
  tokens : tokens id generation env stack' st' ≤ tokens id generation env stack st +
    if st.nextGeneration < generation ∧ generation ≤ st'.nextGeneration then 1 else 0
  tickets : st'.tickets id generation env + st'.handed id generation ≤
    st.tickets id generation env + st.handed id generation +
      if st.nextGeneration < generation ∧ generation ≤ st'.nextGeneration then 1 else 0

theorem Tokens.step {stack stack' : List Frame} {st st' : BridgeRuntime}
    (h : Tokens env stack st)
    (step : ∀ id generation, TokenStep env id generation stack st stack' st') :
    Tokens env stack' st' := by
  refine ⟨fun id generation => ?_, fun id generation => ?_, fun id generation hnext => ?_⟩
  · have hstep := (step id generation).tokens
    by_cases hnew : st.nextGeneration < generation
    · rw [(h.fresh id generation hnew).1] at hstep
      split at hstep <;> omega
    · rw [if_neg fun hboth => hnew hboth.1] at hstep
      have hone := h.one id generation
      omega
  · have hstep := (step id generation).tickets
    by_cases hnew : st.nextGeneration < generation
    · obtain ⟨htokens, hhanded⟩ := h.fresh id generation hnew
      unfold AirSonos.tokens at htokens
      split at hstep <;> omega
    · rw [if_neg fun hboth => hnew hboth.1] at hstep
      have honce := h.once id generation
      omega
  · have hstep := step id generation
    have hold : st.nextGeneration < generation := hstep.next.trans_lt hnext
    obtain ⟨htokens, hhanded⟩ := h.fresh id generation hold
    have htickets : st.tickets id generation env = 0 := by
      unfold AirSonos.tokens at htokens
      omega
    have hcount := hstep.tokens
    have hpassed := hstep.tickets
    rw [if_neg fun hboth => Nat.not_le.mpr hnext hboth.2] at hcount hpassed
    omega

/-! ### Counts after each operation -/

section Operations

variable {id : SessionId} {generation : Nat} {st st' : BridgeRuntime}

theorem commands_setWorker (st : BridgeRuntime) (zoneId other : ZoneId) (worker : ZoneWorker) :
    (st.setWorker zoneId worker).commands other =
      if other = zoneId then worker.commands else st.commands other := by
  simp only [BridgeRuntime.commands, BridgeRuntime.setWorker]
  split
  · next heq =>
    subst other
    rw [Function.update_self]
    rfl
  · rw [Function.update_of_ne ‹_›]

variable (env) in
/-- A sent command replaces the one not yet taken. -/
theorem countP_sendCommand (p : TransportCommand → Bool) (st : BridgeRuntime)
    (zoneId other : ZoneId) (command : TransportCommand) :
    ((st.sendCommand env zoneId command).commands other).countP p ≤
      (st.commands other).countP p + if p command then 1 else 0 := by
  simp only [BridgeRuntime.commands, BridgeRuntime.sendCommand]
  by_cases hzone : other = zoneId
  · subst other
    rw [Function.update_self]
    cases hworker : st.worker env zoneId with
    | none => exact Nat.zero_le _
    | some worker =>
      rw [Option.map_some, Option.elim_some, ZoneWorker.commands_sendCommand, List.countP_cons]
      refine Nat.add_le_add_right ?_ _
      rcases worker_cases hworker with hfound | ⟨hnone, renderer, -, rfl⟩
      · rw [hfound, Option.elim_some, ZoneWorker.commands, List.countP_append]
        exact Nat.le_add_left _ _
      · exact Nat.zero_le _
  · rw [Function.update_of_ne hzone]
    exact Nat.le_add_right _ _

variable (env id generation st) in
theorem prepares_sendCommand (zoneId : ZoneId) (command : TransportCommand) :
    (st.sendCommand env zoneId command).prepares id generation env ≤
      st.prepares id generation env + if command.prepares id generation then 1 else 0 :=
  countP_sendCommand env (·.prepares id generation) st zoneId (env.zoneOf id) command

variable (env id generation st) in
theorem starts_sendCommand (zoneId : ZoneId) (command : TransportCommand) :
    (st.sendCommand env zoneId command).starts id generation env ≤
      st.starts id generation env + if command.starts id generation then 1 else 0 :=
  countP_sendCommand env (·.starts id generation) st zoneId (env.zoneOf id) command

variable (env id generation st) in
/-- A sent command is a new token if it prepares or starts a stream, and a ticket if it
prepares one. -/
theorem tokens_sendCommand (stack : List Frame) (zoneId : ZoneId) (command : TransportCommand) :
    tokens id generation env stack (st.sendCommand env zoneId command) ≤
        tokens id generation env stack st + (if command.prepares id generation then 1 else 0) +
          (if command.starts id generation then 1 else 0) ∧
      (st.sendCommand env zoneId command).tickets id generation env +
          (st.sendCommand env zoneId command).handed id generation ≤
        st.tickets id generation env + st.handed id generation +
          if command.prepares id generation then 1 else 0 := by
  have hprepares := prepares_sendCommand env id generation st zoneId command
  have hstarts := starts_sendCommand env id generation st zoneId command
  have hmessages : (st.sendCommand env zoneId command).messages id generation =
      st.messages id generation := rfl
  have hlisted : (st.sendCommand env zoneId command).listed id generation =
      st.listed id generation := rfl
  have hresults : (st.sendCommand env zoneId command).results id generation =
      st.results id generation := rfl
  have hretries : (st.sendCommand env zoneId command).retries id generation =
      st.retries id generation := rfl
  have htimers : (st.sendCommand env zoneId command).timers id generation =
      st.timers id generation := rfl
  have hhanded : (st.sendCommand env zoneId command).handed id generation =
      st.handed id generation := rfl
  unfold AirSonos.tokens BridgeRuntime.tickets
  omega

/-- The timer of a session is kept or cancelled. -/
theorem timers_edit {f : SessionRuntime → SessionRuntime} (other : SessionId)
    (sessions : ∀ id, st'.session id =
      if id = other then (st.session id).map f else st.session id)
    (hf : ∀ session, (f session).retryTask = session.retryTask ∨ (f session).retryTask = none) :
    st'.timers id generation ≤ st.timers id generation := by
  unfold BridgeRuntime.timers
  rw [sessions]
  split
  · cases st.session id with
    | none => exact le_rfl
    | some session =>
      simp only [Option.map_some, Option.bind_some]
      rcases hf session with heq | heq
      · rw [heq]
      · rw [heq]
        exact Nat.zero_le _
  · exact le_rfl

theorem timers_le_one : st.timers id generation ≤ 1 := by
  unfold BridgeRuntime.timers
  refine List.countP_le_length.trans ?_
  cases (st.session id).bind SessionRuntime.retryTask <;> simp

variable (id generation st) in
/-- A scheduled retry replaces the timer of its session. -/
theorem timers_schedule (other : SessionId) (zoneId : ZoneId) (next : Nat) :
    (st.scheduleDownstreamRetry other zoneId next).1.timers id generation ≤
      st.timers id generation + if id = other ∧ generation = next then 1 else 0 := by
  by_cases hid : id = other
  · by_cases hgeneration : generation = next
    · rw [if_pos ⟨hid, hgeneration⟩]
      exact timers_le_one.trans (Nat.le_add_left _ _)
    · refine le_trans ?_ (Nat.zero_le _)
      unfold BridgeRuntime.timers
      rw [session_scheduleDownstreamRetry, if_pos hid]
      cases st.session id with
      | none => exact le_rfl
      | some session =>
        simp only [Option.map_some, Option.bind_some, retryOrReset]
        split
        · simp [Ne.symm hgeneration]
        · exact le_rfl
  · rw [if_neg fun h => hid h.1]
    unfold BridgeRuntime.timers
    rw [session_scheduleDownstreamRetry, if_neg hid]
    exact le_rfl

/-! ### Cohorts -/

theorem listed_cons (cohort : SyncCohort) (rest : List SyncCohort) :
    ((cohort :: rest).map (·.listed id generation)).sum =
      cohort.listed id generation + (rest.map (·.listed id generation)).sum := by
  rw [List.map_cons, List.sum_cons]

theorem listed_drop (cohort : SyncCohort) (other : SessionId) :
    (cohort.drop other).listed id generation ≤ cohort.listed id generation :=
  (AssocMap.values_erase_sublist other cohort.prepared).countP_le

variable (id generation) in
theorem listed_prune (st : BridgeRuntime) (cohort : SyncCohort) :
    (st.pruneCohort cohort).listed id generation ≤ cohort.listed id generation :=
  (AssocMap.values_retain_sublist _ cohort.prepared).countP_le

variable (id generation) in
theorem listed_preparedStreams (cohort : SyncCohort) (once : cohort.sessions.Nodup) :
    cohort.preparedStreams.countP (·.names id generation) ≤ cohort.listed id generation :=
  (AssocMap.filterMap_lookup_subperm once cohort.prepared).countP_le _

variable (id generation) in
theorem listed_map_drop (cohorts : List SyncCohort) (other : SessionId) :
    ((cohorts.map fun cohort => cohort.drop other).map (·.listed id generation)).sum ≤
      (cohorts.map (·.listed id generation)).sum := by
  induction cohorts with
  | nil => exact le_rfl
  | cons cohort rest ih =>
    simp only [List.map_cons, List.sum_cons]
    exact Nat.add_le_add (listed_drop cohort other) ih

theorem listed_addSession (other : SessionId) :
    (st.addSessionToSyncCohort env other).listed id generation ≤ st.listed id generation := by
  have hdropped := listed_map_drop id generation st.cohorts other
  unfold BridgeRuntime.listed
  rcases cohorts_addSessionToSyncCohort env st other with
    ⟨before, last, heq, -, hcohorts, -⟩ | ⟨-, hcohorts, -⟩
  · rw [hcohorts]
    rw [heq] at hdropped
    simpa [SyncCohort.listed, SyncCohort.add] using hdropped
  · have hnew : (newCohort env st.now other).listed id generation = 0 := rfl
    rw [hcohorts]
    split
    · rw [listed_cons, hnew, Nat.zero_add]
      exact hdropped
    · rw [List.map_append, List.sum_append, List.map_singleton, List.sum_singleton, hnew]
      exact hdropped

theorem listed_insertPrepared (prepared : PreparedDownstream) (cohorts : List SyncCohort) :
    ((insertPrepared prepared cohorts).map (·.listed id generation)).sum ≤
      (cohorts.map (·.listed id generation)).sum +
        if prepared.names id generation then 1 else 0 := by
  induction cohorts with
  | nil => exact Nat.zero_le _
  | cons cohort rest ih =>
    simp only [insertPrepared]
    split
    · have hinsert : ({ cohort with
          prepared := cohort.prepared.insert prepared.sessionId prepared } : SyncCohort).listed id
            generation ≤ cohort.listed id generation +
              if prepared.names id generation then 1 else 0 := by
        unfold SyncCohort.listed
        rw [AssocMap.values_insert, List.countP_cons]
        exact Nat.add_le_add_right (AssocMap.values_erase_sublist _ _).countP_le _
      rw [listed_cons, listed_cons]
      omega
    · rw [listed_cons, listed_cons]
      omega

end Operations

/-! ### The moves -/

/-- A move without a new token. -/
structure Spends (env : Env) (id : SessionId) (generation : Nat) (stack : List Frame)
    (st : BridgeRuntime) (stack' : List Frame) (st' : BridgeRuntime) : Prop where
  next : st.nextGeneration ≤ st'.nextGeneration
  tokens : tokens id generation env stack' st' ≤ tokens id generation env stack st
  tickets : st'.tickets id generation env + st'.handed id generation ≤
    st.tickets id generation env + st.handed id generation

namespace Spends

variable {id : SessionId} {generation : Nat} {stack mid stack' : List Frame}
  {st st₁ st' : BridgeRuntime}

theorem step (h : Spends env id generation stack st stack' st') :
    TokenStep env id generation stack st stack' st' :=
  ⟨h.next, h.tokens.trans (Nat.le_add_right _ _), h.tickets.trans (Nat.le_add_right _ _)⟩

theorem trans (first : Spends env id generation stack st mid st₁)
    (second : Spends env id generation mid st₁ stack' st') :
    Spends env id generation stack st stack' st' :=
  ⟨first.next.trans second.next, second.tokens.trans first.tokens,
    second.tickets.trans first.tickets⟩

/-- No count grows. -/
theorem less (next : st.nextGeneration ≤ st'.nextGeneration)
    (prepares : st'.prepares id generation env ≤ st.prepares id generation env)
    (messages : st'.messages id generation ≤ st.messages id generation)
    (listed : st'.listed id generation ≤ st.listed id generation)
    (starts : st'.starts id generation env ≤ st.starts id generation env)
    (results : st'.results id generation ≤ st.results id generation)
    (retries : st'.retries id generation ≤ st.retries id generation)
    (timers : st'.timers id generation ≤ st.timers id generation)
    (handed : st'.handed id generation ≤ st.handed id generation)
    (todo : todo id generation stack' ≤ todo id generation stack) :
    Spends env id generation stack st stack' st' where
  next := next
  tokens := by
    unfold AirSonos.tokens BridgeRuntime.tickets
    omega
  tickets := by
    unfold BridgeRuntime.tickets
    omega

/-- Some tickets are handed to the players. -/
theorem hands (count : Nat) (next : st.nextGeneration ≤ st'.nextGeneration)
    (tickets : st'.tickets id generation env + count ≤ st.tickets id generation env)
    (starts : st'.starts id generation env ≤ st.starts id generation env)
    (results : st'.results id generation ≤ st.results id generation)
    (retries : st'.retries id generation ≤ st.retries id generation)
    (timers : st'.timers id generation ≤ st.timers id generation)
    (handed : st'.handed id generation ≤ count + st.handed id generation)
    (todo : todo id generation stack' ≤ count + todo id generation stack) :
    Spends env id generation stack st stack' st' where
  next := next
  tokens := by
    unfold AirSonos.tokens
    omega
  tickets := by omega

theorem restack (h : todo id generation stack' ≤ todo id generation stack) :
    Spends env id generation stack st stack' st :=
  less le_rfl le_rfl le_rfl le_rfl le_rfl le_rfl le_rfl le_rfl le_rfl h

/-- A session is edited, and its timer kept or cancelled. -/
theorem edit (other : SessionId) {f : SessionRuntime → SessionRuntime}
    (hf : ∀ session, (f session).retryTask = session.retryTask ∨ (f session).retryTask = none) :
    Spends env id generation stack st stack (st.modifySession other f) :=
  less le_rfl le_rfl le_rfl le_rfl le_rfl le_rfl le_rfl
    (timers_edit other (fun id => session_modifySession st other id f) hf) le_rfl le_rfl

theorem stop (zoneId : ZoneId) (other : SessionId) (otherGeneration : Nat) :
    Spends env id generation stack st stack
      (st.sendCommand env zoneId (.stop other zoneId otherGeneration)) :=
  ⟨le_rfl, (tokens_sendCommand env id generation st stack zoneId _).1,
    (tokens_sendCommand env id generation st stack zoneId _).2⟩

theorem nextDownstreamGeneration (other : SessionId) :
    Spends env id generation stack st stack (st.nextDownstreamGeneration other) :=
  less (Nat.le_succ _) le_rfl le_rfl le_rfl le_rfl le_rfl le_rfl
    (timers_edit other (fun id => session_nextDownstreamGeneration st other id) fun _ => .inl rfl)
    le_rfl le_rfl

theorem retireDownstream (other : SessionId) :
    Spends env id generation stack st stack (st.retireDownstream other) :=
  less (Nat.le_succ _) le_rfl le_rfl le_rfl le_rfl le_rfl le_rfl
    (timers_edit other (fun id => session_retireDownstream st other id) fun _ => .inl rfl)
    le_rfl le_rfl

theorem invalidateDownstream (other : SessionId) (zoneId : ZoneId) :
    Spends env id generation stack st stack (st.invalidateDownstream env other zoneId) :=
  (retireDownstream other).trans (stop zoneId other _)

theorem removeStream (other : SessionId) :
    Spends env id generation stack st stack (st.removeStream other) :=
  less le_rfl le_rfl le_rfl le_rfl le_rfl le_rfl le_rfl le_rfl le_rfl le_rfl

theorem retireEncoder (other : SessionId) (zoneId : ZoneId) :
    Spends env id generation stack st stack (st.retireEncoder env other zoneId) := by
  refine trans ?_ (stop zoneId other _)
  refine trans ?_ (removeStream other)
  refine trans ?_ (nextDownstreamGeneration other)
  exact edit other fun _ => .inl rfl

/-- A retry of a new generation. -/
theorem scheduleNew (before : Spends env id generation stack st stack' st₁)
    (fresh : st.nextGeneration < st₁.nextGeneration) (other : SessionId) (zoneId : ZoneId) :
    TokenStep env id generation stack st stack'
      (st₁.scheduleDownstreamRetry other zoneId st₁.nextGeneration).1 := by
  have htimers := timers_schedule id generation st₁ other zoneId st₁.nextGeneration
  have htokens := before.tokens
  have hafter : AirSonos.tokens id generation env stack'
      (st₁.scheduleDownstreamRetry other zoneId st₁.nextGeneration).1 =
      st₁.tickets id generation env + todo id generation stack' + st₁.starts id generation env +
        st₁.results id generation + st₁.retries id generation +
        (st₁.scheduleDownstreamRetry other zoneId st₁.nextGeneration).1.timers id generation := rfl
  refine ⟨before.next, ?_, before.tickets.trans (Nat.le_add_right _ _)⟩
  rw [hafter]
  unfold AirSonos.tokens at htokens ⊢
  have hnext : (st₁.scheduleDownstreamRetry other zoneId st₁.nextGeneration).1.nextGeneration =
      st₁.nextGeneration := rfl
  rw [hnext]
  split at htimers
  · next hnamed =>
    rw [if_pos ⟨hnamed.2 ▸ fresh, hnamed.2.le⟩]
    omega
  · omega

/-- The Prepare of a new generation. -/
theorem prepareNew (before : Spends env id generation stack st stack' st₁)
    (fresh : st.nextGeneration < st₁.nextGeneration) (zoneId : ZoneId) (start : StreamPrepare)
    (named : start.generation = st₁.nextGeneration) :
    TokenStep env id generation stack st stack' (st₁.sendCommand env zoneId (.prepare start)) := by
  have hsent := tokens_sendCommand env id generation st₁ stack' zoneId (.prepare start)
  have hstarts : (TransportCommand.prepare start).starts id generation = false := rfl
  have htokens := before.tokens
  have htickets := before.tickets
  have hnew : (TransportCommand.prepare start).prepares id generation = true →
      st.nextGeneration < generation ∧ generation ≤ st₁.nextGeneration := by
    intro hnames
    have hgeneration : start.generation = generation := by
      simp only [TransportCommand.prepares, Bool.and_eq_true, beq_iff_eq] at hnames
      exact hnames.2
    rw [← hgeneration, named]
    exact ⟨fresh, le_rfl⟩
  have hnext : (st₁.sendCommand env zoneId (.prepare start)).nextGeneration = st₁.nextGeneration :=
    rfl
  rw [hstarts] at hsent
  refine ⟨before.next, ?_, ?_⟩
  all_goals
    rw [hnext]
    cases hprepares : (TransportCommand.prepare start).prepares id generation with
    | true =>
      rw [hprepares] at hsent
      rw [if_pos (hnew hprepares)]
      simp only [if_true, Bool.false_eq_true, if_false] at hsent
      omega
    | false =>
      rw [hprepares] at hsent
      simp only [Bool.false_eq_true, if_false] at hsent
      omega

/-- A released stream is started. -/
theorem startSent {command : TransportCommand} {stream : PreparedDownstream}
    (start : command.isStart = true) (payload : command.payload = some stream) {zoneId : ZoneId}
    (todo : todo id generation stack' + (if stream.names id generation then 1 else 0) ≤
      todo id generation stack) :
    Spends env id generation stack st stack' (st.sendCommand env zoneId command) := by
  have hsent := tokens_sendCommand env id generation st stack' zoneId command
  have hprepares : command.prepares id generation = false := by
    cases command <;> first | rfl | cases start
  have hstarts : command.starts id generation = stream.names id generation := by
    obtain ⟨hid, -, hgeneration⟩ := TransportCommand.names_of_payload payload
    simp only [TransportCommand.starts, PreparedDownstream.names, start, hid, hgeneration,
      Bool.true_and]
  rw [hprepares, hstarts] at hsent
  refine ⟨le_rfl, hsent.1.trans ?_, hsent.2⟩
  unfold AirSonos.tokens
  simp only [Bool.false_eq_true, if_false]
  omega

theorem todo_cons (frame : Frame) (stack : List Frame) :
    todo id generation (frame :: stack) = frame.todo id generation + todo id generation stack := by
  rw [todo, List.map_cons, List.sum_cons]
  rfl

theorem todo_leaving (goal : Goal) (members : List SessionId) (stack : List Frame) :
    todo id generation (.leaving goal members :: stack) = todo id generation stack :=
  (todo_cons _ _).trans (Nat.zero_add _)

theorem todo_checking (stack : List Frame) :
    todo id generation (.checking :: stack) = todo id generation stack :=
  (todo_cons _ _).trans (Nat.zero_add _)

/-- The first cohort is taken out and pruned. -/
theorem listed_of_first {cohort : SyncCohort} {rest : List SyncCohort}
    (first : st.cohorts = cohort :: rest) :
    st.listed id generation =
      cohort.listed id generation + (rest.map (·.listed id generation)).sum := by
  unfold BridgeRuntime.listed
  rw [first, listed_cons]

theorem inner (scheduled : Scheduled env stack st) (move : Inner env stack st stack' st') :
    TokenStep env id generation stack st stack' st' := by
  cases move with
  | memberSkipped => exact (restack (by rw [todo_leaving, todo_leaving])).step
  | @memberRestarted stack _ goal member rest session =>
    refine step (less le_rfl le_rfl le_rfl le_rfl le_rfl le_rfl le_rfl
      (timers_edit member (fun id => session_cancelDownstreamRetry st member id) fun _ => .inr rfl)
      le_rfl ?_)
    rw [todo_leaving]
    exact (todo_leaving _ _ _).le.trans (todo_leaving _ _ _).le
  | vanished => exact step (restack (todo_leaving _ _ _).ge)
  | rendererMissing =>
    exact ((restack (todo_leaving _ _ _).ge).trans (retireDownstream _)).step
  | buildFailed =>
    exact scheduleNew ((restack (todo_leaving _ _ _).ge).trans (invalidateDownstream _ _))
      (Nat.lt_succ_self _) _ _
  | @built stack _ id' zoneId session renderer liveStream live renderer_eq created =>
    have hregistered : Spends env id generation stack (st.invalidateDownstream env id' zoneId) stack
        ((st.invalidateDownstream env id' zoneId).registerStream id' liveStream) :=
      less le_rfl le_rfl le_rfl le_rfl le_rfl le_rfl le_rfl
        (timers_edit id' (fun id => session_modifySession
          ((st.invalidateDownstream env id' zoneId).record (.registered liveStream)) id' id _)
          fun _ => .inl rfl) (Nat.zero_add _).le le_rfl
    have hadded : Spends env id generation stack
        ((st.invalidateDownstream env id' zoneId).registerStream id' liveStream) (.checking :: stack)
        (((st.invalidateDownstream env id' zoneId).registerStream id'
          liveStream).addSessionToSyncCohort env id') :=
      less le_rfl le_rfl le_rfl (listed_addSession id') le_rfl le_rfl le_rfl le_rfl le_rfl
        (todo_checking stack).le
    exact prepareNew ((((restack (todo_leaving _ _ _).ge).trans
      (invalidateDownstream id' zoneId)).trans hregistered).trans hadded) (Nat.lt_succ_self _) zoneId
        _ (Sound.createDownstreamStream_named created).2
  | left => exact step (restack (todo_leaving _ _ _).ge)
  | pauseFinished =>
    refine (((restack ?_).trans (nextDownstreamGeneration _)).trans (stop _ _ _)).step
    rw [todo_checking, todo_leaving]
  | stopFinished =>
    refine ((restack ?_).trans (stop _ _ _)).step
    rw [todo_checking, todo_leaving]
  | @cohortDropped stack _ cohort rest first =>
    refine step (less le_rfl le_rfl le_rfl ?_ le_rfl le_rfl le_rfl le_rfl le_rfl le_rfl)
    rw [listed_of_first first]
    exact Nat.le_add_left _ _
  | @cohortReleased stack _ cohort rest first listed starts =>
    have hsessions : (st.pruneCohort cohort).sessions.Nodup := by
      have honce := scheduled.ordered.once
      rw [first, List.flatMap_cons] at honce
      exact (List.nodup_append.mp honce).1.filter _
    have hstreams := listed_preparedStreams id generation _ hsessions
    have hcohort := listed_prune id generation st cohort
    obtain ⟨groupJoins, nextGroupJoins, heq⟩ := openPlay_spec env
      (st.handOver (st.pruneCohort cohort) rest) (st.pruneCohort cohort).preparedStreams
    rw [heq]
    refine step (hands ((st.pruneCohort cohort).preparedStreams.countP (·.names id generation))
      le_rfl ?_ le_rfl le_rfl le_rfl le_rfl (Nat.add_le_add_left (Nat.zero_add _).le _)
      (todo_cons _ _).le)
    refine (Nat.add_assoc _ _ _).le.trans (Nat.add_le_add_left ?_ _)
    rw [listed_of_first first, Nat.add_comm]
    exact Nat.add_le_add_right (hstreams.trans hcohort) _
  | @cohortKept stack _ cohort rest first =>
    refine step (less le_rfl le_rfl le_rfl ?_ le_rfl le_rfl le_rfl le_rfl (Nat.zero_add _).le
      (todo_checking _).ge)
    rw [listed_of_first first]
    exact (listed_cons _ _).trans_le (Nat.add_le_add_right (listed_prune id generation st cohort) _)
  | cohortsDone =>
    exact step (less le_rfl le_rfl le_rfl (Nat.zero_le _) le_rfl le_rfl le_rfl le_rfl
      (Nat.zero_add _).le (todo_checking _).ge)
  | @streamStarted stack _ release stream rest roles =>
    obtain ⟨planned, playbackRelease, f, heq, hlookup, hf⟩ := startStream_spec env release.joins
      release.delays release.cutoff st roles stream
    rw [heq]
    have hplanned : Spends env id generation (.starting release (stream :: rest) roles :: stack) st
        (.starting release (stream :: rest) roles :: stack)
        { st with sessions := planned, playbackRelease := playbackRelease } :=
      less le_rfl le_rfl le_rfl le_rfl le_rfl le_rfl le_rfl
        (timers_edit stream.sessionId hlookup fun session => by
          obtain ⟨delay, held, hplanned, -⟩ := (hf session).spec
          rw [hplanned]
          exact .inl rfl) le_rfl le_rfl
    refine (hplanned.trans ?_).step
    obtain ⟨hstart, hpayload⟩ := startCommand_spec release.joins
      (release.delays.lookup stream.sessionId) (roles.lookup stream.sessionId) stream
    generalize startCommand release.joins (release.delays.lookup stream.sessionId)
      (roles.lookup stream.sessionId) stream = command at *
    refine startSent hstart hpayload ?_
    simp only [todo_cons, Frame.todo, List.countP_cons]
    omega
  | startsDone =>
    exact step (restack ((todo_cons _ _).trans (Nat.zero_add _)).ge)

/-! ### The workers -/

theorem countP_setWorker {zoneId other : ZoneId} {worker worker' : ZoneWorker}
    (found : st.zoneWorkers zoneId = some worker) (p : TransportCommand → Bool)
    (h : worker'.commands.countP p ≤ worker.commands.countP p) :
    ((st.setWorker zoneId worker').commands other).countP p ≤ (st.commands other).countP p := by
  rw [commands_setWorker]
  split
  · next heq =>
    subst other
    unfold BridgeRuntime.commands
    rw [found]
    exact h
  · exact le_rfl

/-- The worker goes on with the commands it has, or gives one up. -/
theorem setWorker {zoneId : ZoneId} {worker worker' : ZoneWorker}
    (found : st.zoneWorkers zoneId = some worker)
    (h : ∀ p, worker'.commands.countP p ≤ worker.commands.countP p) :
    Spends env id generation stack st stack (st.setWorker zoneId worker') :=
  less le_rfl (countP_setWorker found _ (h _)) le_rfl le_rfl (countP_setWorker found _ (h _)) le_rfl
    le_rfl le_rfl le_rfl le_rfl

/-- The running command ends. -/
theorem countP_ends {worker worker' : ZoneWorker} {task : TransportTask}
    (running : worker.running = some task) (slot : worker'.slot = worker.slot)
    (idle : worker'.running = none) (p : TransportCommand → Bool) :
    worker'.commands.countP p + (if p task.command then 1 else 0) = worker.commands.countP p := by
  simp only [ZoneWorker.commands, running, slot, idle, List.countP_append]
  simp [List.countP_cons]

/-- The running command ends in the zone of the session: its token is there no more. -/
theorem commands_ends {zoneId : ZoneId} {worker : ZoneWorker} {task : TransportTask}
    (found : st.zoneWorkers zoneId = some worker) (running : worker.running = some task)
    (worker' : ZoneWorker) (slot : worker'.slot = worker.slot) (idle : worker'.running = none)
    (p : TransportCommand → Bool)
    (address : p task.command = true → env.zoneOf id = zoneId) :
    ((st.setWorker zoneId worker').commands (env.zoneOf id)).countP p +
      (if p task.command then 1 else 0) = (st.commands (env.zoneOf id)).countP p := by
  rw [commands_setWorker]
  split
  · next heq =>
    rw [countP_ends running slot idle]
    unfold BridgeRuntime.commands
    rw [heq, found]
    rfl
  · next hne =>
    cases hp : p task.command with
    | true => exact absurd (address hp) hne
    | false => rfl

variable (id generation) in
/-- Only a command that prepares or starts a stream ends with a result of a start. -/
theorem ofStart_ends {result : DownstreamStartResult} {command : TransportCommand}
    (ends : result.Ends command) : (if result.ofStart id generation then 1 else 0) ≤
      (if command.prepares id generation then 1 else 0) +
        if command.starts id generation then 1 else 0 := by
  cases hstart : result.ofStart id generation with
  | false => exact Nat.zero_le _
  | true =>
    simp only [DownstreamStartResult.ofStart, Bool.and_eq_true, beq_iff_eq, Bool.not_eq_true',
      Bool.or_eq_false_iff, beq_eq_false_iff_ne] at hstart
    obtain ⟨⟨hid, hgeneration⟩, hstopped, hunknown⟩ := hstart
    have hstop : command.isStop = false := by
      cases hstop : command.isStop with
      | false => rfl
      | true => exact absurd (ends.stop.mp hstop) (by simp [hstopped, hunknown])
    have hnames : command.sessionId = id ∧ command.generation = generation :=
      ⟨ends.sessionId.symm.trans hid, ends.generation.symm.trans hgeneration⟩
    cases command with
    | stop => cases hstop
    | _ =>
      simp [TransportCommand.prepares, TransportCommand.starts, TransportCommand.isPrepare,
        TransportCommand.isStart, hnames.1, hnames.2]

variable (id generation stack) in
/-- The running command ends, and its token is there no more. -/
theorem commandEnds {zoneId : ZoneId} {worker : ZoneWorker} {task : TransportTask}
    (found : st.zoneWorkers zoneId = some worker) (running : worker.running = some task)
    (worker' : ZoneWorker) (slot : worker'.slot = worker.slot) (idle : worker'.running = none)
    (address : env.zoneOf task.command.sessionId = zoneId) :
    AirSonos.tokens id generation env stack (st.setWorker zoneId worker') +
          (if task.command.prepares id generation then 1 else 0) +
          (if task.command.starts id generation then 1 else 0) =
        AirSonos.tokens id generation env stack st ∧
      (st.setWorker zoneId worker').tickets id generation env +
          (if task.command.prepares id generation then 1 else 0) =
        st.tickets id generation env := by
  have hprepares : (st.setWorker zoneId worker').prepares id generation env + _ =
      st.prepares id generation env :=
    commands_ends found running worker' slot idle (·.prepares id generation) fun hnames => by
      simp only [TransportCommand.prepares, Bool.and_eq_true, beq_iff_eq] at hnames
      rw [← hnames.1.2]
      exact address
  have hstarts : (st.setWorker zoneId worker').starts id generation env + _ =
      st.starts id generation env :=
    commands_ends found running worker' slot idle (·.starts id generation) fun hnames => by
      simp only [TransportCommand.starts, Bool.and_eq_true, beq_iff_eq] at hnames
      rw [← hnames.1.2]
      exact address
  have hmessages : (st.setWorker zoneId worker').messages id generation =
      st.messages id generation := rfl
  have hlisted : (st.setWorker zoneId worker').listed id generation =
      st.listed id generation := rfl
  have hresults : (st.setWorker zoneId worker').results id generation =
      st.results id generation := rfl
  have hretries : (st.setWorker zoneId worker').retries id generation =
      st.retries id generation := rfl
  have htimers : (st.setWorker zoneId worker').timers id generation =
      st.timers id generation := rfl
  unfold AirSonos.tokens BridgeRuntime.tickets
  omega

/-- A prepared stream is the ticket that its Prepare was. -/
theorem workerReady (sound : Sound env stack st) {zoneId : ZoneId} {worker worker' : ZoneWorker}
    {prepared : PreparedDownstream} (found : st.zoneWorkers zoneId = some worker)
    (ready : worker.ready = some (worker', prepared)) :
    Spends env id generation stack st stack ((st.setWorker zoneId worker').sendPrepared prepared) := by
  obtain ⟨start, running, rfl, rfl⟩ := ZoneWorker.ready_spec ready
  have hgenuine := (sound.worker zoneId worker found).2 _ (ZoneWorker.mem_commands_of_running running)
  obtain ⟨htokens, htickets⟩ := commandEnds id generation stack found running
    { worker with running := none } rfl rfl hgenuine.address
  generalize hset : st.setWorker zoneId { worker with running := none } = st₁ at *
  have hprepares : (TransportTask.prepareReady start).command.prepares id generation =
      (preparedOf start).names id generation := rfl
  have hmessages : (st₁.sendPrepared (preparedOf start)).messages id generation =
      st₁.messages id generation + if (preparedOf start).names id generation then 1 else 0 := by
    simp [BridgeRuntime.messages, BridgeRuntime.sendPrepared, List.countP_cons]
  have hafter : (st₁.sendPrepared (preparedOf start)).tickets id generation env =
      st₁.prepares id generation env +
        (st₁.sendPrepared (preparedOf start)).messages id generation +
        st₁.listed id generation := rfl
  have htotal : AirSonos.tokens id generation env stack (st₁.sendPrepared (preparedOf start)) =
      (st₁.sendPrepared (preparedOf start)).tickets id generation env +
        todo id generation stack + st₁.starts id generation env + st₁.results id generation +
        st₁.retries id generation + st₁.timers id generation := rfl
  have hhanded : (st₁.sendPrepared (preparedOf start)).handed id generation =
      st.handed id generation := by
    rw [← hset]
    rfl
  rw [hprepares] at htokens htickets
  refine ⟨by rw [← hset]; exact le_rfl, ?_, ?_⟩
  · rw [htotal, hafter, hmessages]
    unfold AirSonos.tokens BridgeRuntime.tickets at *
    omega
  · rw [hafter, hmessages, hhanded]
    unfold BridgeRuntime.tickets at *
    omega

/-- A result is what is left of the command it ends. -/
theorem workerReplied (sound : Sound env stack st) {zoneId : ZoneId} {worker worker' : ZoneWorker}
    {now : Instant} {reply : Reply} {outputs : List WorkerOutput}
    (found : st.zoneWorkers zoneId = some worker)
    (replied : worker.reply now reply = some (worker', outputs)) :
    Spends env id generation stack st stack
      (outputs.foldl deliver (st.setWorker zoneId worker')) := by
  obtain ⟨task, request, running, -, heffect⟩ := ZoneWorker.reply_spec replied
  have hgenuine := (sound.worker zoneId worker found).2 _ (ZoneWorker.mem_commands_of_running running)
  obtain ⟨groupJoins, heq⟩ := deliver_eq (st.setWorker zoneId worker') outputs
  rw [heq]
  have hsame (h : ∀ p, worker'.commands.countP p ≤ worker.commands.countP p)
      (quiet : outputs.filterMap WorkerOutput.result? = []) :
      Spends env id generation stack st stack { st.setWorker zoneId worker' with
        resultRx := (st.setWorker zoneId worker').resultRx ++
          outputs.filterMap WorkerOutput.result?
        groupJoins := groupJoins } := by
    rw [quiet, List.append_nil]
    exact (setWorker found h).trans
      (less le_rfl le_rfl le_rfl le_rfl le_rfl le_rfl le_rfl le_rfl le_rfl le_rfl)
  cases heffect with
  | @goesOn next joined same =>
    refine hsame (fun p => ?_) rfl
    simp [ZoneWorker.commands, running, same]
  | abandons prepare newer =>
    refine hsame (fun p => ?_) rfl
    simp [ZoneWorker.commands, running]
  | @reports joins result joined ends =>
    obtain ⟨htokens, htickets⟩ := commandEnds id generation stack found running
      { worker with
        running := none, joined := joined, exchanges := ⟨request, reply⟩ :: worker.exchanges }
      rfl rfl hgenuine.address
    rw [results_of_report]
    have hends := ofStart_ends id generation ends
    refine ⟨le_rfl, ?_, htickets ▸ Nat.add_le_add_right (Nat.le_add_right _ _) _⟩
    refine le_trans ?_ htokens.le
    generalize st.setWorker zoneId { worker with
      running := none, joined := joined,
      exchanges := ⟨request, reply⟩ :: worker.exchanges } = st₁
    have hresults : ({ st₁ with
        resultRx := st₁.resultRx ++ [result], groupJoins := groupJoins } : BridgeRuntime).results id
          generation = st₁.results id generation +
            if result.ofStart id generation then 1 else 0 := by
      simp [BridgeRuntime.results, List.countP_cons]
    have htotal : AirSonos.tokens id generation env stack { st₁ with
        resultRx := st₁.resultRx ++ [result], groupJoins := groupJoins } =
        st₁.tickets id generation env + todo id generation stack + st₁.starts id generation env +
          ({ st₁ with
            resultRx := st₁.resultRx ++ [result], groupJoins := groupJoins } :
              BridgeRuntime).results id generation +
          st₁.retries id generation + st₁.timers id generation := rfl
    rw [htotal, hresults]
    unfold AirSonos.tokens
    omega

/-! ### The handlers -/

theorem countP_tail {α : Type} (p : α → Bool) {l rest : List α} {a : α} (first : l = a :: rest) :
    l.tail.countP p + (if p a then 1 else 0) = l.countP p := by
  rw [first, List.tail_cons, List.countP_cons]

theorem countP_tail_le {α : Type} (p : α → Bool) (l : List α) : l.tail.countP p ≤ l.countP p :=
  (List.tail_sublist l).countP_le

theorem takeResult : Spends env id generation stack st stack st.takeResult :=
  less le_rfl le_rfl le_rfl le_rfl le_rfl (countP_tail_le _ _) le_rfl le_rfl le_rfl le_rfl

theorem takeRetry : Spends env id generation stack st stack st.takeRetry :=
  less le_rfl le_rfl le_rfl le_rfl le_rfl le_rfl (countP_tail_le _ _) le_rfl le_rfl le_rfl

theorem takePrepared : Spends env id generation stack st stack st.takePrepared :=
  less le_rfl le_rfl (countP_tail_le _ _) le_rfl le_rfl le_rfl le_rfl le_rfl le_rfl le_rfl

/-- The groups, the walks and the plans do not matter. -/
theorem regroup (nativeGroups : NativeGroups) :
    Spends env id generation stack st stack { st with nativeGroups := nativeGroups } :=
  less le_rfl le_rfl le_rfl le_rfl le_rfl le_rfl le_rfl le_rfl le_rfl le_rfl

/-- A failed start becomes a retry of the same generation. -/
theorem startRetried {result : DownstreamStartResult} {rest : List DownstreamStartResult}
    (first : st.resultRx = result :: rest)
    (outcome : result.outcome = .unknown ∨ result.outcome = .failed) :
    Spends env id generation stack st stack
      ((st.takeResult.startUncertain result.sessionId result.outcome).scheduleDownstreamRetry
        result.sessionId result.zoneId result.generation).1 := by
  obtain ⟨nativeGroups, heq⟩ := startUncertain_spec st.takeResult result.sessionId result.outcome
  have hmarked : Spends env id generation stack st.takeResult stack
      (st.takeResult.startUncertain result.sessionId result.outcome) := by
    have hedited : Spends env id generation stack st.takeResult stack
        (st.takeResult.markUncertain result.sessionId) := edit _ fun _ => .inl rfl
    rw [heq]
    exact hedited.trans (regroup nativeGroups)
  have hresults : st.takeResult.results id generation +
      (if result.ofStart id generation = true then 1 else 0) = st.results id generation :=
    countP_tail (DownstreamStartResult.ofStart id generation) first
  have hstart : result.ofStart id generation = true ↔
      id = result.sessionId ∧ generation = result.generation := by
    have hstarted : (result.outcome == .stopped || result.outcome == .stopUnknown) = false := by
      rcases outcome with outcome | outcome <;> rw [outcome] <;> rfl
    simp only [DownstreamStartResult.ofStart, hstarted, Bool.not_false, Bool.and_true,
      Bool.and_eq_true, beq_iff_eq]
    exact and_congr eq_comm eq_comm
  have htimers := timers_schedule id generation
    (st.takeResult.startUncertain result.sessionId result.outcome) result.sessionId result.zoneId
    result.generation
  have htokens := hmarked.tokens
  have hbefore : AirSonos.tokens id generation env stack st.takeResult =
      st.tickets id generation env + todo id generation stack + st.starts id generation env +
        st.takeResult.results id generation + st.retries id generation +
        st.timers id generation := rfl
  generalize st.takeResult.startUncertain result.sessionId result.outcome = st₁ at *
  have hafter : AirSonos.tokens id generation env stack
      (st₁.scheduleDownstreamRetry result.sessionId result.zoneId result.generation).1 =
      st₁.tickets id generation env + todo id generation stack + st₁.starts id generation env +
        st₁.results id generation + st₁.retries id generation +
        (st₁.scheduleDownstreamRetry result.sessionId result.zoneId
          result.generation).1.timers id generation := rfl
  refine ⟨hmarked.next, ?_, hmarked.tickets⟩
  rw [hafter]
  rw [hbefore] at htokens
  simp only [hstart] at hresults
  unfold AirSonos.tokens at *
  omega

/-- The timer of a retry fires. -/
theorem retryFired (sound : Sound env stack st) {other : SessionId} {session : SessionRuntime}
    {task : TimerTask DownstreamRetry} (live : st.session other = some session)
    (timer : session.retryTask = some task) (pending : task.fired = false) :
    Spends env id generation stack st stack (st.sendRetry other task) := by
  have hid := (sound.timer other session live task timer).1
  have hretries : (st.sendRetry other task).retries id generation =
      st.retries id generation + if task.message.names id generation then 1 else 0 := by
    simp [BridgeRuntime.retries, BridgeRuntime.sendRetry, List.countP_cons]
  have hsession : (st.sendRetry other task).session id =
      if id = other then (st.session id).map fun session =>
        { session with retryTask := some { task with fired := true } } else st.session id :=
    session_modifySession st other id _
  have htimers : (st.sendRetry other task).timers id generation +
      (if task.message.names id generation then 1 else 0) ≤ st.timers id generation := by
    unfold BridgeRuntime.timers
    rw [hsession]
    split
    · next heq =>
      subst id
      simp [live, timer, pending, DownstreamRetry.names, hid]
    · next hne =>
      have hother : task.message.names id generation = false := by
        simp only [DownstreamRetry.names, hid, Bool.and_eq_false_iff, beq_eq_false_iff_ne]
        exact .inl (Ne.symm hne)
      rw [hother]
      exact le_rfl
  have hafter : AirSonos.tokens id generation env stack (st.sendRetry other task) =
      st.tickets id generation env + todo id generation stack + st.starts id generation env +
        st.results id generation + (st.sendRetry other task).retries id generation +
        (st.sendRetry other task).timers id generation := rfl
  refine ⟨le_rfl, ?_, le_rfl⟩
  rw [hafter, hretries]
  unfold AirSonos.tokens
  omega

/-- A retry starts the stream that is prepared. -/
theorem retryReplayed (sound : Sound env stack st) (coherent : Coherent env stack st)
    {retry : DownstreamRetry} {rest : List DownstreamRetry} {session : SessionRuntime}
    {prepared : PreparedDownstream} (first : st.retryRx = retry :: rest)
    (live : st.session retry.sessionId = some session)
    (current : session.generation = retry.generation) (kept : session.prepared = some prepared) :
    Spends env id generation stack st stack
      (st.takeRetry.replayPrepared env retry.sessionId retry.zoneId prepared) := by
  obtain ⟨playbackRelease, heq⟩ := replayPrepared_spec env st.takeRetry retry.sessionId
    retry.zoneId prepared
  have hretries : st.takeRetry.retries id generation +
      (if retry.names id generation = true then 1 else 0) = st.retries id generation :=
    countP_tail (DownstreamRetry.names id generation) first
  have hid : prepared.sessionId = retry.sessionId := (sound.kept _ session live prepared kept).1
  have hgeneration : prepared.generation = retry.generation :=
    ((coherent.session _ session live).prepared prepared kept).2.1.trans current
  have hstarts : (TransportCommand.play prepared.released).starts id generation =
      retry.names id generation := by
    simp only [TransportCommand.starts, TransportCommand.isStart, TransportCommand.sessionId,
      TransportCommand.generation, PreparedDownstream.released, DownstreamRetry.names,
      Bool.true_and, hid, hgeneration]
  have hprepares : (TransportCommand.play prepared.released).prepares id generation = false := rfl
  rw [heq]
  generalize hafter : ({ st.takeRetry.modifySession retry.sessionId fun session =>
      { session with prepared := some prepared.released, retryTask := none } with
    playbackRelease := playbackRelease } : BridgeRuntime) = st₁
  have hedited : Spends env id generation stack st.takeRetry stack st₁ := by
    have hmodified : Spends env id generation stack st.takeRetry stack
        (st.takeRetry.modifySession retry.sessionId fun session =>
          { session with prepared := some prepared.released, retryTask := none }) :=
      edit retry.sessionId fun _ => .inr rfl
    rw [← hafter]
    exact hmodified.trans
      (less le_rfl le_rfl le_rfl le_rfl le_rfl le_rfl le_rfl le_rfl le_rfl le_rfl)
  obtain ⟨hsent, htickets⟩ := tokens_sendCommand env id generation st₁ stack retry.zoneId
    (.play prepared.released)
  have hbefore : AirSonos.tokens id generation env stack st.takeRetry =
      st.tickets id generation env + todo id generation stack + st.starts id generation env +
        st.results id generation + st.takeRetry.retries id generation +
        st.timers id generation := rfl
  have htokens := hedited.tokens
  rw [hprepares] at htickets
  rw [hprepares, hstarts] at hsent
  rw [hbefore] at htokens
  refine ⟨hedited.next, hsent.trans ?_, htickets.trans hedited.tickets⟩
  simp only [Bool.false_eq_true, if_false]
  unfold AirSonos.tokens at *
  omega

/-- The session leaves its group. -/
theorem leaves (before : Spends env id generation stack st stack st₁) (goal : Goal)
    (members : List SessionId) (other : SessionId) :
    Spends env id generation stack st (.leaving goal members :: stack) (st₁.disband other) :=
  before.trans (less le_rfl le_rfl le_rfl le_rfl le_rfl le_rfl le_rfl le_rfl le_rfl
    (todo_leaving _ _ _).le)

theorem cancelDownstreamRetry (other : SessionId) :
    Spends env id generation stack st stack (st.cancelDownstreamRetry other) :=
  edit other fun _ => .inr rfl

theorem resumePlayback (other : SessionId) :
    Spends env id generation stack st stack (st.resumePlayback other) :=
  (edit (f := fun session => { session with desiredPlayback := true, retryAttempts := 0 }) other
    fun _ => .inl rfl).trans (edit other fun _ => .inl rfl)

theorem pausePlayback (other : SessionId) :
    Spends env id generation stack st stack (st.pausePlayback other) :=
  (edit (f := fun session =>
    { session with
      desiredPlayback := false
      resetNeeded := true
      observed := .unknown
      prepared := none }) other fun _ => .inl rfl).trans (cancelDownstreamRetry other)

/-- The sessions that are new or gone have no timer. -/
theorem replaced (other : SessionId)
    (sessions : ∀ id, id ≠ other → st'.session id = st.session id)
    (timer : ∀ session, st'.session other = some session → session.retryTask = none) :
    st'.timers id generation ≤ st.timers id generation := by
  by_cases hid : id = other
  · subst other
    unfold BridgeRuntime.timers
    cases live : st'.session id with
    | none => exact Nat.zero_le _
    | some session =>
      rw [Option.bind_some, timer session live]
      exact Nat.zero_le _
  · unfold BridgeRuntime.timers
    rw [sessions id hid]

theorem removeSession (other : SessionId) :
    Spends env id generation stack st stack (st.removeSession other) :=
  less le_rfl le_rfl le_rfl le_rfl le_rfl le_rfl le_rfl
    (replaced other (fun id hid => by rw [session_removeSession, if_neg hid])
      fun session live => by
        rw [session_removeSession, if_pos rfl] at live
        cases live) le_rfl le_rfl

theorem insertSession (other : SessionId) (zoneId : ZoneId) (format : PcmFormat)
    (sender : Option IpAddr) :
    Spends env id generation stack st stack (st.insertSession other zoneId format sender) :=
  less le_rfl le_rfl le_rfl le_rfl le_rfl le_rfl le_rfl
    (replaced other (fun id hid => by rw [session_insertSession, if_neg hid])
      fun session live => by
        rw [session_insertSession, if_pos rfl] at live
        cases live
        rfl) le_rfl le_rfl

/-- The wait for the joins ends, and the coordinator plays. -/
theorem released {zoneId : ZoneId} {worker : ZoneWorker} {stream : PreparedDownstream}
    {joins : GroupJoins} {held : Option Duration} {since : Instant}
    (found : st.zoneWorkers zoneId = some worker)
    (waiting : worker.running = some (.groupWait stream joins held since)) (fixed : GroupJoins)
    (cutoff : Instant) (delay : Option Duration) :
    Spends env id generation stack st stack
      (((st.fixRelease fixed).planStream stream cutoff delay).setWorker zoneId
        (worker.goto (.groupPlay stream joins held))) := by
  have hplanned : Spends env id generation stack st stack
      ((st.fixRelease fixed).planStream stream cutoff delay) := by
    cases delay <;>
      exact less le_rfl le_rfl le_rfl le_rfl le_rfl le_rfl le_rfl le_rfl le_rfl le_rfl
  have hfound : ((st.fixRelease fixed).planStream stream cutoff delay).zoneWorkers zoneId =
      some worker := by
    cases delay <;> exact found
  refine hplanned.trans (setWorker hfound fun p => ?_)
  simp [ZoneWorker.commands, ZoneWorker.goto, waiting, TransportTask.command]

theorem setVolume (zoneId : ZoneId) (value : Nat) :
    Spends env id generation stack st stack (st.setVolume env zoneId value) := by
  have hcommands (other : ZoneId) :
      (st.setVolume env zoneId value).commands other = st.commands other := by
    simp only [BridgeRuntime.commands, BridgeRuntime.setVolume]
    by_cases hzone : other = zoneId
    · subst other
      rw [Function.update_self]
      cases hworker : st.worker env zoneId with
      | none =>
        have hnone : st.zoneWorkers zoneId = none := (Option.or_eq_none_iff.mp hworker).1
        rw [hnone]
        rfl
      | some worker =>
        rcases worker_cases hworker with hfound | ⟨hnone, renderer, -, rfl⟩
        · rw [hfound]
          rfl
        · rw [hnone]
          rfl
    · rw [Function.update_of_ne hzone]
  refine less le_rfl ?_ le_rfl le_rfl ?_ le_rfl le_rfl le_rfl le_rfl le_rfl
  · exact (congrArg _ (hcommands _)).le
  · exact (congrArg _ (hcommands _)).le

theorem closeWorkers : Spends env id generation stack st stack st.closeWorkers := by
  have hcommands (other : ZoneId) : st.closeWorkers.commands other = st.commands other := by
    simp only [BridgeRuntime.commands, BridgeRuntime.closeWorkers]
    cases st.zoneWorkers other <;> rfl
  refine less le_rfl ?_ le_rfl le_rfl ?_ le_rfl le_rfl le_rfl le_rfl le_rfl
  · exact (congrArg _ (hcommands _)).le
  · exact (congrArg _ (hcommands _)).le

theorem timers_keepPrepared (prepared : PreparedDownstream) :
    (st.takePrepared.keepPrepared prepared).timers id generation ≤ st.timers id generation :=
  timers_edit prepared.sessionId
    (fun id => session_modifySession st.takePrepared prepared.sessionId id _) fun _ => .inl rfl

variable (id generation) in
theorem messages_takePrepared {prepared : PreparedDownstream} {rest : List PreparedDownstream}
    (first : st.preparedRx = prepared :: rest) :
    st.takePrepared.messages id generation + (if prepared.names id generation = true then 1 else 0) =
      st.messages id generation :=
  countP_tail (PreparedDownstream.names id generation) first

/-- A prepared stream waits in its cohort. -/
theorem preparedListed {prepared : PreparedDownstream} {rest : List PreparedDownstream}
    (first : st.preparedRx = prepared :: rest) :
    Spends env id generation stack st (.checking :: stack)
      ((st.takePrepared.keepPrepared prepared).enlistPrepared prepared) := by
  have hmessages := messages_takePrepared id generation first
  have hlisted : ((st.takePrepared.keepPrepared prepared).enlistPrepared prepared).listed id
      generation ≤ st.listed id generation +
        if prepared.names id generation = true then 1 else 0 := by
    unfold BridgeRuntime.listed
    rw [cohorts_enlistPrepared]
    exact listed_insertPrepared prepared st.cohorts
  have htickets : ((st.takePrepared.keepPrepared prepared).enlistPrepared prepared).tickets id
      generation env = st.prepares id generation env + st.takePrepared.messages id generation +
        ((st.takePrepared.keepPrepared prepared).enlistPrepared prepared).listed id
          generation := rfl
  refine hands 0 le_rfl ?_ le_rfl le_rfl le_rfl (timers_keepPrepared prepared)
    (Nat.zero_add _).ge ?_
  · rw [htickets]
    unfold BridgeRuntime.tickets
    omega
  · rw [todo_checking, Nat.zero_add]

/-- A prepared stream of no cohort is handed to the players on its own. -/
theorem preparedPlayed {prepared : PreparedDownstream} {rest : List PreparedDownstream}
    (first : st.preparedRx = prepared :: rest) :
    Spends env id generation stack st
      ((st.takePrepared.keepPrepared prepared).startFrame env [prepared] :: stack)
      ((st.takePrepared.keepPrepared prepared).openPlay env [prepared]) := by
  have hmessages := messages_takePrepared id generation first
  obtain ⟨groupJoins, nextGroupJoins, heq⟩ :=
    openPlay_spec env (st.takePrepared.keepPrepared prepared) [prepared]
  rw [heq]
  refine hands (if prepared.names id generation = true then 1 else 0) le_rfl ?_ le_rfl le_rfl
    le_rfl (timers_keepPrepared prepared) ?_ ?_
  · refine Nat.le_of_eq ?_
    unfold BridgeRuntime.tickets
    rw [← hmessages]
    exact Nat.add_right_comm _ _ _ |>.trans (congrArg (· + _) (Nat.add_assoc _ _ _))
  · exact Nat.add_le_add_right (List.countP_singleton ..).le _
  · exact (todo_cons _ _).trans_le (Nat.add_le_add_right (List.countP_singleton ..).le _)

theorem encoderInputClosed (other : SessionId) (session : SessionRuntime) :
    TokenStep env id generation stack st stack (st.encoderInputClosed env other session) := by
  unfold BridgeRuntime.encoderInputClosed
  split
  · exact scheduleNew (retireEncoder other session.zoneId) (Nat.lt_succ_self _) other session.zoneId
  · exact (retireEncoder other session.zoneId).step

end Spends

theorem TokenStep.of_move {id : SessionId} {generation : Nat} {stack stack' : List Frame}
    {st st' : BridgeRuntime} (sound : Sound env stack st) (coherent : Coherent env stack st)
    (scheduled : Scheduled env stack st) (move : Move env guard stack st stack' st') :
    TokenStep env id generation stack st stack' st' := by
  cases move with
  | inner move => exact Spends.inner scheduled move
  | tick =>
    exact Spends.step (.less le_rfl le_rfl le_rfl le_rfl le_rfl le_rfl le_rfl le_rfl le_rfl le_rfl)
  | workerTook found took =>
    exact (Spends.setWorker found fun p => (congrArg _ (ZoneWorker.commands_take took)).le).step
  | workerReplied guarded found replied => exact (Spends.workerReplied sound found replied).step
  | workerReady found ready => exact (Spends.workerReady sound found ready).step
  | retryFired live timer pending due => exact (Spends.retryFired sound live timer pending).step
  | startRetried first live current wanted outcome =>
    exact (Spends.startRetried first outcome).step
  | retryReplayed guarded first live current wanted kept =>
    exact (Spends.retryReplayed sound coherent first live current kept).step
  | workerSuperseded found superseded =>
    obtain ⟨task, running, -, -, rfl⟩ := ZoneWorker.supersede_spec superseded
    refine Spends.step (.setWorker found fun p => ?_)
    simp [ZoneWorker.commands, running]
  | @groupReleased _ zoneId worker stream joins delay since _ found waiting released =>
    obtain ⟨-, rfl⟩ := releaseGroup_spec released
    exact Spends.step (.released found waiting joins _ delay)
  | cleanupFired =>
    exact Spends.step (.less le_rfl le_rfl le_rfl le_rfl le_rfl le_rfl le_rfl
      (timers_edit _ (fun id => session_modifySession _ _ id _) fun _ => .inl rfl) le_rfl le_rfl)
  | wakeFired =>
    exact Spends.step (.less le_rfl le_rfl le_rfl le_rfl le_rfl le_rfl le_rfl le_rfl le_rfl le_rfl)
  | volumeSet zoneId value => exact Spends.step (.setVolume zoneId value)
  | sessionsWalked =>
    exact Spends.step (.less le_rfl le_rfl le_rfl le_rfl le_rfl le_rfl le_rfl le_rfl le_rfl le_rfl)
  | cleanupTaken =>
    exact Spends.step (.less le_rfl le_rfl le_rfl le_rfl le_rfl le_rfl le_rfl le_rfl le_rfl le_rfl)
  | @cleanupDeferred _ other =>
    have hmarked : Spends env id generation [] st []
        (st.modifySession other fun session => { session with resetNeeded := true }) :=
      .edit _ fun _ => .inl rfl
    have hcancelled : Spends env id generation [] _ []
        ((st.modifySession other fun session =>
          { session with resetNeeded := true }).cancelPausedCleanup other) :=
      .edit _ fun _ => .inl rfl
    exact Spends.step ((hmarked.trans hcancelled).trans (.edit _ fun _ => .inl rfl))
  | resumed => exact (Spends.resumePlayback _).step
  | resumedRestart =>
    exact (((Spends.resumePlayback _).trans (.cancelDownstreamRetry _)).leaves _ _ _).step
  | @flushedPlaying _ other zoneId session playbackEpoch =>
    have hflushed : Spends env id generation [] st [] (st.setPlaybackEpoch other playbackEpoch) :=
      .edit _ fun _ => .inl rfl
    exact ((hflushed.trans (.cancelDownstreamRetry _)).leaves _ _ _).step
  | paused => exact ((Spends.pausePlayback _).leaves _ _ _).step
  | @flushedPaused _ other zoneId session playbackEpoch =>
    have hflushed : Spends env id generation [] st [] (st.setPlaybackEpoch other playbackEpoch) :=
      .edit _ fun _ => .inl rfl
    have hdropped : Spends env id generation [] _ []
        ((st.setPlaybackEpoch other playbackEpoch).modifySession other fun session =>
          { session with encoder := none }) := .edit _ fun _ => .inl rfl
    exact ((hflushed.trans hdropped).trans (.removeStream other)).step
  | sessionRemoved => exact ((Spends.removeSession _).leaves _ _ _).step
  | sessionInserted =>
    exact (((Spends.insertSession _ _ _ _).trans (.cancelDownstreamRetry _)).leaves _ _ _).step
  | encoderClosed => exact Spends.encoderInputClosed _ _
  | resultDropped => exact Spends.takeResult.step
  | @resultPaused _ result =>
    have hnoted : Spends env id generation [] st.takeResult []
        (st.takeResult.notePaused result.sessionId result.outcome) := .edit _ fun _ => .inl rfl
    exact (Spends.takeResult.trans hnoted).step
  | @startSucceeded _ result =>
    obtain ⟨nativeGroups, heq⟩ :=
      startSucceeded_spec st.takeResult result.sessionId result.outcome
    have hmarked : Spends env id generation [] st.takeResult []
        (st.takeResult.markPlaying result.sessionId) := .edit _ fun _ => .inr rfl
    rw [heq]
    exact ((Spends.takeResult.trans hmarked).trans (.regroup nativeGroups)).step
  | startExhausted first live current wanted outcome =>
    exact ((Spends.startRetried first outcome).leaves _ _ _).step
  | @startAbandoned _ result =>
    have habandoned : Spends env id generation [] st.takeResult []
        (st.takeResult.abandonStart result.sessionId) := .edit _ fun _ => .inr rfl
    exact ((Spends.takeResult.trans habandoned).leaves _ _ _).step
  | retryDropped => exact Spends.takeRetry.step
  | retryRestarted =>
    exact (((Spends.takeRetry.trans (.cancelDownstreamRetry _)).trans
      (.cancelDownstreamRetry _)).leaves _ _ _).step
  | preparedDropped => exact Spends.takePrepared.step
  | preparedListed first => exact (Spends.preparedListed first).step
  | preparedPlayed first => exact (Spends.preparedPlayed first).step
  | wakeTaken =>
    exact Spends.step (.less le_rfl le_rfl le_rfl le_rfl le_rfl le_rfl le_rfl le_rfl le_rfl
      (Spends.todo_checking []).le)
  | workersClosed => exact Spends.step .closeWorkers

theorem Visited.tokens {stack : List Frame} {st : BridgeRuntime}
    (h : Visited env guard stack st) : Tokens env stack st := by
  refine h.invariant (P := Tokens env)
    ⟨fun _ _ => Nat.zero_le _, fun _ _ => Nat.zero_le _, fun _ _ _ => ⟨rfl, rfl⟩⟩ ?_
  intro stack st stack' st' before tokens move
  exact tokens.step fun _ _ => .of_move before.sound before.coherent before.scheduled move

/-! ### Scheduling -/

def HistoryEvent.release? : HistoryEvent → Option Release
  | played release => some release
  | _ => none

/-- The calls of `play_prepared_downstreams`, the latest first. -/
def BridgeRuntime.releases (st : BridgeRuntime) : List Release :=
  st.history.filterMap HistoryEvent.release?

/-- The streams handed to `play_prepared_downstreams`, each with its session and generation. -/
def BridgeRuntime.handedStreams (st : BridgeRuntime) : List (SessionId × Nat) :=
  st.releases.flatMap fun release =>
    release.prepared.map fun stream => (stream.sessionId, stream.generation)

theorem count_handedStreams (st : BridgeRuntime) (id : SessionId) (generation : Nat) :
    st.handedStreams.count (id, generation) = st.handed id generation := by
  simp only [BridgeRuntime.handedStreams, BridgeRuntime.releases, BridgeRuntime.handed]
  induction st.history with
  | nil => rfl
  | cons event rest ih =>
    cases event with
    | played release =>
      refine List.count_append.trans (congrArg₂ (· + ·) ?_ ih)
      rw [List.count, List.countP_map]
      rfl
    | _ => exact ih.trans (Nat.zero_add _).symm

/-- A stream of a session and generation is handed to the players once. -/
theorem Visited.handedOnce {stack : List Frame} {st : BridgeRuntime}
    (visited : Visited env guard stack st) : st.handedStreams.Nodup := by
  refine List.nodup_iff_count_le_one.mpr fun handed => ?_
  rw [count_handedStreams]
  exact (Nat.le_add_left _ _).trans (visited.tokens.once handed.1 handed.2)

/-- How cohorts are scheduled: a session is listed once, a stream of a session and generation is
handed to the players once, a cohort released before its start deadline is complete, and no
examination of the cohorts leaves one that is due. -/
structure CohortsScheduled (st : BridgeRuntime) : Prop where
  listedOnce : (st.cohorts.flatMap SyncCohort.sessions).Nodup
  handedOnce : st.handedStreams.Nodup
  complete : ∀ cohort now generation, .released cohort now generation ∈ st.history →
    now < cohort.startDeadline → ∀ id ∈ cohort.sessions, ∃ stream,
      cohort.prepared.lookup id = some stream ∧ generation id = some stream.generation
  noneDue : ∀ now remaining, .checked now remaining ∈ st.history → ∀ cohort ∈ remaining,
    ¬(cohort.windowDeadline ≤ now ∧ cohort.startDeadline ≤ now)

/-- Cohorts are scheduled so in every reachable state. -/
theorem cohorts_scheduled (env : Env) {st : BridgeRuntime} (h : (bridge env).Reachable st) :
    CohortsScheduled st := by
  have visited := Visited.of_reachable h
  have scheduled := visited.scheduled
  exact ⟨scheduled.ordered.once, visited.handedOnce, scheduled.recorded.released,
    scheduled.recorded.checked⟩

/-- The theorem at the state in which the Kitchen and the Office have started together. -/
theorem cohorts_scheduled_for_two :
    ∃ st, (bridge Household.env).run .new
        ([Household.started 0 1, Household.started 1 1] ++ Household.prepares 0 ++
          Household.prepares 1) = some st ∧
      st.handedStreams = [(⟨0⟩, 1), (⟨1⟩, 2)] ∧ CohortsScheduled st := by
  have hruns : ((bridge Household.env).run .new
      ([Household.started 0 1, Household.started 1 1] ++ Household.prepares 0 ++
        Household.prepares 1)).map BridgeRuntime.handedStreams = some [(⟨0⟩, 1), (⟨1⟩, 2)] := by
    decide +kernel
  obtain ⟨st, hrun, hhanded⟩ := Option.map_eq_some_iff.mp hruns
  exact ⟨st, hrun, hhanded,
    cohorts_scheduled Household.env (TransitionSystem.Reachable.of_run .init hrun)⟩

end AirSonos
