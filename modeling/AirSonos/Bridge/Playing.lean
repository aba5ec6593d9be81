import AirSonos.Bridge.SessionSteps
import AirSonos.Bridge.Attempts

/-!
# Observed playback

A prepared stream reaches its room through a cohort, a release, a command and the result of the
command, and only its names travel with the result. The session keeps its prepared stream as
long as its generation, so a result of the current generation finds it.
-/

namespace AirSonos

open Relation BridgeRuntime

variable {env : Env} {guard : BridgeRuntime → BridgeLabel → Prop}

/-- `Q` holds of the session and the generation of every stream on its way to a room and of
every result that says that it plays. -/
structure Carries (Q : SessionId → Nat → Prop) (stack : List Frame) (st : BridgeRuntime) :
    Prop where
  waiting : ∀ cohort ∈ st.cohorts, ∀ id stream, cohort.prepared.lookup id = some stream →
    Q id stream.generation
  starting : ∀ release todo roles, .starting release todo roles ∈ stack → ∀ stream ∈ todo,
    Q stream.sessionId stream.generation
  command : ∀ zoneId worker, st.zoneWorkers zoneId = some worker → ∀ command ∈ worker.commands,
    command.isStart = true → Q command.sessionId command.generation
  result : ∀ result ∈ st.resultRx, result.outcome = .started ∨ result.outcome = .joined →
    Q result.sessionId result.generation

/-- A stream on its way to a room, or a result that says that it plays. -/
def Token.underway : Token → Bool
  | listed _ => true
  | handed _ => true
  | command sent => sent.isStart
  | result report => report.outcome == .started || report.outcome == .joined
  | _ => false

theorem Carries.of_tokens {Q : SessionId → Nat → Prop} {stack : List Frame} {st : BridgeRuntime}
    (sound : Sound env stack st)
    (h : ∀ token, Has stack st token → token.underway = true → Q token.sessionId token.generation) :
    Carries Q stack st where
  waiting := fun cohort mem id stream found => by
    rw [← (sound.waiting cohort mem id stream found).1]
    exact h _ (.listed mem found) rfl
  starting := fun _ _ _ frame _ mem => h _ (.handed frame mem) rfl
  command := fun _ _ found command mem start => by
    refine h _ (.command found mem ?_) start
    cases command <;> first | rfl | cases start
  result := fun _ mem outcome => by
    refine h _ (.result mem ?_) ?_
    · rcases outcome with heq | heq <;> rw [heq] <;> rfl
    · rcases outcome with heq | heq <;> rw [Token.underway, heq] <;> rfl

/-! ### A session that plays -/

/-- A session of this generation has its prepared stream, unless its pause is under way. -/
def Holds (stack : List Frame) (st : BridgeRuntime) (id : SessionId) (generation : Nat) : Prop :=
  0 < generation ∧ generation ≤ st.nextGeneration ∧
    ∀ session, st.session id = some session → session.generation = generation →
      session.prepared.isSome = true ∨ Pausing stack id

section Moves

variable {stack stack' : List Frame} {st st' : BridgeRuntime} {id : SessionId} {generation : Nat}

theorem Holds.move (move : Move env guard stack st stack' st') (h : Holds stack st id generation) :
    Holds stack' st' id generation := by
  obtain ⟨positive, bounded, holds⟩ := h
  refine ⟨positive, bounded.trans (GenerationStep.move move).next, ?_⟩
  intro session' live' hcurrent
  have hpausing (h : Pausing stack id) : Pausing stack' id := by
    obtain h | hnew := h.move move
    · exact h
    · have hgeneration := hnew session' live'
      omega
  have hstep := SessionStep.move move id
  rw [live'] at hstep
  generalize hlive : st.session id = old at hstep
  cases hstep with
  | inserted => exact absurd hcurrent positive.ne
  | @edited session _ edit =>
    have hold (same : session.generation = generation)
        (kept : session.prepared.isSome = true → session'.prepared.isSome = true) :
        session'.prepared.isSome = true ∨ Pausing stack' id :=
      (holds session hlive same).imp kept hpausing
    cases edit with
    | retired =>
      simp only at hcurrent
      omega
    | stopped =>
      simp only at hcurrent
      omega
    | encoderClosed =>
      simp only at hcurrent
      omega
    | paused begins pausing => exact .inr pausing
    | planned plan =>
      obtain ⟨delay, held, rfl, hheld⟩ := plan.spec
      refine hold hcurrent fun hsome => ?_
      obtain rfl | ⟨heldDelay, rfl⟩ := hheld
      · exact hsome
      · rw [Option.isSome_map]
        exact hsome
    | prepared => exact .inl rfl
    | replayed => exact .inl rfl
    | _ => exact hold hcurrent fun hsome => hsome

theorem Coherent.genuine_bounded (coherent : Coherent env stack st) {stream : PreparedDownstream}
    (genuine : stream.Genuine env st.streams) :
    0 < stream.generation ∧ stream.generation ≤ st.nextGeneration :=
  genuine.generation ▸ coherent.bounded _ genuine.registered

/-- A session that has a stream of its generation holds it. -/
theorem Holds.of_kept (coherent : Coherent env stack st) {stream : PreparedDownstream}
    {session : SessionRuntime} (genuine : stream.Genuine env st.streams)
    (live : st.session stream.sessionId = some session) (kept : session.prepared = some stream) :
    Holds stack st stream.sessionId stream.generation := by
  obtain ⟨positive, bounded⟩ := coherent.genuine_bounded genuine
  refine ⟨positive, bounded, fun other hother _ => ?_⟩
  rw [live] at hother
  cases hother
  exact .inl (by rw [kept]; rfl)

/-- What is on its way to a room names a generation whose prepared stream its session has. -/
theorem Visited.underway (h : Visited env guard stack st) :
    ∀ token, Has stack st token → token.underway = true →
      Holds stack st token.sessionId token.generation := by
  refine h.invariant (P := fun stack st => ∀ token, Has stack st token →
    token.underway = true → Holds stack st token.sessionId token.generation) ?_ ?_
  · exact fun token has => absurd has (not_has_new token)
  intro stack st stack' st' visited holds move token has underway
  have hcoherent := visited.coherent.move visited.sound visited.framed move
  have hsound := visited.sound.move move
  obtain hold | hborn := has.step move
  · exact Holds.move move (holds token hold underway)
  cases hborn with
  | command sends =>
    cases sends with
    | stop => cases underway
    | prepare => cases underway
    | @start release stream rest roles tail top =>
      obtain ⟨hid, -, hgeneration⟩ := TransportCommand.names_of_payload
        (startCommand_spec release.joins (release.delays.lookup stream.sessionId)
          (roles.lookup stream.sessionId) stream).2
      rw [Token.sessionId, Token.generation, hid, hgeneration]
      exact Holds.move move (holds _ (.of_top top) rfl)
    | replay first live current kept =>
      obtain ⟨hid, hgenuine⟩ := visited.sound.kept _ _ live _ kept
      have hholds := Holds.of_kept visited.coherent hgenuine (hid ▸ live) kept
      exact Holds.move move hholds
  | listed origin live' kept =>
    exact Holds.of_kept hcoherent (hsound.kept _ _ live' _ kept).2 live' kept
  | arrived origin live' kept =>
    exact Holds.of_kept hcoherent (hsound.kept _ _ live' _ kept).2 live' kept
  | handed origin => exact Holds.move move (holds (.listed _) origin rfl)
  | result found running request last ends start =>
    have hstart := ends.start (by simpa [Token.underway] using underway)
    have hcommand : Has stack st (.command _) :=
      .command found (ZoneWorker.mem_commands_of_running running) (by
        cases hcommand : TransportTask.command _ <;> first | rfl | (rw [hcommand] at hstart; cases hstart))
    rw [Token.sessionId, Token.generation, ends.sessionId, ends.generation]
    exact Holds.move move (holds _ hcommand hstart)
  | message => cases underway
  | scheduled => cases underway
  | rebuilt => cases underway
  | fired => cases underway

theorem Visited.carries (h : Visited env guard stack st) : Carries (Holds stack st) stack st :=
  .of_tokens h.sound h.underway

/-! ### Observed playback is backed by a stream -/

/-- No event finds the encoder of a session closed that is seen to play. -/
def ClosesUnseen (st : BridgeRuntime) : BridgeLabel → Prop
  | .event (.pcm id _ frames) => ∀ session, st.session id = some session →
      session.observed = .playing → frames.any session.closes = false
  | _ => True

def Backed (st : BridgeRuntime) : Prop :=
  ∀ id session, st.session id = some session → session.observed = .playing →
    session.prepared.isSome = true

theorem Backed.move (h : Backed st) (visited : Visited env ClosesUnseen stack st)
    (move : Move env ClosesUnseen stack st stack' st') : Backed st' := by
  intro id session' live' playing
  have hstep := SessionStep.move move id
  rw [live'] at hstep
  generalize hlive : st.session id = old at hstep
  cases hstep with
  | inserted => cases playing
  | @edited session _ edit =>
    have hold := h id session hlive
    cases edit with
    | retired => cases playing
    | paused => cases playing
    | noted observed begins quiet => exact absurd playing quiet
    | unsettled => cases playing
    | prepared => rfl
    | replayed => rfl
    | encoderClosed zoneId frames attempts task reset begins guarded closes =>
      rw [guarded session hlive playing] at closes
      cases closes
    | planned plan =>
      obtain ⟨delay, held, rfl, hheld⟩ := plan.spec
      have hsome := hold playing
      obtain rfl | ⟨heldDelay, rfl⟩ := hheld
      · exact hsome
      · rw [Option.isSome_map]
        exact hsome
    | played result begins reported names current wanted outcome =>
      subst begins names
      obtain ⟨-, -, holds⟩ := visited.carries.result result reported outcome
      obtain hsome | ⟨zoneId, todo, hframe⟩ := holds session hlive current
      · exact hsome
      · cases hframe
    | _ => exact hold playing

end Moves

theorem Visited.backed {stack : List Frame} {st : BridgeRuntime}
    (h : Visited env ClosesUnseen stack st) : Backed st :=
  h.invariant (P := fun _ st => Backed st) (fun _ _ h => by cases h)
    fun _ _ _ _ visited backed move => backed.move visited move

/-- The current generation of the session has a registered stream, which is prepared and which
an encoder feeds. -/
structure Running (st : BridgeRuntime) (id : SessionId) (session : SessionRuntime) : Prop where
  wanted : session.desiredPlayback = true
  prepared : ∃ stream, session.prepared = some stream ∧ stream.generation = session.generation
  encoder : session.encoder.isSome = true
  registered : ∃ stream, st.registry.lookup id = some stream ∧
    stream.session.generation = session.generation

theorem Running.of_visited {stack : List Frame} {st : BridgeRuntime} {id : SessionId}
    {session : SessionRuntime} (h : Visited env ClosesUnseen stack st)
    (live : st.session id = some session) (playing : session.observed = .playing) :
    Running st id session := by
  obtain ⟨stream, kept⟩ := Option.isSome_iff_exists.mp (h.backed id session live playing)
  obtain ⟨wanted, current, encoder⟩ := (h.coherent.session id session live).prepared stream kept
  constructor
  · exact wanted
  · exact ⟨stream, kept, current⟩
  · rw [encoder]
    rfl
  · refine ⟨stream.liveStream, ?_, ?_⟩
    · rw [h.coherent.stream, live, Option.bind_some, encoder]
      rfl
    · exact (h.sound.kept id session live stream kept).2.generation.trans current

theorem canCoordinate_of_playingSonosSession {st : BridgeRuntime} {groups : NativeGroups}
    {walk : Nat} {sender : IpAddr} {id : SessionId}
    (h : st.playingSonosSession env groups walk sender = some id) :
    st.canCoordinate env groups sender id = true := by
  obtain found | ⟨-, found⟩ := Option.or_eq_some_iff.mp h
  · exact (List.mem_filter.mp (List.mem_of_find?_eq_some found)).2
  · exact (List.mem_filter.mp (List.mem_of_head? found)).2

/-- As long as no encoder dies under a session that is seen to play, such a session runs its
current generation, and a room is chosen as the coordinator of new rooms only if it runs or
coordinates a group already. -/
theorem running_when_playing (env : Env) :
    (∀ st, (bridge env).ReachableWhen ClosesUnseen st → ∀ id session,
      st.session id = some session → session.observed = .playing → Running st id session) ∧
    ∀ stack st, Visited env ClosesUnseen stack st → ∀ groups walk sender id,
      st.playingSonosSession env groups walk sender = some id →
        (groups.lookup id).isSome = true ∨
          ∃ session, st.session id = some session ∧ Running st id session := by
  constructor
  · intro st reachable id session live playing
    exact .of_visited (.of_reachable reachable) live playing
  · intro stack st visited groups walk sender id found
    obtain ⟨session, live, hcan⟩ := (Option.any_eq_true _ _).mp
      (canCoordinate_of_playingSonosSession found)
    simp only [Bool.and_eq_true, Bool.or_eq_true, beq_iff_eq] at hcan
    obtain ⟨⟨⟨-, playing | grouped⟩, -⟩, -⟩ := hcan
    · exact .inr ⟨session, live, .of_visited visited live playing⟩
    · exact .inl grouped

/-- The theorem at the state in which the Kitchen plays. -/
theorem running_when_kitchen_plays :
    ∃ st session, (bridge Household.env).run .new
        (Household.started 0 1 :: Household.prepares 0 ++ Household.plays 0) = some st ∧
      st.session ⟨0⟩ = some session ∧ Running st ⟨0⟩ session := by
  have hruns : (((bridge Household.env).run .new
      (Household.started 0 1 :: Household.prepares 0 ++ Household.plays 0)).bind fun st =>
        (st.session ⟨0⟩).map SessionRuntime.observed) = some .playing := by
    decide +kernel
  obtain ⟨st, hrun, hplays⟩ := Option.bind_eq_some_iff.mp hruns
  obtain ⟨session, live, playing⟩ := Option.map_eq_some_iff.mp hplays
  have reached : (bridge Household.env).ReachableWhen ClosesUnseen st := by
    refine .of_run_forall .init (fun label hlabel st => ?_) hrun
    simp only [Household.started, Household.prepares, Household.plays, List.cons_append,
      List.nil_append, List.mem_cons, List.not_mem_nil, or_false] at hlabel
    obtain rfl | rfl | rfl | rfl | rfl | rfl | rfl | rfl | rfl := hlabel <;> trivial
  exact ⟨st, session, hrun, live,
    (running_when_playing Household.env).1 st reached ⟨0⟩ session live playing⟩

/-- The encoder of the Kitchen dies while it plays. The Kitchen is told to stop and has no
stream, but it is still seen to play, and it is chosen as the coordinator of other rooms. -/
theorem playing_when_stopped :
    ∃ st session, (bridge Household.env).run .new
        (Household.started 0 1 :: Household.prepares 0 ++ Household.plays 0 ++
          [.event (.pcm ⟨0⟩ (Household.room 0) [⟨0, .closed⟩])]) = some st ∧
      st.session ⟨0⟩ = some session ∧ session.observed = .playing ∧
      session.prepared = none ∧ session.encoder = none ∧
      (st.commands (Household.room 0)).head? = some (.stop ⟨0⟩ (Household.room 0) 2) ∧
      st.playingSonosSession Household.env st.nativeGroups st.hashWalks ⟨1⟩ = some ⟨0⟩ ∧
      st.nativeGroups.lookup ⟨0⟩ = none := by
  have hruns : (((bridge Household.env).run .new
      (Household.started 0 1 :: Household.prepares 0 ++ Household.plays 0 ++
        [.event (.pcm ⟨0⟩ (Household.room 0) [⟨0, .closed⟩])])).any fun st =>
      (st.session ⟨0⟩).any fun session => decide (session.observed = .playing ∧
        session.prepared = none ∧ session.encoder = none ∧
        (st.commands (Household.room 0)).head? = some (.stop ⟨0⟩ (Household.room 0) 2) ∧
        st.playingSonosSession Household.env st.nativeGroups st.hashWalks ⟨1⟩ = some ⟨0⟩ ∧
        st.nativeGroups.lookup ⟨0⟩ = none)) = true := by
    decide +kernel
  obtain ⟨st, hrun, hfacts⟩ := (Option.any_eq_true _ _).mp hruns
  obtain ⟨session, live, hfacts⟩ := (Option.any_eq_true _ _).mp hfacts
  exact ⟨st, session, hrun, live, of_decide_eq_true hfacts⟩

end AirSonos
