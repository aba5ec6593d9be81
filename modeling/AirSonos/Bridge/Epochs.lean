import AirSonos.Bridge.SessionSteps
import AirSonos.Bridge.Lifetimes

/-!
# Streams have the playback epoch of their session

A flush gives a session its new epoch before the old stream is taken down. Until the restart
has come so far the encoder still writes the stream of the epoch before; between handlers it
never does.
-/

namespace AirSonos

open Relation BridgeRuntime

variable {env : Env} {guard : BridgeRuntime → BridgeLabel → Prop}

def SessionRuntime.Matched (session : SessionRuntime) : Prop :=
  ∀ encoder, session.encoder = some encoder →
    encoder.stream.playbackEpoch = session.playbackEpoch

def Matched (stack : List Frame) (st : BridgeRuntime) : Prop :=
  ∀ id session, st.session id = some session → Restarting stack id ∨ session.Matched

/-- A session that is being rebuilt and keeps its generation is still to be rebuilt. -/
theorem Restarting.kept {stack stack' : List Frame} {st st' : BridgeRuntime} {id : SessionId}
    {session session' : SessionRuntime} (move : Move env guard stack st stack' st')
    (coherent : Coherent env stack st) (live : st.session id = some session)
    (live' : st'.session id = some session') (same : session'.generation = session.generation)
    (h : Restarting stack id) : Restarting stack' id := by
  have hgeneration : st'.generationOf id = some session'.generation := by
    simp only [BridgeRuntime.generationOf, live', Option.map_some]
  obtain ⟨-, hkept⟩ | hnew | hrestarting :=
    (GenerationStep.move move).session id session'.generation hgeneration
  · exact hkept h
  · have hbounded := (coherent.session id session live).bounded
    omega
  · exact hrestarting

/-- A session is not paused and rebuilt at once: it would and would not want playback. -/
theorem Pausing.not_restarting {stack : List Frame} {st : BridgeRuntime} {id : SessionId}
    (framed : Framed stack st) (pausing : Pausing stack id) : ¬Restarting stack id := by
  rintro ⟨zoneId, todo, hrestart⟩
  obtain ⟨zoneId', todo', hpause⟩ := pausing
  obtain ⟨session, live, wanted⟩ := framed _ _ hrestart
  obtain ⟨session', live', unwanted⟩ := framed _ _ hpause
  rw [live] at live'
  cases live'
  rw [wanted] at unwanted
  cases unwanted

theorem Matched.move {stack stack' : List Frame} {st st' : BridgeRuntime} (h : Matched stack st)
    (coherent : Coherent env stack st) (framed : Framed stack st)
    (move : Move env guard stack st stack' st') : Matched stack' st' := by
  intro id session' live'
  have hstep := SessionStep.move move id
  rw [live'] at hstep
  generalize hold : st.session id = old at hstep
  have hkeep {session : SessionRuntime} (live : st.session id = some session)
      (generation : session'.generation = session.generation)
      (encoder : session'.encoder = session.encoder)
      (epoch : session'.playbackEpoch = session.playbackEpoch) :
      Restarting stack' id ∨ session'.Matched := by
    obtain hrestarting | hmatched := h id session live
    · exact .inl (hrestarting.kept move coherent live live' generation)
    · right
      intro new hnew
      rw [epoch]
      exact hmatched new (encoder ▸ hnew)
  cases hstep with
  | inserted =>
    right
    intro new hnew
    cases hnew
  | @edited session _ edit =>
    cases edit with
    | retired attempts task encoder matching => exact .inr matching
    | encoderClosed =>
      right
      intro new hnew
      cases hnew
    | flushed playbackEpoch encoder task begins newer keeps renewed =>
      obtain rfl | hrestarting := renewed
      · right
        intro new hnew
        cases hnew
      · exact .inl hrestarting
    | stopped pausing =>
      obtain hrestarting | hmatched := h id session hold
      · exact absurd hrestarting (pausing.not_restarting framed)
      · exact .inr hmatched
    | planned plan => cases plan <;> exact hkeep hold rfl rfl rfl
    | _ => exact hkeep hold rfl rfl rfl

theorem Visited.matched {stack : List Frame} {st : BridgeRuntime} (h : Visited env guard stack st) :
    Matched stack st := by
  refine h.invariant (P := fun stack st => Matched stack st) ?_ ?_
  · intro id session live
    cases live
  · intro stack st stack' st' visited matched move
    exact matched.move visited.coherent visited.framed move

/-- Between handlers an encoder writes a stream of its session's epoch. -/
theorem matched_of_reachable {st : BridgeRuntime} (h : (bridge env).Reachable st) {id : SessionId}
    {session : SessionRuntime} (live : st.session id = some session) : session.Matched :=
  ((Visited.of_reachable h).matched id session live).resolve_left (not_restarting_nil id)

/-! ### The epoch of a session -/

def BridgeRuntime.epochOf (st : BridgeRuntime) (id : SessionId) : Option Nat :=
  (st.session id).map SessionRuntime.playbackEpoch

def AirPlayEvent.starts (id : SessionId) : AirPlayEvent → Bool
  | sessionStarted other _ _ _ => other == id
  | _ => false

/-- The epoch of a flush of the session. -/
def AirPlayEvent.flush? (id : SessionId) : AirPlayEvent → Option Nat
  | flushed other playbackEpoch _ => if other = id then some playbackEpoch else none
  | _ => none

theorem AirPlayEvent.flush?_of_starts {id : SessionId} {event : AirPlayEvent}
    (starts : event.starts id = true) : event.flush? id = none := by
  cases event with
  | sessionStarted => rfl
  | _ => cases starts

def BridgeLabel.event? : BridgeLabel → Option AirPlayEvent
  | event airPlayEvent => some airPlayEvent
  | _ => none

namespace Lifetimes

def epochOf (s : Lifetimes) (id : SessionId) : Option Nat :=
  (s.demand id).map Demand.playbackEpoch

variable {s : Lifetimes} {id : SessionId} {epoch : Nat}

theorem epochOf_modify {other : SessionId} {f : Demand → Demand}
    (same : ∀ demand, (f demand).playbackEpoch = demand.playbackEpoch) :
    (s.modify other f).epochOf id = s.epochOf id := by
  simp only [epochOf, modify]
  split
  · cases s.demand id with
    | none => rfl
    | some demand => exact congrArg some (same demand)
  · rfl

theorem epochOf_remove {other : SessionId} (live : (s.remove other).epochOf id = some epoch) :
    s.epochOf id = some epoch := by
  simp only [epochOf, remove] at live ⊢
  split at live
  · cases live
  · exact live

theorem epochOf_vacate {zoneId : ZoneId} (live : (s.vacate zoneId).epochOf id = some epoch) :
    s.epochOf id = some epoch := by
  simp only [epochOf, vacate] at live ⊢
  obtain ⟨demand, hfound, hepoch⟩ := Option.map_eq_some_iff.mp live
  rw [(Option.filter_eq_some_iff.mp hfound).1, Option.map_some, hepoch]

theorem playbackEpoch_flush (playbackEpoch : Nat) (demand : Demand) :
    (demand.flush playbackEpoch).playbackEpoch = max demand.playbackEpoch playbackEpoch := by
  unfold Demand.flush
  split
  · case isTrue hold => exact (Nat.max_eq_left hold).symm
  · case isFalse hnew => exact (Nat.max_eq_right (Nat.le_of_lt (Nat.lt_of_not_le hnew))).symm

/-- An event starts the session with epoch 0, or raises its epoch to that of a flush. -/
theorem epochOf_handleEvent {event : AirPlayEvent}
    (live : (s.handleEvent env event).epochOf id = some epoch) :
    event.starts id = true ∧ epoch = 0 ∨
      ∃ old, s.epochOf id = some old ∧ epoch = max old ((event.flush? id).getD 0) := by
  have hkept (kept : s.epochOf id = some epoch) :
      ∃ old, s.epochOf id = some old ∧ epoch = max old 0 :=
    ⟨epoch, kept, (Nat.max_zero _).symm⟩
  cases event with
  | sessionStarted other zoneId format sender =>
    simp only [handleEvent] at live
    split at live
    · exact .inr (hkept (epochOf_vacate live))
    · by_cases heq : id = other
      · simp only [epochOf, insert, if_pos heq, Option.map_some, Option.some.injEq] at live
        subst heq
        exact .inl ⟨beq_self_eq_true id, live.symm⟩
      · simp only [epochOf, insert, if_neg heq] at live
        exact .inr (hkept (epochOf_vacate live))
  | pcm => exact .inr (hkept live)
  | playbackState other zoneId playing =>
    refine .inr (hkept ?_)
    rw [← live]
    exact (epochOf_modify fun demand => by cases playing <;> rfl).symm
  | flushed other playbackEpoch zoneId =>
    by_cases heq : other = id
    · subst heq
      simp only [handleEvent, epochOf, modify, if_true] at live
      obtain ⟨demand, hflushed, hepoch⟩ := Option.map_eq_some_iff.mp live
      obtain ⟨old, hold, rfl⟩ := Option.map_eq_some_iff.mp hflushed
      refine .inr ⟨old.playbackEpoch, ?_, ?_⟩
      · rw [epochOf, hold, Option.map_some]
      · rw [← hepoch, playbackEpoch_flush, AirPlayEvent.flush?, if_pos rfl, Option.getD_some]
    · simp only [handleEvent, epochOf, modify, if_neg (Ne.symm heq)] at live
      simp only [AirPlayEvent.flush?, if_neg heq]
      exact .inr (hkept live)
  | volume => exact .inr (hkept live)
  | sessionStopped => exact .inr (hkept (epochOf_remove live))
  | streamEndedWhilePaused other zoneId =>
    refine .inr (hkept ?_)
    rw [← live]
    refine (epochOf_modify fun demand => ?_).symm
    unfold Demand.endStream
    split <;> rfl

theorem epochOf_step {label : BridgeLabel} (live : (s.step env label).epochOf id = some epoch) :
    (∃ event, label.event? = some event ∧ event.starts id = true ∧ epoch = 0) ∨
      ∃ old, s.epochOf id = some old ∧
        epoch = max old ((label.event?.bind (AirPlayEvent.flush? id)).getD 0) := by
  have hkept (kept : s.epochOf id = some epoch) :
      ∃ old, s.epochOf id = some old ∧ epoch = max old 0 :=
    ⟨epoch, kept, (Nat.max_zero _).symm⟩
  cases label with
  | event event =>
    obtain ⟨hstarts, hzero⟩ | hold := epochOf_handleEvent live
    · exact .inl ⟨event, rfl, hstarts, hzero⟩
    · exact .inr hold
  | cleanupTimer other =>
    refine .inr (hkept ?_)
    simp only [step, fire] at live
    split at live
    · exact live
    · split at live
      · have hfired : (s.modify other Demand.fired).epochOf id = s.epochOf id :=
          epochOf_modify fun _ => rfl
        exact hfired ▸ live
      · exact live
  | cleanup =>
    refine .inr (hkept ?_)
    simp only [step] at live
    split at live
    · exact live
    · simp only [cleanUp] at live
      split at live
      · exact epochOf_remove live
      · exact live
  | shutdown => cases live
  | _ => exact .inr (hkept live)

end Lifetimes

theorem epochOf_lifetimes (st : BridgeRuntime) (id : SessionId) :
    st.lifetimes.epochOf id = st.epochOf id := by
  simp only [Lifetimes.epochOf, BridgeRuntime.lifetimes, BridgeRuntime.demand,
    BridgeRuntime.epochOf, Option.map_map]
  rfl

/-- A step starts the session with epoch 0, or raises its epoch to that of a flush. -/
theorem epochOf_step {st st' : BridgeRuntime} {label : BridgeLabel}
    (h : st.step env label = some st') {id : SessionId} {epoch : Nat}
    (live : st'.epochOf id = some epoch) :
    (∃ event, label.event? = some event ∧ event.starts id = true ∧ epoch = 0) ∨
      ∃ old, st.epochOf id = some old ∧
        epoch = max old ((label.event?.bind (AirPlayEvent.flush? id)).getD 0) := by
  rw [← epochOf_lifetimes, lifetimes_step h] at live
  rw [← epochOf_lifetimes]
  exact Lifetimes.epochOf_step live

/-- What neither starts nor flushes the session keeps its epoch. -/
theorem epochOf_quiet {st st' : BridgeRuntime} {label : BridgeLabel} {id : SessionId}
    (step : st.step env label = some st')
    (quiet : ∀ event, label.event? = some event → event.starts id = false ∧ event.flush? id = none)
    {epoch : Nat} (live : st'.epochOf id = some epoch) : st.epochOf id = some epoch := by
  obtain ⟨event, hevent, hstarts, -⟩ | ⟨old, hold, rfl⟩ := epochOf_step step live
  · rw [(quiet event hevent).1] at hstarts
    cases hstarts
  · have hnone : label.event?.bind (AirPlayEvent.flush? id) = none := by
      cases hlabel : label.event? with
      | none => rfl
      | some event => exact (quiet event hlabel).2
    rw [hnone, Option.getD_none, Nat.max_zero]
    exact hold

end AirSonos
