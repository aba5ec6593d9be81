import AirSonos.Bridge.Lifetimes
import AirSonos.Bridge.Restart

/-!
# The grace period of a paused session

A session whose stream ended while it was paused is removed after the grace period. The
deadline stands in the session, and the message of its timer may come at any time after it,
or belong to a timer that was cancelled long ago.
-/

namespace AirSonos

open BridgeRuntime

/-- The session is started, or its playback resumes. -/
def BridgeLabel.Wakes (env : Env) (id : SessionId) : BridgeLabel → Prop
  | .event (.playbackState other _ true) => other = id
  | .event (.sessionStarted other zoneId _ _) => other = id ∧ (env.renderers zoneId).isSome = true
  | _ => False

/-- The steps after which an earlier end of the stream no longer counts for the session. -/
def BridgeLabel.Renews (env : Env) (id : SessionId) : BridgeLabel → Prop
  | .event (.streamEndedWhilePaused other _) => other = id
  | label => label.Wakes env id

theorem BridgeLabel.Wakes.renews {env : Env} {id : SessionId} {label : BridgeLabel}
    (h : label.Wakes env id) : label.Renews env id := by
  cases label with
  | event event =>
    cases event with
    | streamEndedWhilePaused => cases h
    | _ => exact h
  | _ => cases h

namespace Lifetimes

variable {env : Env} {s : Lifetimes} {label : BridgeLabel} {id : SessionId}

/-- A deadline belongs to a paused session, and its timer is pending or has sent its message. -/
structure Graced (s : Lifetimes) : Prop where
  deadline {id demand deadline} : s.demand id = some demand →
    demand.cleanupDeadline = some deadline →
      demand.desiredPlayback = false ∧ (demand.cleanupTask = some ⟨deadline, id, false⟩ ∨
        demand.cleanupTask = some ⟨deadline, id, true⟩ ∧ deadline ≤ s.now ∧ id ∈ s.cleanupRx)
  timer {id demand task} : s.demand id = some demand → demand.cleanupTask = some task →
    demand.cleanupDeadline = some task.due

theorem Graced.overdue (h : s.Graced) {demand : Demand} {deadline : Instant}
    (live : s.demand id = some demand) (ends : demand.cleanupDeadline = some deadline)
    (due : deadline ≤ s.now) : demand.overdue s.now = true := by
  unfold Demand.overdue
  rw [(h.deadline live ends).1, ends]
  simpa using due

theorem Graced.modify (h : s.Graced) {f : Demand → Demand}
    (hf : ∀ demand, s.demand id = some demand → ∀ deadline,
      (f demand).cleanupDeadline = some deadline → (f demand).desiredPlayback = false ∧
        ((f demand).cleanupTask = some ⟨deadline, id, false⟩ ∨
          (f demand).cleanupTask = some ⟨deadline, id, true⟩ ∧ deadline ≤ s.now ∧
            id ∈ s.cleanupRx))
    (htimer : ∀ demand, s.demand id = some demand → ∀ task,
      (f demand).cleanupTask = some task → (f demand).cleanupDeadline = some task.due) :
    (s.modify id f).Graced := by
  constructor
  · intro other demand deadline live ends
    simp only [Lifetimes.modify] at live
    split at live
    · case isTrue heq =>
      obtain ⟨old, hold, rfl⟩ := Option.map_eq_some_iff.mp live
      subst heq
      exact hf old hold deadline ends
    · exact h.deadline live ends
  · intro other demand task live hasTimer
    simp only [Lifetimes.modify] at live
    split at live
    · case isTrue heq =>
      obtain ⟨old, hold, rfl⟩ := Option.map_eq_some_iff.mp live
      subst heq
      exact htimer old hold task hasTimer
    · exact h.timer live hasTimer

/-- Sessions may vanish. -/
theorem Graced.of_subset {t : Lifetimes} (h : s.Graced) (now : t.now = s.now)
    (cleanupRx : t.cleanupRx = s.cleanupRx)
    (demand : ∀ id demand, t.demand id = some demand → s.demand id = some demand) :
    t.Graced where
  deadline live ends := by
    rw [now, cleanupRx]
    exact h.deadline (demand _ _ live) ends
  timer live hasTimer := h.timer (demand _ _ live) hasTimer

theorem Graced.remove (h : s.Graced) (id : SessionId) : (s.remove id).Graced := by
  refine h.of_subset rfl rfl fun other demand live => ?_
  simp only [Lifetimes.remove] at live
  split at live
  · cases live
  · exact live

theorem Graced.vacate (h : s.Graced) (zoneId : ZoneId) : (s.vacate zoneId).Graced :=
  h.of_subset rfl rfl fun _ _ live => (Option.filter_eq_some_iff.mp live).1

theorem Graced.insert_new (h : s.Graced) (id : SessionId) (zoneId : ZoneId) (format : PcmFormat)
    (sender : Option IpAddr) : (s.insert id (.new zoneId format sender)).Graced := by
  constructor
  · intro other demand deadline live ends
    simp only [Lifetimes.insert] at live
    split at live
    · cases live
      cases ends
    · exact h.deadline live ends
  · intro other demand task live hasTimer
    simp only [Lifetimes.insert] at live
    split at live
    · cases live
      cases hasTimer
    · exact h.timer live hasTimer

variable (env) in
theorem Graced.handleEvent (h : s.Graced) (event : AirPlayEvent) :
    (s.handleEvent env event).Graced := by
  cases event with
  | sessionStarted id zoneId format sender =>
    simp only [Lifetimes.handleEvent]
    split
    · exact h.vacate zoneId
    · exact (h.vacate zoneId).insert_new id zoneId format sender
  | playbackState id zoneId playing =>
    cases playing with
    | true =>
      refine h.modify (f := Demand.play) (fun _ _ deadline ends => ?_) fun _ _ task hasTimer => ?_
      · cases ends
      · cases hasTimer
    | false =>
      refine h.modify (f := Demand.pause) (fun demand live deadline ends => ?_)
        fun demand live task hasTimer => ?_
      · exact ⟨rfl, (h.deadline live ends).2⟩
      · exact (h.timer live hasTimer :)
  | flushed id playbackEpoch zoneId =>
    have hkept (demand : Demand) : ∃ epoch, Demand.flush playbackEpoch demand =
        { demand with playbackEpoch := epoch } := by
      unfold Demand.flush
      split
      · exact ⟨demand.playbackEpoch, rfl⟩
      · exact ⟨playbackEpoch, rfl⟩
    refine h.modify (f := Demand.flush playbackEpoch) (fun demand live deadline ends => ?_)
      fun demand live task hasTimer => ?_
    · obtain ⟨epoch, heq⟩ := hkept demand
      rw [heq] at ends ⊢
      exact (h.deadline live ends :)
    · obtain ⟨epoch, heq⟩ := hkept demand
      rw [heq] at hasTimer ⊢
      exact (h.timer live hasTimer :)
  | sessionStopped id zoneId => exact h.remove id
  | streamEndedWhilePaused id zoneId =>
    refine h.modify (f := Demand.endStream id s.now) (fun demand live deadline ends => ?_)
      fun demand live task hasTimer => ?_
    · unfold Demand.endStream at ends ⊢
      split at ends
      · case isTrue wanted =>
        rw [if_pos wanted]
        exact h.deadline live ends
      · case isFalse unwanted =>
        rw [if_neg unwanted]
        cases ends
        exact ⟨Bool.eq_false_iff.mpr unwanted, .inl rfl⟩
    · unfold Demand.endStream at hasTimer ⊢
      split at hasTimer
      · case isTrue wanted =>
        rw [if_pos wanted]
        exact h.timer live hasTimer
      · case isFalse unwanted =>
        rw [if_neg unwanted]
        cases hasTimer
        rfl
  | pcm => exact h
  | volume => exact h

theorem Graced.fire (h : s.Graced) (id : SessionId) : (s.fire id).Graced := by
  unfold Lifetimes.fire
  split
  · exact h
  · next task htask =>
    obtain ⟨demand, live, hasTimer⟩ := Option.bind_eq_some_iff.mp htask
    obtain ⟨due, message, fired⟩ := task
    split
    · case isTrue hdue =>
      simp only [Bool.and_eq_true, Bool.not_eq_true', decide_eq_true_eq] at hdue
      obtain ⟨pending, passed⟩ := hdue
      have hqueued : ({ s with cleanupRx := s.cleanupRx ++ [message] } : Lifetimes).Graced := by
        constructor
        · intro other demand deadline live ends
          obtain ⟨unwanted, hpending | ⟨hfired, hpassed, hsent⟩⟩ := h.deadline live ends
          · exact ⟨unwanted, .inl hpending⟩
          · exact ⟨unwanted, .inr ⟨hfired, hpassed, List.mem_append_left _ hsent⟩⟩
        · exact h.timer
      refine hqueued.modify (f := Demand.fired) (fun demand' live' deadline ends => ?_)
        fun demand' live' other hasOther => ?_
      · have same : some demand = some demand' := live.symm.trans live'
        cases same
        have ends : demand.cleanupDeadline = some deadline := ends
        rw [h.timer live hasTimer] at ends
        cases ends
        obtain ⟨unwanted, hpending | ⟨hfired, -, -⟩⟩ := h.deadline live (h.timer live hasTimer)
        · rw [hasTimer] at hpending
          cases hpending
          refine ⟨unwanted, .inr ⟨?_, passed, List.mem_append_right _ List.mem_cons_self⟩⟩
          rw [Demand.fired, hasTimer]
          rfl
        · rw [hasTimer] at hfired
          cases hfired
          cases pending
      · obtain ⟨old, hold, rfl⟩ := Option.map_eq_some_iff.mp hasOther
        exact (hqueued.timer live' hold :)
    · exact h

theorem Graced.cleanUp {rest : List SessionId} (h : s.Graced) (first : s.cleanupRx = id :: rest) :
    (cleanUp { s with cleanupRx := rest } id).Graced := by
  have hother {other : SessionId} {demand : Demand} {deadline : Instant}
      (live : s.demand other = some demand) (ends : demand.cleanupDeadline = some deadline)
      (hid : other ≠ id ∨ demand.overdue s.now = false) :
      demand.desiredPlayback = false ∧ (demand.cleanupTask = some ⟨deadline, other, false⟩ ∨
        demand.cleanupTask = some ⟨deadline, other, true⟩ ∧ deadline ≤ s.now ∧ other ∈ rest) := by
    obtain ⟨unwanted, hpending | ⟨hfired, hpassed, hsent⟩⟩ := h.deadline live ends
    · exact ⟨unwanted, .inl hpending⟩
    · refine ⟨unwanted, .inr ⟨hfired, hpassed, ?_⟩⟩
      rw [first] at hsent
      obtain rfl | hsent := List.mem_cons.mp hsent
      · rw [h.overdue live ends hpassed] at hid
        obtain hne | hkept := hid
        · exact absurd rfl hne
        · cases hkept
      · exact hsent
  unfold Lifetimes.cleanUp
  split
  · constructor
    · intro other demand deadline live ends
      simp only [Lifetimes.remove] at live
      split at live
      · cases live
      · case isFalse hne => exact hother live ends (.inl hne)
    · intro other demand task live hasTimer
      simp only [Lifetimes.remove] at live
      split at live
      · cases live
      · exact h.timer live hasTimer
  · case isFalse hkept =>
    constructor
    · intro other demand deadline live ends
      refine hother live ends ?_
      by_cases hid : other = id
      · right
        subst hid
        have live : s.demand other = some demand := live
        simpa [live] using hkept
      · exact .inl hid
    · exact h.timer

variable (env) in
theorem Graced.step (h : s.Graced) (label : BridgeLabel) : (s.step env label).Graced := by
  cases label with
  | tick elapsed =>
    constructor
    · intro id demand deadline live ends
      obtain ⟨unwanted, hpending | ⟨hfired, hpassed, hsent⟩⟩ := h.deadline live ends
      · exact ⟨unwanted, .inl hpending⟩
      · exact ⟨unwanted, .inr ⟨hfired, le_trans hpassed (Nat.le_add_right _ _), hsent⟩⟩
    · exact h.timer
  | event event => exact h.handleEvent env event
  | cleanupTimer id => exact h.fire id
  | cleanup =>
    simp only [Lifetimes.step]
    split
    · exact h
    · next first => exact h.cleanUp first
  | shutdown =>
    constructor
    · intro id demand deadline live
      cases live
    · intro id demand task live
      cases live
  | _ => exact h

/-! ### The deadline over a run -/

/-- What a step does to one session. -/
inductive DemandStep (env : Env) (s : Lifetimes) (label : BridgeLabel) (id : SessionId) :
    Option Demand → Option Demand → Prop
  | absent : DemandStep env s label id none none
  | removed {demand} : DemandStep env s label id (some demand) none
  | kept {demand demand'} (quiet : ¬label.Renews env id)
      (same : demand'.cleanupDeadline = demand.cleanupDeadline)
      (calm : demand.desiredPlayback = false → demand'.desiredPlayback = false) :
      DemandStep env s label id (some demand) (some demand')
  | inserted {old} (zoneId : ZoneId) (format : PcmFormat) (sender : Option IpAddr)
      (start_eq : label = .event (.sessionStarted id zoneId format sender))
      (wakes : label.Wakes env id) :
      DemandStep env s label id old (some (.new zoneId format sender))
  | played {demand} (wakes : label.Wakes env id) :
      DemandStep env s label id (some demand) (some demand.play)
  | ended {demand} (zoneId : ZoneId) (end_eq : label = .event (.streamEndedWhilePaused id zoneId)) :
      DemandStep env s label id (some demand) (some (demand.endStream id s.now))

namespace DemandStep

theorem same {t : Lifetimes} (demand : t.demand id = s.demand id)
    (quiet : ¬label.Renews env id) : DemandStep env s label id (s.demand id) (t.demand id) := by
  rw [demand]
  cases s.demand id with
  | none => exact .absent
  | some demand => exact .kept quiet rfl fun h => h

theorem remove (other : SessionId) (quiet : ¬label.Renews env id) :
    DemandStep env s label id (s.demand id) ((s.remove other).demand id) := by
  simp only [Lifetimes.remove]
  split
  · cases s.demand id with
    | none => exact .absent
    | some demand => exact .removed
  · exact same rfl quiet

theorem vacate (zoneId : ZoneId) (quiet : ¬label.Renews env id) :
    DemandStep env s label id (s.demand id) ((s.vacate zoneId).demand id) := by
  simp only [Lifetimes.vacate]
  cases s.demand id with
  | none => exact .absent
  | some demand =>
    rw [Option.filter_some]
    split
    · exact .kept quiet rfl fun h => h
    · exact .removed

theorem modify {f : Demand → Demand} (other : SessionId) (quiet : other ≠ id → ¬label.Renews env id)
    (hf : other = id → ∀ demand, DemandStep env s label id (some demand) (some (f demand))) :
    DemandStep env s label id (s.demand id) ((s.modify other f).demand id) := by
  simp only [Lifetimes.modify]
  split
  · case isTrue heq =>
    cases s.demand id with
    | none => exact .absent
    | some demand => exact hf heq.symm demand
  · case isFalse hne => exact same rfl (quiet (Ne.symm hne))

theorem event (event : AirPlayEvent) :
    DemandStep env s (.event event) id (s.demand id) ((s.handleEvent env event).demand id) := by
  cases event with
  | sessionStarted other zoneId format sender =>
    simp only [handleEvent]
    split
    · next missing =>
      refine vacate zoneId fun renews => ?_
      have hfound := renews.2
      rw [missing] at hfound
      cases hfound
    · next renderer found =>
      by_cases hid : id = other
      · subst hid
        simp only [insert, if_true]
        exact .inserted zoneId format sender rfl ⟨rfl, by rw [found]; rfl⟩
      · simp only [insert, if_neg hid]
        exact vacate zoneId fun renews => hid renews.1.symm
  | playbackState other zoneId playing =>
    cases playing with
    | true => exact modify other (fun hne => hne) fun heq demand => .played heq
    | false => exact modify other (fun _ h => h) fun _ demand => .kept (fun h => h) rfl fun _ => rfl
  | flushed other playbackEpoch zoneId =>
    refine modify other (fun _ h => h) fun _ demand => .kept (fun h => h) ?_ ?_
    · unfold Demand.flush
      split <;> rfl
    · unfold Demand.flush
      split <;> exact fun h => h
  | sessionStopped other zoneId => exact remove other fun h => h
  | streamEndedWhilePaused other zoneId =>
    refine modify other (fun hne => hne) fun heq demand => ?_
    subst heq
    exact .ended zoneId rfl
  | pcm => exact same rfl fun h => h
  | volume => exact same rfl fun h => h

variable (env s label id) in
theorem step : DemandStep env s label id (s.demand id) ((s.step env label).demand id) := by
  cases label with
  | event e => exact event e
  | cleanupTimer other =>
    simp only [Lifetimes.step, fire]
    split
    · exact same rfl (fun h => h)
    · split
      · exact modify other (fun _ h => h) fun _ demand => .kept (fun h => h) rfl fun h => h
      · exact same rfl (fun h => h)
  | cleanup =>
    simp only [Lifetimes.step]
    split
    · exact same rfl (fun h => h)
    · unfold cleanUp
      split
      · exact remove _ (fun h => h)
      · exact same rfl (fun h => h)
  | shutdown =>
    show DemandStep env s .shutdown id (s.demand id) none
    cases s.demand id with
    | none => exact .absent
    | some demand => exact .removed
  | _ => exact same rfl (fun h => h)

end DemandStep

theorem endStream_deadline {demand : Demand} {now deadline : Instant}
    (ends : (demand.endStream id now).cleanupDeadline = some deadline)
    (unwanted : demand.cleanupDeadline = some deadline → demand.desiredPlayback = false) :
    demand.desiredPlayback = false ∧
      deadline = now + Duration.fromSecs PAUSED_SESSION_GRACE_SECS := by
  unfold Demand.endStream at ends
  split at ends
  · case isTrue wanted =>
    rw [unwanted ends] at wanted
    cases wanted
  · case isFalse hunwanted =>
    cases ends
    exact ⟨Bool.eq_false_iff.mpr hunwanted, rfl⟩

/-- A deadline was there before the step, or the step is the end of a paused stream. -/
theorem Graced.deadline_before (h : s.Graced) {demand : Demand} {deadline : Instant}
    (live : (s.step env label).demand id = some demand)
    (ends : demand.cleanupDeadline = some deadline) :
    (¬label.Renews env id ∧ ∃ old, s.demand id = some old ∧ old.cleanupDeadline = some deadline) ∨
      ∃ zoneId old, label = .event (.streamEndedWhilePaused id zoneId) ∧ s.demand id = some old ∧
        old.desiredPlayback = false ∧
          deadline = s.now + Duration.fromSecs PAUSED_SESSION_GRACE_SECS := by
  have hstep := DemandStep.step env s label id
  generalize hbefore : s.demand id = before at hstep
  rw [live] at hstep
  cases hstep with
  | kept quiet same => exact .inl ⟨quiet, _, rfl, same ▸ ends⟩
  | inserted => cases ends
  | played => cases ends
  | @ended old zoneId end_eq =>
    obtain ⟨unwanted, rfl⟩ := endStream_deadline ends fun hold => (h.deadline hbefore hold).1
    exact .inr ⟨zoneId, old, end_eq, rfl, unwanted, rfl⟩

/-- The session is paused, unless it has ended. -/
def Paused (s : Lifetimes) (id : SessionId) : Prop :=
  ∀ demand, s.demand id = some demand → demand.desiredPlayback = false

theorem endStream_desiredPlayback (demand : Demand) (now : Instant) :
    (demand.endStream id now).desiredPlayback = demand.desiredPlayback := by
  unfold Demand.endStream
  split <;> rfl

theorem Paused.step (h : s.Paused id) (quiet : ¬label.Wakes env id) :
    (s.step env label).Paused id := by
  intro demand live
  have hstep := DemandStep.step env s label id
  generalize hbefore : s.demand id = before at hstep
  rw [live] at hstep
  cases hstep with
  | kept _ _ calm => exact calm (h _ hbefore)
  | inserted _ _ _ _ wakes => exact absurd wakes quiet
  | played wakes => exact absurd wakes quiet
  | ended => exact (endStream_desiredPlayback _ _).trans (h _ hbefore)

/-- Only a start brings a session that has ended back. -/
theorem absent_step (gone : s.demand id = none)
    (quiet : ∀ zoneId format sender, label ≠ .event (.sessionStarted id zoneId format sender)) :
    (s.step env label).demand id = none := by
  have hstep := DemandStep.step env s label id
  generalize hafter : (s.step env label).demand id = after at hstep
  rw [gone] at hstep
  cases hstep with
  | absent => rfl
  | inserted zoneId format sender start_eq => exact absurd start_eq (quiet zoneId format sender)

/-- The session ends at the deadline, unless it has ended already. -/
def Ends (s : Lifetimes) (id : SessionId) (deadline : Instant) : Prop :=
  ∀ demand, s.demand id = some demand → demand.cleanupDeadline = some deadline

theorem Ends.step {deadline : Instant} (h : s.Ends id deadline) (quiet : ¬label.Renews env id) :
    (s.step env label).Ends id deadline := by
  intro demand live
  have hstep := DemandStep.step env s label id
  generalize hbefore : s.demand id = before at hstep
  rw [live] at hstep
  cases hstep with
  | kept quiet same => exact same.trans (h _ hbefore)
  | inserted _ _ _ _ wakes => exact absurd wakes.renews quiet
  | played wakes => exact absurd wakes.renews quiet
  | ended zoneId end_eq =>
    subst end_eq
    exact absurd rfl quiet

end Lifetimes

/-- The session was paused when its stream ended, the deadline is the end of the grace period
counted from there, and nothing has renewed the session since. -/
def EndedWhilePaused (env : Env) (ls : List BridgeLabel) (id : SessionId)
    (deadline : Instant) : Prop :=
  ∃ before zoneId after mid session,
    ls = before ++ .event (.streamEndedWhilePaused id zoneId) :: after ∧
      (bridge env).run .new before = some mid ∧ mid.session id = some session ∧
        session.desiredPlayback = false ∧
          deadline = mid.now + Duration.fromSecs PAUSED_SESSION_GRACE_SECS ∧
            ∀ label ∈ after, ¬label.Renews env id

/-- The session is paused with this deadline, and its timer is pending or has sent the message
that ends the session. -/
def BridgeRuntime.AwaitsCleanup (st : BridgeRuntime) (id : SessionId) (deadline : Instant) :
    Prop :=
  ∃ session, st.session id = some session ∧ session.desiredPlayback = false ∧
    session.cleanupDeadline = some deadline ∧
      (session.cleanupTask = some ⟨deadline, id, false⟩ ∨
        deadline ≤ st.now ∧ id ∈ st.cleanupRx)

namespace BridgeRuntime

variable {env : Env} {st : BridgeRuntime} {ls : List BridgeLabel} {id : SessionId}
  {deadline : Instant}

theorem graced_of_reachable (h : (bridge env).Reachable st) : st.lifetimes.Graced := by
  refine TransitionSystem.Reachable.invariant (S := AirSonos.lifetimes env) (I := Lifetimes.Graced) ?_ ?_
    ((bridge_projects env).reachable h)
  · constructor
    · intro id demand deadline live
      cases live
    · intro id demand task live
      cases live
  · intro s label t graced taken
    cases taken
    exact graced.step env label

theorem graced_of_run (h : (bridge env).run .new ls = some st) : st.lifetimes.Graced :=
  graced_of_reachable (.of_run .init h)

theorem session_of_demand {demand : Demand} (h : st.lifetimes.demand id = some demand) :
    ∃ session, st.session id = some session ∧ session.demand = demand :=
  Option.map_eq_some_iff.mp h

/-- A deadline tells when the stream ended and that nothing renewed the session since. -/
theorem endedWhilePaused_of_deadline (h : (bridge env).run .new ls = some st)
    {session : SessionRuntime} (live : st.session id = some session)
    (ends : session.cleanupDeadline = some deadline) : EndedWhilePaused env ls id deadline := by
  have hdemands : ∀ demand, st.lifetimes.demand id = some demand →
      demand.cleanupDeadline = some deadline → EndedWhilePaused env ls id deadline := by
    refine TransitionSystem.run_induction (S := bridge env) (P := fun ls st => ∀ demand,
      st.lifetimes.demand id = some demand → demand.cleanupDeadline = some deadline →
        EndedWhilePaused env ls id deadline) ?_ ?_ h
    · intro demand hlive
      cases hlive
    · intro ls before label after hrun ih taken demand hlive hends
      have hgraced := graced_of_run hrun
      rw [lifetimes_step taken] at hlive
      obtain ⟨quiet, old, hold, hends⟩ | ⟨zoneId, old, hlabel, hold, unwanted, hdeadline⟩ :=
        hgraced.deadline_before hlive hends
      · obtain ⟨begun, zoneId, since, mid, session, rfl, hmid⟩ := ih old hold hends
        refine ⟨begun, zoneId, since ++ [label], mid, session, by simp, hmid.1, hmid.2.1,
          hmid.2.2.1, hmid.2.2.2.1, fun other hother => ?_⟩
        obtain hother | hother := List.mem_append.mp hother
        · exact hmid.2.2.2.2 other hother
        · rw [List.mem_singleton.mp hother]
          exact quiet
      · obtain ⟨session, hsession, rfl⟩ := session_of_demand hold
        subst hlabel
        exact ⟨ls, zoneId, [], before, session, rfl, hrun, hsession, unwanted, hdeadline,
          fun _ hother => by cases hother⟩
  exact hdemands session.demand (lifetimes_demand_of_some live) ends

/-- Whatever follows the end of the stream, short of a renewal, leaves the deadline alone. -/
theorem ends_of_endedWhilePaused (h : (bridge env).run .new ls = some st)
    (ended : EndedWhilePaused env ls id deadline) : st.lifetimes.Ends id deadline := by
  obtain ⟨before, zoneId, after, mid, session, rfl, hbefore, live, unwanted, rfl, quiet⟩ := ended
  rw [TransitionSystem.run_append, hbefore, Option.bind_some] at h
  obtain ⟨paused, htaken, hafter⟩ := Option.bind_eq_some_iff.mp h
  replace htaken : mid.step env (.event (.streamEndedWhilePaused id zoneId)) = some paused := htaken
  have hends : paused.lifetimes.Ends id
      (mid.now + Duration.fromSecs PAUSED_SESSION_GRACE_SECS) := by
    intro demand hlive
    rw [lifetimes_step htaken] at hlive
    simp only [Lifetimes.step, Lifetimes.handleEvent, Lifetimes.modify, if_true,
      lifetimes_demand_of_some live, Option.map_some, Option.some.injEq] at hlive
    subst hlive
    have unwanted : session.demand.desiredPlayback = false := unwanted
    rw [Demand.endStream, if_neg (by rw [unwanted]; exact Bool.false_ne_true)]
    rfl
  clear h htaken
  induction after generalizing paused with
  | nil =>
    cases hafter
    exact hends
  | cons label rest ih =>
    obtain ⟨next, htaken, hrest⟩ := Option.bind_eq_some_iff.mp hafter
    refine ih (fun other hother => quiet other (List.mem_cons_of_mem _ hother)) next hrest ?_
    rw [lifetimes_step htaken]
    exact hends.step (quiet label List.mem_cons_self)

theorem awaitsCleanup_of_deadline (h : (bridge env).run .new ls = some st)
    {session : SessionRuntime} (live : st.session id = some session)
    (ends : session.cleanupDeadline = some deadline) : st.AwaitsCleanup id deadline := by
  obtain ⟨unwanted, pending | ⟨-, passed, sent⟩⟩ :=
    (graced_of_run h).deadline (lifetimes_demand_of_some live) ends
  · exact ⟨session, live, unwanted, ends, .inl pending⟩
  · exact ⟨session, live, unwanted, ends, .inr ⟨passed, sent⟩⟩

theorem overdue_of_removed {st' : BridgeRuntime} {session : SessionRuntime}
    (live : st.session id = some session) (taken : st.step env .cleanup = some st')
    (gone : st'.session id = none) : session.demand.overdue st.now = true := by
  have hgone := lifetimes_demand_of_none gone
  rw [lifetimes_step taken] at hgone
  simp only [Lifetimes.step] at hgone
  have hlive := lifetimes_demand_of_some live
  split at hgone
  · rw [hlive] at hgone
    cases hgone
  · next first rest hqueue =>
    unfold Lifetimes.cleanUp at hgone
    split at hgone
    · case isTrue hoverdue =>
      simp only [Lifetimes.remove] at hgone
      split at hgone
      · case isTrue heq =>
        subst heq
        rw [show ({ st.lifetimes with cleanupRx := rest } : Lifetimes).demand id =
          some session.demand from hlive] at hoverdue
        exact hoverdue
      · rw [hlive] at hgone
        cases hgone
    · rw [show ({ st.lifetimes with cleanupRx := rest } : Lifetimes).demand id =
        some session.demand from hlive] at hgone
      cases hgone

theorem removed_of_awaitsCleanup (h : (bridge env).run .new ls = some st)
    (running : st.stopped = false) (awaits : st.AwaitsCleanup id deadline)
    (due : deadline ≤ st.now) (first : st.cleanupRx.head? = some id) :
    ∃ st', st.step env .cleanup = some st' ∧ st'.session id = none := by
  obtain ⟨rest, hqueue⟩ := List.head?_eq_some_iff.mp first
  obtain ⟨st', hst'⟩ := handleCleanup_total env st.takeCleanup id
  have taken : st.step env .cleanup = some st' := by
    simp only [step, running, Bool.false_eq_true, if_false, serve, first, Option.bind_some, hst']
  refine ⟨st', taken, session_eq_none_of_demand ?_⟩
  obtain ⟨session, live, -, ends, -⟩ := awaits
  have hoverdue := (graced_of_run h).overdue (lifetimes_demand_of_some live) ends due
  have hlive : st.takeCleanup.lifetimes.demand id = some session.demand :=
    lifetimes_demand_of_some live
  have hremoved : st'.lifetimes = st.takeCleanup.lifetimes.remove id := by
    rw [lifetimes_handleCleanup hst', Lifetimes.cleanUp, if_pos]
    rw [hlive]
    exact hoverdue
  exact (congrFun (congrArg Lifetimes.demand hremoved) id).trans (if_pos rfl)

theorem fired_of_awaitsCleanup (awaits : st.AwaitsCleanup id deadline) (due : deadline ≤ st.now) :
    id ∈ st.cleanupRx ∨
      ∃ st', st.step env (.cleanupTimer id) = some st' ∧ id ∈ st'.cleanupRx := by
  obtain ⟨session, live, -, -, pending | ⟨-, sent⟩⟩ := awaits
  · right
    refine ⟨st.sendCleanup id ⟨deadline, id, false⟩, ?_,
      List.mem_append_right _ List.mem_cons_self⟩
    simp only [step, fireCleanup, live, Option.bind_some, pending, Bool.not_false, Bool.true_and,
      due, decide_true, if_true]
  · exact .inl sent

end BridgeRuntime

/-- The cleanup branch removes a session only when the stream ended while the session was
paused, the grace period since the latest such end has passed and nothing has renewed the
session. A session whose stream ended so and that nothing renewed, whatever else happened to
it, keeps its deadline and its timer, and the first message for it after the deadline removes
it. -/
theorem grace_period (env : Env) (ls : List BridgeLabel) (st : BridgeRuntime)
    (h : (bridge env).run .new ls = some st) (id : SessionId) :
    (∀ session st', st.session id = some session → st.step env .cleanup = some st' →
      st'.session id = none → session.desiredPlayback = false ∧
        ∃ deadline, EndedWhilePaused env ls id deadline ∧ deadline ≤ st.now) ∧
    ∀ deadline, EndedWhilePaused env ls id deadline → st.session id = none ∨
      st.AwaitsCleanup id deadline ∧
        (deadline ≤ st.now → (id ∈ st.cleanupRx ∨
          ∃ st', st.step env (.cleanupTimer id) = some st' ∧ id ∈ st'.cleanupRx) ∧
        (st.stopped = false → st.cleanupRx.head? = some id →
          ∃ st', st.step env .cleanup = some st' ∧ st'.session id = none)) := by
  constructor
  · intro session st' live taken gone
    have hoverdue := overdue_of_removed live taken gone
    simp only [Demand.overdue, Bool.and_eq_true, Bool.not_eq_true'] at hoverdue
    obtain ⟨unwanted, hdeadline⟩ := hoverdue
    obtain ⟨deadline, ends, hpassed⟩ := (Option.any_eq_true _ _).mp hdeadline
    exact ⟨unwanted, deadline, endedWhilePaused_of_deadline h live ends,
      of_decide_eq_true hpassed⟩
  · intro deadline ended
    cases hlive : st.session id with
    | none => exact .inl rfl
    | some session =>
      right
      have ends : session.cleanupDeadline = some deadline :=
        ends_of_endedWhilePaused h ended session.demand (lifetimes_demand_of_some hlive)
      have awaits := awaitsCleanup_of_deadline h hlive ends
      exact ⟨awaits, fun due => ⟨fired_of_awaitsCleanup awaits due,
        fun running first => removed_of_awaitsCleanup h running awaits due first⟩⟩

/-- The Kitchen pauses, its stream ends, it pauses again, and after a minute it is gone. -/
theorem grace_period_of_kitchen :
    ∃ st st', (bridge Household.env).run .new [Household.started 0 1,
        .event (.playbackState ⟨0⟩ (Household.room 0) false),
        .event (.streamEndedWhilePaused ⟨0⟩ (Household.room 0)),
        .event (.playbackState ⟨0⟩ (Household.room 0) false),
        .tick (Duration.fromSecs 60), .cleanupTimer ⟨0⟩] = some st ∧
      (∃ session, st.session ⟨0⟩ = some session) ∧
      st.step Household.env .cleanup = some st' ∧ st'.session ⟨0⟩ = none := by
  have hruns : ((bridge Household.env).run .new [Household.started 0 1,
      .event (.playbackState ⟨0⟩ (Household.room 0) false),
      .event (.streamEndedWhilePaused ⟨0⟩ (Household.room 0)),
      .event (.playbackState ⟨0⟩ (Household.room 0) false),
      .tick (Duration.fromSecs 60), .cleanupTimer ⟨0⟩]).any (fun st =>
        (st.session ⟨0⟩).isSome && decide (Duration.fromSecs 60 ≤ st.now ∧ st.stopped = false ∧
          st.cleanupRx.head? = some ⟨0⟩)) = true := by
    decide +kernel
  have hpaused : (((bridge Household.env).run .new [Household.started 0 1,
      .event (.playbackState ⟨0⟩ (Household.room 0) false)]).bind fun mid =>
        (mid.session ⟨0⟩).map fun session => (mid.now, session.desiredPlayback)) =
          some (0, false) := by
    decide +kernel
  obtain ⟨mid, hmid, hfacts⟩ := Option.bind_eq_some_iff.mp hpaused
  obtain ⟨session, live, hpair⟩ := Option.map_eq_some_iff.mp hfacts
  obtain ⟨hnow, unwanted⟩ := Prod.mk.inj hpair
  obtain ⟨st, hrun, hst⟩ := (Option.any_eq_true _ _).mp hruns
  simp only [Bool.and_eq_true, decide_eq_true_eq] at hst
  obtain ⟨hlive, due, running, first⟩ := hst
  have ended : EndedWhilePaused Household.env [Household.started 0 1,
      .event (.playbackState ⟨0⟩ (Household.room 0) false),
      .event (.streamEndedWhilePaused ⟨0⟩ (Household.room 0)),
      .event (.playbackState ⟨0⟩ (Household.room 0) false),
      .tick (Duration.fromSecs 60), .cleanupTimer ⟨0⟩] ⟨0⟩ (Duration.fromSecs 60) := by
    refine ⟨[_, _], _, [_, _, _], mid, session, rfl, hmid, live, unwanted, ?_, ?_⟩
    · rw [hnow]
      rfl
    · intro label hlabel
      simp only [List.mem_cons, List.not_mem_nil, or_false] at hlabel
      obtain rfl | rfl | rfl := hlabel <;> exact fun h => h
  obtain hgone | ⟨-, hends⟩ :=
    (grace_period Household.env _ st hrun ⟨0⟩).2 (Duration.fromSecs 60) ended
  · rw [hgone] at hlive
    cases hlive
  · obtain ⟨st', taken, hgone⟩ := (hends due).2 running first
    exact ⟨st, st', hrun, Option.isSome_iff_exists.mp hlive, taken, hgone⟩

end AirSonos
