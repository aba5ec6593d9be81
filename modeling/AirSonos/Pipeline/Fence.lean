import AirSonos.Pipeline.Provenance

/-!
# A flush is an exact fence

The channel keeps the order in which the audio thread sent its events. So a Pcm event is read
after the flush that made its queue and before the next one, while the session has the epoch of
that queue. Nothing that was taken before a flush is published by a stream of a later epoch,
and no frame of a live session is turned away for its epoch.
-/

namespace AirSonos

variable {env : PipelineEnv} {st after : Pipeline} {label : PipelineLabel}

def Message.starts (id : SessionId) : Message → Bool
  | event airPlayEvent => airPlayEvent.starts id
  | pcm _ => false

/-- Read from the first epoch on, the messages lead the session to the last one. A Pcm event
finds the epoch of its queue, and the session starts with the epoch 0. -/
inductive Aligned (id : SessionId) : Nat → List Message → Nat → Prop
  | nil {epoch : Nat} : Aligned id epoch [] epoch
  | event {epoch last : Nat} {event : AirPlayEvent} {rest : List Message}
      (start : event.starts id = true → epoch = 0)
      (tail : Aligned id (max epoch ((event.flush? id).getD 0)) rest last) :
      Aligned id epoch (.event event :: rest) last
  | pcm {epoch queue last : Nat} {rest : List Message} (current : epoch = epochAt queue)
      (tail : Aligned id epoch rest last) : Aligned id epoch (.pcm queue :: rest) last

namespace Aligned

variable {id : SessionId} {epoch last : Nat} {messages : List Message}

theorem le (h : Aligned id epoch messages last) : epoch ≤ last := by
  induction h with
  | nil => exact Nat.le_refl _
  | event _ _ ih => exact (Nat.le_max_left _ _).trans ih
  | pcm _ _ ih => exact ih

theorem zero_of_starts (h : Aligned id epoch messages last)
    (pending : ∃ message ∈ messages, message.starts id = true) : epoch = 0 := by
  induction h with
  | nil => obtain ⟨message, hmem, -⟩ := pending; cases hmem
  | event start _ ih =>
    obtain ⟨message, hmem, hstarts⟩ := pending
    obtain rfl | hrest := List.mem_cons.mp hmem
    · exact start hstarts
    · have hzero := ih ⟨message, hrest, hstarts⟩
      exact Nat.le_zero.mp ((Nat.le_max_left _ _).trans hzero.le)
  | pcm _ _ ih =>
    obtain ⟨message, hmem, hstarts⟩ := pending
    obtain rfl | hrest := List.mem_cons.mp hmem
    · cases hstarts
    · exact ih ⟨message, hrest, hstarts⟩

theorem send (h : Aligned id epoch messages last) (event : AirPlayEvent)
    (start : event.starts id = true → last = 0) :
    Aligned id epoch (messages ++ [.event event]) (max last ((event.flush? id).getD 0)) := by
  induction h with
  | nil => exact .event start .nil
  | event first _ ih => exact .event first (ih start)
  | pcm current _ ih => exact .pcm current (ih start)

/-- An event that does not flush the session. -/
theorem send_other (h : Aligned id epoch messages last) {event : AirPlayEvent}
    (start : event.starts id = true → last = 0) (flush : event.flush? id = none) :
    Aligned id epoch (messages ++ [.event event]) last := by
  have hsent := h.send event start
  rw [flush, Option.getD_none, Nat.max_zero] at hsent
  exact hsent

theorem notify (h : Aligned id epoch messages last) {queue : Nat} (current : last = epochAt queue) :
    Aligned id epoch (messages ++ [.pcm queue]) last := by
  induction h with
  | nil => exact .pcm current .nil
  | event first _ ih => exact .event first (ih current)
  | pcm held _ ih => exact .pcm held (ih current)

end Aligned

/-- The queue of the batch that the handler is in. -/
def PcmBatch.queue? : PcmBatch → Option Nat
  | idle => none
  | batch queue _ => some queue
  | popped queue _ _ => some queue
  | writing queue _ _ _ => some queue

/-- The session and the channel together lead to the epoch of the audio thread. While the
session has not started, it does so from the epoch 0. -/
structure Synced (env : PipelineEnv) (st : Pipeline) : Prop where
  unstarted : st.audio.announced = false ∨
      (∃ message ∈ st.events, message.starts env.sessionId = true) →
    st.runtime.epochOf env.sessionId = none ∧
      Aligned env.sessionId 0 st.events st.audio.playbackEpoch
  started : ∀ epoch, st.runtime.epochOf env.sessionId = some epoch →
    Aligned env.sessionId epoch st.events st.audio.playbackEpoch
  once : st.events.countP (Message.starts env.sessionId) ≤ st.audio.announced.toNat
  fresh : st.audio.announced = false →
    st.audio.playbackEpoch = 0 ∧ st.audio.call = .returned ∧ st.audio.unsent = false
  handled : ∀ queue, st.handler.queue? = some queue → ∀ epoch,
    st.runtime.epochOf env.sessionId = some epoch → epoch = epochAt queue

namespace Synced

/-- What the session and the channel are about has not changed. -/
theorem kept (h : Synced env st) (events : after.events = st.events)
    (announced : after.audio.announced = st.audio.announced)
    (epoch : after.audio.playbackEpoch = st.audio.playbackEpoch)
    (fresh : st.audio.announced = false → after.audio.call = .returned ∧ after.audio.unsent = false)
    (handled : ∀ queue, after.handler.queue? = some queue → st.handler.queue? = some queue)
    (runtime : ∀ epoch, after.runtime.epochOf env.sessionId = some epoch →
      st.runtime.epochOf env.sessionId = some epoch) : Synced env after where
  unstarted := by
    intro unstarted
    rw [events, announced] at unstarted
    obtain ⟨hnone, haligned⟩ := h.unstarted unstarted
    rw [events, epoch]
    refine ⟨?_, haligned⟩
    apply Option.eq_none_iff_forall_ne_some.mpr
    intro live hlive
    rw [runtime live hlive] at hnone
    cases hnone
  started := by
    intro live hlive
    rw [events, epoch]
    exact h.started live (runtime live hlive)
  once := by
    rw [events, announced]
    exact h.once
  fresh := by
    intro unannounced
    rw [announced] at unannounced
    rw [epoch]
    exact ⟨(h.fresh unannounced).1, fresh unannounced⟩
  handled := by
    intro queue hqueue live hlive
    exact h.handled queue (handled queue hqueue) live (runtime live hlive)

/-- The audio thread sends a message. -/
theorem send (h : Synced env st) {message : Message} {last : Nat}
    (events : after.events = st.events ++ [message]) (runtime : after.runtime = st.runtime)
    (handler : after.handler = st.handler) (announced : after.audio.announced = true)
    (epoch : after.audio.playbackEpoch = last)
    (aligned : ∀ first, Aligned env.sessionId first st.events st.audio.playbackEpoch →
      Aligned env.sessionId first (st.events ++ [message]) last)
    (start : message.starts env.sessionId = true → st.audio.announced = false) :
    Synced env after where
  unstarted := by
    intro unstarted
    have hunstarted : st.audio.announced = false ∨
        ∃ other ∈ st.events, other.starts env.sessionId = true := by
      rw [announced, events] at unstarted
      obtain hfalse | ⟨other, hmem, hstarts⟩ := unstarted
      · cases hfalse
      · obtain hold | hnew := List.mem_append.mp hmem
        · exact .inr ⟨other, hold, hstarts⟩
        · rw [List.mem_singleton.mp hnew] at hstarts
          exact .inl (start hstarts)
    obtain ⟨hnone, haligned⟩ := h.unstarted hunstarted
    rw [runtime, events, epoch]
    exact ⟨hnone, aligned 0 haligned⟩
  started := by
    intro live hlive
    rw [runtime] at hlive
    rw [events, epoch]
    exact aligned live (h.started live hlive)
  once := by
    have honce := h.once
    rw [events, announced, List.countP_append]
    cases hstarts : message.starts env.sessionId with
    | true =>
      rw [start hstarts, Bool.toNat_false] at honce
      simp only [List.countP_singleton, hstarts, if_true, Bool.toNat_true]
      omega
    | false =>
      have hle : st.audio.announced.toNat ≤ 1 := Bool.toNat_le _
      simp only [List.countP_singleton, hstarts, Bool.false_eq_true, if_false,
        Bool.toNat_true]
      omega
  fresh := by
    intro unannounced
    rw [announced] at unannounced
    cases unannounced
  handled := by
    intro queue hqueue live hlive
    rw [handler] at hqueue
    rw [runtime] at hlive
    exact h.handled queue hqueue live hlive

/-- Someone else sends an event. -/
theorem sendForeign (h : Synced env st) {event : AirPlayEvent}
    (foreign : event.ofAudio env.sessionId = false) : Synced env (st.sendEvent event) := by
  have hstarts : event.starts env.sessionId = false := by
    cases event with
    | sessionStarted => exact foreign
    | _ => rfl
  have hflush : event.flush? env.sessionId = none := by
    cases event with
    | flushed => exact if_neg (beq_eq_false_iff_ne.mp foreign)
    | _ => rfl
  have hsent {first : Nat} (haligned : Aligned env.sessionId first st.events st.audio.playbackEpoch) :
      Aligned env.sessionId first (st.events ++ [.event event]) st.audio.playbackEpoch := by
    refine haligned.send_other (fun starts => ?_) hflush
    rw [hstarts] at starts
    cases starts
  refine { unstarted := ?_, started := ?_, once := ?_, fresh := h.fresh, handled := h.handled }
  · intro unstarted
    have hunstarted : st.audio.announced = false ∨
        ∃ message ∈ st.events, message.starts env.sessionId = true := by
      refine unstarted.imp_right fun ⟨message, hmem, starts⟩ => ?_
      obtain hold | hnew := List.mem_append.mp hmem
      · exact ⟨message, hold, starts⟩
      · rw [List.mem_singleton.mp hnew, Message.starts, hstarts] at starts
        cases starts
    exact ⟨(h.unstarted hunstarted).1, hsent (h.unstarted hunstarted).2⟩
  · exact fun live hlive => hsent (h.started live hlive)
  · simp only [Pipeline.sendEvent, List.countP_append, List.countP_singleton, Message.starts,
      hstarts, Bool.false_eq_true, if_false, Nat.add_zero]
    exact h.once

theorem announced_of_call (h : Synced env st) (call : st.audio.call ≠ .returned) :
    st.audio.announced = true :=
  Bool.of_not_eq_false fun unannounced => call (h.fresh unannounced).2.1

theorem announced_of_unsent (h : Synced env st) (unsent : st.audio.unsent = true) :
    st.audio.announced = true := by
  apply Bool.of_not_eq_false
  intro unannounced
  rw [(h.fresh unannounced).2.2] at unsent
  cases unsent

theorem announced_of_ready (ready : st.ready = true) : st.audio.announced = true := by
  simp only [Pipeline.ready, Bool.and_eq_true] at ready
  exact ready.1.1.1

theorem audioStep (h : Synced env st) (sourced : Sourced st)
    (step : AudioStep env st label after) : Synced env after := by
  have hstay (announced : st.audio.announced = true) (events : after.events = st.events)
      (audio : after.audio.announced = st.audio.announced ∧
        after.audio.playbackEpoch = st.audio.playbackEpoch)
      (others : after.runtime = st.runtime ∧ after.handler = st.handler) : Synced env after := by
    refine h.kept events audio.1 audio.2 ?_ ?_ ?_
    · intro unannounced
      rw [announced] at unannounced
      cases unannounced
    · rw [others.2]
      exact fun _ hqueue => hqueue
    · rw [others.1]
      exact fun _ hlive => hlive
  cases step with
  | announces unannounced =>
    exact h.send rfl rfl rfl rfl rfl
      (fun first hfirst => hfirst.send_other (fun _ => (h.fresh unannounced).1) rfl)
      fun _ => unannounced
  | emits ready emission =>
    cases emission <;> exact hstay (announced_of_ready ready) rfl ⟨rfl, rfl⟩ ⟨rfl, rfl⟩
  | calls ready => exact hstay (announced_of_ready ready) rfl ⟨rfl, rfl⟩ ⟨rfl, rfl⟩
  | starves call =>
    exact hstay (h.announced_of_call (by rw [call]; rintro ⟨⟩)) rfl ⟨rfl, rfl⟩ ⟨rfl, rfl⟩
  | reserves call =>
    exact hstay (h.announced_of_call (by rw [call]; rintro ⟨⟩)) rfl ⟨rfl, rfl⟩ ⟨rfl, rfl⟩
  | admits call =>
    exact hstay (h.announced_of_call (by rw [call]; rintro ⟨⟩)) rfl ⟨rfl, rfl⟩ ⟨rfl, rfl⟩
  | pushes call emission =>
    have hannounced := h.announced_of_call (by rw [call]; rintro ⟨⟩)
    cases emission
    exact hstay hannounced rfl ⟨rfl, rfl⟩ ⟨rfl, rfl⟩
  | refuses call emission =>
    have hannounced := h.announced_of_call (by rw [call]; rintro ⟨⟩)
    cases emission <;> exact hstay hannounced rfl ⟨rfl, rfl⟩ ⟨rfl, rfl⟩
  | clears call =>
    exact hstay (h.announced_of_call (by rw [call]; rintro ⟨⟩)) rfl ⟨rfl, rfl⟩ ⟨rfl, rfl⟩
  | flushes call =>
    refine h.send rfl rfl rfl (h.announced_of_call (by rw [call]; rintro ⟨⟩)) rfl
      (fun first hfirst => ?_) (by rintro ⟨⟩)
    have hsent := hfirst.send
      (.flushed env.sessionId st.replaceQueue.audio.playbackEpoch env.zoneId) (by rintro ⟨⟩)
    have hlater : st.audio.playbackEpoch ≤ st.replaceQueue.audio.playbackEpoch := by
      have hepoch := sourced.epoch
      simp only [Pipeline.replaceQueue, epochAt] at hepoch ⊢
      omega
    rw [AirPlayEvent.flush?, if_pos rfl, Option.getD_some, Nat.max_eq_right hlater] at hsent
    exact hsent
  | stops call =>
    exact h.send rfl rfl rfl (h.announced_of_call (by rw [call]; rintro ⟨⟩)) rfl
      (fun first hfirst => hfirst.send_other (by rintro ⟨⟩) rfl) (by rintro ⟨⟩)
  | drops call =>
    exact hstay (h.announced_of_call (by rw [call]; rintro ⟨⟩)) rfl ⟨rfl, rfl⟩ ⟨rfl, rfl⟩
  | notifies unsent =>
    exact h.send rfl rfl rfl (h.announced_of_unsent unsent) rfl
      (fun first hfirst => hfirst.notify sourced.epoch) (by rintro ⟨⟩)
  | closes ready => exact hstay (announced_of_ready ready) rfl ⟨rfl, rfl⟩ ⟨rfl, rfl⟩
  | endsPaused ready =>
    exact h.send rfl rfl rfl (announced_of_ready ready) rfl
      (fun first hfirst => hfirst.send_other (by rintro ⟨⟩) rfl) (by rintro ⟨⟩)
  | endedBefore => exact h

theorem adopt_quiet (h : Synced env st) {runtime : BridgeRuntime} {label : BridgeLabel}
    (step : st.runtime.step env.bridge label = some runtime)
    (quiet : ∀ event, label.event? = some event →
      event.starts env.sessionId = false ∧ event.flush? env.sessionId = none) :
    Synced env (st.adopt env runtime) := by
  obtain ⟨encoders, held, heq⟩ := Pipeline.adopt_frame env st runtime
  rw [heq]
  exact h.kept rfl rfl rfl (fun unannounced => (h.fresh unannounced).2) (fun _ hqueue => hqueue)
    fun _ hlive => epochOf_quiet step quiet hlive

/-- The runtime reads an event. -/
theorem deliver (h : Synced env st) {event : AirPlayEvent} {rest : List Message}
    {runtime : BridgeRuntime} (idle : st.handler = .idle)
    (events : st.events = .event event :: rest)
    (step : st.runtime.step env.bridge (.event event) = some runtime) :
    Synced env ({ st with events := rest }.adopt env runtime) := by
  obtain ⟨encoders, held, heq⟩ :=
    Pipeline.adopt_frame env { st with events := rest } runtime
  rw [heq]
  have honce := h.once
  rw [events, List.countP_cons] at honce
  refine { unstarted := ?_, started := ?_, once := ?_, fresh := ?_, handled := ?_ }
  · intro unstarted
    obtain ⟨hnone, haligned⟩ := h.unstarted (by
      rw [events]
      exact unstarted.imp_right fun ⟨message, hmem, hstarts⟩ =>
        ⟨message, List.mem_cons_of_mem _ hmem, hstarts⟩)
    rw [events] at haligned
    cases haligned with
    | event start tail =>
      have hzero : max 0 ((event.flush? env.sessionId).getD 0) = 0 := by
        obtain unannounced | pending := unstarted
        · have hle := tail.le
          rw [(h.fresh unannounced).1] at hle
          exact Nat.le_zero.mp hle
        · exact tail.zero_of_starts pending
      refine ⟨?_, hzero ▸ tail⟩
      apply Option.eq_none_iff_forall_ne_some.mpr
      intro live hlive
      obtain ⟨_, heq, hstarts, -⟩ | ⟨old, hold, -⟩ := epochOf_step step hlive
      · cases heq
        rw [if_pos (show Message.starts env.sessionId (.event event) = true from hstarts)] at honce
        obtain unannounced | ⟨message, hmem, hpending⟩ := unstarted
        · rw [show st.audio.announced = false from unannounced, Bool.toNat_false] at honce
          omega
        · have hpositive : 0 < rest.countP (Message.starts env.sessionId) :=
            List.countP_pos_iff.mpr ⟨message, hmem, hpending⟩
          have hle : st.audio.announced.toNat ≤ 1 := Bool.toNat_le _
          omega
      · rw [hnone] at hold
        cases hold
  · intro live hlive
    obtain ⟨_, heq, hstarts, rfl⟩ | ⟨old, hold, rfl⟩ := epochOf_step step hlive
    · cases heq
      have hmem : Message.event event ∈ st.events := by
        rw [events]
        exact List.mem_cons_self
      obtain ⟨-, haligned⟩ := h.unstarted (.inr ⟨.event event, hmem, hstarts⟩)
      rw [events] at haligned
      cases haligned with
      | event start tail =>
        rw [AirPlayEvent.flush?_of_starts hstarts, Option.getD_none, Nat.max_zero] at tail
        exact tail
    · have haligned := h.started old hold
      rw [events] at haligned
      cases haligned with
      | event start tail => exact tail
  · exact (Nat.le_add_right _ _).trans honce
  · exact h.fresh
  · intro queue hqueue
    rw [show ({ st with events := rest } : Pipeline).handler = .idle from idle] at hqueue
    cases hqueue

/-- The handler begins a batch of the queue of a Pcm event. -/
theorem startBatch (h : Synced env st) {queue : Nat} {rest : List Message}
    (events : st.events = .pcm queue :: rest) (hevents : after.events = rest)
    (audio : after.audio = st.audio) (runtime : after.runtime = st.runtime)
    (handler : after.handler.queue? = some queue) : Synced env after := by
  have honce := h.once
  rw [events, List.countP_cons] at honce
  have htail {first : Nat} (haligned : Aligned env.sessionId first st.events st.audio.playbackEpoch) :
      first = epochAt queue ∧ Aligned env.sessionId first rest st.audio.playbackEpoch := by
    rw [events] at haligned
    cases haligned with
    | pcm current tail => exact ⟨current, tail⟩
  refine { unstarted := ?_, started := ?_, once := ?_, fresh := ?_, handled := ?_ }
  · rw [hevents, audio, runtime]
    intro unstarted
    obtain ⟨hnone, haligned⟩ := h.unstarted (by
      rw [events]
      exact unstarted.imp_right fun ⟨message, hmem, hstarts⟩ =>
        ⟨message, List.mem_cons_of_mem _ hmem, hstarts⟩)
    exact ⟨hnone, (htail haligned).2⟩
  · rw [hevents, audio, runtime]
    exact fun live hlive => (htail (h.started live hlive)).2
  · rw [hevents, audio]
    exact (Nat.le_add_right _ _).trans honce
  · rw [audio]
    exact h.fresh
  · rw [runtime, handler]
    intro other hother live hlive
    cases hother
    exact (htail (h.started live hlive)).1

theorem handlerStep (h : Synced env st) {now : Instant} (step : HandlerStep env st now after) :
    Synced env after := by
  have hstay (audio : after.audio = st.audio) (events : after.events = st.events)
      (runtime : after.runtime = st.runtime)
      (handler : ∀ queue, after.handler.queue? = some queue → st.handler.queue? = some queue) :
      Synced env after := by
    refine h.kept events (congrArg _ audio) (congrArg _ audio) ?_ handler ?_
    · rw [audio]
      exact fun unannounced => (h.fresh unannounced).2
    · rw [runtime]
      exact fun _ hlive => hlive
  cases step with
  | ends => exact hstay rfl rfl rfl nofun
  | misses => exact hstay rfl rfl rfl nofun
  | pops batch =>
    refine hstay rfl rfl rfl fun queue hqueue => ?_
    rw [batch]
    exact hqueue
  | discards popped =>
    refine hstay rfl rfl rfl fun queue hqueue => ?_
    rw [popped]
    exact hqueue
  | @retires queue remaining _ frame _ _ popped _ _ _ step =>
    have hdiscarded : Synced env (st.discard frame queue remaining) := by
      refine h.kept rfl rfl rfl (fun unannounced => (h.fresh unannounced).2) ?_
        fun _ hlive => hlive
      intro other hother
      rw [popped]
      exact hother
    refine hdiscarded.adopt_quiet step fun event hevent => ?_
    cases hevent
    exact ⟨rfl, rfl⟩
  | offers popped =>
    refine hstay rfl rfl rfl fun queue hqueue => ?_
    rw [popped]
    exact hqueue
  | writes writing =>
    refine hstay rfl rfl rfl fun queue hqueue => ?_
    rw [writing]
    exact hqueue
  | refused writing =>
    refine hstay rfl rfl rfl fun queue hqueue => ?_
    rw [writing]
    exact hqueue

theorem step (h : Synced env st) (sourced : Sourced st)
    (taken : st.step env label = some after) : Synced env after := by
  have hstay (audio : after.audio = st.audio) (events : after.events = st.events)
      (runtime : after.runtime = st.runtime) (handler : after.handler = st.handler) :
      Synced env after := by
    refine h.kept events (congrArg _ audio) (congrArg _ audio) ?_ ?_ ?_
    · rw [audio]
      exact fun unannounced => (h.fresh unannounced).2
    · rw [handler]
      exact fun _ hqueue => hqueue
    · rw [runtime]
      exact fun _ hlive => hlive
  cases Pipeline.step_cases taken with
  | audio step => exact h.audioStep sourced step
  | sends _ foreign => exact h.sendForeign foreign
  | delivers idle events step => exact h.deliver idle events step
  | begins _ events => exact h.startBatch events rfl rfl rfl rfl
  | handles step => exact h.handlerStep step
  | runtime other step =>
    refine h.adopt_quiet step fun event hevent => ?_
    rw [other] at hevent
    cases hevent
  | encoder found step =>
    cases step with
    | overflows =>
      obtain ⟨encoders, held, heq⟩ := Pipeline.closeStream_frame st _
      apply hstay <;> rw [heq]
    | _ => exact hstay rfl rfl rfl rfl
  | releases => exact hstay rfl rfl rfl rfl

theorem new : Synced env (.new env) where
  unstarted := fun _ => ⟨rfl, .nil⟩
  started := nofun
  once := Nat.zero_le _
  fresh := fun _ => ⟨rfl, rfl, rfl⟩
  handled := nofun

end Synced

theorem synced_of_reachable (h : (pipeline env).Reachable st) : Synced env st :=
  h.invariant_with (fun _ reached => sourced_of_reachable reached) Synced.new
    fun _ _ _ sourced synced taken => synced.step sourced taken

/-! ### Both directions -/

/-- Nothing stale gets through, and nothing current is turned away: a stream publishes only
frames that were taken while the epoch was the stream's, the runtime only pops frames of the
epoch of the live session, and an open stream accepts every frame it was given. -/
theorem flush_fence (h : (pipeline env).Reachable st) :
    (∀ stream frame, (stream, frame) ∈ st.published →
      ∃ queue, (queue, frame) ∈ st.emitted ∧ stream.playbackEpoch = epochAt queue) ∧
    (∀ queue remaining frame session, st.handler = .popped queue remaining frame →
      st.runtime.session env.sessionId = some session →
        frame.playbackEpoch = session.playbackEpoch) ∧
    (∀ generation task frame, st.encoders.lookup generation = some task →
      task.holding = some frame → task.closed = false →
        task.acceptsEpoch frame.playbackEpoch = true) := by
  have hsourced : Sourced st := sourced_of_reachable h
  have hsynced : Synced env st := synced_of_reachable h
  refine ⟨hsourced.published, ?_, ?_⟩
  · intro queue remaining frame session popped live
    have hemitted : (queue, frame) ∈ st.emitted :=
      hsourced.handled queue frame (by rw [popped]; rfl)
    have hepoch : session.playbackEpoch = epochAt queue := by
      refine hsynced.handled queue (by rw [popped]; rfl) _ ?_
      rw [BridgeRuntime.epochOf, live, Option.map_some]
    rw [(hsourced.emitted queue frame hemitted).2, hepoch]
  · intro generation task frame found holding opened
    obtain ⟨queue, hemitted, hepoch⟩ := hsourced.encoders generation task found frame
      (EncoderTask.mem_frames.mpr (.inr (.inl holding)))
    have hstamp := (hsourced.emitted queue frame hemitted).2
    simp only [EncoderTask.acceptsEpoch, opened, hstamp, hepoch, Bool.not_false, Bool.true_and,
      decide_true]

namespace Household

def frame (playbackEpoch : Nat) : PcmFrame where
  bufferedPermit := none
  playbackEpoch := playbackEpoch
  sampleRate := 44100
  channels := 2
  samples := [0, 0]
  capacity := 2
  presentationTime := none
  samples_le := Nat.le_refl _

/-- A frame from the callback to the encoder of the generation, which publishes it. -/
def publishes (playbackEpoch generation : Nat) : List PipelineLabel :=
  [.audioProcessTimed [0, 0] none 0, .notify, .deliver 0, .handle 0, .handle 0, .handle 0,
    .handle 0, .encoder generation (.receive 0), .encoder generation .check,
    .encoder generation (.publish (frame playbackEpoch))]

/-- A flush, and its event. -/
def flushes : List PipelineLabel :=
  [.audioFlush, .next 0, .next 0, .deliver 0]

end Household

/-- A frame before a flush and one after it, each published by the stream of its epoch. -/
theorem flush_fence_in_kitchen :
    ∃ st, (pipeline Household.pipelineEnv).run (.new Household.pipelineEnv)
        ([.audioInit (some ⟨1⟩), .deliver 0] ++ Household.publishes 0 1 ++ Household.flushes ++
          Household.publishes 1 2) = some st ∧
      (st.published.map fun entry => (entry.1.playbackEpoch, entry.1.session.generation)) =
        [(1, 2), (0, 1)] ∧
      ∀ stream frame, (stream, frame) ∈ st.published →
        ∃ queue, (queue, frame) ∈ st.emitted ∧ stream.playbackEpoch = epochAt queue := by
  have hruns : (((pipeline Household.pipelineEnv).run (.new Household.pipelineEnv)
      ([.audioInit (some ⟨1⟩), .deliver 0] ++ Household.publishes 0 1 ++ Household.flushes ++
        Household.publishes 1 2)).map fun st =>
          st.published.map fun entry => (entry.1.playbackEpoch, entry.1.session.generation)) =
      some [(1, 2), (0, 1)] := by
    decide +kernel
  obtain ⟨st, hrun, hpublished⟩ := Option.map_eq_some_iff.mp hruns
  exact ⟨st, hrun, hpublished, (flush_fence (TransitionSystem.Reachable.of_run .init hrun)).1⟩

end AirSonos
