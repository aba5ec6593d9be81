import AirSonos.Pipeline.System
import AirSonos.Bridge.Epochs

/-!
# The steps of the pipeline

Every step, with the state it leads to. The invariants split on these cases and never unfold
the step function.
-/

namespace AirSonos

variable (env : PipelineEnv)

/-- What the queue answers when the audio thread pushes a frame. -/
inductive Emission (st : Pipeline) (frame : PcmFrame) (now : Instant) : Pipeline → Bool → Prop
  | blocked {pcm : PcmQueue.State} (found : st.queues.lookup st.audio.pcm = some pcm)
      (blocked : env.adapterQueue.maxSamples < frame.samples.length ∨ pcm.closed = true) :
      Emission st frame now { st with refused := ⟨frame, pcm.closed⟩ :: st.refused } false
  | refused {pcm after : PcmQueue.State} {notify : Bool}
      (found : st.queues.lookup st.audio.pcm = some pcm)
      (short : frame.samples.length ≤ env.adapterQueue.maxSamples)
      (push : env.adapterQueue.pushAt pcm frame now = some (after, ⟨false, notify⟩)) :
      Emission st frame now
        { st with
          queues := st.queues.insert st.audio.pcm after
          lost := PcmQueue.lost pcm after 0 ++ st.lost
          refused := ⟨frame, pcm.closed⟩ :: st.refused } false
  | accepted {pcm after : PcmQueue.State} {notify : Bool}
      (found : st.queues.lookup st.audio.pcm = some pcm)
      (push : env.adapterQueue.pushAt pcm frame now = some (after, ⟨true, notify⟩)) :
      Emission st frame now
        { st with
          audio := { st.audio with unsent := notify }
          queues := st.queues.insert st.audio.pcm after
          emitted := (st.audio.pcm, frame) :: st.emitted
          lost := PcmQueue.lost pcm after 1 ++ st.lost } true

/-- What the audio thread does. -/
inductive AudioStep (st : Pipeline) : PipelineLabel → Pipeline → Prop
  | announces {sender : Option IpAddr} (unannounced : st.audio.announced = false) :
      AudioStep st (.audioInit sender) (st.audioInit env sender)
  | emits {samples : List Sample} {presentationTime : Option Instant} {now : Instant}
      {after : Pipeline} {accepted : Bool} (ready : st.ready = true)
      (emission : Emission env st (st.frame env samples presentationTime none) now after accepted) :
      AudioStep st (.audioProcessTimed samples presentationTime now) after
  | calls {packet : Packet} (ready : st.ready = true) :
      AudioStep st (.audioProcessBuffered packet) (st.goto (.reserving packet))
  | starves {packet : Packet} {now : Instant} (call : st.audio.call = .reserving packet) :
      AudioStep st (.next now) (st.goto .returned)
  | reserves {packet : Packet} {now : Instant} {credits : PcmCredits} {permit : PcmPermit}
      (call : st.audio.call = .reserving packet)
      (more : st.audio.progress < packet.samples.length)
      (granted : (st.pools st.audio.pcm).tryReserve env.entrySize
        (min (st.audio.progress + env.adapterQueue.maxSamples) packet.samples.length -
          st.audio.progress) = some (credits, permit)) :
      AudioStep st (.next now)
        ((st.setPool st.audio.pcm credits).goto
          (.pushing packet
            (min (st.audio.progress + env.adapterQueue.maxSamples) packet.samples.length) permit))
  | admits {packet : Packet} {now : Instant} (call : st.audio.call = .reserving packet) :
      AudioStep st (.next now) ((st.setProgress 0).goto .returned)
  | pushes {packet : Packet} {stop : Nat} {permit : PcmPermit} {now : Instant} {after : Pipeline}
      (call : st.audio.call = .pushing packet stop permit)
      (emission : Emission env st (st.piece env packet stop permit) now after true) :
      AudioStep st (.next now) ((after.setProgress stop).goto (.reserving packet))
  | refuses {packet : Packet} {stop : Nat} {permit : PcmPermit} {now : Instant} {after : Pipeline}
      (call : st.audio.call = .pushing packet stop permit)
      (emission : Emission env st (st.piece env packet stop permit) now after false) :
      AudioStep st (.next now) ((after.dropPermit permit).goto .returned)
  | clears {ending : QueueEnd} {now : Instant} {pcm : PcmQueue.State}
      (call : st.audio.call = .clearing ending)
      (found : st.queues.lookup st.audio.pcm = some pcm) :
      AudioStep st (.next now)
        ({ st with
          queues := st.queues.insert st.audio.pcm (PcmQueue.clear pcm)
          held := st.held ++ PcmQueue.permits pcm.frames }.goto (.cleared ending))
  | flushes {now : Instant} (call : st.audio.call = .cleared .flush) :
      AudioStep st (.next now)
        ((st.replaceQueue.goto .returned).sendEvent
          (.flushed env.sessionId st.replaceQueue.audio.playbackEpoch env.zoneId))
  | stops {ending : QueueEnd} {now : Instant} (call : st.audio.call = .cleared ending) :
      AudioStep st (.next now)
        ((st.goto .returned).sendEvent (.sessionStopped env.sessionId env.zoneId))
  | drops {now : Instant} (call : st.audio.call = .cleared .drop) :
      AudioStep st (.next now) (st.goto .returned)
  | notifies (unsent : st.audio.unsent = true) :
      AudioStep st .notify
        { st with
          audio := { st.audio with unsent := false }
          events := st.events ++ [.pcm st.audio.pcm] }
  | closes {label : PipelineLabel} {ending : QueueEnd} {pcm : PcmQueue.State}
      {stopNotified dropped : Bool} {progress : Nat} (ready : st.ready = true)
      (found : st.queues.lookup st.audio.pcm = some pcm) :
      AudioStep st label
        ({ st with
          audio := { st.audio with
            stopNotified := stopNotified, dropped := dropped, progress := progress }
          queues := st.queues.insert st.audio.pcm (PcmQueue.close pcm) }.goto (.clearing ending))
  | endsPaused {reason : AudioStopReason} (ready : st.ready = true) :
      AudioStep st (.audioStopped reason)
        ({ st with audio := { st.audio with stopNotified := true } }.sendEvent
          (.streamEndedWhilePaused env.sessionId env.zoneId))
  | endedBefore {reason : AudioStopReason} (ready : st.ready = true) :
      AudioStep st (.audioStopped reason) st

/-- What the Pcm handler does. -/
inductive HandlerStep (st : Pipeline) (now : Instant) : Pipeline → Prop
  | ends {queue : Nat} (batch : st.handler = .batch queue 0) :
      HandlerStep st now { st with handler := .idle }
  | misses {queue remaining : Nat} {pcm after : PcmQueue.State}
      (batch : st.handler = .batch queue (remaining + 1))
      (found : st.queues.lookup queue = some pcm)
      (pop : env.adapterQueue.popAt pcm now = (after, none)) :
      HandlerStep st now
        { st with
          queues := st.queues.insert queue after
          handler := .idle
          lost := PcmQueue.lost pcm after 0 ++ st.lost }
  | pops {queue remaining : Nat} {pcm after : PcmQueue.State} {frame : PcmFrame} {arrived : Instant}
      (batch : st.handler = .batch queue (remaining + 1))
      (found : st.queues.lookup queue = some pcm)
      (pop : env.adapterQueue.popAt pcm now = (after, some (frame, arrived))) :
      HandlerStep st now
        { st with
          queues := st.queues.insert queue after
          handler := .popped queue remaining frame
          lost := (PcmQueue.lost pcm after 0).dropLast ++ st.lost }
  | discards {queue remaining : Nat} {frame : PcmFrame}
      (popped : st.handler = .popped queue remaining frame) (nowhere : st.target env frame = none) :
      HandlerStep st now (st.discard frame queue remaining)
  | retires {queue remaining generation : Nat} {frame : PcmFrame} {task : EncoderTask}
      {runtime : BridgeRuntime} (popped : st.handler = .popped queue remaining frame)
      (target : st.target env frame = some generation)
      (found : st.encoders.lookup generation = some task)
      (ended : (task.finished || task.input.closed) = true)
      (step : st.runtime.step env.bridge
        (.event (.pcm env.sessionId env.zoneId [⟨frame.playbackEpoch, .closed⟩])) = some runtime) :
      HandlerStep st now ((st.discard frame queue remaining).adopt env runtime)
  | offers {queue remaining generation : Nat} {frame : PcmFrame} {task : EncoderTask}
      (popped : st.handler = .popped queue remaining frame)
      (target : st.target env frame = some generation)
      (found : st.encoders.lookup generation = some task) :
      HandlerStep st now { st with handler := .writing queue remaining generation frame }
  | writes {queue remaining generation : Nat} {frame : PcmFrame} {task : EncoderTask}
      {after : PcmQueue.State} {notify : Bool}
      (writing : st.handler = .writing queue remaining generation frame)
      (found : st.encoders.lookup generation = some task)
      (push : env.encoderQueue.pushAt task.input frame now = some (after, ⟨true, notify⟩)) :
      HandlerStep st now
        { st with
          handler := .batch queue remaining
          encoders := st.encoders.insert generation { task with input := after }
          lost := PcmQueue.lost task.input after 1 ++ st.lost }
  | refused {queue remaining generation : Nat} {frame : PcmFrame} {task : EncoderTask}
      {after : PcmQueue.State} {notify : Bool}
      (writing : st.handler = .writing queue remaining generation frame)
      (found : st.encoders.lookup generation = some task)
      (push : env.encoderQueue.pushAt task.input frame now = some (after, ⟨false, notify⟩)) :
      HandlerStep st now
        { st.discard frame queue remaining with
          encoders := st.encoders.insert generation { task with input := after }
          lost := PcmQueue.lost task.input after 0 ++ st.lost
          refused := ⟨frame, task.input.closed⟩ :: st.refused }

/-- What the encoder task of a stream does. -/
inductive EncoderStep (st : Pipeline) (generation : Nat) (task : EncoderTask) : Pipeline → Prop
  | misses {now : Instant} {after : PcmQueue.State} (idle : task.holding = none)
      (pop : env.encoderQueue.popAt task.input now = (after, none)) :
      EncoderStep st generation task
        { st with
          encoders := st.encoders.insert generation { task with input := after }
          lost := PcmQueue.lost task.input after 0 ++ st.lost }
  | receives {now : Instant} {after : PcmQueue.State} {frame : PcmFrame} {arrived : Instant}
      (idle : task.holding = none)
      (pop : env.encoderQueue.popAt task.input now = (after, some (frame, arrived))) :
      EncoderStep st generation task
        { st with
          encoders := st.encoders.insert generation
            { task with input := after, holding := some frame }
          lost := (PcmQueue.lost task.input after 0).dropLast ++ st.lost }
  | checks {frame : PcmFrame} (holding : task.holding = some frame) :
      EncoderStep st generation task (st.check generation task frame)
  | publishes {frame : PcmFrame} (encoded : frame ∈ task.encoded) (opened : task.closed = false) :
      EncoderStep st generation task
        { st with published := (task.stream, frame) :: st.published }
  | overflows : EncoderStep st generation task (st.closeStream generation)
  | finishes : EncoderStep st generation task (st.finish generation task)

/-- Every step of the pipeline. -/
inductive PipelineStep (st : Pipeline) : PipelineLabel → Pipeline → Prop
  | audio {label : PipelineLabel} {after : Pipeline} (step : AudioStep env st label after) :
      PipelineStep st label after
  | sends {event : AirPlayEvent} (valid : event.WellFormed env.bridge)
      (foreign : event.ofAudio env.sessionId = false) :
      PipelineStep st (.send event) (st.sendEvent event)
  | delivers {event : AirPlayEvent} {rest : List Message} {now : Instant} {runtime : BridgeRuntime}
      (idle : st.handler = .idle) (events : st.events = .event event :: rest)
      (step : st.runtime.step env.bridge (.event event) = some runtime) :
      PipelineStep st (.deliver now) ({ st with events := rest }.adopt env runtime)
  | begins {queue : Nat} {rest : List Message} {now : Instant} {pcm : PcmQueue.State}
      (idle : st.handler = .idle) (events : st.events = .pcm queue :: rest)
      (found : st.queues.lookup queue = some pcm) :
      PipelineStep st (.deliver now)
        { st with
          events := rest
          queues := st.queues.insert queue
            (PcmQueue.takeNewDrops (env.adapterQueue.beginBatch pcm now).1).1
          handler := .batch queue (env.adapterQueue.beginBatch pcm now).2
          lost := PcmQueue.lost pcm (env.adapterQueue.beginBatch pcm now).1 0 ++ st.lost }
  | handles {now : Instant} {after : Pipeline} (step : HandlerStep env st now after) :
      PipelineStep st (.handle now) after
  | runtime {label : BridgeLabel} {runtime : BridgeRuntime} (other : label.event? = none)
      (step : st.runtime.step env.bridge label = some runtime) :
      PipelineStep st (.runtime label) (st.adopt env runtime)
  | encoder {generation : Nat} {action : EncoderAction} {task : EncoderTask} {after : Pipeline}
      (found : st.encoders.lookup generation = some task)
      (step : EncoderStep env st generation task after) :
      PipelineStep st (.encoder generation action) after
  | releases {permit : PcmPermit} (held : permit ∈ st.held) :
      PipelineStep st (.dropPermit permit)
        { st.dropPermit permit with held := st.held.erase permit }

variable {env} {st after : Pipeline} {label : PipelineLabel}

namespace Pipeline

theorem emitPcm_cases {frame : PcmFrame} {now : Instant} {accepted : Bool}
    (h : st.emitPcm env frame now = some (after, accepted)) :
    Emission env st frame now after accepted := by
  obtain ⟨pcm, found, h⟩ := Option.bind_eq_some_iff.mp h
  split at h
  · case isTrue hblocked =>
    cases h
    exact .blocked found hblocked
  · case isFalse hpasses =>
    obtain ⟨⟨queue, ⟨answer, notify⟩⟩, push, heq⟩ := Option.map_eq_some_iff.mp h
    cases answer with
    | true =>
      cases heq
      exact .accepted found push
    | false =>
      cases heq
      exact .refused found (Nat.le_of_not_lt fun hlong => hpasses (.inl hlong)) push

theorem closeQueue_cases {ending : QueueEnd} (h : st.closeQueue ending = some after) :
    ∃ pcm, st.queues.lookup st.audio.pcm = some pcm ∧
      after =
        { st with queues := st.queues.insert st.audio.pcm (PcmQueue.close pcm) }.goto
          (.clearing ending) := by
  obtain ⟨pcm, found, rfl⟩ := Option.map_eq_some_iff.mp h
  exact ⟨pcm, found, rfl⟩

theorem next_cases {now : Instant} (h : st.next env now = some after) :
    AudioStep env st (.next now) after := by
  unfold next at h
  split at h
  · cases h
  · generalize hcall : st.audio.call = call at h
    cases call with
    | returned => cases h
    | reserving packet =>
      cases h
      unfold reserve
      split
      · case isTrue more =>
        dsimp only
        split
        · exact .starves hcall
        · case h_2 credits permit granted => exact .reserves hcall more granted
      · exact .admits hcall
    | pushing packet stop permit =>
      obtain ⟨⟨emitted, accepted⟩, hemit, heq⟩ := Option.map_eq_some_iff.mp h
      cases accepted with
      | true =>
        cases heq
        exact .pushes hcall (emitPcm_cases hemit)
      | false =>
        cases heq
        exact .refuses hcall (emitPcm_cases hemit)
    | clearing ending =>
      obtain ⟨pcm, found, rfl⟩ := Option.map_eq_some_iff.mp h
      exact .clears hcall found
    | cleared ending =>
      cases h
      cases ending with
      | flush => exact .flushes hcall
      | stop => exact .stops hcall
      | drop =>
        simp only [endQueue]
        split
        · exact .drops hcall
        · exact .stops hcall

theorem audioStopped_cases {reason : AudioStopReason} (ready : st.ready = true)
    (h : st.audioStopped env reason = some after) :
    AudioStep env st (.audioStopped reason) after := by
  unfold audioStopped at h
  split at h
  · cases h
    exact .endedBefore ready
  · cases reason with
    | streamEndedWhilePaused =>
      cases h
      exact .endsPaused ready
    | teardown =>
      obtain ⟨pcm, found, rfl⟩ := closeQueue_cases h
      exact .closes ready found
    | streamEnded =>
      obtain ⟨pcm, found, rfl⟩ := closeQueue_cases h
      exact .closes ready found

theorem deliver_cases {now : Instant} (h : st.deliver env now = some after) :
    PipelineStep env st (.deliver now) after := by
  unfold deliver at h
  split at h
  · case h_1 idle events =>
    obtain ⟨runtime, step, rfl⟩ := Option.map_eq_some_iff.mp h
    exact .delivers idle events step
  · case h_2 idle events =>
    split at h
    · cases h
    · obtain ⟨pcm, found, rfl⟩ := Option.map_eq_some_iff.mp h
      exact .begins idle events found
  · cases h

theorem handle_cases {now : Instant} (h : st.handle env now = some after) :
    HandlerStep env st now after := by
  unfold handle at h
  split at h
  · cases h
  · case h_2 queue batch =>
    cases h
    exact .ends batch
  · case h_3 queue remaining batch =>
    obtain ⟨pcm, found, rfl⟩ := Option.map_eq_some_iff.mp h
    dsimp only
    split
    · case h_1 hnone => exact .misses batch found (Prod.ext rfl hnone)
    · case h_2 frame arrived hsome => exact .pops batch found (Prod.ext rfl hsome)
  · case h_4 queue remaining frame popped =>
    unfold offerFrame at h
    split at h
    · case h_1 nowhere =>
      cases h
      exact .discards popped nowhere
    · case h_2 generation target =>
      obtain ⟨task, found, h⟩ := Option.bind_eq_some_iff.mp h
      split at h
      · case isTrue ended =>
        obtain ⟨runtime, step, rfl⟩ := Option.map_eq_some_iff.mp h
        exact .retires popped target found ended step
      · cases h
        exact .offers popped target found
  · case h_5 queue remaining generation frame writing =>
    obtain ⟨task, found, h⟩ := Option.bind_eq_some_iff.mp h
    obtain ⟨⟨input, ⟨accepted, notify⟩⟩, push, rfl⟩ := Option.map_eq_some_iff.mp h
    cases accepted with
    | true => exact .writes writing found push
    | false => exact .refused writing found push

theorem encoderStep_cases {generation : Nat} {task : EncoderTask} {action : EncoderAction}
    (h : st.encoderStep env generation task action = some after) :
    EncoderStep env st generation task after := by
  cases action with
  | receive now =>
    simp only [encoderStep] at h
    split at h
    · case isTrue idle =>
      cases h
      unfold receive
      dsimp only
      split
      · case h_1 hnone => exact .misses idle.2 (Prod.ext rfl hnone)
      · case h_2 frame arrived hsome => exact .receives idle.2 (Prod.ext rfl hsome)
    · cases h
  | check =>
    obtain ⟨frame, holding, rfl⟩ := Option.map_eq_some_iff.mp h
    exact .checks holding
  | publish frame =>
    simp only [encoderStep] at h
    split at h
    · case isTrue published =>
      cases h
      exact .publishes published.1 published.2.2
    · cases h
  | overflow =>
    cases h
    exact .overflows
  | finish =>
    cases h
    exact .finishes

theorem step_cases (h : st.step env label = some after) : PipelineStep env st label after := by
  unfold Pipeline.step at h
  split at h
  · split at h
    · cases h
    · case isFalse unannounced =>
      cases h
      exact .audio (.announces (Bool.eq_false_iff.mpr unannounced))
  · split at h
    · case isTrue ready =>
      obtain ⟨⟨emitted, accepted⟩, hemit, rfl⟩ := Option.map_eq_some_iff.mp h
      exact .audio (.emits ready (emitPcm_cases hemit))
    · cases h
  · split at h
    · case isTrue ready =>
      cases h
      exact .audio (.calls ready)
    · cases h
  · exact .audio (next_cases h)
  · unfold notify at h
    split at h
    · case isTrue unsent =>
      cases h
      exact .audio (.notifies unsent)
    · cases h
  · split at h
    · case isTrue ready =>
      obtain ⟨pcm, found, rfl⟩ := closeQueue_cases h
      exact .audio (.closes ready found)
    · cases h
  · split at h
    · case isTrue ready => exact .audio (audioStopped_cases ready h)
    · cases h
  · split at h
    · case isTrue ready =>
      obtain ⟨pcm, found, rfl⟩ := closeQueue_cases h
      exact .audio (.closes ready found)
    · cases h
  · split at h
    · case isTrue hsent =>
      cases h
      exact .sends hsent.1 hsent.2
    · cases h
  · exact deliver_cases h
  · exact .handles (handle_cases h)
  · cases h
  · case h_13 label other =>
    split at h
    · cases h
    · obtain ⟨runtime, step, rfl⟩ := Option.map_eq_some_iff.mp h
      refine .runtime ?_ step
      cases label with
      | event event => exact (other event rfl).elim
      | _ => rfl
  · obtain ⟨task, found, h⟩ := Option.bind_eq_some_iff.mp h
    exact .encoder found (encoderStep_cases h)
  · split at h
    · case isTrue held =>
      cases h
      exact .releases held
    · cases h

end Pipeline

end AirSonos
