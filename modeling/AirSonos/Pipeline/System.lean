import AirSonos.Airplay.AudioSession
import AirSonos.Airplay.Buffered

/-!
# The audio of one session, from the callback to the encoder

The audio thread pushes frames into the adapter queue and tells of them through the channel of
events. The runtime reads the channel, pops the frames and writes them to the encoder of the
session, whose task encodes and publishes them. A flush replaces queue, credits and epoch at
one end of this path while the other end still holds what was there before. Queues and pools
of credits are numbered by the flushes before them, encoders by the generation of their stream.
Every operation that takes a lock or touches a channel is a step of its own.
-/

namespace AirSonos

structure PipelineEnv where
  bridge : Env
  sessionId : SessionId
  format : PcmFormat
  entrySize : Nat
  queueDuration : Duration
  fromSecs : ℚ → Duration

inductive QueueEnd
  | flush
  | stop
  | drop
deriving DecidableEq

inductive AudioCall
  | returned
  | reserving (packet : Packet)
  | pushing (packet : Packet) (stop : Nat) (permit : PcmPermit)
  | clearing (ending : QueueEnd)
  | cleared (ending : QueueEnd)
deriving DecidableEq

/-- The `BridgeAudioSession` with its queue `pcm`. `unsent` says that the last push asked for
an event that has not been sent yet. -/
structure AudioThread where
  announced : Bool
  dropped : Bool
  stopNotified : Bool
  playbackEpoch : Nat
  pcm : Nat
  progress : Nat
  unsent : Bool
  call : AudioCall
deriving DecidableEq

/-- An event with its data, or the adapter queue that a Pcm event refers to. -/
inductive Message
  | event (event : AirPlayEvent)
  | pcm (queue : Nat)

/-- The encoder of a stream with its input queue. `closed` is the flag of the stream, `holding`
the frame that the task has received and not yet checked, and `encoded` the frames it took. -/
structure EncoderTask where
  stream : LiveStream
  input : PcmQueue.State
  closed : Bool
  finished : Bool
  holding : Option PcmFrame
  encoded : List PcmFrame
deriving DecidableEq

inductive PcmBatch
  | idle
  | batch (queue remaining : Nat)
  | popped (queue remaining : Nat) (frame : PcmFrame)
  | writing (queue remaining generation : Nat) (frame : PcmFrame)
deriving DecidableEq

structure Refusal where
  frame : PcmFrame
  closed : Bool
deriving DecidableEq

/-- `held` are the permits of frames that have left the queues: each is dropped in a step of its
own. The last four fields are what happened so far: the accepted frames with the queue that took
them, the frames each stream has published, those that expired or were evicted, and those that a
queue refused. -/
structure Pipeline where
  audio : AudioThread
  queues : AssocMap Nat PcmQueue.State
  pools : Nat → PcmCredits
  events : List Message
  runtime : BridgeRuntime
  handler : PcmBatch
  encoders : AssocMap Nat EncoderTask
  held : List PcmPermit
  emitted : List (Nat × PcmFrame)
  published : List (LiveStream × PcmFrame)
  lost : List PcmFrame
  refused : List Refusal

inductive EncoderAction
  | receive (now : Instant)
  | check
  | publish (frame : PcmFrame)
  | overflow
  | finish

inductive PipelineLabel
  | audioInit (sender : Option IpAddr)
  | audioProcessTimed (samples : List Sample) (presentationTime : Option Instant) (now : Instant)
  | audioProcessBuffered (packet : Packet)
  | next (now : Instant)
  | notify
  | audioFlush
  | audioStopped (reason : AudioStopReason)
  | drop
  | send (event : AirPlayEvent)
  | deliver (now : Instant)
  | handle (now : Instant)
  | runtime (label : BridgeLabel)
  | encoder (generation : Nat) (action : EncoderAction)
  | dropPermit (permit : PcmPermit)

namespace PipelineEnv

variable (env : PipelineEnv)

def zoneId : ZoneId := env.bridge.zoneOf env.sessionId

def adapterQueue : PcmQueue :=
  .new env.entrySize env.format.sampleRate env.format.channels (.fromMillis 250)

def encoderQueue : PcmQueue :=
  .new env.entrySize env.format.sampleRate env.format.channels env.queueDuration

def buffered (playbackEpoch : Nat) : BufferedEnv :=
  ⟨env.entrySize, env.format, playbackEpoch, env.fromSecs⟩

end PipelineEnv

/-- Only the audio session sends these events of the session. -/
def AirPlayEvent.ofAudio (id : SessionId) : AirPlayEvent → Bool
  | sessionStarted other _ _ _ => other == id
  | pcm other _ _ => other == id
  | flushed other _ _ => other == id
  | sessionStopped other _ => other == id
  | streamEndedWhilePaused other _ => other == id
  | playbackState _ _ _ => false
  | volume _ _ => false

/-- What the run loop serves, so it waits for the handler that is under way. -/
def BridgeLabel.served : BridgeLabel → Bool
  | result => true
  | retry => true
  | prepared => true
  | wake => true
  | cleanup => true
  | shutdown => true
  | _ => false

/-- The frames that have left the front of a queue unread, when `appended` were added. -/
def PcmQueue.lost (before after : State) (appended : Nat) : List PcmFrame :=
  (before.frames.take (before.frames.length + appended - after.frames.length)).map Prod.fst

def PcmFrame.permits (frame : PcmFrame) : List PcmPermit :=
  frame.bufferedPermit.toList

namespace EncoderTask

def spawn (stream : LiveStream) : EncoderTask where
  stream := stream
  input := .empty
  closed := false
  finished := false
  holding := none
  encoded := []

def close (task : EncoderTask) : EncoderTask :=
  { task with closed := true, input := PcmQueue.clear (PcmQueue.close task.input) }

def acceptsEpoch (task : EncoderTask) (epoch : Nat) : Bool :=
  !task.closed && decide (task.stream.playbackEpoch = epoch)

end EncoderTask

namespace Pipeline

variable (env : PipelineEnv)

def new : Pipeline where
  audio := ⟨false, false, false, 0, 0, 0, false, .returned⟩
  queues := (∅ : AssocMap Nat PcmQueue.State).insert 0 .empty
  pools := fun pool => .new pool env.adapterQueue
  events := []
  runtime := .new
  handler := .idle
  encoders := ∅
  held := []
  emitted := []
  published := []
  lost := []
  refused := []

/-! ### The audio thread -/

def sendEvent (st : Pipeline) (event : AirPlayEvent) : Pipeline :=
  { st with events := st.events ++ [.event event] }

def ready (st : Pipeline) : Bool :=
  st.audio.announced && !st.audio.dropped && !st.audio.unsent &&
    decide (st.audio.call = .returned)

def goto (st : Pipeline) (call : AudioCall) : Pipeline :=
  { st with audio := { st.audio with call := call } }

def audioInit (st : Pipeline) (sender : Option IpAddr) : Pipeline :=
  { st with audio := { st.audio with announced := true } }.sendEvent
    (.sessionStarted env.sessionId env.zoneId env.format sender)

def pushed (st : Pipeline) (frame : PcmFrame) (before after : PcmQueue.State)
    (admission : PcmAdmission) : Pipeline :=
  if admission.accepted then
    { st with
      audio := { st.audio with unsent := admission.notify }
      queues := st.queues.insert st.audio.pcm after
      emitted := (st.audio.pcm, frame) :: st.emitted
      lost := PcmQueue.lost before after 1 ++ st.lost }
  else
    { st with
      queues := st.queues.insert st.audio.pcm after
      lost := PcmQueue.lost before after 0 ++ st.lost
      refused := ⟨frame, before.closed⟩ :: st.refused }

/-- `emit_pcm`. Also returns whether the frame was accepted. No value means that the push does
not end. -/
def emitPcm (st : Pipeline) (frame : PcmFrame) (now : Instant) : Option (Pipeline × Bool) :=
  (st.queues.lookup st.audio.pcm).bind fun pcm =>
    if env.adapterQueue.maxSamples < frame.samples.length ∨ pcm.closed = true then
      some ({ st with refused := ⟨frame, pcm.closed⟩ :: st.refused }, false)
    else
      (env.adapterQueue.pushAt pcm frame now).map fun (after, admission) =>
        (st.pushed frame pcm after admission, admission.accepted)

def frame (st : Pipeline) (samples : List Sample) (presentationTime : Option Instant)
    (permit : Option PcmPermit) : PcmFrame :=
  (env.buffered st.audio.playbackEpoch).frame samples presentationTime permit

def piece (st : Pipeline) (packet : Packet) (stop : Nat) (permit : PcmPermit) : PcmFrame :=
  st.frame env ((packet.samples.take stop).drop st.audio.progress)
    ((env.buffered st.audio.playbackEpoch).pieceTime packet st.audio.progress) (some permit)

def setPool (st : Pipeline) (pool : Nat) (credits : PcmCredits) : Pipeline :=
  { st with pools := Function.update st.pools pool credits }

def dropPermit (st : Pipeline) (permit : PcmPermit) : Pipeline :=
  st.setPool permit.credits ((st.pools permit.credits).release permit)

def setProgress (st : Pipeline) (progress : Nat) : Pipeline :=
  { st with audio := { st.audio with progress := progress } }

/-- The check of the loop in `audio_process_buffered`, and the reservation for the next piece. -/
def reserve (st : Pipeline) (packet : Packet) : Pipeline :=
  if st.audio.progress < packet.samples.length then
    let stop := min (st.audio.progress + env.adapterQueue.maxSamples) packet.samples.length
    match (st.pools st.audio.pcm).tryReserve env.entrySize (stop - st.audio.progress) with
    | none => st.goto .returned
    | some (credits, permit) =>
      (st.setPool st.audio.pcm credits).goto (.pushing packet stop permit)
  else (st.setProgress 0).goto .returned

/-- The piece is pushed. A permit that the queue does not take is dropped. -/
def push (st : Pipeline) (packet : Packet) (stop : Nat) (permit : PcmPermit) (now : Instant) :
    Option Pipeline :=
  (st.emitPcm env (st.piece env packet stop permit) now).map fun (st, accepted) =>
    if accepted then (st.setProgress stop).goto (.reserving packet)
    else (st.dropPermit permit).goto .returned

/-- The queue is closed, and then cleared in the next step. -/
def closeQueue (st : Pipeline) (ending : QueueEnd) : Option Pipeline :=
  (st.queues.lookup st.audio.pcm).map fun pcm =>
    { st with queues := st.queues.insert st.audio.pcm (PcmQueue.close pcm) }.goto (.clearing ending)

def clearQueue (st : Pipeline) (ending : QueueEnd) : Option Pipeline :=
  (st.queues.lookup st.audio.pcm).map fun pcm =>
    { st with
      queues := st.queues.insert st.audio.pcm (PcmQueue.clear pcm)
      held := st.held ++ PcmQueue.permits pcm.frames }.goto (.cleared ending)

def replaceQueue (st : Pipeline) : Pipeline :=
  { st with
    audio := { st.audio with
      pcm := st.audio.pcm + 1
      playbackEpoch := min (st.audio.playbackEpoch + 1) (2 ^ 64 - 1) }
    queues := st.queues.insert (st.audio.pcm + 1) .empty }

def endQueue (st : Pipeline) : QueueEnd → Pipeline
  | .flush =>
    (st.replaceQueue.goto .returned).sendEvent
      (.flushed env.sessionId st.replaceQueue.audio.playbackEpoch env.zoneId)
  | .stop => (st.goto .returned).sendEvent (.sessionStopped env.sessionId env.zoneId)
  | .drop =>
    if st.audio.stopNotified then st.goto .returned
    else (st.goto .returned).sendEvent (.sessionStopped env.sessionId env.zoneId)

def next (st : Pipeline) (now : Instant) : Option Pipeline :=
  if st.audio.unsent then none
  else
    match st.audio.call with
    | .returned => none
    | .reserving packet => some (st.reserve env packet)
    | .pushing packet stop permit => st.push env packet stop permit now
    | .clearing ending => st.clearQueue ending
    | .cleared ending => some (st.endQueue env ending)

def notify (st : Pipeline) : Option Pipeline :=
  if st.audio.unsent then
    some { st with
      audio := { st.audio with unsent := false }
      events := st.events ++ [.pcm st.audio.pcm] }
  else none

def audioStopped (st : Pipeline) (reason : AudioStopReason) : Option Pipeline :=
  if st.audio.stopNotified then some st
  else
    match reason with
    | .streamEndedWhilePaused =>
      some ({ st with audio := { st.audio with stopNotified := true } }.sendEvent
        (.streamEndedWhilePaused env.sessionId env.zoneId))
    | .teardown | .streamEnded =>
      { st with audio := { st.audio with stopNotified := true } }.closeQueue .stop

/-! ### The streams of the session -/

def closeStream (st : Pipeline) (generation : Nat) : Pipeline :=
  match st.encoders.lookup generation with
  | none => st
  | some task =>
    { st with
      encoders := st.encoders.insert generation task.close
      held := st.held ++ PcmQueue.permits task.input.frames }

def spawn (st : Pipeline) (stream : LiveStream) : Pipeline :=
  if (st.encoders.lookup stream.session.generation).isSome then st
  else { st with encoders := st.encoders.insert stream.session.generation (.spawn stream) }

/-- The stream that the registry holds under the session after a step of the runtime. The one
that it held before and no longer holds is closed. -/
def adopt (st : Pipeline) (runtime : BridgeRuntime) : Pipeline :=
  let before := st.runtime.registry.lookup env.sessionId
  let after := runtime.registry.lookup env.sessionId
  let st := { st with runtime := runtime }
  if before = after then st
  else
    let st := before.elim st fun stream => st.closeStream stream.session.generation
    after.elim st st.spawn

def runtimeStep (st : Pipeline) (label : BridgeLabel) : Option Pipeline :=
  (st.runtime.step env.bridge label).map (st.adopt env)

/-! ### The Pcm handler -/

/-- The handler reads the next event. A Pcm event begins a batch. -/
def deliver (st : Pipeline) (now : Instant) : Option Pipeline :=
  match st.handler, st.events with
  | .idle, .event event :: rest => { st with events := rest }.runtimeStep env (.event event)
  | .idle, .pcm queue :: rest =>
    if st.runtime.stopped then none
    else
      (st.queues.lookup queue).map fun pcm =>
        let begun := env.adapterQueue.beginBatch pcm now
        { st with
          events := rest
          queues := st.queues.insert queue (PcmQueue.takeNewDrops begun.1).1
          handler := .batch queue begun.2
          lost := PcmQueue.lost pcm begun.1 0 ++ st.lost }
  | _, _ => none

/-- The generation of the encoder that gets the frame: the session exists, the frame has its
epoch, and it has an encoder. -/
def target (st : Pipeline) (frame : PcmFrame) : Option Nat :=
  (st.runtime.session env.sessionId).bind fun session =>
    if frame.playbackEpoch = session.playbackEpoch then
      session.encoder.map fun encoder => encoder.stream.session.generation
    else none

def discard (st : Pipeline) (frame : PcmFrame) (queue remaining : Nat) : Pipeline :=
  { st with handler := .batch queue remaining, held := st.held ++ frame.permits }

/-- The first half of `try_write_frame`: is the input open and its task running? -/
def offerFrame (st : Pipeline) (queue remaining : Nat) (frame : PcmFrame) : Option Pipeline :=
  match st.target env frame with
  | none => some (st.discard frame queue remaining)
  | some generation =>
    (st.encoders.lookup generation).bind fun task =>
      if task.finished || task.input.closed then
        (st.discard frame queue remaining).runtimeStep env
          (.event (.pcm env.sessionId env.zoneId [⟨frame.playbackEpoch, .closed⟩]))
      else some { st with handler := .writing queue remaining generation frame }

/-- The second half: the frame is pushed. -/
def writeFrame (st : Pipeline) (queue remaining generation : Nat) (frame : PcmFrame)
    (now : Instant) : Option Pipeline :=
  (st.encoders.lookup generation).bind fun task =>
    (env.encoderQueue.pushAt task.input frame now).map fun (after, admission) =>
      if admission.accepted then
        { st with
          handler := .batch queue remaining
          encoders := st.encoders.insert generation { task with input := after }
          lost := PcmQueue.lost task.input after 1 ++ st.lost }
      else
        { st.discard frame queue remaining with
          encoders := st.encoders.insert generation { task with input := after }
          lost := PcmQueue.lost task.input after 0 ++ st.lost
          refused := ⟨frame, task.input.closed⟩ :: st.refused }

def popFrame (st : Pipeline) (queue remaining : Nat) (now : Instant) : Option Pipeline :=
  (st.queues.lookup queue).map fun pcm =>
    let popped := env.adapterQueue.popAt pcm now
    match popped.2 with
    | none =>
      { st with
        queues := st.queues.insert queue popped.1
        handler := .idle
        lost := PcmQueue.lost pcm popped.1 0 ++ st.lost }
    | some (frame, _) =>
      { st with
        queues := st.queues.insert queue popped.1
        handler := .popped queue remaining frame
        lost := (PcmQueue.lost pcm popped.1 0).dropLast ++ st.lost }

def handle (st : Pipeline) (now : Instant) : Option Pipeline :=
  match st.handler with
  | .idle => none
  | .batch _ 0 => some { st with handler := .idle }
  | .batch queue (remaining + 1) => st.popFrame env queue remaining now
  | .popped queue remaining frame => st.offerFrame env queue remaining frame
  | .writing queue remaining generation frame =>
    st.writeFrame env queue remaining generation frame now

/-! ### The encoder tasks -/

def setTask (st : Pipeline) (generation : Nat) (task : EncoderTask) : Pipeline :=
  { st with encoders := st.encoders.insert generation task }

def receive (st : Pipeline) (generation : Nat) (task : EncoderTask) (now : Instant) : Pipeline :=
  let popped := env.encoderQueue.popAt task.input now
  match popped.2 with
  | none =>
    { st.setTask generation { task with input := popped.1 } with
      lost := PcmQueue.lost task.input popped.1 0 ++ st.lost }
  | some (frame, _) =>
    { st.setTask generation { task with input := popped.1, holding := some frame } with
      lost := (PcmQueue.lost task.input popped.1 0).dropLast ++ st.lost }

def check (st : Pipeline) (generation : Nat) (task : EncoderTask) (frame : PcmFrame) : Pipeline :=
  { st.setTask generation { task with
      holding := none
      encoded :=
        if task.acceptsEpoch frame.playbackEpoch then frame :: task.encoded else task.encoded } with
    held := st.held ++ frame.permits }

def finish (st : Pipeline) (generation : Nat) (task : EncoderTask) : Pipeline :=
  { st.setTask generation { task with finished := true, holding := none } with
    held := st.held ++ (task.holding.elim [] PcmFrame.permits) }

def encoderStep (st : Pipeline) (generation : Nat) (task : EncoderTask) :
    EncoderAction → Option Pipeline
  | .receive now =>
    if task.finished = false ∧ task.holding = none then some (st.receive env generation task now)
    else none
  | .check => task.holding.map (st.check generation task)
  | .publish frame =>
    if frame ∈ task.encoded ∧ task.finished = false ∧ task.closed = false then
      some { st with published := (task.stream, frame) :: st.published }
    else none
  | .overflow => some (st.closeStream generation)
  | .finish => some (st.finish generation task)

def step (st : Pipeline) : PipelineLabel → Option Pipeline
  | .audioInit sender => if st.audio.announced then none else some (st.audioInit env sender)
  | .audioProcessTimed samples presentationTime now =>
    if st.ready then
      (st.emitPcm env (st.frame env samples presentationTime none) now).map Prod.fst
    else none
  | .audioProcessBuffered packet => if st.ready then some (st.goto (.reserving packet)) else none
  | .next now => st.next env now
  | .notify => st.notify
  | .audioFlush => if st.ready then (st.setProgress 0).closeQueue .flush else none
  | .audioStopped reason => if st.ready then st.audioStopped env reason else none
  | .drop =>
    if st.ready then { st with audio := { st.audio with dropped := true } }.closeQueue .drop
    else none
  | .send event =>
    if event.WellFormed env.bridge ∧ event.ofAudio env.sessionId = false then
      some (st.sendEvent event)
    else none
  | .deliver now => st.deliver env now
  | .handle now => st.handle env now
  | .runtime (.event _) => none
  | .runtime label =>
    if label.served = true ∧ st.handler ≠ .idle then none else st.runtimeStep env label
  | .encoder generation action =>
    (st.encoders.lookup generation).bind fun task => st.encoderStep env generation task action
  | .dropPermit permit =>
    if permit ∈ st.held then
      some { st.dropPermit permit with held := st.held.erase permit }
    else none

end Pipeline

def pipeline (env : PipelineEnv) : TransitionSystem Pipeline PipelineLabel where
  init := .new env
  step := Pipeline.step env

namespace Household

def pipelineEnv : PipelineEnv where
  bridge := env
  sessionId := ⟨0⟩
  format := ⟨44100, 2, 16⟩
  entrySize := 128
  queueDuration := .fromSecs 2
  fromSecs := fun secs => (secs * 1000000000 + 1 / 2).floor.toNat

end Household

end AirSonos
