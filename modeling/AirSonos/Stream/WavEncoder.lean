import AirSonos.Core.PcmLedger
import AirSonos.Stream.TimedPcm

/-!
# The WAV encoder as a delay line

One task takes frames from its queue and publishes them to the stream. It waits for the release
of the stream once and keeps the plan it finds. Frames are pushed, the stream is released and
closed, and subscribers come and go between any two steps of the task.
-/

namespace AirSonos.Live

/-- A plan: output begins with audio presented, or for untimed audio received, at or after
`start`, and is delayed by `delay`. -/
structure PlaybackRelease where
  start : Instant
  delay : Duration
deriving DecidableEq

def leBytes (n : Nat) : (count : Nat) → Bytes
  | 0 => []
  | count + 1 => UInt8.ofNat n :: leBytes (n / 256) count

def ascii (text : String) : Bytes :=
  text.toList.map fun c => UInt8.ofNat c.toNat

def wavStreamHeader (sampleRate channels : Nat) : Bytes :=
  let bitsPerSample := 16
  let blockAlign := channels * (bitsPerSample / 8)
  let byteRate := sampleRate * blockAlign
  ascii "RIFF" ++ leBytes (2 ^ 32 - 1) 4 ++ ascii "WAVE" ++ ascii "fmt " ++ leBytes 16 4 ++
    leBytes 1 2 ++ leBytes channels 2 ++ leBytes sampleRate 4 ++ leBytes byteRate 4 ++
    leBytes blockAlign 2 ++ leBytes bitsPerSample 2 ++ ascii "data" ++ leBytes (2 ^ 32 - 1) 4

/-- `quantize` is the 16-bit integer of a float sample, in floating point, and `float` computes
durations in floating point. -/
structure WavEnv where
  entrySize : Nat
  sampleRate : Nat
  channels : Nat
  queueDuration : Duration
  playbackEpoch : Nat
  plan : PlaybackRelease
  quantize : Sample → UInt16
  float : FloatTime

abbrev QueueEntry := PcmFrame × Instant

inductive WavTask
  | starting
  | waiting
  | receiving (release : PlaybackRelease)
  | checking (release : PlaybackRelease) (entry : QueueEntry)
  | delaying (release : PlaybackRelease) (entry : QueueEntry)
  | publishing (release : PlaybackRelease) (entry : QueueEntry)
  | sending (release : PlaybackRelease) (entry : QueueEntry)
  | finished
deriving DecidableEq

/-- A publication that has ended: whether the stream had a subscriber then, and the bytes that
were broadcast. -/
structure WavOutput where
  entry : QueueEntry
  subscribed : Bool
  bytes : Bytes

/-- `published` holds the entries whose publication has begun, with the instant at which it did,
and `outputs` those whose publication has ended. -/
structure WavEncoder where
  now : Instant
  input : PcmQueue.Ledger
  stream : TimedStream Instant
  release : Option PlaybackRelease
  task : WavTask
  published : List (QueueEntry × Instant)
  outputs : List WavOutput

inductive WavLabel
  | tick (elapsed : Duration)
  | input (label : PcmQueue.QueueLabel)
  | subscribe (connected : Bool)
  | close
  | setAnchor
  | setRelease
  | next
  | stop

namespace WavEnv

variable (env : WavEnv)

def queue : PcmQueue :=
  .new env.entrySize env.sampleRate env.channels env.queueDuration

def header : Bytes :=
  wavStreamHeader env.sampleRate env.channels

def f32PcmToS16leBytes (samples : List Sample) : Bytes :=
  samples.flatMap fun sample =>
    [(env.quantize sample).toUInt8, (env.quantize sample >>> 8).toUInt8]

def chunk (entry : QueueEntry) : TimedChunk Instant where
  bytes := env.f32PcmToS16leBytes entry.1.samples
  presentationTime := entry.1.presentationTime
  sampleRate := entry.1.sampleRate
  channels := entry.1.channels

end WavEnv

/-- When the delay line lets an entry pass. -/
def due (release : PlaybackRelease) (entry : QueueEntry) : Instant :=
  entry.1.presentationTime.getD entry.2 + release.delay

namespace WavEncoder

variable (env : WavEnv)

def new : WavEncoder where
  now := 0
  input := .new
  stream := ⟨[], 0, 0, 0, 0, false, false, .unset⟩
  release := none
  task := .starting
  published := []
  outputs := []

/-- `publish_prelude`, for a stream that has no prelude yet. -/
def publishHeader (st : TimedStream Instant) (header : Bytes) : TimedStream Instant :=
  if st.closed then st
  else
    let st := { st with encodedBytes := st.encodedBytes + header.length }
    if !st.subscriberConnected then
      { st with dropped := st.dropped + header.length, chunksDropped := st.chunksDropped + 1 }
    else st.sendServed header

/-- One attempt of `recv`. -/
def receive (st : WavEncoder) (release : PlaybackRelease) : Option WavEncoder :=
  (PcmQueue.Ledger.step env.queue st.input (.pop st.now)).map fun input =>
    match (env.queue.popAt st.input.state st.now).2 with
    | some entry => { st with input := input, task := .checking release entry }
    | none => { st with input := input, task := if input.state.closed then .finished else st.task }

/-- The filter by epoch and cutoff, and whether the frame has to wait. -/
def check (st : WavEncoder) (release : PlaybackRelease) (entry : QueueEntry) : WavTask :=
  if st.stream.closed || decide (entry.1.playbackEpoch ≠ env.playbackEpoch) then .receiving release
  else if entry.1.presentationTime.isNone && decide (entry.2 < release.start) then
    .receiving release
  else if release.delay ≠ 0 then .delaying release entry
  else .publishing release entry

def publish (st : WavEncoder) (release : PlaybackRelease) (entry : QueueEntry) : WavEncoder :=
  match st.stream.beginPublish (env.chunk entry) with
  | none => { st with task := .receiving release }
  | some stream =>
    { st with
      stream := stream
      task := .sending release entry
      published := st.published ++ [(entry, st.now)] }

def send (st : WavEncoder) (release : PlaybackRelease) (entry : QueueEntry) : WavEncoder :=
  let stream := st.stream.finishPublish (floatSkipBytes env.float) st.now (env.chunk entry)
  { st with
    stream := stream
    task := .receiving release
    outputs := st.outputs ++ [⟨entry, st.stream.subscriberConnected,
      (stream.sent.drop st.stream.sent.length).flatten⟩] }

def next (st : WavEncoder) : Option WavEncoder :=
  match st.task with
  | .starting => some { st with stream := publishHeader st.stream env.header, task := .waiting }
  | .waiting =>
    if st.stream.closed then some { st with task := .finished }
    else st.release.map fun release => { st with task := .receiving release }
  | .receiving release => st.receive env release
  | .checking release entry => some { st with task := st.check env release entry }
  | .delaying release entry =>
    if due release entry ≤ st.now then some { st with task := .publishing release entry } else none
  | .publishing release entry => some (st.publish env release entry)
  | .sending release entry => some (st.send env release entry)
  | .finished => none

/-- A `select` that finds the stream closed. -/
def stop (st : WavEncoder) : Option WavEncoder :=
  if st.stream.closed then
    match st.task with
    | .receiving _ | .delaying _ _ => some { st with task := .finished }
    | _ => none
  else none

/-- What others do to the queue. Only the task pops. -/
def feed (st : WavEncoder) : PcmQueue.QueueLabel → Option WavEncoder
  | .pop _ => none
  | label =>
    (PcmQueue.Ledger.step env.queue st.input label).map fun input => { st with input := input }

/-- `set_playback_plan` sets the anchor and then the release. -/
def step (st : WavEncoder) : WavLabel → Option WavEncoder
  | .tick elapsed => some { st with now := st.now + elapsed }
  | .input label => st.feed env label
  | .subscribe connected =>
    some { st with stream := { st.stream with subscriberConnected := connected } }
  | .close => some { st with stream := { st.stream with closed := true } }
  | .setAnchor =>
    some { st with stream := { st.stream with playbackAnchor := .atInstant env.plan.start } }
  | .setRelease =>
    if st.stream.playbackAnchor = .atInstant env.plan.start then
      some { st with release := some env.plan }
    else none
  | .next => st.next env
  | .stop => st.stop

end WavEncoder

def wavEncoder (env : WavEnv) : TransitionSystem WavEncoder WavLabel where
  init := .new
  step := WavEncoder.step env

/-! ### What a publication broadcasts -/

/-- The part of a frame that is not skipped. An untimed frame is kept whole. -/
def WavEnv.kept (env : WavEnv) (entry : QueueEntry) : Bytes :=
  match entry.1.presentationTime with
  | none => (env.chunk entry).bytes
  | some presentationTime =>
    (env.chunk entry).bytes.drop
      (floatSkipBytes env.float env.plan.start presentationTime (env.chunk entry))

/-- A publication that is too large closes the stream instead. -/
def served (bytes : Bytes) : Bytes :=
  if MAX_PUBLICATION < bytes.length then [] else bytes

/-- A stream that has gone on: its anchor is as it was, it stays closed once it is closed, and
it has broadcast these bytes. -/
structure Continues {τ : Type} (st after : TimedStream τ) (bytes : Bytes) : Prop where
  anchor : after.playbackAnchor = st.playbackAnchor
  closed : st.closed = true → after.closed = true
  sent : ∃ chunks, after.sent = st.sent ++ chunks ∧ chunks.flatten = bytes

theorem Continues.quiet {τ : Type} {st after : TimedStream τ}
    (anchor : after.playbackAnchor = st.playbackAnchor)
    (closed : st.closed = true → after.closed = true) (sent : after.sent = st.sent) :
    Continues st after [] :=
  ⟨anchor, closed, [], by rw [sent, List.append_nil], rfl⟩

theorem sendServed_continues {τ : Type} (st : TimedStream τ) (bytes : Bytes) :
    Continues st (st.sendServed bytes) (served bytes) := by
  unfold TimedStream.sendServed served
  split
  · exact .quiet rfl (fun _ => rfl) rfl
  · exact ⟨rfl, id, _, rfl, Broadcast.flatten_pieces (by decide) bytes⟩

theorem skip_continues {τ : Type} (st : TimedStream τ) (bytes : Bytes) (skipped : Nat) :
    Continues st (st.skip bytes skipped) (served (bytes.drop skipped)) := by
  unfold TimedStream.skip
  split
  · case isTrue hall =>
    rw [List.drop_of_length_le hall]
    exact .quiet rfl id rfl
  · obtain ⟨hanchor, hclosed, hsent⟩ := sendServed_continues
      { st with skipped := st.skipped + skipped } (bytes.drop skipped)
    exact ⟨hanchor, hclosed, hsent⟩

/-- A publication against the cutoff broadcasts what is kept of the frame, if someone listens. -/
theorem finishPublish_continues (env : WavEnv) {st : TimedStream Instant} {entry : QueueEntry}
    (hanchor : st.playbackAnchor = .atInstant env.plan.start) (now : Instant) :
    Continues st (st.finishPublish (floatSkipBytes env.float) now (env.chunk entry))
      (if st.subscriberConnected then served (env.kept entry) else []) := by
  unfold TimedStream.finishPublish
  by_cases hsubscribed : st.subscriberConnected = true
  · rw [if_neg (by simp [hsubscribed]), if_pos hsubscribed, hanchor]
    have htime : (env.chunk entry).presentationTime = entry.1.presentationTime := rfl
    simp only [TimedStream.serve, WavEnv.kept, htime]
    cases entry.1.presentationTime with
    | none => exact sendServed_continues st _
    | some presentationTime =>
      simp only
      split
      · case isTrue hdata =>
        -- no frame can be counted, so nothing is skipped
        have hnone : floatSkipBytes env.float env.plan.start presentationTime
            (env.chunk entry) = 0 := if_pos hdata
        rw [hnone]
        exact sendServed_continues st _
      · exact skip_continues st _ _
  · rw [if_pos (by simpa using hsubscribed), if_neg hsubscribed]
    exact .quiet rfl id rfl

end AirSonos.Live
