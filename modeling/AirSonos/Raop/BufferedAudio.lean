import AirSonos.Raop.Playout

/-!
# The buffered audio of one stream

Three tasks share the playout state under one lock: the receiver decodes packets into the
buffer, the command handler carries out what the RTSP thread asks for, and the delivery thread
offers due frames to the audio session. Whatever a task does between two holds of the lock is a
step of its own. Decryption is a parameter, and what the decoder makes of a packet comes with
the label.
-/

namespace AirSonos.Raop

structure BufferedAudioEnv where
  clock : Clock
  config : OutputConfig
  /-- Of nonce, associated data and ciphertext. -/
  decrypt : List UInt8 → List UInt8 → List UInt8 → Option (List UInt8)

def RTP_HEADER_LEN : Nat := 12
def NONCE_TRAIL_LEN : Nat := 8

/-- The fields of a packet that could be decrypted. -/
structure AudioPacket where
  sequence : UInt16
  timestamp : UInt32
  ssrc : AudioSsrc
  plaintext : List UInt8
deriving DecidableEq

def bigEndian (bytes : List UInt8) : Nat :=
  bytes.foldl (fun n byte => n * 256 + byte.toNat) 0

/-- No value means that the packet is skipped. -/
def BufferedAudioEnv.readPacket (env : BufferedAudioEnv) (packet : List UInt8) :
    Option AudioPacket :=
  if packet.length ≤ RTP_HEADER_LEN + NONCE_TRAIL_LEN then none
  else
    let body := packet.length - NONCE_TRAIL_LEN
    (env.decrypt (List.replicate 4 0 ++ packet.drop body) ((packet.take 12).drop 4)
        ((packet.take body).drop RTP_HEADER_LEN)).map fun plaintext =>
      { sequence := UInt16.ofNat (bigEndian ((packet.take 4).drop 2))
        timestamp := UInt32.ofNat (bigEndian ((packet.take 8).drop 4))
        ssrc := .fromU32 (UInt32.ofNat (bigEndian ((packet.take 12).drop 8)))
        plaintext := plaintext }

inductive PlayoutCommand
  | setRate (anchorRtp : UInt32) (anchorTimeNs timelineId : UInt64) (rate : Nat)
  | flush (fromSeq untilSeq : UInt32)
  | stop

/-- Where the receiver stands in its loop. `epoch` is the one of the packet. -/
inductive Receiver
  | accepting
  | gating
  | reading
  | checking (packet : AudioPacket)
  | detecting (packet : AudioPacket) (epoch : Nat)
  | decoding (packet : AudioPacket) (epoch : Nat)
  | admitting (packet : AudioPacket) (epoch : Nat) (samples : List Sample)
  | leaving
  | ended
deriving DecidableEq

/-- Where the command handler stands. It stops the playout when it ends or is dropped, and then
aborts the receiver. -/
inductive Handler
  | listening
  | closing
  | aborting
  | ended
deriving DecidableEq

/-- Where the delivery thread stands. -/
inductive Delivery
  | waiting
  | flushing
  | offering (timestamp : UInt32) (frame : BufferedFrame) (presentationTime : Option LocalTime)
  | stopping (reason : AudioStopReason)
  | ended

deriving instance DecidableEq for AudioStopReason

/-- What the delivery thread calls, with the epoch it has delivered. -/
inductive Callback
  | init (sampleRate channels : Nat)
  | process (frame : BufferedFrame) (presentationTime : Option LocalTime) (epoch : Nat)
      (accepted : Bool)
  | flush (epoch : Nat)
  | stopped (reason : AudioStopReason)
deriving DecidableEq

/-- Why a frame is gone that no session took. A flush is named by its number, staleness by the
timestamp that was due, and an interruption by the number of flushes before the frame was taken
and before it was lost. -/
inductive Loss
  | flushed (flush : Nat)
  | stale (due : UInt32)
  | replaced
  | interrupted (taken lost : Nat)
  | stopped
deriving DecidableEq

/-- Playout has started: the state it started with, when, and how many frames had been admitted. -/
structure PlayoutStart where
  playout : PlayoutState
  now : LocalTime
  admitted : Nat

/-- The last fields are what happened so far: the callbacks, the ranges of all flushes in order,
the sequence numbers that passed the check, each with the number of flushes before it, the
frames that were admitted, those that the delivery thread took, each with the number of flushes
before it, the starts of playout, and the frames that were lost. All but the flushes have the
newest first. -/
structure BufferedAudio where
  playout : PlayoutState
  receiver : Receiver
  currentSsrc : AudioSsrc
  handler : Handler
  delivery : Delivery
  deliveredEpoch : Nat
  session : Bool
  callbacks : List Callback
  flushes : List (UInt16 × UInt16)
  passed : List (UInt16 × Nat)
  admitted : List BufferedFrame
  taken : List (BufferedFrame × Nat)
  starts : List PlayoutStart
  lost : List (BufferedFrame × Loss)

inductive BufferedAudioLabel
  | accept (connected : Bool)
  | gate
  | close
  | read (packet : List UInt8)
  | check
  | detect (now : LocalTime)
  | decode (samples : Option (List Sample))
  | admission
  | leave
  | command (command : PlayoutCommand) (shared : Option TimelineOrigin) (now : LocalTime)
  | cleanUp
  | abort
  | deliver (now : LocalTime)
  | flush
  | offer (accepted : Bool)
  | stop

namespace BufferedAudio

variable (env : BufferedAudioEnv)

def new (now : LocalTime) : BufferedAudio where
  playout := .new env.config now
  receiver := .accepting
  currentSsrc := .none
  handler := .listening
  delivery := .waiting
  deliveredEpoch := 0
  session := false
  callbacks := []
  flushes := []
  passed := []
  admitted := []
  taken := []
  starts := []
  lost := []

/-- The frames of one buffer that another one no longer has. -/
def gone (before after : PlayoutBuffer) : List BufferedFrame :=
  AssocMap.values (AssocMap.retain (fun timestamp _ => (after.lookup timestamp).isNone) before)

/-- The playout state is edited, and the frames that leave its buffer are lost. -/
def edit (st : BufferedAudio) (playout : PlayoutState) (loss : Loss) : BufferedAudio :=
  { st with
    playout := playout
    lost := (gone st.playout.buffer playout.buffer).map (fun frame => (frame, loss)) ++ st.lost }

def lose (st : BufferedAudio) (frame : BufferedFrame) (loss : Loss) : BufferedAudio :=
  { st with lost := (frame, loss) :: st.lost }

def goto (st : BufferedAudio) (receiver : Receiver) : BufferedAudio :=
  { st with receiver := receiver }

/-! ### The receiver -/

/-- Stops reading at half the budget. -/
def gate (st : BufferedAudio) : BufferedAudio :=
  if st.playout.stopped then st.goto .ended
  else if st.playout.budget / 2 ≤ st.playout.queued then st
  else st.goto .reading

def read (st : BufferedAudio) (packet : List UInt8) : BufferedAudio :=
  match env.readPacket packet with
  | none => st.goto .gating
  | some packet => st.goto (.checking packet)

def pass (st : BufferedAudio) (packet : AudioPacket) : BufferedAudio :=
  { st with
    playout := st.playout.forgetFlush packet.sequence
    receiver := .detecting packet st.playout.epoch
    passed := (packet.sequence, st.flushes.length) :: st.passed }

def check (st : BufferedAudio) (packet : AudioPacket) : BufferedAudio :=
  if st.playout.stopped then st.goto .ended
  else if st.playout.flushed packet.sequence then st.goto .gating
  else st.pass packet

def detect (st : BufferedAudio) (packet : AudioPacket) (epoch : Nat) (now : LocalTime) :
    BufferedAudio :=
  if packet.ssrc ≠ .none ∧ packet.ssrc ≠ st.currentSsrc then
    { st with
      currentSsrc := packet.ssrc
      playout := st.playout.changeFormat env.config packet.ssrc
        (decide (st.currentSsrc ≠ .none)) now
      receiver := .decoding packet epoch }
  else st.goto (.decoding packet epoch)

/-- Nothing comes out of the decoder before it is made, or for a packet it cannot decode. -/
def decode (st : BufferedAudio) (packet : AudioPacket) (epoch : Nat)
    (samples : Option (List Sample)) : BufferedAudio :=
  match samples with
  | none => st.goto .gating
  | some [] => st.goto .gating
  | some samples => st.goto (.admitting packet epoch samples)

def frame (st : BufferedAudio) (packet : AudioPacket) (samples : List Sample) :
    BufferedFrame where
  sequence := packet.sequence
  samples := samples
  timestamp := packet.timestamp
  number := st.admitted.length
  flushes := (st.passed.head?.map Prod.snd).getD 0

/-- The frame takes the place of one with its timestamp. -/
def insert (st : BufferedAudio) (packet : AudioPacket) (samples : List Sample) : BufferedAudio :=
  { st with
    playout := { st.playout with
      buffer := st.playout.buffer.insert packet.timestamp (st.frame packet samples) }
    admitted := st.frame packet samples :: st.admitted
    lost := ((st.playout.buffer.lookup packet.timestamp).toList.map fun old =>
      (old, Loss.replaced)) ++ st.lost }

/-- A frame that has no room waits. -/
def admission (st : BufferedAudio) (packet : AudioPacket) (epoch : Nat) (samples : List Sample) :
    BufferedAudio :=
  if st.playout.stopped then st.goto .ended
  else if st.playout.epoch ≠ epoch then st.goto .gating
  else if st.playout.budget < samples.length then st.goto .ended
  else if st.playout.queued + samples.length ≤ st.playout.budget then
    (st.insert packet samples).goto .gating
  else st

/-- The peer closed the stream, or sent what is no packet. -/
def close (st : BufferedAudio) : Option BufferedAudio :=
  match st.receiver with
  | .gating => some (st.goto .leaving)
  | .reading => some (st.goto .leaving)
  | .admitting _ _ _ => some (st.goto .leaving)
  | _ => none

/-- The playout ends. A reason that is known stays. -/
def shutDown (st : BufferedAudio) (reason : AudioStopReason) : BufferedAudio :=
  st.edit { st.playout with
    buffer := ∅
    stopped := true
    stopReason := some (st.playout.stopReason.getD reason) } .stopped

def leave (st : BufferedAudio) : BufferedAudio :=
  (st.shutDown (if st.playout.rate = 0 then .streamEndedWhilePaused else .streamEnded)).goto .ended

/-! ### Commands -/

def setRate (st : BufferedAudio) (anchorRtp : UInt32) (anchorTimeNs timelineId : UInt64)
    (rate : Nat) (shared : Option TimelineOrigin) (now : LocalTime) : BufferedAudio :=
  if rate = 0 then
    { st with playout := { st.playout with
        rate := rate
        anchorRtp := anchorRtp
        mapped := none } }
  else
    let playout := { st.playout with rate := rate }.startPlayout env.clock shared anchorRtp
      anchorTimeNs timelineId now
    { st.edit playout (.stale (playout.targetRtp now)) with
      starts := ⟨playout, now, st.admitted.length⟩ :: st.starts }

def flushRange (st : BufferedAudio) (first last : UInt16) : BufferedAudio :=
  { st.edit (st.playout.flush first last) (.flushed st.flushes.length) with
    flushes := st.flushes ++ [(first, last)] }

def stopCommand (st : BufferedAudio) : BufferedAudio :=
  { st.edit { st.playout with
      buffer := ∅
      stopped := true
      stopReason := some .teardown } .stopped with
    handler := .closing }

def command (st : BufferedAudio) (shared : Option TimelineOrigin) (now : LocalTime) :
    PlayoutCommand → BufferedAudio
  | .setRate anchorRtp anchorTimeNs timelineId rate =>
    st.setRate env anchorRtp anchorTimeNs timelineId rate shared now
  | .flush fromSeq untilSeq => st.flushRange fromSeq.toUInt16 untilSeq.toUInt16
  | .stop => st.stopCommand

/-- `StopOnDrop` is dropped. -/
def cleanUp (st : BufferedAudio) : BufferedAudio :=
  { st.shutDown .teardown with handler := .aborting }

/-! ### Delivery -/

/-- There is something to do for the delivery thread. -/
def woken (st : BufferedAudio) : Bool :=
  st.playout.stopped || decide (st.playout.epoch ≠ st.deliveredEpoch) ||
    (decide (st.playout.rate ≠ 0) && decide (st.playout.buffer.keys ≠ []))

/-- A new session, or one for a new format. -/
def openSession (st : BufferedAudio) : BufferedAudio :=
  if st.session = false ∨ st.playout.formatChanged = true then
    { st with
      session := true
      playout := { st.playout with formatChanged := false }
      callbacks := .init st.playout.sampleRate st.playout.channels :: st.callbacks }
  else st

def take (st : BufferedAudio) (now : LocalTime) : BufferedAudio :=
  match st.playout.buffer.takeReadyFrame (st.playout.targetRtp now) with
  | none => st
  | some ((timestamp, frame), buffer) =>
    { st with
      playout := { st.playout with buffer := buffer, inFlightSamples := frame.samples.length }
      delivery := .offering timestamp frame (st.playout.presentationTime env.clock timestamp)
      taken := (frame, st.flushes.length) :: st.taken }

/-- The number of flushes before the last frame was taken. -/
def takenAfter (st : BufferedAudio) : Nat :=
  (st.taken.head?.map Prod.snd).getD 0

def deliver (st : BufferedAudio) (now : LocalTime) : BufferedAudio :=
  if st.playout.stopped then
    { st with delivery := .stopping (st.playout.stopReason.getD .streamEnded) }
  else if st.deliveredEpoch ≠ st.playout.epoch then
    { st with
      deliveredEpoch := st.playout.epoch
      delivery := if st.session then .flushing else .waiting }
  else st.openSession.take env now

/-- The session has answered. A frame that it did not take goes back into the buffer. -/
def offer (st : BufferedAudio) (timestamp : UInt32) (frame : BufferedFrame)
    (presentationTime : Option LocalTime) (accepted : Bool) : BufferedAudio :=
  let called : BufferedAudio := { st with
    playout := { st.playout with inFlightSamples := 0 }
    delivery := .waiting
    callbacks := .process frame presentationTime st.deliveredEpoch accepted :: st.callbacks }
  if accepted then called
  else if st.playout.stopped then called.lose frame .stopped
  else if st.playout.epoch ≠ st.deliveredEpoch then
    called.lose frame (.interrupted st.takenAfter st.flushes.length)
  else if (st.playout.buffer.lookup timestamp).isSome then called.lose frame .replaced
  else
    { called with
      playout := { called.playout with buffer := st.playout.buffer.insert timestamp frame } }

def step (st : BufferedAudio) : BufferedAudioLabel → Option BufferedAudio
  | .accept connected =>
    if st.receiver = .accepting then some (st.goto (if connected then .gating else .ended))
    else none
  | .gate => if st.receiver = .gating then some st.gate else none
  | .close => st.close
  | .read packet => if st.receiver = .reading then some (st.read env packet) else none
  | .check =>
    match st.receiver with
    | .checking packet => some (st.check packet)
    | _ => none
  | .detect now =>
    match st.receiver with
    | .detecting packet epoch => some (st.detect env packet epoch now)
    | _ => none
  | .decode samples =>
    match st.receiver with
    | .decoding packet epoch => some (st.decode packet epoch samples)
    | _ => none
  | .admission =>
    match st.receiver with
    | .admitting packet epoch samples => some (st.admission packet epoch samples)
    | _ => none
  | .leave => if st.receiver = .leaving then some st.leave else none
  | .command command shared now =>
    if st.handler = .listening then some (st.command env shared now command) else none
  | .cleanUp =>
    if st.handler = .listening ∨ st.handler = .closing then some st.cleanUp else none
  | .abort =>
    if st.handler = .aborting then some { st with handler := .ended, receiver := .ended }
    else none
  | .deliver now =>
    match st.delivery with
    | .waiting => if st.woken then some (st.deliver env now) else none
    | _ => none
  | .flush =>
    match st.delivery with
    | .flushing =>
      some { st with delivery := .waiting, callbacks := .flush st.deliveredEpoch :: st.callbacks }
    | _ => none
  | .offer accepted =>
    match st.delivery with
    | .offering timestamp frame presentationTime =>
      some (st.offer timestamp frame presentationTime accepted)
    | _ => none
  | .stop =>
    match st.delivery with
    | .stopping reason =>
      some { st with
        delivery := .ended
        session := false
        callbacks := if st.session then .stopped reason :: st.callbacks else st.callbacks }
    | _ => none

end BufferedAudio

def bufferedAudio (env : BufferedAudioEnv) (now : LocalTime) :
    TransitionSystem BufferedAudio BufferedAudioLabel where
  init := .new env now
  step := BufferedAudio.step env

end AirSonos.Raop
