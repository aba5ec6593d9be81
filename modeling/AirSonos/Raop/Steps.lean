import AirSonos.Raop.BufferedAudio

/-!
# What a step does to the frames

Most steps leave the frames alone. The others admit one, drop some of those in the buffer, hand
one to the delivery thread, or settle what becomes of the one that was offered.
-/

namespace AirSonos.Raop

namespace PlayoutState

/-- Nothing changes that the ledger of frames depends on. -/
structure Keeps (before after : PlayoutState) : Prop where
  buffer : after.buffer = before.buffer
  epoch : after.epoch = before.epoch
  inFlightSamples : after.inFlightSamples = before.inFlightSamples
  flushRange : after.flushRange = before.flushRange
  stopped : after.stopped = before.stopped

@[refl] theorem Keeps.refl (s : PlayoutState) : s.Keeps s :=
  ⟨rfl, rfl, rfl, rfl, rfl⟩

theorem Keeps.trans {s t u : PlayoutState} (first : s.Keeps t) (second : t.Keeps u) :
    s.Keeps u where
  buffer := second.buffer.trans first.buffer
  epoch := second.epoch.trans first.epoch
  inFlightSamples := second.inFlightSamples.trans first.inFlightSamples
  flushRange := second.flushRange.trans first.flushRange
  stopped := second.stopped.trans first.stopped

theorem Keeps.changeFormat (s : PlayoutState) (config : OutputConfig) (ssrc : AudioSsrc)
    (switched : Bool) (now : LocalTime) : s.Keeps (s.changeFormat config ssrc switched now) := by
  unfold PlayoutState.changeFormat
  split <;> exact ⟨rfl, rfl, rfl, rfl, rfl⟩

theorem Keeps.anchorToTimeline (clock : Clock) (s : PlayoutState)
    (shared : Option TimelineOrigin) (anchorRtp : UInt32) (networkNs timelineId : UInt64)
    (first : Option UInt32) (now : LocalTime) :
    s.Keeps (s.anchorToTimeline clock shared anchorRtp networkNs timelineId first now) := by
  unfold PlayoutState.anchorToTimeline
  dsimp only
  split
  · exact ⟨rfl, rfl, rfl, rfl, rfl⟩
  · split <;> exact ⟨rfl, rfl, rfl, rfl, rfl⟩

section ForgetFlush

variable (s : PlayoutState) (sequence : UInt16)

theorem forgetFlush_buffer : (s.forgetFlush sequence).buffer = s.buffer := by
  unfold forgetFlush
  split <;> rfl

theorem forgetFlush_epoch : (s.forgetFlush sequence).epoch = s.epoch := by
  unfold forgetFlush
  split <;> rfl

theorem forgetFlush_inFlightSamples :
    (s.forgetFlush sequence).inFlightSamples = s.inFlightSamples := by
  unfold forgetFlush
  split <;> rfl

theorem forgetFlush_stopped : (s.forgetFlush sequence).stopped = s.stopped := by
  unfold forgetFlush
  split <;> rfl

end ForgetFlush

/-- Playout starts with the frames that are not due yet. -/
structure Starts (before after : PlayoutState) (due : UInt32) : Prop where
  buffer : after.buffer = AssocMap.retain
    (fun timestamp _ => decide (0 ≤ asI32 (timestamp - due))) before.buffer
  epoch : after.epoch = before.epoch
  inFlightSamples : after.inFlightSamples = before.inFlightSamples
  flushRange : after.flushRange = before.flushRange
  stopped : after.stopped = before.stopped

theorem Starts.of_keeps {before mapped : PlayoutState} (h : before.Keeps mapped)
    (now : LocalTime) : before.Starts (mapped.dropStale now) (mapped.targetRtp now) where
  buffer := by
    rw [dropStale, h.buffer]
  epoch := h.epoch
  inFlightSamples := h.inFlightSamples
  flushRange := h.flushRange
  stopped := h.stopped

theorem startPlayout_starts (clock : Clock) (s : PlayoutState) (rate : Nat)
    (shared : Option TimelineOrigin) (anchorRtp : UInt32) (networkNs timelineId : UInt64)
    (now : LocalTime) :
    s.Starts
      ({ s with rate := rate }.startPlayout clock shared anchorRtp networkNs timelineId now)
      (({ s with rate := rate }.startPlayout clock shared anchorRtp networkNs timelineId
        now).targetRtp now) := by
  unfold startPlayout
  dsimp only
  split
  · have hanchored : s.Keeps ({ s with rate := rate }.anchorLocally anchorRtp now) :=
      ⟨rfl, rfl, rfl, rfl, rfl⟩
    exact .of_keeps (hanchored.trans (.anchorToTimeline _ _ _ _ _ _ _ _)) now
  · have hlocal : s.Keeps { ({ s with rate := rate }.anchorLocally anchorRtp now) with
        timeline := none } := ⟨rfl, rfl, rfl, rfl, rfl⟩
    exact .of_keeps hlocal now

/-- Playout stops with an empty buffer. -/
structure Stops (before after : PlayoutState) : Prop where
  buffer : after.buffer = ∅
  epoch : after.epoch = before.epoch
  inFlightSamples : after.inFlightSamples = before.inFlightSamples
  flushRange : after.flushRange = before.flushRange
  stopped : after.stopped = true

end PlayoutState

theorem PlayoutBuffer.takeReadyFrame_eq_some {buffer rest : PlayoutBuffer} {target : UInt32}
    {timestamp : UInt32} {frame : BufferedFrame}
    (h : buffer.takeReadyFrame target = some ((timestamp, frame), rest)) :
    buffer.lookup timestamp = some frame ∧ rest = buffer.erase timestamp := by
  obtain ⟨key, -, hkey⟩ := Option.bind_eq_some_iff.mp h
  obtain ⟨found, hfound, heq⟩ := Option.map_eq_some_iff.mp hkey
  cases heq
  exact ⟨hfound, rfl⟩

/-- The epoch under which a packet passed the check. -/
def Receiver.epoch? : Receiver → Option Nat
  | detecting _ epoch => some epoch
  | decoding _ epoch => some epoch
  | admitting _ epoch _ => some epoch
  | _ => none

/-- The packet that passed the check. -/
def Receiver.packet? : Receiver → Option AudioPacket
  | detecting packet _ => some packet
  | decoding packet _ => some packet
  | admitting packet _ _ => some packet
  | _ => none

/-- The receiver goes on with the packet that it has, or has none. -/
def Receiver.Follows (before after : Receiver) : Prop :=
  after.epoch? = none ∧ after.packet? = none ∨
    after.epoch? = before.epoch? ∧ after.packet? = before.packet?

variable {env : BufferedAudioEnv} {st after : BufferedAudio} {label : BufferedAudioLabel}

/-- One step, by what happens to the frames. -/
inductive BufferedStep (env : BufferedAudioEnv) (st : BufferedAudio) : BufferedAudio → Prop
  | idles {playout : PlayoutState} {receiver : Receiver} (currentSsrc : AudioSsrc)
      (handler : Handler) (keeps : st.playout.Keeps playout)
      (follows : st.receiver.Follows receiver) :
      BufferedStep env st { st with
        playout := playout
        receiver := receiver
        currentSsrc := currentSsrc
        handler := handler }
  | passes {packet : AudioPacket} (running : st.playout.stopped = false)
      (unflushed : st.playout.flushed packet.sequence = false) :
      BufferedStep env st (st.pass packet)
  | inserts {packet : AudioPacket} {epoch : Nat} {samples : List Sample}
      (receiver : st.receiver = .admitting packet epoch samples)
      (running : st.playout.stopped = false) (current : st.playout.epoch = epoch)
      (room : st.playout.queued + samples.length ≤ st.playout.budget) :
      BufferedStep env st ((st.insert packet samples).goto .gating)
  | stops {playout : PlayoutState} {receiver : Receiver} (handler : Handler)
      (stops : st.playout.Stops playout) (follows : st.receiver.Follows receiver) :
      BufferedStep env st { st.edit playout .stopped with
        receiver := receiver
        handler := handler }
  | starts {playout : PlayoutState} (now : LocalTime)
      (starts : st.playout.Starts playout (playout.targetRtp now)) :
      BufferedStep env st { st.edit playout (.stale (playout.targetRtp now)) with
        starts := ⟨playout, now, st.admitted.length⟩ :: st.starts }
  | flushes (first last : UInt16) : BufferedStep env st (st.flushRange first last)
  | winds (reason : AudioStopReason) (waiting : st.delivery = .waiting) :
      BufferedStep env st { st with delivery := .stopping reason }
  | catchesUp (waiting : st.delivery = .waiting) :
      BufferedStep env st { st with
        deliveredEpoch := st.playout.epoch
        delivery := if st.session then .flushing else .waiting }
  | opens (waiting : st.delivery = .waiting) (current : st.playout.epoch = st.deliveredEpoch) :
      BufferedStep env st st.openSession
  | takes {timestamp : UInt32} {frame : BufferedFrame} (presentationTime : Option LocalTime)
      (waiting : st.delivery = .waiting) (running : st.playout.stopped = false)
      (current : st.playout.epoch = st.deliveredEpoch)
      (found : st.playout.buffer.lookup timestamp = some frame) :
      BufferedStep env st { st.openSession with
        playout := { st.openSession.playout with
          buffer := st.playout.buffer.erase timestamp
          inFlightSamples := frame.samples.length }
        delivery := .offering timestamp frame presentationTime
        taken := (frame, st.openSession.flushes.length) :: st.openSession.taken }
  | notifies (flushing : st.delivery = .flushing) :
      BufferedStep env st { st with
        delivery := .waiting
        callbacks := .flush st.deliveredEpoch :: st.callbacks }
  | processes {timestamp : UInt32} {frame : BufferedFrame} {presentationTime : Option LocalTime}
      (offering : st.delivery = .offering timestamp frame presentationTime) :
      BufferedStep env st (st.offer timestamp frame presentationTime true)
  | loses {timestamp : UInt32} {frame : BufferedFrame} {presentationTime : Option LocalTime}
      {loss : Loss} (offering : st.delivery = .offering timestamp frame presentationTime)
      (lost : st.playout.stopped = true ∧ loss = .stopped ∨
        st.playout.epoch ≠ st.deliveredEpoch ∧
          loss = .interrupted st.takenAfter st.flushes.length ∨
        (st.playout.buffer.lookup timestamp).isSome = true ∧ loss = .replaced) :
      BufferedStep env st { st with
        playout := { st.playout with inFlightSamples := 0 }
        delivery := .waiting
        callbacks := .process frame presentationTime st.deliveredEpoch false :: st.callbacks
        lost := (frame, loss) :: st.lost }
  | returns {timestamp : UInt32} {frame : BufferedFrame} {presentationTime : Option LocalTime}
      (offering : st.delivery = .offering timestamp frame presentationTime)
      (running : st.playout.stopped = false) (current : st.playout.epoch = st.deliveredEpoch)
      (free : st.playout.buffer.lookup timestamp = none) :
      BufferedStep env st { st with
        playout := { st.playout with
          inFlightSamples := 0
          buffer := st.playout.buffer.insert timestamp frame }
        delivery := .waiting
        callbacks := .process frame presentationTime st.deliveredEpoch false :: st.callbacks }
  | ends {reason : AudioStopReason} (stopping : st.delivery = .stopping reason) :
      BufferedStep env st { st with
        delivery := .ended
        session := false
        callbacks := if st.session then .stopped reason :: st.callbacks else st.callbacks }

section OpenSession

variable (st)

theorem BufferedAudio.openSession_buffer :
    st.openSession.playout.buffer = st.playout.buffer := by
  unfold openSession
  split <;> rfl

theorem BufferedAudio.openSession_inFlightSamples :
    st.openSession.playout.inFlightSamples = st.playout.inFlightSamples := by
  unfold openSession
  split <;> rfl

theorem BufferedAudio.openSession_delivery : st.openSession.delivery = st.delivery := by
  unfold openSession
  split <;> rfl

theorem BufferedAudio.openSession_flushes : st.openSession.flushes = st.flushes := by
  unfold openSession
  split <;> rfl

theorem BufferedAudio.openSession_deliveredEpoch :
    st.openSession.deliveredEpoch = st.deliveredEpoch := by
  unfold openSession
  split <;> rfl

theorem BufferedAudio.openSession_session : st.openSession.session = true := by
  unfold openSession
  split
  · rfl
  · case isFalse hold =>
    exact Bool.eq_true_of_not_eq_false (not_or.mp hold).1

end OpenSession

namespace BufferedStep

theorem goto {receiver : Receiver} (epoch : receiver.epoch? = none)
    (packet : receiver.packet? = none) : BufferedStep env st (st.goto receiver) :=
  .idles _ _ (.refl _) (.inl ⟨epoch, packet⟩)

theorem stay : BufferedStep env st st :=
  .idles _ _ (.refl _) (.inr ⟨rfl, rfl⟩)

theorem check (packet : AudioPacket) : BufferedStep env st (st.check packet) := by
  unfold BufferedAudio.check
  split
  · exact goto rfl rfl
  · case isFalse running =>
    split
    · exact goto rfl rfl
    · case isFalse unflushed =>
      exact .passes (Bool.eq_false_iff.mpr running) (Bool.eq_false_iff.mpr unflushed)

theorem detect {packet : AudioPacket} {epoch : Nat}
    (receiver : st.receiver = .detecting packet epoch) (now : LocalTime) :
    BufferedStep env st (st.detect env packet epoch now) := by
  have hfollows : st.receiver.Follows (.decoding packet epoch) := by
    rw [receiver]
    exact .inr ⟨rfl, rfl⟩
  unfold BufferedAudio.detect
  split
  · exact .idles _ _ (.changeFormat _ _ _ _ _) hfollows
  · exact .idles _ _ (.refl _) hfollows

theorem decode {packet : AudioPacket} {epoch : Nat}
    (receiver : st.receiver = .decoding packet epoch) (samples : Option (List Sample)) :
    BufferedStep env st (st.decode packet epoch samples) := by
  unfold BufferedAudio.decode
  split
  · exact goto rfl rfl
  · exact goto rfl rfl
  · refine .idles _ _ (.refl _) (.inr ?_)
    rw [receiver]
    exact ⟨rfl, rfl⟩

theorem admission {packet : AudioPacket} {epoch : Nat} {samples : List Sample}
    (receiver : st.receiver = .admitting packet epoch samples) :
    BufferedStep env st (st.admission packet epoch samples) := by
  unfold BufferedAudio.admission
  split
  · exact goto rfl rfl
  · case isFalse running =>
    split
    · exact goto rfl rfl
    · case isFalse current =>
      split
      · exact goto rfl rfl
      · split
        · case isTrue room =>
          exact .inserts receiver (Bool.eq_false_iff.mpr running) (not_not.mp current) room
        · exact stay

theorem close (h : st.close = some after) : BufferedStep env st after := by
  unfold BufferedAudio.close at h
  split at h
  · cases h
    exact goto rfl rfl
  · cases h
    exact goto rfl rfl
  · cases h
    exact goto rfl rfl
  · cases h

theorem command (shared : Option TimelineOrigin) (now : LocalTime) (command : PlayoutCommand) :
    BufferedStep env st (st.command env shared now command) := by
  cases command with
  | setRate anchorRtp anchorTimeNs timelineId rate =>
    change BufferedStep env st (st.setRate env anchorRtp anchorTimeNs timelineId rate shared now)
    unfold BufferedAudio.setRate
    split
    · exact .idles _ _ ⟨rfl, rfl, rfl, rfl, rfl⟩ (.inr ⟨rfl, rfl⟩)
    · exact .starts now (PlayoutState.startPlayout_starts _ _ _ _ _ _ _ _)
  | flush fromSeq untilSeq => exact .flushes _ _
  | stop => exact .stops _ ⟨rfl, rfl, rfl, rfl, rfl⟩ (.inr ⟨rfl, rfl⟩)

theorem deliver (waiting : st.delivery = .waiting) (now : LocalTime) :
    BufferedStep env st (st.deliver env now) := by
  unfold BufferedAudio.deliver
  split
  · exact .winds _ waiting
  · case isFalse running =>
    split
    · exact .catchesUp waiting
    · case isFalse current =>
      have hcurrent : st.playout.epoch = st.deliveredEpoch := (not_not.mp current).symm
      unfold BufferedAudio.take
      split
      · exact .opens waiting hcurrent
      · case h_2 timestamp frame buffer ready =>
        obtain ⟨found, rfl⟩ := PlayoutBuffer.takeReadyFrame_eq_some ready
        rw [st.openSession_buffer] at found ⊢
        exact .takes _ waiting (Bool.eq_false_iff.mpr running) hcurrent found

theorem offer {timestamp : UInt32} {frame : BufferedFrame} {presentationTime : Option LocalTime}
    (offering : st.delivery = .offering timestamp frame presentationTime) (accepted : Bool) :
    BufferedStep env st (st.offer timestamp frame presentationTime accepted) := by
  cases accepted with
  | true => exact .processes offering
  | false =>
    unfold BufferedAudio.offer
    rw [if_neg Bool.false_ne_true]
    split
    · case isTrue stopped => exact .loses offering (.inl ⟨stopped, rfl⟩)
    · case isFalse running =>
      split
      · case isTrue interrupted => exact .loses offering (.inr (.inl ⟨interrupted, rfl⟩))
      · case isFalse current =>
        split
        · case isTrue taken => exact .loses offering (.inr (.inr ⟨taken, rfl⟩))
        · case isFalse free =>
          exact .returns offering (Bool.eq_false_iff.mpr running) (not_not.mp current)
            (Option.not_isSome_iff_eq_none.mp free)

end BufferedStep

theorem BufferedAudio.step_cases (taken : st.step env label = some after) :
    BufferedStep env st after := by
  cases label <;> simp only [BufferedAudio.step] at taken
  case accept connected =>
    split at taken <;> cases taken
    cases connected <;> exact .goto rfl rfl
  case gate =>
    split at taken <;> cases taken
    unfold BufferedAudio.gate
    split
    · exact .goto rfl rfl
    · split
      · exact .stay
      · exact .goto rfl rfl
  case close => exact .close taken
  case read =>
    split at taken <;> cases taken
    unfold BufferedAudio.read
    split <;> exact .goto rfl rfl
  case check =>
    split at taken <;> cases taken
    exact .check _
  case detect =>
    split at taken <;> cases taken
    exact .detect ‹_› _
  case decode =>
    split at taken <;> cases taken
    exact .decode ‹_› _
  case admission =>
    split at taken <;> cases taken
    exact .admission ‹_›
  case leave =>
    split at taken <;> cases taken
    exact .stops _ ⟨rfl, rfl, rfl, rfl, rfl⟩ (.inl ⟨rfl, rfl⟩)
  case command =>
    split at taken <;> cases taken
    exact .command _ _ _
  case cleanUp =>
    split at taken <;> cases taken
    exact .stops _ ⟨rfl, rfl, rfl, rfl, rfl⟩ (.inr ⟨rfl, rfl⟩)
  case abort =>
    split at taken <;> cases taken
    exact .idles _ _ (.refl _) (.inl ⟨rfl, rfl⟩)
  case deliver =>
    split at taken
    · split at taken <;> cases taken
      exact .deliver ‹_› _
    · cases taken
  case flush =>
    split at taken <;> cases taken
    exact .notifies ‹_›
  case offer =>
    split at taken <;> cases taken
    exact .offer ‹_› _
  case stop =>
    split at taken <;> cases taken
    exact .ends ‹_›

end AirSonos.Raop
