import AirSonos.Core.PcmLedger
import Mathlib.Data.Rat.Cast.Order
import Mathlib.Tactic.FieldSimp

/-!
# Buffered packets against credits

The receiver offers a decoded packet until the session takes it. The session cuts it at the
sample limit of its queue, reserves credits for a piece and pushes it with the permit, and keeps
its progress when a piece is refused. The consumer pops frames and drops their permits at any
time, also in the middle of a call. How a number of seconds becomes a duration is a parameter.
-/

namespace AirSonos

structure BufferedEnv where
  entrySize : Nat
  format : PcmFormat
  playbackEpoch : Nat
  fromSecs : ℚ → Duration

structure Packet where
  samples : List Sample
  presentationTime : Option Instant
deriving DecidableEq

/-- Where the call of `audio_process_buffered` stands. `free` tells that all credits were free
when the receiver made it, and `start` is the progress it found. -/
inductive Call
  | returned
  | reserving (free : Bool) (start : Nat)
  | pushing (free : Bool) (start : Nat) (stop : Nat) (permit : PcmPermit)
deriving DecidableEq

/-- `offered` is the packet that has not been admitted yet, `pushed` its pieces that the queue
has taken, and `admitted` the packets before it with theirs. `held` are the permits of popped
frames. `refusals` counts the calls for the packet that were made with all credits free and
returned false. -/
structure BufferedSession where
  pcm : PcmQueue.State
  credits : PcmCredits
  progress : Nat
  warnedMissingTiming : Bool
  events : Nat
  call : Call
  held : List PcmPermit
  offered : Option Packet
  pushed : List PcmFrame
  admitted : List (Packet × List PcmFrame)
  refusals : Nat
deriving DecidableEq

inductive BufferedLabel
  | offer (packet : Packet)
  | next (now : Instant)
  | timed (samples : List Sample) (presentationTime : Option Instant) (now : Instant)
  | pop (now : Instant)
  | beginBatch (now : Instant)
  | takeNewDrops
  | drop (permit : PcmPermit)

namespace BufferedEnv

variable (env : BufferedEnv)

def queue : PcmQueue :=
  .new env.entrySize env.format.sampleRate env.format.channels (.fromMillis 250)

def frame (samples : List Sample) (presentationTime : Option Instant)
    (permit : Option PcmPermit) : PcmFrame where
  bufferedPermit := permit
  playbackEpoch := env.playbackEpoch
  sampleRate := env.format.sampleRate
  channels := env.format.channels
  samples := samples
  capacity := samples.length
  presentationTime := presentationTime
  samples_le := Nat.le_refl _

/-- The time of the piece that starts behind `progress` samples of the packet. -/
def pieceTime (packet : Packet) (progress : Nat) : Option Instant :=
  packet.presentationTime.map fun at_ =>
    at_ + env.fromSecs (progress / (env.format.sampleRate * env.format.channels))

end BufferedEnv

namespace BufferedSession

variable (env : BufferedEnv)

def new : BufferedSession where
  pcm := .empty
  credits := .new 0 env.queue
  progress := 0
  warnedMissingTiming := false
  events := 0
  call := .returned
  held := []
  offered := none
  pushed := []
  admitted := []
  refusals := 0

/-- Also returns whether the frame was accepted. No value means that the push does not end. -/
def emitPcm (st : BufferedSession) (samples : List Sample) (presentationTime : Option Instant)
    (permit : Option PcmPermit) (now : Instant) : Option (BufferedSession × Bool) :=
  let warned := st.warnedMissingTiming || presentationTime.isNone
  if env.queue.maxSamples < samples.length ∨ st.pcm.closed = true then
    some ({ st with warnedMissingTiming := warned }, false)
  else
    (env.queue.pushAt st.pcm (env.frame samples presentationTime permit) now).map
      fun (pcm, admission) =>
        ({ st with
            warnedMissingTiming := warned
            pcm := pcm
            events := st.events + admission.notify.toNat },
          admission.accepted)

/-- The receiver makes the call: with the packet that was refused before, if there is one. -/
def offer (st : BufferedSession) (packet : Packet) : Option BufferedSession :=
  if st.call = .returned ∧ (st.offered = none ∨ st.offered = some packet) then
    some { st with
      offered := some packet, call := .reserving st.credits.allFree st.progress }
  else none

/-- The call returns false. -/
def refuse (st : BufferedSession) (free : Bool) : BufferedSession :=
  { st with call := .returned, refusals := st.refusals + free.toNat }

/-- The call returns true. -/
def admitPacket (st : BufferedSession) (packet : Packet) : BufferedSession :=
  { st with
    progress := 0
    call := .returned
    offered := none
    pushed := []
    admitted := st.admitted ++ [(packet, st.pushed)]
    refusals := 0 }

/-- The check of the loop, and the reservation for the next piece. -/
def reserve (st : BufferedSession) (packet : Packet) (free : Bool) (start : Nat) :
    BufferedSession :=
  if st.progress < packet.samples.length then
    let stop := min (st.progress + env.queue.maxSamples) packet.samples.length
    match st.credits.tryReserve env.entrySize (stop - st.progress) with
    | none => st.refuse free
    | some (credits, permit) =>
      { st with credits := credits, call := .pushing free start stop permit }
  else st.admitPacket packet

/-- The piece is pushed. A permit that the queue does not take is dropped. -/
def push (st : BufferedSession) (packet : Packet) (free : Bool) (start stop : Nat)
    (permit : PcmPermit) (now : Instant) : Option BufferedSession :=
  let samples := (packet.samples.take stop).drop st.progress
  let time := env.pieceTime packet st.progress
  (st.emitPcm env samples time (some permit) now).map fun (st, accepted) =>
    if accepted then
      { st with
        progress := stop
        call := .reserving free start
        pushed := st.pushed ++ [env.frame samples time (some permit)] }
    else { st with credits := st.credits.release permit }.refuse free

def next (st : BufferedSession) (now : Instant) : Option BufferedSession :=
  match st.offered, st.call with
  | some packet, .reserving free start => some (st.reserve env packet free start)
  | some packet, .pushing free start stop permit => st.push env packet free start stop permit now
  | _, _ => none

/-- `audio_process_timed`, which the receiver calls between two calls for a packet. -/
def timed (st : BufferedSession) (samples : List Sample) (presentationTime : Option Instant)
    (now : Instant) : Option BufferedSession :=
  if st.call = .returned then (st.emitPcm env samples presentationTime none now).map Prod.fst
  else none

def pop (st : BufferedSession) (now : Instant) : BufferedSession :=
  let popped := env.queue.popAt st.pcm now
  { st with
    pcm := popped.1
    held := st.held ++ (popped.2.bind fun entry => entry.1.bufferedPermit).toList }

def dropPermit (st : BufferedSession) (permit : PcmPermit) : Option BufferedSession :=
  if permit ∈ st.held then
    some { st with held := st.held.erase permit, credits := st.credits.release permit }
  else none

def step (st : BufferedSession) : BufferedLabel → Option BufferedSession
  | .offer packet => st.offer packet
  | .next now => st.next env now
  | .timed samples presentationTime now => st.timed env samples presentationTime now
  | .pop now => some (st.pop env now)
  | .beginBatch now => some { st with pcm := (env.queue.beginBatch st.pcm now).1 }
  | .takeNewDrops => some { st with pcm := (PcmQueue.takeNewDrops st.pcm).1 }
  | .drop permit => st.dropPermit permit

end BufferedSession

def buffered (env : BufferedEnv) : TransitionSystem BufferedSession BufferedLabel where
  init := .new env
  step := BufferedSession.step env

/-! ### Credits -/

def Call.permits : Call → List PcmPermit
  | pushing _ _ _ permit => [permit]
  | _ => []

namespace BufferedSession

variable {env : BufferedEnv} {st after : BufferedSession}

/-- The permits that exist: with the queued frames, downstream, and in the call. -/
def outstanding (st : BufferedSession) : List PcmPermit :=
  PcmQueue.permits st.pcm.frames ++ st.held ++ st.call.permits

variable (env) in
/-- The credits in use are those of the outstanding permits, and each permit is for samples. -/
structure Funded (st : BufferedSession) : Prop where
  within : env.queue.Within st.pcm
  opened : st.pcm.closed = false
  maxSamples : st.credits.maxSamples = env.queue.maxSamples
  maxBytes : st.credits.maxBytes = env.queue.maxBytes
  usedSamples : st.credits.usedSamples = (st.outstanding.map PcmPermit.samples).sum
  usedBytes : st.credits.usedBytes = (st.outstanding.map PcmPermit.bytes).sum
  positive : ∀ permit ∈ st.outstanding, 0 < permit.samples

theorem Funded.moved (h : Funded env st) (within : env.queue.Within after.pcm)
    (opened : after.pcm.closed = false) (credits : after.credits = st.credits)
    (perm : after.outstanding.Perm st.outstanding) : Funded env after where
  within := within
  opened := opened
  maxSamples := credits ▸ h.maxSamples
  maxBytes := credits ▸ h.maxBytes
  usedSamples := by rw [credits, h.usedSamples, (perm.map _).sum_eq]
  usedBytes := by rw [credits, h.usedBytes, (perm.map _).sum_eq]
  positive permit hpermit := h.positive permit (perm.subset hpermit)

theorem Funded.reserved (h : Funded env st) {samples : Nat} {credits : PcmCredits}
    {permit : PcmPermit} (hsamples : 0 < samples)
    (hreserve : st.credits.tryReserve env.entrySize samples = some (credits, permit))
    (hpcm : after.pcm = st.pcm) (hcredits : after.credits = credits)
    (perm : after.outstanding.Perm (permit :: st.outstanding)) : Funded env after := by
  simp only [PcmCredits.tryReserve] at hreserve
  split at hreserve
  · cases hreserve
  · split at hreserve
    · cases hreserve
    · cases hreserve
      have hsamplesSum := (perm.map PcmPermit.samples).sum_eq
      have hbytesSum := (perm.map PcmPermit.bytes).sum_eq
      have husedSamples := h.usedSamples
      have husedBytes := h.usedBytes
      simp only [List.map_cons, List.sum_cons] at hsamplesSum hbytesSum
      constructor
      · rw [hpcm]
        exact h.within
      · rw [hpcm]
        exact h.opened
      · rw [hcredits]
        exact h.maxSamples
      · rw [hcredits]
        exact h.maxBytes
      · rw [hcredits]
        simp only
        omega
      · rw [hcredits]
        simp only
        omega
      · intro other hother
        obtain rfl | hold := List.mem_cons.mp (perm.subset hother)
        · exact hsamples
        · exact h.positive other hold

theorem Funded.released (h : Funded env st) {permit : PcmPermit}
    (within : env.queue.Within after.pcm) (opened : after.pcm.closed = false)
    (hcredits : after.credits = st.credits.release permit)
    (perm : st.outstanding.Perm (permit :: after.outstanding)) : Funded env after := by
  have hsamplesSum := (perm.map PcmPermit.samples).sum_eq
  have hbytesSum := (perm.map PcmPermit.bytes).sum_eq
  have husedSamples := h.usedSamples
  have husedBytes := h.usedBytes
  simp only [List.map_cons, List.sum_cons] at hsamplesSum hbytesSum
  constructor
  · exact within
  · exact opened
  · rw [hcredits]
    exact h.maxSamples
  · rw [hcredits]
    exact h.maxBytes
  · rw [hcredits]
    simp only [PcmCredits.release]
    omega
  · rw [hcredits]
    simp only [PcmCredits.release]
    omega
  · intro other hother
    exact h.positive other (perm.symm.subset (List.mem_cons_of_mem _ hother))

/-- No permit is outstanding while all credits are free. -/
theorem Funded.none_outstanding (h : Funded env st) (free : st.credits.allFree = true) :
    st.outstanding = [] := by
  simp only [PcmCredits.allFree, Bool.and_eq_true, decide_eq_true_eq] at free
  cases houtstanding : st.outstanding with
  | nil => rfl
  | cons permit rest =>
    have hused := h.usedSamples
    have hpositive := h.positive permit (houtstanding ▸ List.mem_cons_self)
    rw [houtstanding, List.map_cons, List.sum_cons, free.1] at hused
    omega

/-! ### Pushes -/

variable {samples : List Sample} {presentationTime : Option Instant} {permit : Option PcmPermit}
  {now : Instant} {accepted : Bool}

/-- What a push does to the queue. -/
structure Emitted (env : BufferedEnv) (before : PcmQueue.State) (frame : PcmFrame)
    (after : PcmQueue.State) (accepted : Bool) : Prop where
  within : env.queue.Within before → env.queue.Within after
  opened : after.closed = before.closed
  permits : PcmQueue.permits after.frames =
    PcmQueue.permits before.frames ++ if accepted then frame.bufferedPermit.toList else []
  admits : accepted = true → env.queue.admits frame = true

theorem emitPcm_emitted
    (h : st.emitPcm env samples presentationTime permit now = some (after, accepted)) :
    ∃ pcm warned events,
      after = { st with pcm := pcm, warnedMissingTiming := warned, events := events } ∧
        Emitted env st.pcm (env.frame samples presentationTime permit) pcm accepted := by
  simp only [emitPcm] at h
  split at h
  · cases h
    exact ⟨_, _, _, rfl, id, rfl, by simp, by simp⟩
  · obtain ⟨⟨pcm, admission⟩, hpush, heq⟩ := Option.map_eq_some_iff.mp h
    cases heq
    refine ⟨_, _, _, rfl, fun within => within.pushAt hpush, ?_, ?_, ?_⟩
    · exact PcmQueue.pushAt_closed hpush
    · exact PcmQueue.permits_pushAt hpush
    · intro haccepted
      cases PcmQueue.pushAt_pushed hpush with
      | closed => cases haccepted
      | turnedAway => cases haccepted
      | refused => cases haccepted
      | accepted _ hadmits => exact hadmits

/-! ### The steps -/

variable (env) in
/-- The piece of the packet between the progress and `stop`. -/
def piece (st : BufferedSession) (packet : Packet) (stop : Nat) (permit : PcmPermit) : PcmFrame :=
  env.frame ((packet.samples.take stop).drop st.progress) (env.pieceTime packet st.progress)
    (some permit)

variable (env) in
/-- Every step of a session. -/
inductive BufferedStep (st : BufferedSession) : BufferedLabel → BufferedSession → Prop
  | offers {packet : Packet} (idle : st.call = .returned)
      (again : st.offered = none ∨ st.offered = some packet) :
      BufferedStep st (.offer packet)
        { st with offered := some packet, call := .reserving st.credits.allFree st.progress }
  | starves {packet : Packet} {free : Bool} {start : Nat} {now : Instant}
      (offered : st.offered = some packet) (call : st.call = .reserving free start)
      (more : st.progress < packet.samples.length)
      (short : st.credits.tryReserve env.entrySize
        (min (st.progress + env.queue.maxSamples) packet.samples.length - st.progress) = none) :
      BufferedStep st (.next now) (st.refuse free)
  | reserves {packet : Packet} {free : Bool} {start : Nat} {now : Instant} {credits : PcmCredits}
      {permit : PcmPermit} (offered : st.offered = some packet)
      (call : st.call = .reserving free start) (more : st.progress < packet.samples.length)
      (granted : st.credits.tryReserve env.entrySize
        (min (st.progress + env.queue.maxSamples) packet.samples.length - st.progress) =
          some (credits, permit)) :
      BufferedStep st (.next now)
        { st with
          credits := credits
          call := .pushing free start
            (min (st.progress + env.queue.maxSamples) packet.samples.length) permit }
  | admits {packet : Packet} {free : Bool} {start : Nat} {now : Instant}
      (offered : st.offered = some packet) (call : st.call = .reserving free start)
      (done : packet.samples.length ≤ st.progress) :
      BufferedStep st (.next now) (st.admitPacket packet)
  | pushes {packet : Packet} {free : Bool} {start stop : Nat} {permit : PcmPermit} {now : Instant}
      {pcm : PcmQueue.State} {warned : Bool} {events : Nat}
      (offered : st.offered = some packet) (call : st.call = .pushing free start stop permit)
      (emitted : Emitted env st.pcm (st.piece env packet stop permit) pcm true) :
      BufferedStep st (.next now)
        { st with
          pcm := pcm
          warnedMissingTiming := warned
          events := events
          progress := stop
          call := .reserving free start
          pushed := st.pushed ++ [st.piece env packet stop permit] }
  | refuses {packet : Packet} {free : Bool} {start stop : Nat} {permit : PcmPermit} {now : Instant}
      {pcm : PcmQueue.State} {warned : Bool} {events : Nat}
      (offered : st.offered = some packet) (call : st.call = .pushing free start stop permit)
      (emitted : Emitted env st.pcm (st.piece env packet stop permit) pcm false)
      (failed : ∃ after, st.emitPcm env ((packet.samples.take stop).drop st.progress)
        (env.pieceTime packet st.progress) (some permit) now = some (after, false)) :
      BufferedStep st (.next now)
        ({ st with
          pcm := pcm
          warnedMissingTiming := warned
          events := events
          credits := st.credits.release permit }.refuse free)
  | passes {samples : List Sample} {presentationTime : Option Instant} {now : Instant}
      {pcm : PcmQueue.State} {warned : Bool} {events : Nat} {accepted : Bool}
      (idle : st.call = .returned)
      (emitted : Emitted env st.pcm (env.frame samples presentationTime none) pcm accepted) :
      BufferedStep st (.timed samples presentationTime now)
        { st with pcm := pcm, warnedMissingTiming := warned, events := events }
  | pops {now : Instant} : BufferedStep st (.pop now) (st.pop env now)
  | begins {now : Instant} :
      BufferedStep st (.beginBatch now) { st with pcm := (env.queue.beginBatch st.pcm now).1 }
  | takes :
      BufferedStep st .takeNewDrops { st with pcm := (PcmQueue.takeNewDrops st.pcm).1 }
  | drops {permit : PcmPermit} (held : permit ∈ st.held) :
      BufferedStep st (.drop permit)
        { st with held := st.held.erase permit, credits := st.credits.release permit }

theorem step_cases {label : BufferedLabel} (taken : st.step env label = some after) :
    BufferedStep env st label after := by
  cases label with
  | offer packet =>
    simp only [step, offer] at taken
    split at taken
    · case isTrue hcall =>
      cases taken
      exact .offers hcall.1 hcall.2
    · cases taken
  | next now =>
    simp only [step, next] at taken
    split at taken
    · case h_1 packet free start hoffered hcall =>
      cases taken
      simp only [reserve]
      split
      · case isTrue hmore =>
        split
        · case h_1 hshort => exact .starves hoffered hcall hmore hshort
        · case h_2 hgranted => exact .reserves hoffered hcall hmore hgranted
      · case isFalse hdone => exact .admits hoffered hcall (Nat.le_of_not_lt hdone)
    · case h_2 packet free start stop permit hoffered hcall =>
      obtain ⟨⟨pushed, accepted⟩, hemit, heq⟩ := Option.map_eq_some_iff.mp taken
      obtain ⟨pcm, warned, events, rfl, hemitted⟩ := emitPcm_emitted hemit
      cases accepted with
      | true =>
        cases heq
        exact .pushes hoffered hcall hemitted
      | false =>
        cases heq
        exact .refuses hoffered hcall hemitted ⟨_, hemit⟩
    · cases taken
  | timed samples presentationTime now =>
    simp only [step, timed] at taken
    split at taken
    · case isTrue hcall =>
      obtain ⟨⟨pushed, accepted⟩, hemit, rfl⟩ := Option.map_eq_some_iff.mp taken
      obtain ⟨pcm, warned, events, rfl, hemitted⟩ := emitPcm_emitted hemit
      exact .passes hcall hemitted
    · cases taken
  | pop now =>
    cases taken
    exact .pops
  | beginBatch now =>
    cases taken
    exact .begins
  | takeNewDrops =>
    cases taken
    exact .takes
  | drop permit =>
    simp only [step, dropPermit] at taken
    split at taken
    · case isTrue hheld =>
      cases taken
      exact .drops hheld
    · cases taken

theorem Funded.step (hroom : 0 < env.queue.maxSamples) (h : Funded env st) {label : BufferedLabel}
    (taken : BufferedStep env st label after) : Funded env after := by
  cases taken with
  | offers idle again =>
    refine h.moved h.within h.opened rfl ?_
    simp [outstanding, idle, Call.permits]
  | starves offered call =>
    refine h.moved h.within h.opened rfl ?_
    simp [outstanding, refuse, call, Call.permits]
  | reserves offered call more granted =>
    refine h.reserved (Nat.sub_pos_of_lt (by omega)) granted rfl rfl ?_
    simp only [outstanding, call, Call.permits, List.append_nil]
    exact List.perm_append_singleton _ _
  | admits offered call =>
    refine h.moved h.within h.opened rfl ?_
    simp [outstanding, admitPacket, call, Call.permits]
  | @pushes packet free start stop permit now pcm warned events offered call emitted =>
    refine h.moved (emitted.within h.within) (emitted.opened.trans h.opened) rfl ?_
    have hpermits : PcmQueue.permits pcm.frames = PcmQueue.permits st.pcm.frames ++ [permit] :=
      emitted.permits
    simp only [outstanding, call, Call.permits, hpermits, List.append_nil, List.append_assoc]
    exact List.Perm.append_left _ List.perm_append_comm
  | @refuses packet free start stop permit now pcm warned events offered call emitted =>
    refine h.released (emitted.within h.within) (emitted.opened.trans h.opened) rfl ?_
    have hpermits : PcmQueue.permits pcm.frames = PcmQueue.permits st.pcm.frames ++ [] :=
      emitted.permits
    simp only [outstanding, call, Call.permits, refuse, hpermits, List.append_nil]
    exact List.perm_append_singleton _ _
  | @passes samples presentationTime now pcm warned events accepted idle emitted =>
    refine h.moved (emitted.within h.within) (emitted.opened.trans h.opened) rfl ?_
    have hpermits := emitted.permits
    simp only [BufferedEnv.frame, Option.toList_none, ite_self, List.append_nil] at hpermits
    simp [outstanding, hpermits]
  | @pops now =>
    refine h.moved (h.within.popAt now) ((PcmQueue.popAt_closed st.pcm now).trans h.opened) rfl ?_
    have hpermits := @PcmQueue.permits_popAt env.queue st.pcm now
    simp only [outstanding, pop, hpermits, ← List.append_assoc]
    generalize PcmQueue.permits (env.queue.popAt st.pcm now).1.frames = queued
    have hmoved := @List.perm_append_comm _ (queued ++ st.held)
      ((env.queue.popAt st.pcm now).2.bind fun entry => entry.1.bufferedPermit).toList
    rw [← List.append_assoc _ queued] at hmoved
    exact hmoved.append_right st.call.permits
  | @begins now =>
    have hexpire := h.within.expire now
    refine h.moved ?_ ?_ rfl ?_
    · exact ⟨⟨hexpire.samples, hexpire.bytes⟩, hexpire.samples_le, hexpire.bytes_le⟩
    · exact (PcmQueue.expire_closed st.pcm now).trans h.opened
    · simp only [outstanding, PcmQueue.beginBatch, PcmQueue.permits_expire]
      exact List.Perm.refl _
  | takes =>
    have hwithin := h.within
    refine h.moved ?_ h.opened rfl (List.Perm.refl _)
    exact ⟨⟨hwithin.samples, hwithin.bytes⟩, hwithin.samples_le, hwithin.bytes_le⟩
  | @drops permit held =>
    refine h.released h.within h.opened rfl ?_
    have hmoved : (PcmQueue.permits st.pcm.frames ++ st.held).Perm
        (permit :: (PcmQueue.permits st.pcm.frames ++ st.held.erase permit)) :=
      ((List.perm_cons_erase held).append_left _).trans List.perm_middle
    exact hmoved.append_right _

end BufferedSession

end AirSonos
