import AirSonos.Airplay.AudioSession
import AirSonos.Core.PcmQueue
import AirSonos.Lib.TransitionSystem
import Mathlib.Data.PNat.Defs

/-!
# The playout buffer of an AirPlay stream

Decoded packets wait in a buffer ordered by RTP timestamp until they are due. Timestamps and
sequence numbers wrap around, so they are compared by their distance. The local clock counts
nanoseconds from an origin of its own, and has a first and a last instant.
-/

namespace AirSonos.Raop

/-! ### Numbers that wrap around -/

/-- The casts `as i32`, `as i16` and `as i64`. -/
def asI32 (n : UInt32) : Int := n.toBitVec.toInt

def asI16 (n : UInt16) : Int := n.toBitVec.toInt

def asI64 (n : UInt64) : Int := n.toBitVec.toInt

def sequenceInRange (sequence first last : UInt16) : Bool :=
  decide (sequence - first ≤ last - first)

def sourceFrames (elapsed : Duration) (sampleRate : ℕ+) : UInt32 :=
  UInt32.ofNat (elapsed * sampleRate / 1000000000)

def framesToNanos (frames : Int) (sampleRate : ℕ+) : Int :=
  (frames * 1000000000).tdiv (sampleRate : Nat)

/-- A packet of decoded PCM may take two seconds or 8 MiB, whichever is smaller. -/
def pcmBudget (sampleRate channels : Nat) : Nat :=
  min (sampleRate * channels * 2) (8 * 1024 * 1024 / 4)

/-! ### The local clock -/

abbrev LocalTime := Int

structure Clock where
  earliest : LocalTime
  latest : LocalTime

/-- No value means that the clock does not have this instant. -/
def Clock.offsetInstant (clock : Clock) (at_ : LocalTime) (nanos : Int) : Option LocalTime :=
  if clock.earliest ≤ at_ + nanos ∧ at_ + nanos ≤ clock.latest then some (at_ + nanos) else none

/-- The local time of one sender's timeline. All sessions from one sender share an origin. -/
structure TimelineOrigin where
  networkNs : UInt64
  localAt : LocalTime
deriving DecidableEq

def TimelineOrigin.localTime (clock : Clock) (origin : TimelineOrigin) (networkNs : UInt64) :
    Option LocalTime :=
  clock.offsetInstant origin.localAt (asI64 (networkNs - origin.networkNs))

/-- A mapped start further than this from now means the timeline is unusable. -/
def MAX_TIMELINE_SKEW : Duration := .fromSecs 2

/-! ### Audio formats -/

inductive AudioSsrc
  | none
  | alac44100S16Stereo
  | alac48000S24Stereo
  | aac44100F24Stereo
  | aac48000F24Stereo
  | aac48000F24Surround51
  | aac48000F24Surround71
deriving DecidableEq

namespace AudioSsrc

def fromU32 (v : UInt32) : AudioSsrc :=
  if v = 0x0000FACE then alac44100S16Stereo
  else if v = 0x15000000 then alac48000S24Stereo
  else if v = 0x16000000 then aac44100F24Stereo
  else if v = 0x17000000 then aac48000F24Stereo
  else if v = 0x27000000 then aac48000F24Surround51
  else if v = 0x28000000 then aac48000F24Surround71
  else none

def sampleRate : AudioSsrc → ℕ+
  | alac44100S16Stereo => 44100
  | aac44100F24Stereo => 44100
  | _ => 48000

def channels : AudioSsrc → Nat
  | aac48000F24Surround51 => 6
  | aac48000F24Surround71 => 8
  | _ => 2

end AudioSsrc

structure OutputConfig where
  sampleRate : Option Nat
  maxChannels : Option Nat

namespace OutputConfig

def targetRate (config : OutputConfig) (ssrc : AudioSsrc) : Nat :=
  config.sampleRate.getD ssrc.sampleRate

def targetChannels (config : OutputConfig) (ssrc : AudioSsrc) : Nat :=
  config.maxChannels.elim ssrc.channels fun max => min ssrc.channels max

end OutputConfig

/-! ### The buffer -/

/-- A decoded packet. The program has no number for it, keeps its timestamp as the key only, and
does not count the flushes before its packet passed the check. -/
structure BufferedFrame where
  sequence : UInt16
  samples : List Sample
  timestamp : UInt32
  number : Nat
  flushes : Nat
deriving DecidableEq

/-- The first of the elements with the smallest key. -/
def minByKey {α : Type} (key : α → Int) : List α → Option α
  | [] => none
  | a :: rest =>
    match minByKey key rest with
    | none => some a
    | some b => if key b < key a then some b else some a

abbrev PlayoutBuffer := AssocMap UInt32 BufferedFrame

namespace PlayoutBuffer

def samples (buffer : PlayoutBuffer) : Nat :=
  AssocMap.total (fun frame => frame.samples.length) buffer

def first (buffer : PlayoutBuffer) (anchor : UInt32) : Option UInt32 :=
  minByKey (fun timestamp => asI32 (timestamp - anchor)) buffer.keys

def takeReadyFrame (buffer : PlayoutBuffer) (target : UInt32) :
    Option ((UInt32 × BufferedFrame) × PlayoutBuffer) :=
  (minByKey (fun timestamp => asI32 (timestamp - target))
    (buffer.keys.filter fun timestamp => decide (0 ≤ asI32 (target - timestamp)))).bind
      fun timestamp =>
        (buffer.lookup timestamp).map fun frame => ((timestamp, frame), buffer.erase timestamp)

end PlayoutBuffer

/-- `mapped` is not in the program: the RTP timestamp and network time that playout was anchored
to on the timeline, while it keeps to that anchor. -/
structure PlayoutState where
  buffer : PlayoutBuffer
  epoch : Nat
  inFlightSamples : Nat
  flushRange : Option (UInt16 × UInt16)
  anchorRtp : UInt32
  anchorLocal : LocalTime
  timeline : Option (UInt64 × TimelineOrigin)
  mapped : Option (UInt32 × UInt64)
  rate : Nat
  sampleRate : Nat
  sourceSampleRate : ℕ+
  channels : Nat
  stopped : Bool
  stopReason : Option AudioStopReason
  formatChanged : Bool

namespace PlayoutState

variable (clock : Clock)

def new (config : OutputConfig) (now : LocalTime) : PlayoutState where
  buffer := ∅
  epoch := 0
  inFlightSamples := 0
  flushRange := none
  anchorRtp := 0
  anchorLocal := now
  timeline := none
  mapped := none
  rate := 0
  sampleRate := config.sampleRate.getD 44100
  sourceSampleRate := 44100
  channels := 2
  stopped := false
  stopReason := none
  formatChanged := false

def queued (s : PlayoutState) : Nat :=
  s.buffer.samples + s.inFlightSamples

def budget (s : PlayoutState) : Nat :=
  pcmBudget s.sampleRate s.channels

def flushed (s : PlayoutState) (sequence : UInt16) : Bool :=
  s.flushRange.any fun range => sequenceInRange sequence range.1 range.2

def flush (s : PlayoutState) (first last : UInt16) : PlayoutState :=
  { s with
    epoch := (s.epoch + 1) % 2 ^ 64
    flushRange := some (first, last)
    buffer := AssocMap.retain
      (fun _ frame => !sequenceInRange frame.sequence first last) s.buffer }

/-- The range of the last flush is forgotten once the sender has advanced past it. -/
def forgetFlush (s : PlayoutState) (sequence : UInt16) : PlayoutState :=
  if s.flushRange.any fun range => decide (0 < asI16 (sequence - range.2)) then
    { s with flushRange := none }
  else s

def targetRtp (s : PlayoutState) (now : LocalTime) : UInt32 :=
  s.anchorRtp + sourceFrames (now - s.anchorLocal).toNat s.sourceSampleRate

def presentationTime (s : PlayoutState) (timestamp : UInt32) : Option LocalTime :=
  clock.offsetInstant s.anchorLocal
    (framesToNanos (asI32 (timestamp - s.anchorRtp)) s.sourceSampleRate)

/-- The origin that this session proposes: the network time of its anchor maps to now. -/
def proposedOrigin (s : PlayoutState) (anchorRtp : UInt32) (networkNs : UInt64)
    (now : LocalTime) : TimelineOrigin where
  networkNs := networkNs +
    UInt64.ofInt (framesToNanos (asI32 (s.anchorRtp - anchorRtp)) s.sourceSampleRate)
  localAt := now

/-- The origin of the timeline: the one this session has, the one another session of the sender
has, or a new one. -/
def originOf (s : PlayoutState) (shared : Option TimelineOrigin) (anchorRtp : UInt32)
    (networkNs timelineId : UInt64) (now : LocalTime) : TimelineOrigin :=
  match s.timeline with
  | some (id, origin) =>
    if id = timelineId then origin
    else shared.getD (s.proposedOrigin anchorRtp networkNs now)
  | none => shared.getD (s.proposedOrigin anchorRtp networkNs now)

/-- An anchor that plays `anchorRtp` at the local time, and is not later than now. -/
def anchorAt (s : PlayoutState) (anchorRtp : UInt32) (localAt now : LocalTime) :
    UInt32 × LocalTime :=
  if now ≤ localAt then (anchorRtp - sourceFrames (localAt - now).toNat s.sourceSampleRate, now)
  else (anchorRtp, localAt)

def usable (s : PlayoutState) (anchor : UInt32 × LocalTime) (first : Option UInt32)
    (now : LocalTime) : Bool :=
  first.all fun first =>
    (clock.offsetInstant anchor.2
      (framesToNanos (asI32 (first - anchor.1)) s.sourceSampleRate)).any fun due =>
        decide ((due - now).natAbs ≤ MAX_TIMELINE_SKEW)

def anchorToTimeline (s : PlayoutState) (shared : Option TimelineOrigin) (anchorRtp : UInt32)
    (networkNs timelineId : UInt64) (first : Option UInt32) (now : LocalTime) : PlayoutState :=
  let origin := s.originOf shared anchorRtp networkNs timelineId now
  let kept := { s with timeline := some (timelineId, origin) }
  match origin.localTime clock networkNs with
  | none => kept
  | some localAt =>
    let anchor := s.anchorAt anchorRtp localAt now
    if s.usable clock anchor first now then
      { kept with
        anchorRtp := anchor.1
        anchorLocal := anchor.2
        mapped := some (anchorRtp, networkNs) }
    else kept

/-- Without a usable timeline the earliest frame plays after a lead of a tenth of a second. -/
def anchorLocally (s : PlayoutState) (anchorRtp : UInt32) (now : LocalTime) : PlayoutState :=
  { s with
    anchorRtp := ((s.buffer.first anchorRtp).map fun first =>
      first - UInt32.ofNat (s.sourceSampleRate / 10)).getD anchorRtp
    anchorLocal := now
    mapped := none }

def dropStale (s : PlayoutState) (now : LocalTime) : PlayoutState :=
  { s with
    buffer := AssocMap.retain
      (fun timestamp _ => decide (0 ≤ asI32 (timestamp - s.targetRtp now))) s.buffer }

/-- `shared` is the origin that another session of the sender has for the timeline. -/
def startPlayout (s : PlayoutState) (shared : Option TimelineOrigin) (anchorRtp : UInt32)
    (networkNs timelineId : UInt64) (now : LocalTime) : PlayoutState :=
  let first := s.buffer.first anchorRtp
  let anchored := s.anchorLocally anchorRtp now
  let mapped :=
    if networkNs ≠ 0 ∧ timelineId ≠ 0 then
      anchored.anchorToTimeline clock shared anchorRtp networkNs timelineId first now
    else { anchored with timeline := none }
  mapped.dropStale now

def changeFormat (s : PlayoutState) (config : OutputConfig) (ssrc : AudioSsrc) (switched : Bool)
    (now : LocalTime) : PlayoutState :=
  let advanced :=
    if switched ∧ s.rate ≠ 0 then { s with anchorRtp := s.targetRtp now, anchorLocal := now }
    else s
  { advanced with
    sampleRate := config.targetRate ssrc
    sourceSampleRate := ssrc.sampleRate
    mapped := if switched ∨ ssrc.sampleRate ≠ s.sourceSampleRate then none else s.mapped
    channels := config.targetChannels ssrc
    formatChanged := true }

end PlayoutState

end AirSonos.Raop
