import AirSonos.Core.Types

/-!
# Streams, transport commands and worker messages

What the runtime and its zone workers exchange. A live stream is shared by reference in the
program; here its immutable part is copied and its playback release lives in the runtime,
under the generation that names the stream.
-/

namespace AirSonos

structure StreamSession where
  sessionId : SessionId
  zoneId : ZoneId
  codec : StreamCodec
  generation : Nat
  localUrl : StreamUrl
deriving DecidableEq

structure LiveStream where
  session : StreamSession
  playbackEpoch : Nat
deriving DecidableEq

/-- Output begins with audio presented at or after `atInstant`, `delay` later. -/
structure PlaybackRelease where
  atInstant : Instant
  delay : Duration
deriving DecidableEq

structure StreamPrepare where
  sessionId : SessionId
  zoneId : ZoneId
  generation : Nat
  renderer : Renderer
  liveStream : LiveStream
  localUrl : StreamUrl
  forceStandaloneOnStart : Bool
deriving DecidableEq

structure PreparedDownstream where
  sessionId : SessionId
  zoneId : ZoneId
  generation : Nat
  renderer : Renderer
  liveStream : LiveStream
  heldDelay : Option Duration
deriving DecidableEq

def PreparedDownstream.released (prepared : PreparedDownstream) : PreparedDownstream :=
  { prepared with heldDelay := none }

inductive DownstreamStartOutcome
  | started
  | joined
  | stopped
  | stopUnknown
  | unknown
  | failed
  | permanentFailure
deriving DecidableEq

structure DownstreamStartResult where
  sessionId : SessionId
  zoneId : ZoneId
  generation : Nat
  outcome : DownstreamStartOutcome
deriving DecidableEq

structure DownstreamRetry where
  sessionId : SessionId
  zoneId : ZoneId
  generation : Nat
deriving DecidableEq

/-- A reference to the shared join counter of one release. -/
structure GroupJoins where
  ref : Nat
deriving DecidableEq

structure GroupJoinState where
  pending : Nat
  released : Option Instant
deriving DecidableEq

namespace GroupJoins

def WAIT : Duration := Duration.fromSecs 2

end GroupJoins

namespace GroupJoinState

def new (members : Nat) : GroupJoinState := ⟨members, none⟩

def joined (joins : GroupJoinState) : GroupJoinState :=
  { joins with pending := joins.pending - 1 }

/-- `OnceLock::get_or_init`: the first room to finish waiting fixes the release time. -/
def release (joins : GroupJoinState) (now : Instant) : GroupJoinState :=
  { joins with released := some (joins.released.getD now) }

end GroupJoinState

def preparedOf (start : StreamPrepare) : PreparedDownstream where
  sessionId := start.sessionId
  zoneId := start.zoneId
  generation := start.generation
  renderer := start.renderer
  liveStream := start.liveStream
  heldDelay := none

inductive TransportCommand
  | prepare (start : StreamPrepare)
  | play (stream : PreparedDownstream)
  | playGroup (stream : PreparedDownstream) (joins : GroupJoins) (delay : Option Duration)
  | join (stream : PreparedDownstream) (coordinator : String) (joins : GroupJoins)
  | stop (sessionId : SessionId) (zoneId : ZoneId) (generation : Nat)
deriving DecidableEq

namespace TransportCommand

def sessionId : TransportCommand → SessionId
  | prepare start => start.sessionId
  | play stream => stream.sessionId
  | playGroup stream _ _ => stream.sessionId
  | join stream _ _ => stream.sessionId
  | stop sessionId _ _ => sessionId

def zoneId : TransportCommand → ZoneId
  | prepare start => start.zoneId
  | play stream => stream.zoneId
  | playGroup stream _ _ => stream.zoneId
  | join stream _ _ => stream.zoneId
  | stop _ zoneId _ => zoneId

def generation : TransportCommand → Nat
  | prepare start => start.generation
  | play stream => stream.generation
  | playGroup stream _ _ => stream.generation
  | join stream _ _ => stream.generation
  | stop _ _ generation => generation

def isStop : TransportCommand → Bool
  | stop _ _ _ => true
  | _ => false

def isPrepare : TransportCommand → Bool
  | prepare _ => true
  | _ => false

/-- Play, PlayGroup and Join start a prepared stream. -/
def isStart : TransportCommand → Bool
  | play _ => true
  | playGroup _ _ _ => true
  | join _ _ _ => true
  | _ => false

def payload : TransportCommand → Option PreparedDownstream
  | prepare start => some (preparedOf start)
  | play stream => some stream
  | playGroup stream _ _ => some stream
  | join stream _ _ => some stream
  | stop _ _ _ => none

/-- A command carries the names of the stream it prepares or starts. -/
theorem names_of_payload {command : TransportCommand} {stream : PreparedDownstream}
    (h : command.payload = some stream) :
    command.sessionId = stream.sessionId ∧ command.zoneId = stream.zoneId ∧
      command.generation = stream.generation := by
  cases command <;> cases h <;> exact ⟨rfl, rfl, rfl⟩

end TransportCommand

/-! ### A household of Sonos rooms -/

namespace Household

def room (n : Nat) : ZoneId :=
  if n = 0 then ⟨"Kitchen"⟩ else if n = 1 then ⟨"Office"⟩ else if n = 2 then ⟨"Den"⟩ else ⟨"Porch"⟩

def sonos (zone : ZoneId) : SonosZone where
  id := zone
  roomName := zone.value
  rinconId := zone.value
  isGroupCoordinator := true

/-- The stream of session `n` in room `n`. -/
def stream (n generation : Nat) : LiveStream where
  session := ⟨⟨n⟩, room n, .wav, generation, ⟨⟨1⟩, ⟨n⟩, .wav, generation⟩⟩
  playbackEpoch := 0

def prepared (n generation : Nat) : PreparedDownstream where
  sessionId := ⟨n⟩
  zoneId := room n
  generation := generation
  renderer := .sonos (sonos (room n))
  liveStream := stream n generation
  heldDelay := none

end Household

end AirSonos
