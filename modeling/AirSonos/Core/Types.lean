import AirSonos.Lib.AssocMap
import Mathlib.Data.String.Basic

/-!
# Identifiers, time, formats and renderers

The data that the bridge, the stream registry and the renderer clients share. Instants and
durations are counted in nanoseconds of the monotonic clock.
-/

namespace AirSonos

abbrev Instant := Nat
abbrev Duration := Nat

namespace Duration

def fromMillis (ms : Nat) : Duration := ms * 1000000

def fromSecs (secs : Nat) : Duration := secs * 1000000000

def asMillis (d : Duration) : Nat := d / 1000000

end Duration

/-- A random UUID, made once for every audio session. -/
structure SessionId where
  uuid : Nat
deriving DecidableEq

structure ZoneId where
  value : String
deriving DecidableEq

structure IpAddr where
  bits : Nat
deriving DecidableEq

inductive StreamCodec
  | mp3
  | aac
  | wav
deriving DecidableEq

structure PcmFormat where
  sampleRate : Nat
  channels : Nat
  bits : Nat
deriving DecidableEq

structure SonosZone where
  id : ZoneId
  roomName : String
  rinconId : String
  isGroupCoordinator : Bool
deriving DecidableEq

/-- A device that plays the stream of one virtual AirPlay endpoint. The clients carry no
state the bridge reads, so a renderer is known by its zone or its entity. -/
inductive Renderer
  | sonos (zone : SonosZone)
  | homeAssistant (id : ZoneId) (name : String)
deriving DecidableEq

namespace Renderer

def id : Renderer → ZoneId
  | sonos zone => zone.id
  | homeAssistant id _ => id

def name : Renderer → String
  | sonos zone => zone.roomName
  | homeAssistant _ name => name

def isSonos : Renderer → Bool
  | sonos _ => true
  | homeAssistant _ _ => false

end Renderer

/-- The URL that `stream_url_for_zone` builds: host, path `/streams/<session>.<codec>` and
the `gen` query. -/
structure StreamUrl where
  host : IpAddr
  sessionId : SessionId
  codec : StreamCodec
  generation : Nat
deriving DecidableEq

/-- The part of `Config` the runtime reads. `Config::validate` bounds the offsets and keeps
the selection window within the start deadline. -/
structure SyncConfig where
  defaultOffsetMs : Int
  multiSelectWindowMs : Nat
  startDeadlineMs : Nat
  nativeSonosGroups : Bool
  zoneOffsetsMs : AssocMap String Int
  default_bounded : -10000 ≤ defaultOffsetMs ∧ defaultOffsetMs ≤ 10000
  offsets_bounded : ∀ name offset, zoneOffsetsMs.lookup name = some offset →
    -10000 ≤ offset ∧ offset ≤ 10000
  window_le_deadline : multiSelectWindowMs ≤ startDeadlineMs
  deadline_bounded : startDeadlineMs ≤ 60000

end AirSonos
