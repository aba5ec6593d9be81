import AirSonos.Core.Types
import Mathlib.Data.List.Pairwise

/-!
# The configuration

The content of the config file and the checks it must pass before the bridge starts with it
or the web GUI saves it. Reading a socket address is left to a parser that is a parameter.
-/

namespace AirSonos

structure Url where
  serialization : String
deriving DecidableEq

/-- An address in the configuration, with its family. -/
inductive ConfigAddr
  | v4 (bits : BitVec 32)
  | v6 (bits : BitVec 128)
deriving DecidableEq

namespace ConfigAddr

def isUnspecified : ConfigAddr → Bool
  | v4 bits => bits = 0
  | v6 bits => bits = 0

def isIpv4 : ConfigAddr → Bool
  | v4 _ => true
  | v6 _ => false

end ConfigAddr

structure SocketAddr where
  ip : ConfigAddr
  port : Nat
deriving DecidableEq

structure ServerConfig where
  bind : ConfigAddr := .v4 0
  advertiseAddr : Option ConfigAddr := none
  httpPort : Nat := 7000
  stateDir : String := "/var/lib/airsonos2"
  logLevel : String := "info"
deriving DecidableEq

structure AirPlayConfig where
  nameTemplate : String := "\x7broom\x7d AirSonos2"
  advertisedModel : String := "AudioAccessory5,1"
  pin : String := "3939"
  rtspPassword : Option String := none
  baseRtspPort : Nat := 5000
  outputSampleRate : Nat := 48000
  outputChannels : Nat := 2
  maxClientsPerZone : Nat := 10
deriving DecidableEq

inductive VolumeMode
  | sonos
deriving DecidableEq

structure SonosConfig where
  autoDiscover : Bool := true
  staticIps : List ConfigAddr := []
  includeRooms : List String := []
  excludeRooms : List String := []
  forceStandaloneOnStart : Bool := true
  volumeMode : VolumeMode := .sonos
deriving DecidableEq

structure HomeAssistantConfig where
  url : Option Url := none
  token : Option String := none
  mediaPlayers : List String := []
deriving DecidableEq

structure StreamConfig where
  codec : String := "mp3"
  mp3BitrateKbps : Nat := 320
  prebufferMs : Nat := 500
  startupWaitMs : Option Nat := none
  httpChunked : Bool := true
  icyMetadata : Bool := true
  ffmpegPath : String := "ffmpeg"
deriving DecidableEq

structure DiagnosticsConfig where
  metricsAddr : String := "0.0.0.0:9100"
  allowedHosts : List String := []
deriving DecidableEq

/-- The entries of a map, in the order of their keys. -/
abbrev BTreeMap (β : Type) :=
  { entries : List (String × β) // entries.Pairwise fun a b => a.1 < b.1 }

def BTreeMap.values {β : Type} (map : BTreeMap β) : List β :=
  map.1.map Prod.snd

/-- The `sync` section as it stands in the file. The runtime reads the checked `SyncConfig`. -/
structure SyncSection where
  defaultOffsetMs : Int := 0
  multiSelectWindowMs : Nat := 750
  startDeadlineMs : Nat := 2500
  playCommandSpreadWarnMs : Nat := 80
  nativeSonosGroups : Bool := true
  zoneOffsetsMs : BTreeMap Int := ⟨[], List.Pairwise.nil⟩
deriving DecidableEq

/-- All of `Config`. The runtime's own `Config` is the part of it that the runtime reads. -/
structure ConfigFile where
  server : ServerConfig := {}
  airplay : AirPlayConfig := {}
  sonos : SonosConfig := {}
  homeAssistant : HomeAssistantConfig := {}
  stream : StreamConfig := {}
  diagnostics : DiagnosticsConfig := {}
  sync : SyncSection := {}
deriving DecidableEq

/-- What makes a configuration invalid. A message with an argument is kept as the argument. -/
inductive InvalidConfig
  | message (text : String)
  | unreachable (advertiseAddr bind : ConfigAddr)
  | notMediaPlayer (entityId : String)
  | listedTwice (entityId : String)
deriving DecidableEq

/-- The text of an error of the file system or of the TOML reader and writer is opaque. -/
inductive ConfigError
  | read (path source : String)
  | invalid (reason : InvalidConfig)
  | parse (source : String)
  | serialize (source : String)
  | write (path source : String)
deriving DecidableEq

/-! ### Validation -/

def ensure (holds : Prop) [Decidable holds] (reason : InvalidConfig) : Except ConfigError Unit :=
  if holds then .ok () else .error (.invalid reason)

/-- The blank characters of Unicode. -/
def isWhitespace (c : Char) : Bool :=
  let n := c.toNat
  (9 ≤ n && n ≤ 13) || n = 32 || n = 0x85 || n = 0xA0 || n = 0x1680 || (0x2000 ≤ n && n ≤ 0x200A)
    || n = 0x2028 || n = 0x2029 || n = 0x202F || n = 0x205F || n = 0x3000

def isBlank (text : String) : Bool :=
  text.toList.all isWhitespace

def MEDIA_PLAYER_PREFIX : String := "media_player."

def validObjectId (objectId : List Char) : Bool :=
  !objectId.isEmpty && objectId.all fun c => c.isLower || c.isDigit || c = '_'

/-- The rule of the add-on schema for an entity id. -/
def isMediaPlayerId (entityId : String) : Bool :=
  MEDIA_PLAYER_PREFIX.toList.isPrefixOf entityId.toList &&
    validObjectId (entityId.toList.drop MEDIA_PLAYER_PREFIX.length)

def validateMediaPlayers (seen : List String) : List String → Except ConfigError Unit
  | [] => .ok ()
  | entityId :: rest =>
    if !isMediaPlayerId entityId then .error (.invalid (.notMediaPlayer entityId))
    else if entityId ∈ seen then .error (.invalid (.listedTwice entityId))
    else validateMediaPlayers (entityId :: seen) rest

def validateAdvertiseAddr (server : ServerConfig) : Except ConfigError Unit :=
  match server.advertiseAddr with
  | none => .ok ()
  | some advertiseAddr => do
    ensure (!advertiseAddr.isUnspecified)
      (.message "server.advertise_addr must be a specific address reachable by Sonos")
    ensure (advertiseAddr.isIpv4 = server.bind.isIpv4 ∨ server.bind = .v6 0)
      (.unreachable advertiseAddr server.bind)

def offsetInRange (offset : Int) : Prop :=
  -10000 ≤ offset ∧ offset ≤ 10000

instance (offset : Int) : Decidable (offsetInRange offset) :=
  inferInstanceAs (Decidable (_ ∧ _))

def validateSync (sync : SyncSection) : Except ConfigError Unit := do
  ensure (offsetInRange sync.defaultOffsetMs ∧ ∀ offset ∈ sync.zoneOffsetsMs.values,
      offsetInRange offset)
    (.message "sync offsets must be in -10000..=10000 milliseconds")
  ensure (sync.startDeadlineMs ≤ 60000 ∧ sync.multiSelectWindowMs ≤ sync.startDeadlineMs)
    (.message
      "sync.start_deadline_ms must be at most 60000 and multi_select_window_ms must not exceed it")

namespace ConfigFile

variable (parseSocketAddr : String → Option SocketAddr)

def validateMetricsAddr (metricsAddr : String) : Except ConfigError Unit :=
  match parseSocketAddr metricsAddr with
  | none =>
    .error (.invalid (.message "diagnostics.metrics_addr must be an IP address and port"))
  | some diagnostics =>
    ensure (diagnostics.port ≠ 0)
      (.message "diagnostics.metrics_addr port must be in 1..=65535")

def validate (config : ConfigFile) : Except ConfigError Unit := do
  ensure (config.server.httpPort ≠ 0 ∧ config.airplay.baseRtspPort ≠ 0)
    (.message "HTTP and base RTSP ports must be in 1..=65535")
  validateMetricsAddr parseSocketAddr config.diagnostics.metricsAddr
  validateAdvertiseAddr config.server
  validateMediaPlayers [] config.homeAssistant.mediaPlayers
  ensure (config.homeAssistant.mediaPlayers = [] ∨ config.homeAssistant.url.isSome)
    (.message "home_assistant.url is required when home_assistant.media_players is set")
  ensure (config.server.stateDir ≠ "") (.message "server.state_dir must not be empty")
  ensure (!isBlank config.airplay.nameTemplate ∧ !isBlank config.airplay.advertisedModel)
    (.message "AirPlay name_template and advertised_model must not be empty")
  ensure (8000 ≤ config.airplay.outputSampleRate ∧ config.airplay.outputSampleRate ≤ 192000 ∧
      1 ≤ config.airplay.outputChannels ∧ config.airplay.outputChannels ≤ 2)
    (.message "AirPlay output must have 8000..=192000 samples/second and 1..=2 channels")
  ensure (config.airplay.maxClientsPerZone ≠ 0)
    (.message "airplay.max_clients_per_zone must be positive")
  ensure (config.stream.codec = "mp3" ∨ config.stream.codec = "wav")
    (.message "stream.codec must be mp3 or wav")
  ensure (32 ≤ config.stream.mp3BitrateKbps ∧ config.stream.mp3BitrateKbps ≤ 320)
    (.message "stream.mp3_bitrate_kbps must be in 32..=320")
  validateSync config.sync

end ConfigFile

/-! ### What a valid configuration satisfies -/

theorem ensure_ok {holds : Prop} [Decidable holds] {reason : InvalidConfig}
    (h : ensure holds reason = .ok ()) : holds := by
  unfold ensure at h
  split at h
  · assumption
  · cases h

theorem ensure_then {holds : Prop} [Decidable holds] {reason : InvalidConfig}
    {next : Unit → Except ConfigError Unit} (h : (ensure holds reason >>= next) = .ok ()) :
    holds ∧ next () = .ok () := by
  unfold ensure at h
  split at h
  · case isTrue held => exact ⟨held, h⟩
  · cases h

/-- The sync settings of a valid configuration are the ones the runtime works with. -/
def SyncSection.checked (sync : SyncSection) (valid : validateSync sync = .ok ()) :
    SyncConfig where
  defaultOffsetMs := sync.defaultOffsetMs
  multiSelectWindowMs := sync.multiSelectWindowMs
  startDeadlineMs := sync.startDeadlineMs
  nativeSonosGroups := sync.nativeSonosGroups
  zoneOffsetsMs := (sync.zoneOffsetsMs.1.map fun e => (⟨e.1, e.2⟩ : Sigma fun _ => Int)).toAList
  default_bounded := (ensure_then valid).1.1
  offsets_bounded := by
    intro name offset h
    rw [AList.lookup_to_alist] at h
    obtain ⟨⟨key, value⟩, hmem, heq⟩ := List.mem_map.mp (List.of_mem_dlookup h)
    cases heq
    exact (ensure_then valid).1.2 value (List.mem_map.mpr ⟨_, hmem, rfl⟩)
  window_le_deadline := (ensure_ok (ensure_then valid).2).2
  deadline_bounded := (ensure_ok (ensure_then valid).2).1

end AirSonos
