import AirSonos.Core.Config
import AirSonos.Lib.ServiceWindow
import AirSonos.Sonos.Client
import AirSonos.Sonos.Topology

/-!
# Discovery

The seeds are probed at most four at a time. A probe that ends well adds its device to the zones
and may bring a topology; the first topology that names a known zone or an address is kept and
applied to all zones at the end. Reading a URL is left to a parser that is a parameter.
-/

namespace AirSonos

theorem ZoneId.value_injective : Function.Injective ZoneId.value := by
  rintro ⟨a⟩ ⟨b⟩ h
  exact congrArg ZoneId.mk h

instance : LinearOrder ZoneId :=
  LinearOrder.lift' ZoneId.value ZoneId.value_injective

inductive UrlHost
  | ipv4 (bits : BitVec 32)
  | ipv6 (bits : BitVec 128)
  | domain (name : String)
deriving DecidableEq

/-- The parts of a URL that discovery reads. -/
structure ParsedUrl where
  scheme : String
  username : String
  password : Option String
  host : Option UrlHost
deriving DecidableEq

def deviceUrlIp (url : ParsedUrl) : Option ConfigAddr :=
  if url.scheme ≠ "http" ∨ url.username ≠ "" ∨ url.password.isSome then none
  else
    match url.host with
    | some (.ipv4 bits) => some (.v4 bits)
    | some (.ipv6 bits) => some (.v6 bits)
    | some (.domain _) => none
    | none => none

structure DeviceDescription where
  roomName : String
  modelName : String
  udn : String
deriving DecidableEq

/-- Strips the prefix as often as it is there. -/
def trimStartUuid : List Char → List Char
  | 'u' :: 'u' :: 'i' :: 'd' :: ':' :: rest => trimStartUuid rest
  | text => text

def DeviceDescription.rinconId (description : DeviceDescription) : String :=
  String.ofList (trimStartUuid description.udn.toList)

/-- All of a discovered zone. The bridge reads only the part that is its `SonosZone`. -/
structure DiscoveredZone extends SonosZone where
  ip : ConfigAddr
  model : String
  isVisibleRoom : Bool
deriving DecidableEq

inductive DiscoveryError
  | descriptionFetch (source : ReqwestError)
  | descriptionParse
  | bodyTooLarge
  | noTopology
  | topology (source : SonosClientError)
deriving DecidableEq

/-- A device to be probed and what it will answer. -/
structure Seed where
  ip : ConfigAddr
  answer : Except DiscoveryError
    (DeviceDescription × Except SonosClientError (List ZoneGroupMember))

/-- Only the topology can make the device a visible room. -/
def fetchDescription (ip : ConfigAddr) (description : DeviceDescription) : DiscoveredZone where
  id := ⟨description.rinconId⟩
  roomName := description.roomName
  ip := ip
  model := description.modelName
  rinconId := description.rinconId
  isVisibleRoom := false
  isGroupCoordinator := false

namespace Seed

/-- The zone that a probe adds. -/
def described (seed : Seed) : Option DiscoveredZone :=
  match seed.answer with
  | .ok (description, _) => some (fetchDescription seed.ip description)
  | .error _ => none

def topology (seed : Seed) : Option (List ZoneGroupMember) :=
  match seed.answer with
  | .ok (_, .ok members) => some members
  | _ => none

end Seed

namespace Discovery

variable (parseUrl : String → Option ParsedUrl)

def locationIp (member : ZoneGroupMember) : Option ConfigAddr :=
  (member.location.bind parseUrl).bind deviceUrlIp

/-- A topology is usable when it lists a zone that is known by now, or an address. -/
def usable (zones : AssocMap ZoneId DiscoveredZone) (members : List ZoneGroupMember) : Bool :=
  members.any fun member =>
    (zones.lookup ⟨member.uuid⟩).isSome || (locationIp parseUrl member).isSome

structure Found where
  zones : AssocMap ZoneId DiscoveredZone := ∅
  topology : Option (List ZoneGroupMember) := none

/-- What the loop does with the answer of a probe. -/
def Found.absorb (found : Found) (seed : Seed) : Found :=
  match seed.answer with
  | .error _ => found
  | .ok (description, state) =>
    let zone := fetchDescription seed.ip description
    let zones := found.zones.insert zone.id zone
    match found.topology, state with
    | none, .ok members =>
      if usable parseUrl zones members then { zones, topology := some members }
      else { zones, topology := none }
    | topology, _ => { zones, topology }

structure LoopState where
  pending : List Seed
  probes : List Seed := []
  found : Found := {}

def refill (probes : List Seed) : List Seed → List Seed × List Seed
  | [] => (probes, [])
  | device :: pending =>
    if probes.length < 4 then refill (probes ++ [device]) pending else (probes, device :: pending)

def LoopState.refilled (st : LoopState) : LoopState :=
  { st with
    probes := (refill st.probes st.pending).1
    pending := (refill st.probes st.pending).2 }

/-- The probe that is joined next may be any of those that run. -/
inductive Joins : LoopState → List Seed → LoopState → Prop
  | stop (st : LoopState) : Joins st [] st
  | next {st st' : LoopState} {order : List Seed} {seed : Seed} {i : Nat}
      (joined : st.refilled.probes[i]? = some seed)
      (rest : Joins
        { st.refilled with
          probes := st.refilled.probes.eraseIdx i
          found := st.found.absorb parseUrl seed } order st') :
      Joins st (seed :: order) st'

def unknownZone (member : ZoneGroupMember) (ip : ConfigAddr) : DiscoveredZone where
  id := ⟨member.uuid⟩
  roomName := member.zoneName
  ip := ip
  model := "Unknown (topology)"
  rinconId := member.uuid
  isVisibleRoom := false
  isGroupCoordinator := false

def updateZone (zone : DiscoveredZone) (member : ZoneGroupMember) : DiscoveredZone :=
  { zone with
    isVisibleRoom := member.isVisibleRoom
    isGroupCoordinator := member.isGroupCoordinator
    roomName := if member.zoneName ≠ "" then member.zoneName else zone.roomName }

def insertUnknown (zones : AssocMap ZoneId DiscoveredZone) (member : ZoneGroupMember) :
    AssocMap ZoneId DiscoveredZone :=
  match zones.lookup ⟨member.uuid⟩, locationIp parseUrl member with
  | none, some ip => zones.insert ⟨member.uuid⟩ (unknownZone member ip)
  | _, _ => zones

def applyMember (zones : AssocMap ZoneId DiscoveredZone) (member : ZoneGroupMember) :
    AssocMap ZoneId DiscoveredZone :=
  AssocMap.modify ⟨member.uuid⟩ (fun zone => updateZone zone member)
    (insertUnknown parseUrl zones member)

def applyTopology (zones : AssocMap ZoneId DiscoveredZone) (members : List ZoneGroupMember) :
    AssocMap ZoneId DiscoveredZone :=
  members.foldl (applyMember parseUrl) zones

def Found.finish (found : Found) : Except DiscoveryError (List DiscoveredZone) :=
  match found.topology with
  | none => .error .noTopology
  | some members => .ok (AssocMap.intoValues (applyTopology parseUrl found.zones members))

end Discovery

/-- What `discover_devices_until` may return. It ends in time when every probe has ended. -/
inductive DiscoverDevicesUntil (parseUrl : String → Option ParsedUrl) :
    List Seed → (inTime : Bool) → Except DiscoveryError (List DiscoveredZone) → Prop
  | noDevices : DiscoverDevicesUntil parseUrl [] true (.ok [])
  | allJoined {devices order : List Seed} {st : Discovery.LoopState} (some : devices ≠ [])
      (joins : Discovery.Joins parseUrl { pending := devices } order st)
      (idle : st.refilled.probes = []) :
      DiscoverDevicesUntil parseUrl devices true (st.found.finish parseUrl)
  | cutOff {devices order : List Seed} {st : Discovery.LoopState} (some : devices ≠ [])
      (joins : Discovery.Joins parseUrl { pending := devices } order st)
      (busy : st.refilled.probes ≠ []) :
      DiscoverDevicesUntil parseUrl devices false (st.found.finish parseUrl)

/-! ### Rooms and ports -/

def normalizedSet (values : List String) : List String :=
  values.map String.toLower

/-- The include and exclude lists of the configuration let the room pass. -/
def admitsRoom (config : SonosConfig) (roomName : String) : Bool :=
  ((normalizedSet config.includeRooms).isEmpty ||
      (normalizedSet config.includeRooms).contains roomName.toLower) &&
    !(normalizedSet config.excludeRooms).contains roomName.toLower

def filterZones (zones : List DiscoveredZone) (config : SonosConfig) : List DiscoveredZone :=
  (zones.filter (·.isVisibleRoom)).filter fun zone => admitsRoom config zone.roomName

structure PortAllocationError where
  base : Nat
  index : Nat
deriving DecidableEq

/-- Both additions are those of 16-bit ports. -/
def allocateRtspPort (base index : Nat) : Except PortAllocationError Nat :=
  if index < 65536 ∧ base + index < 65536 then .ok (base + index) else .error { base, index }

/-- The port that each kept zone gets from its place. -/
def rtspPorts (config : SonosConfig) (baseRtspPort : Nat) (zones : List DiscoveredZone) :
    List (ZoneId × Except PortAllocationError Nat) :=
  (filterZones zones config).mapIdx fun index zone => (zone.id, allocateRtspPort baseRtspPort index)

end AirSonos
