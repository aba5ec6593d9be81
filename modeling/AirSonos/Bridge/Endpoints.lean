import AirSonos.HomeAssistant.Client
import AirSonos.Lib.Path
import AirSonos.Lib.Text
import AirSonos.Sonos.ResponseOrder

/-!
# Endpoints and their files

Every renderer that is found at the start gets an AirPlay endpoint. The id of its zone names two
files: the pairings of the endpoint and its identity. The ids of Home Assistant players are
checked with the configuration, those of Sonos zones are taken as the network gives them.
-/

namespace AirSonos

open Path

structure VirtualAirPlayEndpoint where
  zoneId : ZoneId
  displayName : String
  rtspPort : Nat
  persistedHwaddr : List UInt8
  pairingStorePath : List Char

/-- Why the speakers could not be started. -/
inductive StartError
  | homeAssistant (error : HomeAssistantError)
  | noRenderers
  | port (error : PortAllocationError)

section Build

variable (sha256 : ByteArray → Vector UInt8 32)

def stableVirtualHwaddr (zoneId : ZoneId) : List UInt8 :=
  0x02 :: (sha256 zoneId.value.toUTF8).toList.take 5

def jsonFile (zoneId : ZoneId) (dir : List Char) : List Char :=
  fileIn dir zoneId.value.toList ".json".toList

def pairingsDir (stateDir : String) : List Char :=
  join stateDir.toList "pairings".toList

def endpointsDir (stateDir : String) : List Char :=
  join stateDir.toList "endpoints".toList

def virtualEndpointForZone (zoneId : ZoneId) (room : String) (index : Nat)
    (airplay : AirPlayConfig) (stateDir : String) :
    Except PortAllocationError VirtualAirPlayEndpoint := do
  let rtspPort ← allocateRtspPort airplay.baseRtspPort index
  return {
    zoneId
    displayName := airplay.nameTemplate.replace "\x7broom\x7d" room
    rtspPort
    persistedHwaddr := stableVirtualHwaddr sha256 zoneId
    pairingStorePath := jsonFile zoneId (pairingsDir stateDir) }

def buildEndpointsFrom (config : ConfigFile) (index : Nat) :
    List Renderer → Except PortAllocationError (List VirtualAirPlayEndpoint)
  | [] => .ok []
  | renderer :: renderers => do
    let endpoint ← virtualEndpointForZone sha256 renderer.id renderer.name index config.airplay
      config.server.stateDir
    let endpoints ← buildEndpointsFrom config (index + 1) renderers
    return endpoint :: endpoints

def buildEndpoints (renderers : List Renderer) (config : ConfigFile) :
    Except PortAllocationError (List VirtualAirPlayEndpoint) :=
  buildEndpointsFrom sha256 config 0 renderers

/-- The files that are written for the endpoints, each with what it holds. -/
def persistEndpointIdentities (stateDir : String) (endpoints : List VirtualAirPlayEndpoint) :
    List (List Char × VirtualAirPlayEndpoint) :=
  endpoints.map fun endpoint => (jsonFile endpoint.zoneId (endpointsDir stateDir), endpoint)

def sonosRenderers (zones : List DiscoveredZone) : List Renderer :=
  zones.map fun zone => .sonos zone.toSonosZone

def objectId (entityId : String) : String :=
  match Text.splitOnce '.' entityId.toList with
  | some (_, object) => String.ofList object
  | none => entityId

/-- `players` is what Home Assistant answers, or `none` when it does not. -/
def homeAssistantRenderers (client : Except HomeAssistantError HomeAssistantClient)
    (players : Option (List MediaPlayer)) (config : HomeAssistantConfig) :
    Except HomeAssistantError (List Renderer) :=
  if config.mediaPlayers = [] then .ok []
  else do
    let _ ← client
    return config.mediaPlayers.map fun entityId =>
      let player := players.bind fun players => players.find? (·.entityId = entityId)
      .homeAssistant ⟨entityId⟩ ((player.map MediaPlayer.name).getD (objectId entityId))

def discoverRenderers (discovered : List DiscoveredZone)
    (client : Except HomeAssistantError HomeAssistantClient)
    (players : Option (List MediaPlayer)) (config : ConfigFile) :
    Except StartError (List Renderer) := do
  let zones := filterZones discovered config.sonos
  let others ← (homeAssistantRenderers client players config.homeAssistant).mapError
    StartError.homeAssistant
  if sonosRenderers zones ++ others = [] then .error .noRenderers
  else return sonosRenderers zones ++ others

/-- The endpoints of a start that comes as far as building them. -/
def startEndpoints (discovered : List DiscoveredZone)
    (client : Except HomeAssistantError HomeAssistantClient)
    (players : Option (List MediaPlayer)) (config : ConfigFile) :
    Except StartError (List VirtualAirPlayEndpoint) := do
  let renderers ← discoverRenderers discovered client players config
  (buildEndpoints sha256 renderers config).mapError StartError.port

end Build

/-! ### What the endpoints are built from -/

variable {sha256 : ByteArray → Vector UInt8 32}

theorem endpoint_of_virtual {zoneId : ZoneId} {room : String} {index : Nat}
    {airplay : AirPlayConfig} {stateDir : String} {endpoint : VirtualAirPlayEndpoint}
    (h : virtualEndpointForZone sha256 zoneId room index airplay stateDir = .ok endpoint) :
    endpoint.zoneId = zoneId ∧
      endpoint.pairingStorePath = jsonFile zoneId (pairingsDir stateDir) := by
  unfold virtualEndpointForZone at h
  cases hport : allocateRtspPort airplay.baseRtspPort index with
  | error e =>
    rw [hport] at h
    cases h
  | ok port =>
    rw [hport] at h
    cases h
    exact ⟨rfl, rfl⟩

theorem endpoints_of_build {config : ConfigFile} {renderers : List Renderer} {index : Nat}
    {endpoints : List VirtualAirPlayEndpoint}
    (h : buildEndpointsFrom sha256 config index renderers = .ok endpoints) :
    endpoints.map (·.zoneId) = renderers.map Renderer.id ∧
      ∀ endpoint ∈ endpoints, endpoint.pairingStorePath =
        jsonFile endpoint.zoneId (pairingsDir config.server.stateDir) := by
  induction renderers generalizing index endpoints with
  | nil =>
    cases h
    exact ⟨rfl, fun endpoint hmem => (by cases hmem)⟩
  | cons renderer renderers ih =>
    unfold buildEndpointsFrom at h
    cases hfirst : virtualEndpointForZone sha256 renderer.id renderer.name index config.airplay
        config.server.stateDir with
    | error e =>
      rw [hfirst] at h
      cases h
    | ok first =>
      cases hrest : buildEndpointsFrom sha256 config (index + 1) renderers with
      | error e =>
        rw [hfirst, hrest] at h
        cases h
      | ok rest =>
        rw [hfirst, hrest] at h
        cases h
        obtain ⟨hid, hpath⟩ := endpoint_of_virtual hfirst
        obtain ⟨hids, hpaths⟩ := ih hrest
        constructor
        · rw [List.map_cons, List.map_cons, hid, hids]
        · intro endpoint hmem
          obtain rfl | hmem := List.mem_cons.mp hmem
          · rw [hpath, hid]
          · exact hpaths endpoint hmem

theorem ids_of_renderers {discovered : List DiscoveredZone}
    {client : Except HomeAssistantError HomeAssistantClient} {players : Option (List MediaPlayer)}
    {config : ConfigFile} {renderers : List Renderer}
    (h : discoverRenderers discovered client players config = .ok renderers) :
    renderers.map Renderer.id =
      (filterZones discovered config.sonos).map (·.id) ++
        config.homeAssistant.mediaPlayers.map ZoneId.mk := by
  unfold discoverRenderers homeAssistantRenderers at h
  split at h
  · next hnone =>
    simp only [Except.mapError, bind, Except.bind, List.append_nil] at h
    split at h
    · cases h
    · cases h
      simp [sonosRenderers, hnone, Renderer.id]
  · cases hclient : client with
    | error e =>
      rw [hclient] at h
      cases h
    | ok client =>
      rw [hclient] at h
      simp only [Except.mapError, bind, Except.bind, pure, Except.pure] at h
      split at h
      · cases h
      · cases h
        rw [sonosRenderers, List.map_append, List.map_map, List.map_map]
        rfl

theorem ids_of_start {discovered : List DiscoveredZone}
    {client : Except HomeAssistantError HomeAssistantClient} {players : Option (List MediaPlayer)}
    {config : ConfigFile} {endpoints : List VirtualAirPlayEndpoint}
    (h : startEndpoints sha256 discovered client players config = .ok endpoints) :
    endpoints.map (·.zoneId) =
        (filterZones discovered config.sonos).map (·.id) ++
          config.homeAssistant.mediaPlayers.map ZoneId.mk ∧
      ∀ endpoint ∈ endpoints, endpoint.pairingStorePath =
        jsonFile endpoint.zoneId (pairingsDir config.server.stateDir) := by
  unfold startEndpoints at h
  cases hrenderers : discoverRenderers discovered client players config with
  | error e =>
    rw [hrenderers] at h
    cases h
  | ok renderers =>
    rw [hrenderers] at h
    cases hbuild : buildEndpoints sha256 renderers config with
    | error e =>
      simp only [hbuild, bind, Except.bind, Except.mapError] at h
      cases h
    | ok built =>
      simp only [hbuild, bind, Except.bind, Except.mapError] at h
      cases h
      obtain ⟨hids, hpaths⟩ := endpoints_of_build hbuild
      exact ⟨hids.trans (ids_of_renderers hrenderers), hpaths⟩

/-! ### Files of checked ids -/

theorem isMediaPlayerId_of_validate {players seen : List String}
    (h : validateMediaPlayers seen players = .ok ()) {player : String} (hmem : player ∈ players) :
    isMediaPlayerId player = true := by
  induction players generalizing seen with
  | nil => cases hmem
  | cons first players ih =>
    unfold validateMediaPlayers at h
    split at h
    · cases h
    split at h
    · cases h
    · next hvalid _ =>
      obtain rfl | hlater := List.mem_cons.mp hmem
      · simpa using hvalid
      · exact ih h hlater

/-- A checked entity id has no slash. -/
theorem plain_of_isMediaPlayerId {player : String} (h : isMediaPlayerId player = true) :
    '/' ∉ player.toList := by
  rw [isMediaPlayerId, Bool.and_eq_true, List.isPrefixOf_iff_prefix] at h
  obtain ⟨⟨object, hobject⟩, hvalid⟩ := h
  rw [← hobject, List.drop_left' String.length_toList, validObjectId, Bool.and_eq_true] at hvalid
  rw [← hobject, List.mem_append, not_or]
  constructor
  · decide
  · intro hslash
    have hchar := List.all_eq_true.mp hvalid.2 '/' hslash
    exact absurd hchar (by decide)

theorem json_ending : Ending ".json".toList where
  plain := by decide
  long := by decide

theorem pairingsDir_ne_nil (stateDir : String) : pairingsDir stateDir ≠ [] :=
  join_ne_nil _ (by decide)

theorem endpointsDir_ne_nil (stateDir : String) : endpointsDir stateDir ≠ [] :=
  join_ne_nil _ (by decide)

theorem dirs_apart (stateDir : String) :
    components (pairingsDir stateDir) ≠ components (endpointsDir stateDir) := by
  obtain ⟨front, hpairings⟩ := @components_join_plain stateDir.toList "pairings".toList
    (by decide) (by decide)
  obtain ⟨front', hendpoints⟩ := @components_join_plain stateDir.toList "endpoints".toList
    (by decide) (by decide)
  intro heq
  rw [pairingsDir, endpointsDir, hpairings, hendpoints] at heq
  exact absurd (List.append_inj_right' heq rfl) (by decide)

def StaysInsideId (id : ZoneId) : Prop :=
  StaysInside id.value.toList

/-- Different ids differ after their last slash. -/
def SegmentsApart (id id' : ZoneId) : Prop :=
  id ≠ id' → lastSegment id.value.toList ≠ lastSegment id'.value.toList

/-- Every file is a direct child of its directory, and no two ids share a file. -/
structure FilesInside (stateDir : String) (endpoints : List VirtualAirPlayEndpoint) : Prop where
  pairings : ∀ endpoint ∈ endpoints,
    DirectChild (pairingsDir stateDir) endpoint.pairingStorePath
  identities : ∀ write ∈ persistEndpointIdentities stateDir endpoints,
    DirectChild (endpointsDir stateDir) write.1
  pairingsApart : ∀ endpoint ∈ endpoints, ∀ other ∈ endpoints, endpoint.zoneId ≠ other.zoneId →
    components endpoint.pairingStorePath ≠ components other.pairingStorePath
  identitiesApart : ∀ write ∈ persistEndpointIdentities stateDir endpoints,
    ∀ other ∈ persistEndpointIdentities stateDir endpoints, write.2.zoneId ≠ other.2.zoneId →
    components write.1 ≠ components other.1

/-- The ids that the network gives stay inside and collide with no other id. -/
structure ZoneIdsSafe (zones : List DiscoveredZone) (players : List String) : Prop where
  inside : ∀ zone ∈ zones, StaysInsideId zone.id
  apart : ∀ zone ∈ zones, ∀ zone' ∈ zones, SegmentsApart zone.id zone'.id
  playersApart : ∀ zone ∈ zones, ∀ player ∈ players, SegmentsApart zone.id ⟨player⟩

theorem jsonFile_apart {dir : List Char} (nonempty : dir ≠ []) {id id' : ZoneId}
    (inside : StaysInsideId id) (inside' : StaysInsideId id') :
    components (jsonFile id dir) ≠ components (jsonFile id' dir) ↔
      lastSegment id.value.toList ≠ lastSegment id'.value.toList := by
  rw [jsonFile, jsonFile, components_fileIn nonempty json_ending inside,
    components_fileIn nonempty json_ending inside', not_iff_not]
  constructor
  · intro heq
    have hname := List.append_cancel_left heq
    simp only [List.cons.injEq, Component.normal.injEq, and_true] at hname
    exact List.append_cancel_right hname
  · intro heq
    rw [heq]

/-- The ids of the endpoints, as a condition on all of them. -/
theorem filesInside_iff_ids {stateDir : String} {endpoints : List VirtualAirPlayEndpoint}
    (paths : ∀ endpoint ∈ endpoints,
      endpoint.pairingStorePath = jsonFile endpoint.zoneId (pairingsDir stateDir)) :
    FilesInside stateDir endpoints ↔
      (∀ endpoint ∈ endpoints, StaysInsideId endpoint.zoneId) ∧
        ∀ endpoint ∈ endpoints, ∀ other ∈ endpoints,
          SegmentsApart endpoint.zoneId other.zoneId := by
  have hwrites : ∀ write ∈ persistEndpointIdentities stateDir endpoints,
      write.2 ∈ endpoints ∧ write.1 = jsonFile write.2.zoneId (endpointsDir stateDir) := by
    intro write hwrite
    obtain ⟨endpoint, hmem, rfl⟩ := List.mem_map.mp hwrite
    exact ⟨hmem, rfl⟩
  constructor
  · intro h
    have hinside : ∀ endpoint ∈ endpoints, StaysInsideId endpoint.zoneId := by
      intro endpoint hmem
      have hpairing := h.pairings endpoint hmem
      rw [paths endpoint hmem] at hpairing
      have hidentity := h.identities _ (List.mem_map.mpr ⟨endpoint, hmem, rfl⟩)
      exact staysInside_of_directChild (pairingsDir_ne_nil stateDir) (dirs_apart stateDir)
        json_ending hpairing hidentity
    refine ⟨hinside, ?_⟩
    intro endpoint hmem other hmem' hne
    have hapart := h.pairingsApart endpoint hmem other hmem' hne
    rw [paths endpoint hmem, paths other hmem'] at hapart
    exact (jsonFile_apart (pairingsDir_ne_nil stateDir) (hinside endpoint hmem)
      (hinside other hmem')).mp hapart
  · rintro ⟨hinside, hapart⟩
    constructor
    · intro endpoint hmem
      rw [paths endpoint hmem]
      exact directChild_fileIn (pairingsDir_ne_nil stateDir) json_ending (hinside endpoint hmem)
    · intro write hwrite
      obtain ⟨hmem, hpath⟩ := hwrites write hwrite
      rw [hpath]
      exact directChild_fileIn (endpointsDir_ne_nil stateDir) json_ending (hinside write.2 hmem)
    · intro endpoint hmem other hmem' hne
      rw [paths endpoint hmem, paths other hmem']
      exact (jsonFile_apart (pairingsDir_ne_nil stateDir) (hinside endpoint hmem)
        (hinside other hmem')).mpr (hapart endpoint hmem other hmem' hne)
    · intro write hwrite other hother hne
      obtain ⟨hmem, hpath⟩ := hwrites write hwrite
      obtain ⟨hmem', hpath'⟩ := hwrites other hother
      rw [hpath, hpath']
      exact (jsonFile_apart (endpointsDir_ne_nil stateDir) (hinside write.2 hmem)
        (hinside other.2 hmem')).mpr (hapart write.2 hmem other.2 hmem' hne)

/-- The files stay where they belong exactly when the ids of the kept zones let them. -/
theorem filesInside_iff {discovered : List DiscoveredZone}
    {client : Except HomeAssistantError HomeAssistantClient} {players : Option (List MediaPlayer)}
    {config : ConfigFile} {endpoints : List VirtualAirPlayEndpoint}
    (valid : validateMediaPlayers [] config.homeAssistant.mediaPlayers = .ok ())
    (built : startEndpoints sha256 discovered client players config = .ok endpoints) :
    FilesInside config.server.stateDir endpoints ↔
      ZoneIdsSafe (filterZones discovered config.sonos) config.homeAssistant.mediaPlayers := by
  obtain ⟨hids, hpaths⟩ := ids_of_start built
  have hmem : ∀ id, (∃ endpoint ∈ endpoints, endpoint.zoneId = id) ↔
      (∃ zone ∈ filterZones discovered config.sonos, zone.id = id) ∨
        ∃ player ∈ config.homeAssistant.mediaPlayers, ZoneId.mk player = id := by
    intro id
    rw [← List.mem_map, hids, List.mem_append, List.mem_map, List.mem_map]
  have hplain : ∀ player ∈ config.homeAssistant.mediaPlayers, '/' ∉ player.toList :=
    fun player hplayer => plain_of_isMediaPlayerId (isMediaPlayerId_of_validate valid hplayer)
  rw [filesInside_iff_ids hpaths]
  constructor
  · rintro ⟨hinside, hapart⟩
    have hzone : ∀ zone ∈ filterZones discovered config.sonos,
        ∃ endpoint ∈ endpoints, endpoint.zoneId = zone.id :=
      fun zone hzone => (hmem zone.id).mpr (Or.inl ⟨zone, hzone, rfl⟩)
    constructor
    · intro zone hz
      obtain ⟨endpoint, he, hid⟩ := hzone zone hz
      exact hid ▸ hinside endpoint he
    · intro zone hz zone' hz'
      obtain ⟨endpoint, he, hid⟩ := hzone zone hz
      obtain ⟨other, ho, hid'⟩ := hzone zone' hz'
      exact hid ▸ hid' ▸ hapart endpoint he other ho
    · intro zone hz player hp
      obtain ⟨endpoint, he, hid⟩ := hzone zone hz
      obtain ⟨other, ho, hid'⟩ := (hmem ⟨player⟩).mpr (Or.inr ⟨player, hp, rfl⟩)
      exact hid ▸ hid' ▸ hapart endpoint he other ho
  · intro h
    constructor
    · intro endpoint he
      obtain ⟨zone, hz, hid⟩ | ⟨player, hp, hid⟩ := (hmem endpoint.zoneId).mp ⟨endpoint, he, rfl⟩
      · exact hid ▸ h.inside zone hz
      · rw [← hid]
        exact staysInside_plain (hplain player hp)
    · intro endpoint he other ho
      have hfirst := (hmem endpoint.zoneId).mp ⟨endpoint, he, rfl⟩
      have hsecond := (hmem other.zoneId).mp ⟨other, ho, rfl⟩
      generalize endpoint.zoneId = first at hfirst
      generalize other.zoneId = second at hsecond
      obtain ⟨zone, hz, rfl⟩ | ⟨player, hp, rfl⟩ := hfirst
      · obtain ⟨zone', hz', rfl⟩ | ⟨player', hp', rfl⟩ := hsecond
        · exact h.apart zone hz zone' hz'
        · exact h.playersApart zone hz player' hp'
      · obtain ⟨zone', hz', rfl⟩ | ⟨player', hp', rfl⟩ := hsecond
        · intro hne heq
          exact h.playersApart zone' hz' player hp (Ne.symm hne) heq.symm
        · intro hne
          rw [lastSegment_plain (hplain player hp), lastSegment_plain (hplain player' hp')]
          intro heq
          exact hne (congrArg ZoneId.mk (String.toList_inj.mp heq))

/-! ### Two devices -/

def kitchenZone : DiscoveredZone where
  id := ⟨"RINCON_1"⟩
  roomName := "Kitchen"
  rinconId := "RINCON_1"
  isGroupCoordinator := true
  ip := .v4 1
  model := "One"
  isVisibleRoom := true

def zeroDigest (_ : ByteArray) : Vector UInt8 32 :=
  Vector.replicate 32 0

def ConfigFile.withTv (config : ConfigFile) : ConfigFile :=
  { config with
    homeAssistant := { config.homeAssistant with mediaPlayers := ["media_player.tv"] } }

theorem filesInside_kitchen :
    ∃ endpoints, startEndpoints zeroDigest [kitchenZone] (.ok ⟨⟨"http://ha/api/"⟩, "t"⟩) none
        (ConfigFile.withTv {}) = .ok endpoints ∧
      FilesInside (ConfigFile.withTv {}).server.stateDir endpoints := by
  obtain ⟨endpoints, built⟩ : ∃ endpoints, startEndpoints zeroDigest [kitchenZone]
      (.ok ⟨⟨"http://ha/api/"⟩, "t"⟩) none (ConfigFile.withTv {}) = .ok endpoints := ⟨_, rfl⟩
  have valid : validateMediaPlayers [] (ConfigFile.withTv {}).homeAssistant.mediaPlayers =
      .ok () := by decide
  have hkept : filterZones [kitchenZone] (ConfigFile.withTv {}).sonos = [kitchenZone] := by decide
  refine ⟨endpoints, built, (filesInside_iff valid built).mpr ?_⟩
  rw [hkept]
  constructor
  · intro zone hz
    rw [List.mem_singleton.mp hz]
    exact staysInside_plain (by decide)
  · intro zone hz zone' hz' hne
    rw [List.mem_singleton.mp hz, List.mem_singleton.mp hz'] at hne
    exact absurd rfl hne
  · intro zone hz player hp _
    rw [List.mem_singleton.mp hz, List.mem_singleton.mp hp]
    decide

/-- A device whose identifier climbs out of the directory. -/
def climbingSeed : Seed where
  ip := .v4 1
  answer := .ok
    ({ roomName := "Kitchen", modelName := "One", udn := "uuid:../x" },
      .ok [{ uuid := "../x", zoneName := "Kitchen", location := none, isVisibleRoom := true,
             isGroupCoordinator := true }])

def climbingZone : DiscoveredZone :=
  { kitchenZone with id := ⟨"../x"⟩, rinconId := "../x" }

theorem components_climbing {dir : List Char} (nonempty : dir ≠ []) :
    components (jsonFile climbingZone.id dir) =
      components dir ++ [.parentDir, .normal "x.json".toList] := by
  rw [jsonFile, fileIn, components_join nonempty (by decide)]
  rfl

/-- Its endpoint is built from a discovery in time, and both files leave their directory. -/
theorem files_climb :
    ∃ discovered endpoints,
      DiscoverDevicesUntil (fun _ => none) [climbingSeed] true (.ok discovered) ∧
        startEndpoints zeroDigest discovered (.error .missingToken) none {} = .ok endpoints ∧
        ∃ endpoint ∈ endpoints,
          ¬ DirectChild (pairingsDir "/var/lib/airsonos2") endpoint.pairingStorePath ∧
            components endpoint.pairingStorePath =
              components (pairingsDir "/var/lib/airsonos2") ++
                [.parentDir, .normal "x.json".toList] ∧
            ¬ FilesInside "/var/lib/airsonos2" endpoints := by
  have hrun : DiscoverDevicesUntil (fun _ => none) [climbingSeed] true (.ok [climbingZone]) :=
    (Discovery.discovers_iff (List.cons_ne_nil _ _)).mpr
      ⟨[climbingSeed], Served.in_turn (by decide) _, rfl⟩
  obtain ⟨endpoints, built⟩ : ∃ endpoints, startEndpoints zeroDigest [climbingZone]
      (.error .missingToken) none {} = .ok endpoints := ⟨_, rfl⟩
  obtain ⟨hids, hpaths⟩ := ids_of_start built
  have hkept : (filterZones [climbingZone] {}).map (·.id) = [climbingZone.id] := by decide
  obtain ⟨endpoint, hmem, hid⟩ : ∃ endpoint ∈ endpoints, endpoint.zoneId = climbingZone.id := by
    rw [← List.mem_map, hids, hkept]
    exact List.mem_append_left _ List.mem_cons_self
  have hcomponents := components_climbing (pairingsDir_ne_nil "/var/lib/airsonos2")
  rw [← hid, ← hpaths endpoint hmem] at hcomponents
  have hnot : ¬ DirectChild (pairingsDir "/var/lib/airsonos2") endpoint.pairingStorePath := by
    rintro ⟨name, hname⟩
    rw [hcomponents] at hname
    cases List.append_cancel_left hname
  exact ⟨_, endpoints, hrun, built, endpoint, hmem, hnot, hcomponents,
    fun h => hnot (h.pairings endpoint hmem)⟩

end AirSonos
