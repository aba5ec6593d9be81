import AirSonos.Sonos.ResponseOrder

/-!
# Zones, flags and RTSP assignments

Two discoveries of the same devices are compared by what they give the bridge: the zones in their
order, the flags of each and the RTSP ports of those that the configuration keeps.
-/

namespace AirSonos

namespace Discovery

variable {parseUrl : String → Option ParsedUrl} {config : ConfigFile}

/-! ### The entries of one device -/

theorem foldl_mergeMember (listing : List ZoneGroupMember) (zone : DiscoveredZone) :
    listing.foldl (mergeMember parseUrl) (some zone) = some (listing.foldl updateZone zone) := by
  induction listing generalizing zone with
  | nil => rfl
  | cons member listing ih => exact ih (updateZone zone member)

theorem foldl_update_id (listing : List ZoneGroupMember) (zone : DiscoveredZone) :
    (listing.foldl updateZone zone).id = zone.id := by
  induction listing generalizing zone with
  | nil => rfl
  | cons member listing ih => exact ih (updateZone zone member)

theorem foldl_update_visible (listing : List ZoneGroupMember) (zone : DiscoveredZone) :
    (listing.foldl updateZone zone).isVisibleRoom =
      listing.getLast?.elim zone.isVisibleRoom (·.isVisibleRoom) := by
  induction listing using List.reverseRecOn with
  | nil => rfl
  | append_singleton listing member ih =>
    rw [List.foldl_concat, List.getLast?_concat]
    rfl

theorem foldl_update_coordinator (listing : List ZoneGroupMember) (zone : DiscoveredZone) :
    (listing.foldl updateZone zone).isGroupCoordinator =
      listing.getLast?.elim zone.isGroupCoordinator (·.isGroupCoordinator) := by
  induction listing using List.reverseRecOn with
  | nil => rfl
  | append_singleton listing member ih =>
    rw [List.foldl_concat, List.getLast?_concat]
    rfl

theorem foldl_update_unnamed {listing : List ZoneGroupMember}
    (unnamed : ∀ member ∈ listing, member.zoneName = "") (zone : DiscoveredZone) :
    (listing.foldl updateZone zone).roomName = zone.roomName := by
  induction listing generalizing zone with
  | nil => rfl
  | cons member listing ih =>
    rw [List.foldl_cons, ih fun m hm => unnamed m (List.mem_cons_of_mem _ hm)]
    simp [updateZone, unnamed member List.mem_cons_self]

theorem foldl_update_named {listing : List ZoneGroupMember}
    (named : ∃ member ∈ listing, member.zoneName ≠ "") (zone zone' : DiscoveredZone) :
    (listing.foldl updateZone zone).roomName = (listing.foldl updateZone zone').roomName := by
  induction listing using List.reverseRecOn with
  | nil =>
    obtain ⟨member, hmem, -⟩ := named
    cases hmem
  | append_singleton listing member ih =>
    rw [List.foldl_concat, List.foldl_concat]
    by_cases hname : member.zoneName = ""
    · have hbefore : ∃ m ∈ listing, m.zoneName ≠ "" := by
        obtain ⟨m, hm, hne⟩ := named
        obtain hm | hm := List.mem_append.mp hm
        · exact ⟨m, hm, hne⟩
        · rw [List.mem_singleton] at hm
          subst hm
          exact absurd hname hne
      simp only [updateZone, hname, ne_eq, not_true_eq_false, if_false]
      exact ih hbefore
    · simp [updateZone, hname]

/-- The topology shows the device as a room and leaves its name to the description. -/
def ShownUnnamed (members : List ZoneGroupMember) (id : ZoneId) : Prop :=
  (entries id members).getLast?.any (·.isVisibleRoom) = true ∧
    ∀ member ∈ entries id members, member.zoneName = ""

theorem described_flags {seed : Seed} {zone : DiscoveredZone} (h : seed.described = some zone) :
    zone.isVisibleRoom = false ∧ zone.isGroupCoordinator = false := by
  unfold Seed.described at h
  split at h
  · cases h
    exact ⟨rfl, rfl⟩
  · cases h

/-! ### Zones that the bridge cannot tell apart -/

structure Alike (config : SonosConfig) (zone zone' : DiscoveredZone) : Prop where
  id : zone.id = zone'.id
  visible : zone.isVisibleRoom = zone'.isVisibleRoom
  coordinator : zone.isGroupCoordinator = zone'.isGroupCoordinator
  admitted : zone.isVisibleRoom = true →
    admitsRoom config zone.roomName = admitsRoom config zone'.roomName

theorem Alike.refl (config : SonosConfig) (zone : DiscoveredZone) : Alike config zone zone :=
  ⟨rfl, rfl, rfl, fun _ => rfl⟩

/-- The descriptions of one device that the topology leaves unnamed pass or fail together. -/
def NamedAlike (config : SonosConfig) (members : List ZoneGroupMember) (seeds : List Seed) :
    Prop :=
  ∀ seed ∈ seeds, ∀ seed' ∈ seeds, ∀ zone zone', seed.described = some zone →
    seed'.described = some zone' → zone.id = zone'.id → ShownUnnamed members zone.id →
    admitsRoom config zone.roomName = admitsRoom config zone'.roomName

theorem alike_of_described {config : SonosConfig} {members : List ZoneGroupMember}
    {seeds : List Seed} (named : NamedAlike config members seeds) {seed seed' : Seed}
    (hseed : seed ∈ seeds) (hseed' : seed' ∈ seeds) {zone zone' : DiscoveredZone}
    (hzone : seed.described = some zone) (hzone' : seed'.described = some zone')
    (same : zone.id = zone'.id) :
    Alike config ((entries zone.id members).foldl updateZone zone)
      ((entries zone.id members).foldl updateZone zone') := by
  obtain ⟨hvisible, hcoordinator⟩ := described_flags hzone
  obtain ⟨hvisible', hcoordinator'⟩ := described_flags hzone'
  constructor
  · rw [foldl_update_id, foldl_update_id, same]
  · rw [foldl_update_visible, foldl_update_visible, hvisible, hvisible']
  · rw [foldl_update_coordinator, foldl_update_coordinator, hcoordinator, hcoordinator']
  · intro shown
    by_cases hunnamed : ∀ member ∈ entries zone.id members, member.zoneName = ""
    · rw [foldl_update_unnamed hunnamed, foldl_update_unnamed hunnamed]
      refine named seed hseed seed' hseed' zone zone' hzone hzone' same ⟨?_, hunnamed⟩
      rw [foldl_update_visible, hvisible] at shown
      cases hlast : (entries zone.id members).getLast? with
      | none =>
        rw [hlast] at shown
        cases shown
      | some member =>
        rw [hlast] at shown
        exact shown
    · push Not at hunnamed
      rw [foldl_update_named hunnamed zone zone']

/-- The zones with the topology applied, from two orders of the same seeds. -/
theorem alike_applied {members first second : List ZoneGroupMember} {seeds order order' : List Seed}
    {sonos : SonosConfig} (named : NamedAlike sonos members seeds)
    (horder : ∀ seed, seed ∈ order ↔ seed ∈ seeds) (horder' : ∀ seed, seed ∈ order' ↔ seed ∈ seeds)
    (hfirst : SameMembers first members) (hsecond : SameMembers second members) (id : ZoneId) :
    Option.Rel (Alike sonos)
      ((applyTopology parseUrl (absorbAll parseUrl order).zones first).lookup id)
      ((applyTopology parseUrl (absorbAll parseUrl order').zones second).lookup id) := by
  rw [lookup_applyTopology, lookup_applyTopology, hfirst id, hsecond id]
  have transfer : ∀ {o o' : List Seed}, (∀ seed, seed ∈ o ↔ seed ∈ seeds) →
      (∀ seed, seed ∈ o' ↔ seed ∈ seeds) →
      ((absorbAll parseUrl o).zones.lookup id).isSome = true →
      ((absorbAll parseUrl o').zones.lookup id).isSome = true := by
    intro o o' ho ho' h
    obtain ⟨zone, hzone⟩ := Option.isSome_iff_exists.mp h
    obtain ⟨seed, hmem, hdescribed, rfl⟩ := described_of_lookup hzone
    exact lookup_of_described ((ho' seed).mpr ((ho seed).mp hmem)) hdescribed
  cases hzone : (absorbAll parseUrl order).zones.lookup id with
  | none =>
    have hnone : (absorbAll parseUrl order').zones.lookup id = none := by
      by_contra hsome
      have := transfer horder' horder (Option.isSome_iff_ne_none.mpr hsome)
      rw [hzone] at this
      cases this
    rw [hnone]
    cases (entries id members).foldl (mergeMember parseUrl) none with
    | none => exact .none
    | some zone => exact .some (Alike.refl sonos zone)
  | some zone =>
    have hsome := transfer horder horder' (by rw [hzone]; rfl)
    obtain ⟨zone', hzone'⟩ := Option.isSome_iff_exists.mp hsome
    obtain ⟨seed, hmem, hdescribed, rfl⟩ := described_of_lookup hzone
    obtain ⟨seed', hmem', hdescribed', hid⟩ := described_of_lookup hzone'
    rw [hzone', foldl_mergeMember, foldl_mergeMember]
    exact .some (alike_of_described named ((horder seed).mp hmem) ((horder' seed').mp hmem')
      hdescribed hdescribed' hid.symm)

/-! ### The zones that are kept -/

theorem foldl_merge_shown {listing : List ZoneGroupMember} {id : ZoneId}
    {start : Option DiscoveredZone} {zone : DiscoveredZone}
    (uuid : ∀ member ∈ listing, member.uuid = id.value)
    (base : ∀ zone, start = some zone → zone.id = id ∧ zone.isVisibleRoom = false)
    (h : listing.foldl (mergeMember parseUrl) start = some zone) :
    zone.id = id ∧ (zone.isVisibleRoom = true →
      ∃ member ∈ listing, member.isVisibleRoom = true) := by
  induction listing using List.reverseRecOn generalizing zone with
  | nil =>
    obtain ⟨hid, hhidden⟩ := base zone h
    refine ⟨hid, ?_⟩
    intro shown
    rw [hhidden] at shown
    cases shown
  | append_singleton listing member ih =>
    have hmember : member ∈ listing ++ [member] := List.mem_append_right _ List.mem_cons_self
    rw [List.foldl_concat, mergeMember, Option.map_eq_some_iff] at h
    obtain ⟨before, hbefore, rfl⟩ := h
    constructor
    · obtain hold | ⟨-, hnew⟩ := Option.or_eq_some_iff.mp hbefore
      · exact (ih (fun m hm => uuid m (List.mem_append_left _ hm)) hold).1
      · obtain ⟨ip, -, rfl⟩ := Option.map_eq_some_iff.mp hnew
        exact congrArg ZoneId.mk (uuid member hmember)
    · intro shown
      exact ⟨member, hmember, shown⟩

theorem applied_shown {order : List Seed} {members : List ZoneGroupMember} {id : ZoneId}
    {zone : DiscoveredZone}
    (h : (applyTopology parseUrl (absorbAll parseUrl order).zones members).lookup id = some zone) :
    zone.id = id ∧ (zone.isVisibleRoom = true →
      ∃ member ∈ entries id members, member.isVisibleRoom = true) := by
  rw [lookup_applyTopology] at h
  refine foldl_merge_shown (fun member hmem => (mem_entries.mp hmem).2) ?_ h
  intro zone hzone
  obtain ⟨seed, -, hdescribed, hid⟩ := described_of_lookup hzone
  exact ⟨hid, (described_flags hdescribed).1⟩

def keptIds (config : SonosConfig) (zones : List DiscoveredZone) : List ZoneId :=
  (filterZones zones config).map (·.id)

theorem mem_filterZones {zones : List DiscoveredZone} {config : SonosConfig}
    {zone : DiscoveredZone} :
    zone ∈ filterZones zones config ↔
      zone ∈ zones ∧ zone.isVisibleRoom = true ∧ admitsRoom config zone.roomName = true := by
  rw [filterZones, List.mem_filter, List.mem_filter, and_assoc]

theorem mem_keptIds {config : SonosConfig} {order : List Seed} {members : List ZoneGroupMember}
    {id : ZoneId} {zone : DiscoveredZone}
    (h : (applyTopology parseUrl (absorbAll parseUrl order).zones members).lookup id = some zone)
    (shown : zone.isVisibleRoom = true) :
    id ∈ keptIds config (AssocMap.intoValues
      (applyTopology parseUrl (absorbAll parseUrl order).zones members)) ↔
      admitsRoom config zone.roomName = true := by
  simp only [keptIds, List.mem_map, mem_filterZones, AssocMap.mem_intoValues]
  constructor
  · rintro ⟨other, ⟨⟨key, hkey⟩, -, hadmits⟩, hid⟩
    obtain rfl : key = id := (applied_shown hkey).1.symm.trans hid
    rw [h] at hkey
    cases hkey
    exact hadmits
  · intro hadmits
    exact ⟨zone, ⟨⟨id, h⟩, shown, hadmits⟩, (applied_shown h).1⟩

theorem rtspPorts_eq (config : SonosConfig) (baseRtspPort : Nat) (zones : List DiscoveredZone) :
    rtspPorts config baseRtspPort zones =
      (keptIds config zones).mapIdx fun index id => (id, allocateRtspPort baseRtspPort index) := by
  apply List.ext_getElem?
  intro i
  simp [rtspPorts, keptIds, Option.map_map, Function.comp_def]

theorem keptIds_of_rtspPorts {config : SonosConfig} {baseRtspPort : Nat}
    {zones zones' : List DiscoveredZone}
    (h : rtspPorts config baseRtspPort zones = rtspPorts config baseRtspPort zones') :
    keptIds config zones = keptIds config zones' := by
  have hfst : ∀ zones : List DiscoveredZone,
      (rtspPorts config baseRtspPort zones).map Prod.fst = keptIds config zones := by
    intro zones
    apply List.ext_getElem?
    intro i
    simp [rtspPorts, keptIds, Option.map_map, Function.comp_def]
  rw [← hfst, ← hfst, h]

theorem keptIds_of_alike {config : SonosConfig} {zones zones' : List DiscoveredZone}
    (h : List.Forall₂ (Alike config) zones zones') :
    keptIds config zones = keptIds config zones' := by
  induction h with
  | nil => rfl
  | @cons zone zone' zones zones' hzone _ ih =>
    unfold keptIds filterZones at ih ⊢
    cases hshown : zone.isVisibleRoom with
    | false =>
      have hshown' := hzone.visible.symm.trans hshown
      simp only [List.filter_cons, hshown, hshown', Bool.false_eq_true, if_false]
      exact ih
    | true =>
      have hshown' := hzone.visible.symm.trans hshown
      have hadmitted := hzone.admitted hshown
      simp only [List.filter_cons, hshown, hshown', if_true, hadmitted]
      split
      · simp only [List.map_cons, ih, hzone.id]
      · exact ih

/-! ### Comparing two discoveries -/

def roomFlags (zone : DiscoveredZone) : ZoneId × Bool × Bool :=
  (zone.id, zone.isVisibleRoom, zone.isGroupCoordinator)

def SameOutcome (config : ConfigFile) :
    Except DiscoveryError (List DiscoveredZone) → Except DiscoveryError (List DiscoveredZone) → Prop
  | .ok zones, .ok zones' =>
    zones.map roomFlags = zones'.map roomFlags ∧
      rtspPorts config.sonos config.airplay.baseRtspPort zones =
        rtspPorts config.sonos config.airplay.baseRtspPort zones'
  | .error e, .error e' => e = e'
  | .ok _, .error _ => False
  | .error _, .ok _ => False

theorem sameOutcome_of_alike {zones zones' : List DiscoveredZone}
    (h : List.Forall₂ (Alike config.sonos) zones zones') :
    SameOutcome config (.ok zones) (.ok zones') := by
  constructor
  · induction h with
    | nil => rfl
    | cons hzone _ ih =>
      rw [List.map_cons, List.map_cons, ih]
      rw [roomFlags, hzone.id, hzone.visible, hzone.coordinator]
      rfl
  · rw [rtspPorts_eq, rtspPorts_eq, keptIds_of_alike h]

/-- A member that is neither a satellite nor invisible, in the document too if there is one. -/
def ListedRoom (members : List ZoneGroupMember) (id : ZoneId) : Prop :=
  (∃ member ∈ members, member.uuid = id.value ∧ member.isVisibleRoom = true) ∧
    ∀ events, parseZoneGroupState events = members →
      ∃ element ∈ xmlElements events, element.IsRoom id.value

theorem listedRoom_of_member {members : List ZoneGroupMember} {id : ZoneId}
    {member : ZoneGroupMember} (hmem : member ∈ members) (huuid : member.uuid = id.value)
    (shown : member.isVisibleRoom = true) : ListedRoom members id := by
  refine ⟨⟨member, hmem, huuid, shown⟩, ?_⟩
  rintro events rfl
  rw [← huuid]
  exact isRoom_of_parse hmem shown

/-- Neither the outcome nor the ports depend on the order, and only rooms are kept. -/
structure OrderIrrelevant (parseUrl : String → Option ParsedUrl) (config : ConfigFile)
    (members : List ZoneGroupMember) (seeds : List Seed) : Prop where
  same : ∀ outcome outcome', DiscoverDevicesUntil parseUrl seeds true outcome →
    DiscoverDevicesUntil parseUrl seeds true outcome' → SameOutcome config outcome outcome'
  rooms : ∀ inTime zones, DiscoverDevicesUntil parseUrl seeds inTime (.ok zones) →
    ∀ zone ∈ filterZones zones config.sonos, ListedRoom members zone.id

theorem listedRoom_of_kept {members : List ZoneGroupMember} {seeds order : List Seed}
    (agree : AllList members seeds) (hsub : ∀ seed ∈ order, seed ∈ seeds)
    {zones : List DiscoveredZone}
    (h : Found.finish parseUrl (absorbAll parseUrl order) = .ok zones) {zone : DiscoveredZone}
    (kept : zone ∈ filterZones zones config.sonos) : ListedRoom members zone.id := by
  unfold Found.finish at h
  split at h
  · cases h
  · next topology htopology =>
    cases h
    obtain ⟨seed, hmem, hbrings⟩ := topology_of_absorbed htopology
    have hsame := agree seed (hsub seed hmem) topology hbrings
    obtain ⟨hzone, shown, -⟩ := mem_filterZones.mp kept
    obtain ⟨id, hlookup⟩ := AssocMap.mem_intoValues.mp hzone
    obtain ⟨rfl, hlisted⟩ := applied_shown hlookup
    obtain ⟨member, hmember, hvisible⟩ := hlisted shown
    rw [hsame] at hmember
    obtain ⟨hmember, huuid⟩ := mem_entries.mp hmember
    exact listedRoom_of_member hmember huuid hvisible

theorem rooms_listed {members : List ZoneGroupMember} {seeds : List Seed}
    (agree : AllList members seeds) {inTime : Bool} {zones : List DiscoveredZone}
    (h : DiscoverDevicesUntil parseUrl seeds inTime (.ok zones)) {zone : DiscoveredZone}
    (kept : zone ∈ filterZones zones config.sonos) : ListedRoom members zone.id := by
  have hrun : ∀ {order st}, Joins parseUrl { pending := seeds } order st →
      st.found.finish parseUrl = .ok zones → ListedRoom members zone.id := by
    intro order st joins hfinish
    rw [joins.found_eq] at hfinish
    exact listedRoom_of_kept agree (fun seed hseed => joins.mem_jobs (Nat.zero_le 4) hseed) hfinish
      kept
  generalize houtcome : (Except.ok zones : Except DiscoveryError _) = outcome at h
  cases h with
  | noDevices =>
    cases houtcome
    cases kept
  | allJoined _ joins _ => exact hrun joins houtcome.symm
  | cutOff _ joins _ => exact hrun joins houtcome.symm

end Discovery

end AirSonos
