import AirSonos.Sonos.Discovery
import Mathlib.Data.List.Induction

/-!
# The order of responses

The probes of a discovery may end in any order that the window of four allows. What comes out
depends on that order only through the description that is joined last for a zone and through the
moment at which a topology first becomes usable.
-/

namespace AirSonos

namespace Discovery

variable {parseUrl : String → Option ParsedUrl}

/-! ### Runs of the loop -/

theorem refill_eq {probes : List Seed} (pending : List Seed) (room : probes.length ≤ 4) :
    refill probes pending = ((probes ++ pending).take 4, (probes ++ pending).drop 4) := by
  induction pending generalizing probes with
  | nil =>
    rw [refill, List.append_nil, List.take_of_length_le room, List.drop_of_length_le room]
  | cons device pending ih =>
    rw [refill]
    split
    · case isTrue hlt =>
      have hroom : (probes ++ [device]).length ≤ 4 := by
        rw [List.length_append, List.length_singleton]
        omega
      rw [ih hroom, List.append_assoc, List.singleton_append]
    · case isFalse hge =>
      have hfull : probes.length = 4 := by omega
      rw [← hfull, List.take_left, List.drop_left]

def LoopState.jobs (st : LoopState) : List Seed :=
  st.probes ++ st.pending

theorem refilled_probes {st : LoopState} (room : st.probes.length ≤ 4) :
    st.refilled.probes = st.jobs.take 4 := by
  rw [LoopState.refilled, refill_eq _ room]
  rfl

theorem refilled_pending {st : LoopState} (room : st.probes.length ≤ 4) :
    st.refilled.pending = st.jobs.drop 4 := by
  rw [LoopState.refilled, refill_eq _ room]
  rfl

theorem jobs_of_idle {st : LoopState} (room : st.probes.length ≤ 4)
    (idle : st.refilled.probes = []) : st.jobs = [] := by
  rw [refilled_probes room] at idle
  obtain hzero | hnil := List.take_eq_nil_iff.mp idle
  · cases hzero
  · exact hnil

/-- The state after one probe is joined. -/
def LoopState.join (parseUrl : String → Option ParsedUrl) (st : LoopState) (i : Nat)
    (seed : Seed) : LoopState :=
  { st.refilled with
    probes := st.refilled.probes.eraseIdx i
    found := st.found.absorb parseUrl seed }

theorem join_jobs (parseUrl : String → Option ParsedUrl) {st : LoopState}
    (room : st.probes.length ≤ 4) {i : Nat} {seed : Seed}
    (joined : st.refilled.probes[i]? = some seed) :
    (st.join parseUrl i seed).jobs = st.jobs.eraseIdx i := by
  obtain ⟨hi, -⟩ := List.getElem?_eq_some_iff.mp joined
  have hsplit := List.eraseIdx_append_of_lt_length hi st.refilled.pending
  rw [refilled_probes room, refilled_pending room, List.take_append_drop] at hsplit
  rw [hsplit, ← refilled_probes room, ← refilled_pending room]
  rfl

theorem join_room (parseUrl : String → Option ParsedUrl) {st : LoopState}
    (room : st.probes.length ≤ 4) (i : Nat) (seed : Seed) :
    (st.join parseUrl i seed).probes.length ≤ 4 := by
  have herase : (st.join parseUrl i seed).probes.length ≤ st.refilled.probes.length :=
    List.length_eraseIdx_le _ _
  rw [refilled_probes room] at herase
  exact Nat.le_trans herase (List.length_take_le 4 st.jobs)

theorem joined_iff {st : LoopState} (room : st.probes.length ≤ 4) {i : Nat} {seed : Seed} :
    st.refilled.probes[i]? = some seed ↔ i < 4 ∧ st.jobs[i]? = some seed := by
  rw [refilled_probes room, List.getElem?_take]
  split
  · case isTrue hi => exact ⟨fun h => ⟨hi, h⟩, And.right⟩
  · case isFalse hi => exact ⟨fun h => (by cases h), fun h => absurd h.1 hi⟩

theorem Joins.found_eq {st st' : LoopState} {order : List Seed} (h : Joins parseUrl st order st') :
    st'.found = order.foldl (Found.absorb parseUrl) st.found := by
  induction h with
  | stop => rfl
  | next _ _ ih => exact ih

theorem Joins.mem_jobs {st st' : LoopState} {order : List Seed}
    (h : Joins parseUrl st order st') (room : st.probes.length ≤ 4) {seed : Seed}
    (hseed : seed ∈ order) : seed ∈ st.jobs := by
  induction h with
  | stop => cases hseed
  | @next st st' order first i joined rest ih =>
    obtain rfl | hlater := List.mem_cons.mp hseed
    · exact List.mem_of_getElem? ((joined_iff room).mp joined).2
    · have hjobs := ih (join_room parseUrl room i first) hlater
      have hsub := (join_jobs parseUrl room joined) ▸ hjobs
      exact List.mem_of_mem_eraseIdx hsub

theorem Joins.served {st st' : LoopState} {order : List Seed} (h : Joins parseUrl st order st')
    (room : st.probes.length ≤ 4) (idle : st'.refilled.probes = []) :
    Served 4 st.jobs order := by
  induction h with
  | stop =>
    rw [jobs_of_idle room idle]
    exact .nil
  | @next st st' order seed i joined rest ih =>
    have hrest := ih (join_room parseUrl room i seed) idle
    obtain ⟨hi, hfound⟩ := (joined_iff room).mp joined
    exact .cons hi hfound ((join_jobs parseUrl room joined) ▸ hrest)

theorem joins_of_served (parseUrl : String → Option ParsedUrl) {jobs order : List Seed}
    (h : Served 4 jobs order) {st : LoopState} (hjobs : st.jobs = jobs)
    (room : st.probes.length ≤ 4) :
    ∃ st', Joins parseUrl st order st' ∧ st'.refilled.probes = [] := by
  induction h generalizing st with
  | nil =>
    refine ⟨st, .stop st, ?_⟩
    rw [refilled_probes room, hjobs]
    rfl
  | @cons jobs order seed i running found rest ih =>
    subst hjobs
    have joined := (joined_iff room).mpr ⟨running, found⟩
    obtain ⟨st', hjoins, idle⟩ := ih (join_jobs parseUrl room joined)
      (join_room parseUrl room i seed)
    exact ⟨st', .next joined hjoins, idle⟩

/-- The ends of a discovery that is in time are those of the orders of its window. -/
theorem discovers_iff {devices : List Seed} (some : devices ≠ [])
    {outcome : Except DiscoveryError (List DiscoveredZone)} :
    DiscoverDevicesUntil parseUrl devices true outcome ↔
      ∃ order, Served 4 devices order ∧
        outcome = Found.finish parseUrl (order.foldl (Found.absorb parseUrl) {}) := by
  constructor
  · intro h
    cases h with
    | noDevices => exact absurd rfl some
    | @allJoined _ order st _ joins idle =>
      refine ⟨order, joins.served (Nat.zero_le 4) idle, ?_⟩
      rw [joins.found_eq]
  · rintro ⟨order, hserved, rfl⟩
    obtain ⟨st, joins, idle⟩ : ∃ st, Joins parseUrl { pending := devices } order st ∧
        st.refilled.probes = [] := joins_of_served parseUrl hserved rfl (Nat.zero_le 4)
    have h := DiscoverDevicesUntil.allJoined some joins idle
    rwa [joins.found_eq] at h

/-! ### What the order leaves open -/

/-- The zones after a probe with this answer. -/
def insertDescribed (zones : AssocMap ZoneId DiscoveredZone) (seed : Seed) :
    AssocMap ZoneId DiscoveredZone :=
  seed.described.elim zones fun zone => zones.insert zone.id zone

theorem absorb_eq (found : Found) (seed : Seed) :
    found.absorb parseUrl seed =
      { zones := insertDescribed found.zones seed
        topology := found.topology.or
          (seed.topology.filter (usable parseUrl (insertDescribed found.zones seed))) } := by
  obtain ⟨zones, topology⟩ := found
  obtain ⟨ip, answer⟩ := seed
  unfold Found.absorb insertDescribed Seed.described Seed.topology
  cases answer with
  | error e => simp
  | ok answer =>
    obtain ⟨description, state⟩ := answer
    cases topology with
    | some members => rfl
    | none =>
      cases state with
      | error e => rfl
      | ok members =>
        dsimp only [Option.elim_some, Option.none_or, Option.filter_some]
        split <;> rfl

theorem lookup_absorb {found : Found} {seed : Seed} (id : ZoneId) :
    (found.absorb parseUrl seed).zones.lookup id =
      ((seed.described.filter (·.id = id)).or (found.zones.lookup id)) := by
  rw [absorb_eq]
  unfold insertDescribed
  cases seed.described with
  | none => rfl
  | some zone =>
    simp only [Option.elim_some, AssocMap.lookup_insert_ite, Option.filter_some,
      decide_eq_true_eq]
    by_cases h : id = zone.id
    · simp [h]
    · simp [h, Ne.symm h]

abbrev absorbAll (parseUrl : String → Option ParsedUrl) (order : List Seed) : Found :=
  order.foldl (Found.absorb parseUrl) {}

theorem lookup_last {order : List Seed} {seed : Seed} {zone : DiscoveredZone}
    (h : seed.described = some zone) :
    (absorbAll parseUrl (order ++ [seed])).zones.lookup zone.id = some zone := by
  rw [absorbAll, List.foldl_concat, lookup_absorb, h]
  simp

theorem described_of_lookup {order : List Seed} {id : ZoneId} {zone : DiscoveredZone}
    (h : (absorbAll parseUrl order).zones.lookup id = some zone) :
    ∃ seed ∈ order, seed.described = some zone ∧ zone.id = id := by
  induction order using List.reverseRecOn with
  | nil => cases h
  | append_singleton order seed ih =>
    rw [absorbAll, List.foldl_concat, lookup_absorb, Option.or_eq_some_iff] at h
    obtain hnew | ⟨-, hold⟩ := h
    · rw [Option.filter_eq_some_iff, decide_eq_true_eq] at hnew
      exact ⟨seed, List.mem_append_right _ List.mem_cons_self, hnew⟩
    · obtain ⟨other, hmem, hother⟩ := ih hold
      exact ⟨other, List.mem_append_left _ hmem, hother⟩

theorem lookup_of_described {order : List Seed} {seed : Seed} {zone : DiscoveredZone}
    (hmem : seed ∈ order) (h : seed.described = some zone) :
    ((absorbAll parseUrl order).zones.lookup zone.id).isSome = true := by
  induction order using List.reverseRecOn with
  | nil => cases hmem
  | append_singleton order other ih =>
    rw [absorbAll, List.foldl_concat, lookup_absorb, Option.isSome_or, Bool.or_eq_true]
    obtain hold | hnew := List.mem_append.mp hmem
    · exact Or.inr (ih hold)
    · rw [List.mem_singleton] at hnew
      subst hnew
      left
      simp [h]

theorem topology_of_absorbed {order : List Seed} {members : List ZoneGroupMember}
    (h : (absorbAll parseUrl order).topology = some members) :
    ∃ seed ∈ order, seed.topology = some members := by
  induction order using List.reverseRecOn with
  | nil => cases h
  | append_singleton order seed ih =>
    rw [absorbAll, List.foldl_concat, absorb_eq, Option.or_eq_some_iff] at h
    obtain hold | ⟨-, hnew⟩ := h
    · obtain ⟨other, hmem, hother⟩ := ih hold
      exact ⟨other, List.mem_append_left _ hmem, hother⟩
    · exact ⟨seed, List.mem_append_right _ List.mem_cons_self, (Option.filter_eq_some_iff.mp hnew).1⟩

/-! ### The same members -/

/-- The entries of one device in a topology. -/
def entries (id : ZoneId) (members : List ZoneGroupMember) : List ZoneGroupMember :=
  members.filter fun member => member.uuid = id.value

/-- The lists may differ in how the entries of different devices are interleaved. -/
def SameMembers (members other : List ZoneGroupMember) : Prop :=
  ∀ id, entries id members = entries id other

theorem mem_entries {id : ZoneId} {members : List ZoneGroupMember} {member : ZoneGroupMember} :
    member ∈ entries id members ↔ member ∈ members ∧ member.uuid = id.value := by
  rw [entries, List.mem_filter, decide_eq_true_eq]

theorem SameMembers.mem_iff {members other : List ZoneGroupMember} (h : SameMembers members other)
    {member : ZoneGroupMember} : member ∈ members ↔ member ∈ other := by
  have hentries : member ∈ entries ⟨member.uuid⟩ members ↔ member ∈ entries ⟨member.uuid⟩ other := by
    rw [h]
  simpa only [mem_entries, and_true] using hentries

theorem SameMembers.any_eq {members other : List ZoneGroupMember} (h : SameMembers members other)
    (p : ZoneGroupMember → Bool) : members.any p = other.any p := by
  rw [Bool.eq_iff_iff, List.any_eq_true, List.any_eq_true]
  constructor
  · rintro ⟨member, hmem, hp⟩
    exact ⟨member, h.mem_iff.mp hmem, hp⟩
  · rintro ⟨member, hmem, hp⟩
    exact ⟨member, h.mem_iff.mpr hmem, hp⟩

/-- All topologies that the seeds bring list these members. -/
def AllList (members : List ZoneGroupMember) (seeds : List Seed) : Prop :=
  ∀ seed ∈ seeds, ∀ other, seed.topology = some other → SameMembers other members

def bringsTopology (seed : Seed) : Bool :=
  seed.topology.isSome

/-- The seed's own zone is one of the members. -/
def listed (members : List ZoneGroupMember) (seed : Seed) : Bool :=
  seed.described.any fun zone => members.any fun member => member.uuid = zone.id.value

/-- Some member has an address of its own. -/
def located (parseUrl : String → Option ParsedUrl) (members : List ZoneGroupMember) : Bool :=
  members.any fun member => (locationIp parseUrl member).isSome

theorem usable_empty (members : List ZoneGroupMember) :
    usable parseUrl ∅ members = located parseUrl members := by
  simp [usable, located]

theorem usable_insertDescribed (zones : AssocMap ZoneId DiscoveredZone)
    (members : List ZoneGroupMember) (seed : Seed) :
    usable parseUrl (insertDescribed zones seed) members =
      (usable parseUrl zones members || listed members seed) := by
  unfold insertDescribed listed
  cases seed.described with
  | none => simp
  | some zone =>
    rw [Bool.eq_iff_iff]
    simp only [usable, Option.elim_some, Option.any_some, Bool.or_eq_true, List.any_eq_true,
      AssocMap.lookup_insert_ite, decide_eq_true_eq]
    constructor
    · rintro ⟨member, hmem, hlookup | hip⟩
      · split at hlookup
        · case isTrue heq => exact Or.inr ⟨member, hmem, congrArg ZoneId.value heq⟩
        · exact Or.inl ⟨member, hmem, Or.inl hlookup⟩
      · exact Or.inl ⟨member, hmem, Or.inr hip⟩
    · rintro (⟨member, hmem, hlookup | hip⟩ | ⟨member, hmem, heq⟩)
      · refine ⟨member, hmem, Or.inl ?_⟩
        split
        · rfl
        · exact hlookup
      · exact ⟨member, hmem, Or.inr hip⟩
      · refine ⟨member, hmem, Or.inl ?_⟩
        rw [if_pos (by rw [heq])]
        rfl

/-- A topology is kept as soon as one is brought at or after the first listed zone. -/
theorem topology_isSome {members : List ZoneGroupMember} {order : List Seed}
    (agree : AllList members order) (found : Found) :
    (order.foldl (Found.absorb parseUrl) found).topology.isSome =
      (found.topology.isSome ||
        meets (listed members) bringsTopology (usable parseUrl found.zones members) order) := by
  induction order generalizing found with
  | nil => simp [meets]
  | cons seed order ih =>
    have hrest : AllList members order := fun s hs => agree s (List.mem_cons_of_mem _ hs)
    have hkept : (seed.topology.filter
        (usable parseUrl (insertDescribed found.zones seed))).isSome =
        ((usable parseUrl found.zones members || listed members seed) &&
          bringsTopology seed) := by
      unfold bringsTopology
      cases htopology : seed.topology with
      | none => simp
      | some other =>
        have hsame : usable parseUrl (insertDescribed found.zones seed) other =
            usable parseUrl (insertDescribed found.zones seed) members :=
          (agree seed List.mem_cons_self other htopology).any_eq _
        simp [Option.filter_some, hsame, usable_insertDescribed]
        split <;> simp_all
    rw [List.foldl_cons, ih hrest, absorb_eq]
    simp only [Option.isSome_or, hkept, usable_insertDescribed, meets, Bool.or_assoc]

/-! ### Applying the topology -/

def mergeMember (parseUrl : String → Option ParsedUrl) (zone : Option DiscoveredZone)
    (member : ZoneGroupMember) : Option DiscoveredZone :=
  (zone.or ((locationIp parseUrl member).map (unknownZone member))).map (updateZone · member)

theorem lookup_applyMember (zones : AssocMap ZoneId DiscoveredZone) (member : ZoneGroupMember)
    (id : ZoneId) :
    (applyMember parseUrl zones member).lookup id =
      if member.uuid = id.value then mergeMember parseUrl (zones.lookup id) member
      else zones.lookup id := by
  have hid : (id = ⟨member.uuid⟩) ↔ member.uuid = id.value := by
    constructor
    · rintro rfl
      rfl
    · intro h
      cases id
      cases h
      rfl
  unfold applyMember insertUnknown mergeMember
  rw [AssocMap.lookup_modify]
  simp only [hid]
  split
  · case isTrue h =>
    obtain rfl := hid.mpr h
    split
    · next ip hnone hip => simp [hnone, hip]
    · next hother =>
      cases hzone : zones.lookup ⟨member.uuid⟩ with
      | some zone => simp
      | none =>
        cases hip : locationIp parseUrl member with
        | none => simp
        | some ip => exact absurd hip (hother ip hzone)
  · case isFalse h =>
    split
    · rw [AssocMap.lookup_insert_ite, if_neg (fun heq => h (hid.mp heq))]
    · rfl

theorem lookup_applyTopology (zones : AssocMap ZoneId DiscoveredZone)
    (members : List ZoneGroupMember) (id : ZoneId) :
    (applyTopology parseUrl zones members).lookup id =
      (entries id members).foldl (mergeMember parseUrl) (zones.lookup id) := by
  induction members generalizing zones with
  | nil => rfl
  | cons member members ih =>
    rw [applyTopology, List.foldl_cons]
    refine (ih _).trans ?_
    rw [lookup_applyMember, entries, entries, List.filter_cons]
    by_cases h : member.uuid = id.value
    · simp [h]
    · simp [h]

end Discovery

end AirSonos
