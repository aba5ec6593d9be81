import AirSonos.Sonos.Assignments

/-!
# When a topology is accepted

A topology is judged against the zones that are known when it arrives, and a rejected one is not
looked at again. So the outcome is the same in every order exactly when every order accepts a
topology or none does, and the descriptions that are left to name a room agree on its admission.
-/

namespace AirSonos

namespace Discovery

variable {parseUrl : String → Option ParsedUrl} {config : ConfigFile}
  {members : List ZoneGroupMember} {seeds order : List Seed}

/-- No topology arrives, or the members have neither an address nor a zone of a seed. -/
def NeverUsable (parseUrl : String → Option ParsedUrl) (members : List ZoneGroupMember)
    (seeds : List Seed) : Prop :=
  (∀ seed ∈ seeds, bringsTopology seed = false) ∨
    located parseUrl members = false ∧ ∀ seed ∈ seeds, listed members seed = false

/-- A window full of listed seeds stands before a seed with a topology. -/
def Crowded (members : List ZoneGroupMember) (seeds : List Seed) : Prop :=
  ∃ front seed back, seeds = front ++ seed :: back ∧ bringsTopology seed = true ∧
    4 ≤ (front.filter (listed members)).length

/-- A topology arrives, and by then it has an address or a zone that is known in every order. -/
def AlwaysUsable (parseUrl : String → Option ParsedUrl) (members : List ZoneGroupMember)
    (seeds : List Seed) : Prop :=
  (∃ seed ∈ seeds, bringsTopology seed = true) ∧
    (located parseUrl members = true ∨
      (∃ seed ∈ seeds, bringsTopology seed = true ∧ listed members seed = true) ∨
      Crowded members seeds)

theorem allList_of_served (agree : AllList members seeds) (h : Served 4 seeds order) :
    AllList members order :=
  fun seed hseed => agree seed (h.mem_iff.mp hseed)

/-- Whether the order accepts a topology. -/
theorem accepted_eq (agree : AllList members seeds) (h : Served 4 seeds order) :
    (absorbAll parseUrl order).topology.isSome =
      meets (listed members) bringsTopology (located parseUrl members) order := by
  rw [absorbAll, topology_isSome (allList_of_served agree h)]
  exact congrArg (fun seen => meets (listed members) bringsTopology seen order)
    (usable_empty members)

theorem NeverUsable.rejects (h : NeverUsable parseUrl members seeds) (agree : AllList members seeds)
    (served : Served 4 seeds order) : (absorbAll parseUrl order).topology = none := by
  rw [← Option.not_isSome_iff_eq_none, accepted_eq agree served, Bool.not_eq_true]
  obtain hnone | ⟨hlocated, hlisted⟩ := h
  · exact meets_eq_false (fun seed hseed => hnone seed (served.mem_iff.mp hseed)) _
  · rw [hlocated, ← List.append_nil order]
    apply meets_apart
    · intro seed hseed
      exact hlisted seed (served.mem_iff.mp hseed)
    · intro seed hseed
      cases hseed

theorem AlwaysUsable.accepts (h : AlwaysUsable parseUrl members seeds)
    (agree : AllList members seeds) (served : Served 4 seeds order) :
    ∃ topology, (absorbAll parseUrl order).topology = some topology ∧
      SameMembers topology members := by
  have haccepted : (absorbAll parseUrl order).topology.isSome = true := by
    rw [accepted_eq agree served]
    obtain ⟨⟨seed, hseed, hbrings⟩, hlocated | ⟨both, hboth, hfirst, hsecond⟩ | hcrowded⟩ := h
    · rw [hlocated, meets_of_seen, List.any_eq_true]
      exact ⟨seed, served.mem_iff.mpr hseed, hbrings⟩
    · exact meets_of_both (served.mem_iff.mpr hboth) hsecond hfirst _
    · cases hlocated : located parseUrl members with
      | true =>
        rw [meets_of_seen, List.any_eq_true]
        exact ⟨seed, served.mem_iff.mpr hseed, hbrings⟩
      | false =>
        obtain ⟨front, late, back, hsplit, hlate, hcrowd⟩ := hcrowded
        exact served.meets_of_crowd hsplit hlate hcrowd
  obtain ⟨topology, htopology⟩ := Option.isSome_iff_exists.mp haccepted
  obtain ⟨seed, hseed, hbrings⟩ := topology_of_absorbed htopology
  exact ⟨topology, htopology, agree seed (served.mem_iff.mp hseed) topology hbrings⟩

theorem finish_of_none {found : Found} (h : found.topology = none) :
    found.finish parseUrl = .error .noTopology := by
  rw [Found.finish, h]

theorem finish_of_some {found : Found} {topology : List ZoneGroupMember}
    (h : found.topology = some topology) :
    found.finish parseUrl =
      .ok (AssocMap.intoValues (applyTopology parseUrl found.zones topology)) := by
  rw [Found.finish, h]

/-! ### The condition is enough -/

theorem same_of_never (h : NeverUsable parseUrl members seeds) (agree : AllList members seeds)
    {order' : List Seed} (served : Served 4 seeds order) (served' : Served 4 seeds order') :
    SameOutcome config (Found.finish parseUrl (absorbAll parseUrl order))
      (Found.finish parseUrl (absorbAll parseUrl order')) := by
  rw [finish_of_none (h.rejects agree served), finish_of_none (h.rejects agree served')]
  rfl

theorem same_of_always (h : AlwaysUsable parseUrl members seeds) (agree : AllList members seeds)
    (named : NamedAlike config.sonos members seeds) {order' : List Seed}
    (served : Served 4 seeds order) (served' : Served 4 seeds order') :
    SameOutcome config (Found.finish parseUrl (absorbAll parseUrl order))
      (Found.finish parseUrl (absorbAll parseUrl order')) := by
  obtain ⟨topology, haccepted, hsame⟩ := h.accepts agree served
  obtain ⟨topology', haccepted', hsame'⟩ := h.accepts agree served'
  rw [finish_of_some haccepted, finish_of_some haccepted']
  apply sameOutcome_of_alike
  apply AssocMap.intoValues_related
  intro id
  exact alike_applied named (fun _ => served.mem_iff) (fun _ => served'.mem_iff) hsame hsame' id

/-! ### The condition is needed -/

/-- The outcomes of any two orders of the window agree. -/
def OrdersAgree (parseUrl : String → Option ParsedUrl) (config : ConfigFile) (seeds : List Seed) :
    Prop :=
  ∀ order order', Served 4 seeds order → Served 4 seeds order' →
    SameOutcome config (Found.finish parseUrl (absorbAll parseUrl order))
      (Found.finish parseUrl (absorbAll parseUrl order'))

theorem OrdersAgree.accepted (h : OrdersAgree parseUrl config seeds) {order' : List Seed}
    (served : Served 4 seeds order) (served' : Served 4 seeds order')
    (haccepted : (absorbAll parseUrl order).topology.isSome = true) :
    (absorbAll parseUrl order').topology.isSome = true := by
  have hsame := h order order' served served'
  obtain ⟨topology, htopology⟩ := Option.isSome_iff_exists.mp haccepted
  cases hother : (absorbAll parseUrl order').topology with
  | some topology' => rfl
  | none =>
    rw [finish_of_some htopology, finish_of_none hother] at hsame
    exact hsame.elim

/-- With a listed seed and a seed with a topology that are never the same, some order accepts. -/
theorem accepting_order (parseUrl : String → Option ParsedUrl) {brings lists : Seed}
    (hbrings : brings ∈ seeds) (hlists : lists ∈ seeds)
    (hsecond : bringsTopology brings = true) (hfirst : listed members lists = true)
    (ne : lists ≠ brings) (agree : AllList members seeds) :
    ∃ order, Served 4 seeds order ∧ (absorbAll parseUrl order).topology.isSome = true := by
  obtain ⟨front, back, rfl⟩ := List.append_of_mem hbrings
  have hserved : Served 4 (front ++ brings :: back) (front ++ back ++ [brings]) :=
    Served.hold_one (by decide) front back brings
  refine ⟨_, hserved, ?_⟩
  rw [accepted_eq agree hserved]
  refine meets_last ?_ hfirst hsecond _
  rw [List.mem_append] at hlists ⊢
  rw [List.mem_cons] at hlists
  obtain hfront | heq | hback := hlists
  · exact Or.inl hfront
  · exact absurd heq ne
  · exact Or.inr hback

/-- The listed seeds before the last topology fit into the window and can be held back. -/
theorem rejecting_order {parseUrl : String → Option ParsedUrl}
    (hbrings : ∃ seed ∈ seeds, bringsTopology seed = true) (hlocated : located parseUrl members = false)
    (hboth : ∀ seed ∈ seeds, bringsTopology seed = true → listed members seed = false)
    (hcrowded : ¬ Crowded members seeds) (agree : AllList members seeds) :
    ∃ order, Served 4 seeds order ∧ (absorbAll parseUrl order).topology.isSome = false := by
  obtain ⟨front, last, back, rfl, hlast, hback⟩ := exists_last hbrings
  have hunlisted : listed members last = false :=
    hboth last (List.mem_append_right _ List.mem_cons_self) hlast
  have hroom : (front.filter (listed members)).length < 4 := by
    by_contra hfull
    exact hcrowded ⟨front, last, back, rfl, hlast, Nat.le_of_not_lt hfull⟩
  have hheld : (front ++ [last]).filter (listed members) = front.filter (listed members) := by
    rw [List.filter_append, List.filter_singleton, hunlisted]
    simp
  have hserved := @Served.hold _ 4 (listed members) [] (front ++ [last]) back
    (by rw [hheld]; simpa using hroom)
  rw [List.nil_append, List.append_assoc, List.singleton_append] at hserved
  refine ⟨_, hserved, ?_⟩
  rw [accepted_eq agree hserved, hlocated]
  apply meets_apart
  · intro seed hseed
    simpa using (List.mem_filter.mp hseed).2
  · intro seed hseed
    rw [List.nil_append, hheld, List.mem_append] at hseed
    obtain hfront | hrest := hseed
    · obtain ⟨hmem, hlisted⟩ := List.mem_filter.mp hfront
      cases hsecond : bringsTopology seed with
      | false => rfl
      | true =>
        have hnot := hboth seed (List.mem_append_left _ hmem) hsecond
        rw [hlisted] at hnot
        cases hnot
    · exact hback seed hrest

theorem OrdersAgree.usable (h : OrdersAgree parseUrl config seeds) (agree : AllList members seeds) :
    NeverUsable parseUrl members seeds ∨ AlwaysUsable parseUrl members seeds := by
  by_cases hbrings : ∃ seed ∈ seeds, bringsTopology seed = true
  swap
  · left
    left
    push Not at hbrings
    intro seed hseed
    exact Bool.eq_false_iff.mpr (hbrings seed hseed)
  cases hlocated : located parseUrl members with
  | true => exact Or.inr ⟨hbrings, Or.inl hlocated⟩
  | false =>
    by_cases hlists : ∃ seed ∈ seeds, listed members seed = true
    swap
    · left
      right
      push Not at hlists
      exact ⟨hlocated, fun seed hseed => Bool.eq_false_iff.mpr (hlists seed hseed)⟩
    right
    refine ⟨hbrings, ?_⟩
    by_contra hnever
    push Not at hnever
    obtain ⟨-, hboth, hcrowded⟩ := hnever
    obtain ⟨brings, hmem, hsecond⟩ := hbrings
    obtain ⟨lists, hmem', hfirst⟩ := hlists
    have hne : lists ≠ brings := by
      rintro rfl
      exact hboth lists hmem' hsecond hfirst
    obtain ⟨accepting, hserved, haccepts⟩ :=
      accepting_order parseUrl hmem hmem' hsecond hfirst hne agree
    obtain ⟨rejecting, hserved', hrejects⟩ := rejecting_order ⟨brings, hmem, hsecond⟩ hlocated
      (fun seed hseed h => Bool.eq_false_iff.mpr (hboth seed hseed h)) hcrowded agree
    have hother := h.accepted hserved hserved' haccepts
    rw [hrejects] at hother
    cases hother

/-- The description that is joined last decides on the admission of an unnamed room. -/
theorem kept_last (always : AlwaysUsable parseUrl members seeds) (agree : AllList members seeds)
    {seed : Seed} (hseed : seed ∈ seeds) {zone : DiscoveredZone}
    (hdescribed : seed.described = some zone) (shown : ShownUnnamed members zone.id)
    (sonos : SonosConfig) :
    ∃ order zones, Served 4 seeds order ∧
      Found.finish parseUrl (absorbAll parseUrl order) = .ok zones ∧
      (zone.id ∈ keptIds sonos zones ↔ admitsRoom sonos zone.roomName = true) := by
  obtain ⟨front, back, rfl⟩ := List.append_of_mem hseed
  have hserved : Served 4 (front ++ seed :: back) (front ++ back ++ [seed]) :=
    Served.hold_one (by decide) front back seed
  obtain ⟨topology, haccepted, hsame⟩ := always.accepts agree hserved
  refine ⟨_, _, hserved, finish_of_some haccepted, ?_⟩
  have hlookup : (applyTopology parseUrl (absorbAll parseUrl (front ++ back ++ [seed])).zones
      topology).lookup zone.id = some ((entries zone.id members).foldl updateZone zone) := by
    rw [lookup_applyTopology, lookup_last hdescribed, foldl_mergeMember, hsame]
  obtain ⟨hvisible, hunnamed⟩ := shown
  rw [mem_keptIds hlookup, foldl_update_unnamed hunnamed]
  rw [foldl_update_visible]
  cases hlast : (entries zone.id members).getLast? with
  | none =>
    rw [hlast] at hvisible
    cases hvisible
  | some member =>
    rw [hlast] at hvisible
    exact hvisible

theorem OrdersAgree.namedAlike (h : OrdersAgree parseUrl config seeds)
    (always : AlwaysUsable parseUrl members seeds) (agree : AllList members seeds) :
    NamedAlike config.sonos members seeds := by
  intro seed hseed seed' hseed' zone zone' hzone hzone' hid shown
  obtain ⟨order, zones, hserved, hfinish, hkept⟩ :=
    kept_last always agree hseed hzone shown config.sonos
  obtain ⟨order', zones', hserved', hfinish', hkept'⟩ :=
    kept_last always agree hseed' hzone' (hid ▸ shown) config.sonos
  have hsame := h order order' hserved hserved'
  rw [hfinish, hfinish'] at hsame
  rw [Bool.eq_iff_iff, ← hkept, ← hkept', keptIds_of_rtspPorts hsame.2, hid]

/-- The same outcome and ports in every order, exactly under the condition. -/
theorem orderIrrelevant_iff (parseUrl : String → Option ParsedUrl) (config : ConfigFile)
    (members : List ZoneGroupMember) (seeds : List Seed) (agree : AllList members seeds) :
    OrderIrrelevant parseUrl config members seeds ↔
      NeverUsable parseUrl members seeds ∨
        AlwaysUsable parseUrl members seeds ∧ NamedAlike config.sonos members seeds := by
  by_cases hseeds : seeds = []
  · subst hseeds
    constructor
    · intro _
      left
      left
      intro seed hseed
      cases hseed
    · intro _
      refine ⟨?_, fun inTime zones h zone kept => rooms_listed agree h kept⟩
      rintro outcome outcome' (_ | ⟨hne, _, _⟩) (_ | ⟨hne', _, _⟩)
      · exact ⟨rfl, rfl⟩
      · exact absurd rfl hne'
      · exact absurd rfl hne
      · exact absurd rfl hne
  constructor
  · intro h
    have hagree : OrdersAgree parseUrl config seeds := by
      intro order order' hserved hserved'
      exact h.same _ _ ((discovers_iff hseeds).mpr ⟨order, hserved, rfl⟩)
        ((discovers_iff hseeds).mpr ⟨order', hserved', rfl⟩)
    obtain hnever | halways := hagree.usable agree
    · exact Or.inl hnever
    · exact Or.inr ⟨halways, hagree.namedAlike halways agree⟩
  · intro h
    refine ⟨?_, fun inTime zones h zone kept => rooms_listed agree h kept⟩
    intro outcome outcome' hrun hrun'
    obtain ⟨order, hserved, rfl⟩ := (discovers_iff hseeds).mp hrun
    obtain ⟨order', hserved', rfl⟩ := (discovers_iff hseeds).mp hrun'
    obtain hnever | ⟨halways, hnamed⟩ := h
    · exact same_of_never hnever agree hserved hserved'
    · exact same_of_always halways agree hnamed hserved hserved'

/-! ### Two seeds -/

def kitchenSeed : Seed where
  ip := .v4 1
  answer := .ok
    ({ roomName := "Kitchen", modelName := "One", udn := "uuid:a" },
      .ok [{ uuid := "b", zoneName := "Office", location := none, isVisibleRoom := true,
             isGroupCoordinator := true }])

def officeSeed : Seed where
  ip := .v4 2
  answer := .ok ({ roomName := "Office", modelName := "One", udn := "uuid:b" }, .error .soap)

/-- The only topology lists the other seed: it is usable only if it arrives second. -/
theorem order_decides :
    ∃ members, AllList members [kitchenSeed, officeSeed] ∧
      DiscoverDevicesUntil (fun _ => none) [kitchenSeed, officeSeed] true (.error .noTopology) ∧
      (∃ zones, DiscoverDevicesUntil (fun _ => none) [kitchenSeed, officeSeed] true (.ok zones)) ∧
      ¬ OrderIrrelevant (fun _ => none) {} members [kitchenSeed, officeSeed] := by
  have hne : [kitchenSeed, officeSeed] ≠ [] := List.cons_ne_nil _ _
  have hlate : Served 4 [kitchenSeed, officeSeed] [officeSeed, kitchenSeed] :=
    @Served.hold_one _ 4 (by decide) [] [officeSeed] kitchenSeed
  have hnone : DiscoverDevicesUntil (fun _ => none) [kitchenSeed, officeSeed] true
      (.error .noTopology) :=
    (discovers_iff hne).mpr ⟨_, Served.in_turn (by decide) _, rfl⟩
  have hsome : DiscoverDevicesUntil (fun _ => none) [kitchenSeed, officeSeed] true
      (.ok (AssocMap.intoValues (applyTopology (fun _ => none)
        (absorbAll (fun _ => none) [officeSeed, kitchenSeed]).zones
        (kitchenSeed.topology.getD [])))) :=
    (discovers_iff hne).mpr ⟨_, hlate, rfl⟩
  refine ⟨kitchenSeed.topology.getD [], ?_, hnone, ⟨_, hsome⟩, ?_⟩
  · intro seed hseed other hother id
    obtain rfl | rfl : seed = kitchenSeed ∨ seed = officeSeed := by simpa using hseed
    · cases hother
      rfl
    · cases hother
  · intro h
    exact h.same _ _ hnone hsome

def ownRoom : ZoneGroupMember where
  uuid := "a"
  zoneName := "Kitchen"
  location := none
  isVisibleRoom := true
  isGroupCoordinator := true

/-- Its topology lists its own zone. -/
def ownSeed : Seed where
  ip := .v4 1
  answer := .ok ({ roomName := "Kitchen", modelName := "One", udn := "uuid:a" }, .ok [ownRoom])

theorem orderIrrelevant_own :
    OrderIrrelevant (fun _ => none) {} [ownRoom] [ownSeed, officeSeed] := by
  have agree : AllList [ownRoom] [ownSeed, officeSeed] := by
    intro seed hseed other hother id
    obtain rfl | rfl : seed = ownSeed ∨ seed = officeSeed := by simpa using hseed
    · cases hother
      rfl
    · cases hother
  refine (orderIrrelevant_iff (fun _ => none) {} [ownRoom] [ownSeed, officeSeed] agree).mpr ?_
  have hown : bringsTopology ownSeed = true ∧ listed [ownRoom] ownSeed = true := ⟨rfl, rfl⟩
  refine Or.inr ⟨⟨⟨ownSeed, List.mem_cons_self, hown.1⟩,
    Or.inr (Or.inl ⟨ownSeed, List.mem_cons_self, hown⟩)⟩, ?_⟩
  intro _ _ _ _ zone _ _ _ _ shown
  -- the only entry there is has a name of its own
  by_cases hid : "a" = zone.id.value
  · have hentry : ownRoom ∈ entries zone.id [ownRoom] := mem_entries.mpr ⟨List.mem_cons_self, hid⟩
    exact absurd (shown.2 ownRoom hentry) (by decide)
  · have hnone : entries zone.id [ownRoom] = [] := by simp [entries, ownRoom, hid]
    have hvisible := shown.1
    rw [hnone] at hvisible
    cases hvisible

end Discovery

end AirSonos
