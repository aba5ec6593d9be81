import AirSonos.Bridge.Releases

/-!
# What a release plans

The rooms of a release that play their own streams are delayed to the largest offset among
them. A member of a native group has the delay of its coordinator, and all members of one
sender have one coordinator.
-/

namespace AirSonos

open BridgeRuntime

variable {env : Env} {guard : BridgeRuntime → BridgeLabel → Prop}

/-! ### Delays -/

def PreparedDownstream.room (stream : PreparedDownstream) : ZoneId × String :=
  (stream.zoneId, stream.renderer.name)

/-- The offset of the zone id, else of the room name, else the default. -/
def Env.offset (env : Env) (room : ZoneId × String) : Int :=
  zoneOffset env.config.sync.zoneOffsetsMs env.config.sync.defaultOffsetMs room

/-- The largest offset of the rooms that play their own streams. -/
def Release.slowest (env : Env) (release : Release) : Option Int :=
  ((ownRooms release.prepared release.roles).map env.offset).max?

section Delays

variable {st : BridgeRuntime} {prepared : List PreparedDownstream}
  {members : AssocMap SessionId NativeMember} {stream : PreparedDownstream}

/-- The delay that is planned for a WAV stream. -/
def BridgeRuntime.roomDelay (st : BridgeRuntime) (env : Env) (prepared : List PreparedDownstream)
    (members : AssocMap SessionId NativeMember) (stream : PreparedDownstream) : Duration :=
  let delays := configuredDelays (ownRooms prepared members) env.config.sync.zoneOffsetsMs
    env.config.sync.defaultOffsetMs
  (match members.lookup stream.sessionId with
    | some member => (st.session member.coordinator).map fun (session : SessionRuntime) =>
      (cohortDelay delays session.zoneId).getD session.syncDelay
    | none => cohortDelay delays stream.zoneId).getD 0

theorem syncDelays_eq (st : BridgeRuntime) (prepared : List PreparedDownstream)
    (members : AssocMap SessionId NativeMember) :
    st.syncDelays env prepared members =
      AssocMap.collect ((prepared.filter fun stream =>
        stream.liveStream.session.codec = .wav).map fun stream =>
          (stream.sessionId, st.roomDelay env prepared members stream)) := by
  unfold syncDelays AssocMap.collect
  rw [List.foldl_map, List.foldl_filter]
  simp only [decide_eq_true_eq]
  rfl

theorem lookup_syncDelays (once : (prepared.map PreparedDownstream.sessionId).Nodup)
    (mem : stream ∈ prepared) (wav : stream.liveStream.session.codec = .wav) :
    (st.syncDelays env prepared members).lookup stream.sessionId =
      some (st.roomDelay env prepared members stream) := by
  rw [syncDelays_eq, AssocMap.lookup_collect]
  · apply List.mem_map.mpr
    exact ⟨stream, List.mem_filter.mpr ⟨mem, decide_eq_true wav⟩, rfl⟩
  · rw [List.map_map]
    exact once.sublist (List.filter_sublist.map _)

theorem mem_ownRooms (mem : stream ∈ prepared) (own : members.lookup stream.sessionId = none) :
    stream.room ∈ ownRooms prepared members := by
  apply List.mem_map.mpr
  refine ⟨stream, List.mem_filter.mpr ⟨mem, ?_⟩, rfl⟩
  simp [own]

theorem exists_of_mem_ownRooms {zoneId : ZoneId}
    (mem : zoneId ∈ (ownRooms prepared members).map Prod.fst) :
    ∃ stream ∈ prepared, members.lookup stream.sessionId = none ∧ stream.zoneId = zoneId := by
  obtain ⟨room, hroom, rfl⟩ := List.mem_map.mp mem
  obtain ⟨stream, hstream, rfl⟩ := List.mem_map.mp hroom
  obtain ⟨hmem, hown⟩ := List.mem_filter.mp hstream
  exact ⟨stream, hmem, Option.isNone_iff_eq_none.mp hown, rfl⟩

theorem cohortDelay_of_mem {zones : List (ZoneId × String)} {explicit : AssocMap String Int}
    {defaultOffsetMs : Int} {delay : ZoneDelay}
    (h : delay ∈ configuredDelays zones explicit defaultOffsetMs) :
    cohortDelay (configuredDelays zones explicit defaultOffsetMs) delay.zoneId =
      some (Duration.fromMillis delay.delayMs) := by
  unfold cohortDelay
  cases hfind : (configuredDelays zones explicit defaultOffsetMs).find? fun other =>
      decide (other.zoneId = delay.zoneId) with
  | none =>
    have hnone := List.find?_eq_none.mp hfind delay h
    simp at hnone
  | some other =>
    have hzone : other.zoneId = delay.zoneId := by simpa using List.find?_some hfind
    rw [delaysFromOffsets_unique h (List.mem_of_find?_eq_some hfind) hzone]
    rfl

theorem cohortDelay_eq_none {zones : List (ZoneId × String)} {explicit : AssocMap String Int}
    {defaultOffsetMs : Int} {zoneId : ZoneId} (once : (zones.map Prod.fst).Nodup)
    (absent : zoneId ∉ zones.map Prod.fst) :
    cohortDelay (configuredDelays zones explicit defaultOffsetMs) zoneId = none := by
  unfold cohortDelay
  rw [Option.map_eq_none_iff, List.find?_eq_none]
  intro delay hdelay hzone
  apply absent
  rw [← decide_eq_true_iff.mp hzone]
  exact zone_of_mem_configuredDelays hdelay once

/-- The delay of a room that plays its own stream brings it to the slowest room. -/
theorem cohortDelay_own (env : Env)
    (zones : ((ownRooms prepared members).map Prod.fst).Nodup)
    (mem : stream ∈ prepared) (own : members.lookup stream.sessionId = none) :
    ∃ delayMs : Nat, cohortDelay (configuredDelays (ownRooms prepared members)
        env.config.sync.zoneOffsetsMs env.config.sync.defaultOffsetMs) stream.zoneId =
          some (Duration.fromMillis delayMs) ∧
      ((ownRooms prepared members).map env.offset).max? =
        some (delayMs + env.offset stream.room) := by
  obtain ⟨delay, hdelay, hzone, hmax⟩ :=
    configuredDelays_align env.config.sync zones (mem_ownRooms mem own)
  have hroom : delay.zoneId = stream.zoneId := hzone
  refine ⟨delay.delayMs, ?_, hmax⟩
  rw [← hroom]
  exact cohortDelay_of_mem hdelay

end Delays

/-! ### Roles -/

def BridgeRuntime.senderOf (st : BridgeRuntime) (id : SessionId) : Option IpAddr :=
  (st.session id).bind SessionRuntime.sender

/-- The groups by sender: each sender once, with sessions of this sender. -/
structure Grouped (st : BridgeRuntime) (groups : List (IpAddr × List SessionId)) : Prop where
  once : (groups.map Prod.fst).Nodup
  sender : ∀ group ∈ groups, ∀ id ∈ group.2, st.senderOf id = some group.1

section Roles

variable {st : BridgeRuntime}

theorem fst_pushSender {sender other : IpAddr} {id : SessionId}
    {groups : List (IpAddr × List SessionId)}
    (mem : other ∈ (pushSender sender id groups).map Prod.fst) :
    other = sender ∨ other ∈ groups.map Prod.fst := by
  induction groups with
  | nil =>
    left
    simpa [pushSender] using mem
  | cons group rest ih =>
    obtain ⟨first, ids⟩ := group
    simp only [pushSender] at mem
    split at mem
    · exact .inr mem
    · simp only [List.map_cons, List.mem_cons] at mem ⊢
      rcases mem with rfl | mem
      · exact .inr (.inl rfl)
      · exact (ih mem).imp_right .inr

theorem Grouped.pushSender {groups : List (IpAddr × List SessionId)} (h : Grouped st groups)
    {sender : IpAddr} {id : SessionId} (from_sender : st.senderOf id = some sender) :
    Grouped st (pushSender sender id groups) := by
  induction groups with
  | nil =>
    constructor
    · simp [BridgeRuntime.pushSender]
    · intro group hgroup other hother
      cases List.mem_singleton.mp hgroup
      cases List.mem_singleton.mp hother
      exact from_sender
  | cons group rest ih =>
    obtain ⟨first, ids⟩ := group
    have hrest : Grouped st rest :=
      ⟨(List.nodup_cons.mp h.once).2,
        fun group hmem => h.sender group (List.mem_cons_of_mem _ hmem)⟩
    have hfirst := h.sender _ List.mem_cons_self
    simp only [BridgeRuntime.pushSender]
    split
    · next heq =>
      subst heq
      refine ⟨h.once, ?_⟩
      intro group hgroup other hother
      rcases List.mem_cons.mp hgroup with rfl | hgroup
      · rcases List.mem_append.mp hother with hother | hother
        · exact hfirst other hother
        · cases List.mem_singleton.mp hother
          exact from_sender
      · exact hrest.sender group hgroup other hother
    · next hne =>
      constructor
      · rw [List.map_cons, List.nodup_cons]
        refine ⟨?_, (ih hrest).once⟩
        intro hmem
        rcases fst_pushSender hmem with heq | hmem
        · exact hne heq
        · exact (List.nodup_cons.mp h.once).1 hmem
      · intro group hgroup other hother
        rcases List.mem_cons.mp hgroup with rfl | hgroup
        · exact hfirst other hother
        · exact (ih hrest).sender group hgroup other hother

theorem Grouped.bySender (st : BridgeRuntime) (prepared : List PreparedDownstream) :
    Grouped st (st.bySender prepared) := by
  have hfold (groups : List (IpAddr × List SessionId)) (h : Grouped st groups) :
      Grouped st (prepared.foldl st.addToSender groups) := by
    induction prepared generalizing groups with
    | nil => exact h
    | cons stream rest ih =>
      apply ih
      unfold addToSender
      split
      · cases hsender : (st.session stream.sessionId).bind (·.sender) with
        | none => exact h
        | some sender => exact h.pushSender hsender
      · exact h
  exact hfold [] ⟨List.nodup_nil, fun _ hmem => absurd hmem List.not_mem_nil⟩

theorem senderOf_playingSonosSession {groups : NativeGroups} {walk : Nat} {sender : IpAddr}
    {coordinator : SessionId}
    (h : st.playingSonosSession env groups walk sender = some coordinator) :
    st.senderOf coordinator = some sender := by
  have hcan : st.canCoordinate env groups sender coordinator = true := by
    unfold playingSonosSession at h
    rcases Option.or_eq_some_iff.mp h with hfind | ⟨-, hhead⟩
    · exact (List.mem_filter.mp (List.mem_of_find?_eq_some hfind)).2
    · exact (List.mem_filter.mp (List.mem_of_mem_head? hhead)).2
  unfold canCoordinate at hcan
  obtain ⟨session, hlive, hsession⟩ := (Option.any_eq_true _ _).mp hcan
  simp only [Bool.and_eq_true, beq_iff_eq] at hsession
  simp [senderOf, hlive, hsession.1.1.1.1]

/-- The roles that are planned for the senders in `senders`: a member has the sender of its
coordinator, and one sender has one coordinator. -/
structure Assigned (st : BridgeRuntime) (senders : List IpAddr)
    (roles : AssocMap SessionId NativeMember) : Prop where
  sender : ∀ id role, roles.lookup id = some role → ∃ sender ∈ senders,
    st.senderOf id = some sender ∧ st.senderOf role.coordinator = some sender
  agree : ∀ id other role role', roles.lookup id = some role → roles.lookup other = some role' →
    st.senderOf id = st.senderOf other → role.coordinator = role'.coordinator

theorem lookup_foldl_role {members : List SessionId} {role found : NativeMember}
    {roles : AssocMap SessionId NativeMember} {id : SessionId}
    (h : (members.foldl (fun roles member => roles.insert member role) roles).lookup id =
      some found) : id ∈ members ∧ found = role ∨ roles.lookup id = some found := by
  induction members generalizing roles with
  | nil => exact .inr h
  | cons member rest ih =>
    rcases ih h with ⟨hmem, heq⟩ | hold
    · exact .inl ⟨List.mem_cons_of_mem _ hmem, heq⟩
    · rw [AssocMap.lookup_insert_ite] at hold
      split at hold
      · next heq =>
        subst heq
        cases hold
        exact .inl ⟨List.mem_cons_self, rfl⟩
      · exact .inr hold

theorem Assigned.weaken {senders senders' : List IpAddr} {roles : AssocMap SessionId NativeMember}
    (h : Assigned st senders roles) (subset : senders ⊆ senders') : Assigned st senders' roles := by
  refine ⟨?_, h.agree⟩
  intro id role hrole
  obtain ⟨sender, hmem, hsender⟩ := h.sender id role hrole
  exact ⟨sender, subset hmem, hsender⟩

theorem Assigned.join {senders : List IpAddr} {plan : GroupPlan}
    (h : Assigned st senders plan.roles) {sender : IpAddr} (new : sender ∉ senders)
    {coordinator : SessionId} (chosen : st.senderOf coordinator = some sender)
    {members : List SessionId} (own : ∀ id ∈ members, st.senderOf id = some sender)
    (rinconId : String) :
    Assigned st (sender :: senders) (plan.join coordinator rinconId members).roles := by
  have hcases {id : SessionId} {role : NativeMember}
      (hrole : (plan.join coordinator rinconId members).roles.lookup id = some role) :=
    lookup_foldl_role hrole
  -- a role from before belongs to another sender
  have hother {id : SessionId} {role : NativeMember} (hrole : plan.roles.lookup id = some role) :
      st.senderOf id ≠ some sender := by
    intro heq
    obtain ⟨found, hmem, hfound, -⟩ := h.sender id role hrole
    rw [heq] at hfound
    cases hfound
    exact new hmem
  constructor
  · intro id role hrole
    rcases hcases hrole with ⟨hmem, rfl⟩ | hold
    · exact ⟨sender, List.mem_cons_self, own id hmem, chosen⟩
    · obtain ⟨found, hmem, hfound⟩ := h.sender id role hold
      exact ⟨found, List.mem_cons_of_mem _ hmem, hfound⟩
  · intro id other role role' hrole hrole' hsame
    rcases hcases hrole with ⟨hmem, rfl⟩ | hold
    · rcases hcases hrole' with ⟨-, rfl⟩ | hold'
      · rfl
      · exact absurd (hsame.symm.trans (own id hmem)) (hother hold')
    · rcases hcases hrole' with ⟨hmem', rfl⟩ | hold'
      · exact absurd (hsame.trans (own other hmem')) (hother hold)
      · exact h.agree id other role role' hold hold' hsame

theorem Assigned.planGroup {senders : List IpAddr} {plan : GroupPlan}
    (h : Assigned st senders plan.roles) {group : IpAddr × List SessionId}
    (new : group.1 ∉ senders) (own : ∀ id ∈ group.2, st.senderOf id = some group.1) :
    Assigned st (group.1 :: senders) (st.planGroup env plan group).roles := by
  have hwalked : Assigned st (group.1 :: senders) plan.walked.roles :=
    h.weaken (List.subset_cons_self _ _)
  unfold BridgeRuntime.planGroup
  split
  · exact hwalked
  · next coordinator members hchosen =>
    have hnames : st.senderOf coordinator = some group.1 ∧ members ⊆ group.2 := by
      unfold chooseCoordinator at hchosen
      split at hchosen
      · next hplaying =>
        cases hchosen
        exact ⟨senderOf_playingSonosSession hplaying, List.Subset.refl _⟩
      · next hids =>
        cases hchosen
        rw [hids] at own ⊢
        exact ⟨own _ List.mem_cons_self, List.subset_cons_self _ _⟩
      · cases hchosen
    split
    · have hsame : Assigned st senders plan.walked.roles := h
      exact hsame.join new hnames.1 (fun id hmem => own id (hnames.2 hmem)) _
    · exact hwalked

theorem Assigned.planNativeGroups (env : Env) (st : BridgeRuntime)
    (prepared : List PreparedDownstream) :
    ∃ senders, Assigned st senders (st.planNativeGroups env prepared).roles := by
  have hempty : Assigned st [] ∅ := by
    constructor
    · intro id role hrole
      cases hrole
    · intro id other role role' hrole
      cases hrole
  have hfold (groups : List (IpAddr × List SessionId)) (hgroups : Grouped st groups)
      (senders : List IpAddr) (disjoint : ∀ group ∈ groups, group.1 ∉ senders) (plan : GroupPlan)
      (h : Assigned st senders plan.roles) :
      ∃ senders, Assigned st senders (groups.foldl (st.planGroup env) plan).roles := by
    induction groups generalizing senders plan with
    | nil => exact ⟨senders, h⟩
    | cons group rest ih =>
      obtain ⟨hfirst, hrest⟩ := List.nodup_cons.mp hgroups.once
      refine ih ⟨hrest, fun other hmem => hgroups.sender other (List.mem_cons_of_mem _ hmem)⟩
        (group.1 :: senders) ?_ _
        (h.planGroup (disjoint group List.mem_cons_self)
          (hgroups.sender group List.mem_cons_self))
      intro other hmem
      rw [List.mem_cons, not_or]
      refine ⟨?_, disjoint other (List.mem_cons_of_mem _ hmem)⟩
      intro heq
      apply hfirst
      rw [← heq]
      exact List.mem_map_of_mem hmem
  unfold BridgeRuntime.planNativeGroups
  split
  · exact hfold _ (.bySender st prepared) [] (fun _ _ => List.not_mem_nil) _ hempty
  · exact ⟨[], hempty⟩

end Roles

/-! ### A release that opens -/

/-- What a release plans, seen in the state in which its streams are to be started. -/
structure Release.Opened (env : Env) (st : BridgeRuntime) (release : Release) : Prop where
  once : (release.prepared.map PreparedDownstream.sessionId).Nodup
  generation : ∀ id, release.generation id = st.generationOf id
  current : ∀ stream ∈ release.prepared,
    st.generationOf stream.sessionId = some stream.generation
  own : ∀ stream ∈ release.prepared, release.roles.lookup stream.sessionId = none →
    ∃ delayMs : Nat,
      release.delays.lookup stream.sessionId = some (Duration.fromMillis delayMs) ∧
        release.slowest env = some (delayMs + env.offset stream.room)
  member : ∀ stream ∈ release.prepared, ∀ role,
    release.roles.lookup stream.sessionId = some role → ∃ session delay,
      st.session role.coordinator = some session ∧
        release.delays.lookup stream.sessionId = some delay ∧
        (∀ other ∈ release.prepared, other.sessionId = role.coordinator →
          release.delays.lookup other.sessionId = some delay) ∧
        ((∀ other ∈ release.prepared, other.sessionId ≠ role.coordinator) →
          delay = session.syncDelay)

/-- What is handed to a release: one stream of a session, of the generation it has. -/
structure Releasable (env : Env) (st : BridgeRuntime) (prepared : List PreparedDownstream) :
    Prop where
  once : (prepared.map PreparedDownstream.sessionId).Nodup
  current : ∀ stream ∈ prepared, st.generationOf stream.sessionId = some stream.generation
  genuine : ∀ stream ∈ prepared, stream.Genuine env st.streams

namespace Releasable

variable {stack : List Frame} {st : BridgeRuntime} {prepared : List PreparedDownstream}
  {members : AssocMap SessionId NativeMember} {stream : PreparedDownstream}

/-- A zone has one session. -/
theorem owner (h : Releasable env st prepared) (coherent : Coherent env stack st)
    (sound : Sound env stack st) (mem : stream ∈ prepared) {id : SessionId}
    {session : SessionRuntime} (live : st.session id = some session)
    (same : stream.zoneId = session.zoneId) : stream.sessionId = id := by
  obtain ⟨own, hown, -⟩ := Option.map_eq_some_iff.mp (h.current stream mem)
  apply coherent.unique _ _ own session hown live
  rw [sound.zone _ own hown, ← (h.genuine stream mem).zone, same]

theorem zones (h : Releasable env st prepared)
    (members : AssocMap SessionId NativeMember) (coherent : Coherent env stack st)
    (sound : Sound env stack st) : ((ownRooms prepared members).map Prod.fst).Nodup := by
  have hown : (prepared.filter fun stream =>
      (members.lookup stream.sessionId).isNone).Nodup := h.once.of_map.filter _
  simp only [ownRooms, List.map_map]
  apply List.Nodup.map_on _ hown
  intro stream hstream other hother heq
  have hmem := (List.mem_filter.mp hstream).1
  have hmem' := (List.mem_filter.mp hother).1
  obtain ⟨session, live, -⟩ := Option.map_eq_some_iff.mp (h.current other hmem')
  have hzone : stream.zoneId = session.zoneId := by
    rw [sound.zone _ session live, ← (h.genuine other hmem').zone]
    exact heq
  exact List.inj_on_of_nodup_map h.once hmem hmem' (h.owner coherent sound hmem live hzone)

/-- The delay of a member is that of its coordinator. -/
theorem roomDelay_member {role : NativeMember}
    (roles : members.lookup stream.sessionId = some role) {session : SessionRuntime}
    (live : st.session role.coordinator = some session) :
    st.roomDelay env prepared members stream =
      (cohortDelay (configuredDelays (ownRooms prepared members) env.config.sync.zoneOffsetsMs
        env.config.sync.defaultOffsetMs) session.zoneId).getD session.syncDelay := by
  simp [BridgeRuntime.roomDelay, roles, live]

/-- The delay of a room that plays its own stream. -/
theorem roomDelay_own (own : members.lookup stream.sessionId = none) :
    st.roomDelay env prepared members stream =
      (cohortDelay (configuredDelays (ownRooms prepared members) env.config.sync.zoneOffsetsMs
        env.config.sync.defaultOffsetMs) stream.zoneId).getD 0 := by
  simp [BridgeRuntime.roomDelay, own]

theorem opened (h : Releasable env st prepared) (coherent : Coherent env stack st)
    (sound : Sound env stack st)
    (wav : ∀ stream ∈ prepared, stream.liveStream.session.codec = .wav) :
    (st.planRelease env prepared).Opened env st := by
  obtain ⟨senders, assigned⟩ := Assigned.planNativeGroups env st prepared
  have hzones := h.zones (st.planNativeGroups env prepared).roles coherent sound
  have hdelay {stream : PreparedDownstream} (mem : stream ∈ prepared) :
      (st.planRelease env prepared).delays.lookup stream.sessionId =
        some (st.roomDelay env prepared (st.planNativeGroups env prepared).roles stream) :=
    lookup_syncDelays h.once mem (wav stream mem)
  refine ⟨h.once, fun _ => rfl, h.current, ?_, ?_⟩
  · intro stream mem (own : (st.planNativeGroups env prepared).roles.lookup _ = none)
    obtain ⟨delayMs, hcohort, hmax⟩ := cohortDelay_own env hzones mem own
    refine ⟨delayMs, ?_, hmax⟩
    rw [hdelay mem, roomDelay_own own, hcohort]
    rfl
  · intro stream mem role (hrole : (st.planNativeGroups env prepared).roles.lookup _ = some role)
    obtain ⟨sender, -, hsender, hchosen⟩ := assigned.sender _ role hrole
    obtain ⟨session, live, -⟩ := Option.bind_eq_some_iff.mp hchosen
    refine ⟨session, st.roomDelay env prepared (st.planNativeGroups env prepared).roles stream,
      live, hdelay mem, ?_, ?_⟩
    · intro other mem' hcoordinator
      rw [hdelay mem', roomDelay_member hrole live]
      cases hrole' : (st.planNativeGroups env prepared).roles.lookup other.sessionId with
      | none =>
        -- the coordinator plays its own stream
        obtain ⟨delayMs, hcohort, -⟩ := cohortDelay_own env hzones mem' hrole'
        have hzone : other.zoneId = session.zoneId := by
          rw [(h.genuine other mem').zone, hcoordinator, sound.zone _ session live]
        rw [roomDelay_own hrole', ← hzone, hcohort]
        rfl
      | some role' =>
        -- the coordinator is a member of its own group
        have hsame : role.coordinator = role'.coordinator := by
          apply assigned.agree _ _ role role' hrole hrole'
          rw [hsender, hcoordinator, hchosen]
        rw [roomDelay_member hrole' (hsame ▸ live)]
    · intro absent
      rw [roomDelay_member hrole live, cohortDelay_eq_none hzones, Option.getD_none]
      intro hzone
      obtain ⟨other, mem', -, heq⟩ := exists_of_mem_ownRooms hzone
      exact absent other mem' (h.owner coherent sound mem' live heq)

end Releasable

/-- What a release plans depends on the sessions only. -/
theorem Release.Opened.of_session {st st' : BridgeRuntime} {release : Release}
    (h : release.Opened env st) (sessions : st'.session = st.session) :
    release.Opened env st' := by
  have hgeneration : st'.generationOf = st.generationOf := by
    funext id
    simp [BridgeRuntime.generationOf, sessions]
  constructor
  · exact h.once
  · rw [hgeneration]
    exact h.generation
  · rw [hgeneration]
    exact h.current
  · exact h.own
  · rw [sessions]
    exact h.member

/-- What a release plans after other ones. The delay of a member is the one with which the
stream of its coordinator was released, now or before. -/
structure Release.Planned (env : Env) (before : List Release) (release : Release) : Prop where
  once : (release.prepared.map PreparedDownstream.sessionId).Nodup
  own : ∀ stream ∈ release.prepared, release.roles.lookup stream.sessionId = none →
    ∃ delayMs : Nat,
      release.delays.lookup stream.sessionId = some (Duration.fromMillis delayMs) ∧
        release.slowest env = some (delayMs + env.offset stream.room)
  member : ∀ stream ∈ release.prepared, ∀ role,
    release.roles.lookup stream.sessionId = some role → ∃ delay,
      release.delays.lookup stream.sessionId = some delay ∧
        ∀ earlier ∈ release :: before, ∀ other ∈ earlier.prepared,
          other.sessionId = role.coordinator →
          release.generation other.sessionId = some other.generation →
            earlier.delays.lookup other.sessionId = some delay

/-- A session has the delay with which its stream was released last. -/
theorem Release.Opened.planned {st : BridgeRuntime} {before : List Release} {release : Release}
    (h : release.Opened env st)
    (new : ∀ stream ∈ release.prepared, ∀ earlier ∈ before, ∀ other ∈ earlier.prepared,
      other.sessionId = stream.sessionId → other.generation ≠ stream.generation)
    (synced : ∀ earlier ∈ before, ∀ other ∈ earlier.prepared, ∀ session,
      st.session other.sessionId = some session → session.generation = other.generation →
        earlier.delays.lookup other.sessionId = some session.syncDelay) :
    release.Planned env before := by
  refine ⟨h.once, h.own, ?_⟩
  intro stream mem role hrole
  obtain ⟨session, delay, live, hdelay, hsame, hother⟩ := h.member stream mem role hrole
  refine ⟨delay, hdelay, ?_⟩
  intro earlier hearlier other hmem hcoordinator hgeneration
  obtain rfl | hearlier := List.mem_cons.mp hearlier
  · exact hsame other hmem hcoordinator
  · rw [h.generation, hcoordinator, BridgeRuntime.generationOf, live] at hgeneration
    have hcurrent : session.generation = other.generation := Option.some.inj hgeneration
    have habsent : ∀ released ∈ release.prepared, released.sessionId ≠ role.coordinator := by
      intro released hreleased hnames
      have hnow := h.current released hreleased
      rw [hnames, BridgeRuntime.generationOf, live] at hnow
      have hgenerations : session.generation = released.generation := Option.some.inj hnow
      exact new released hreleased earlier hearlier other hmem (hcoordinator.trans hnames.symm)
        (hcurrent.symm.trans hgenerations)
    rw [hother habsent]
    exact synced earlier hearlier other hmem session (hcoordinator ▸ live) hcurrent

end AirSonos
