import AirSonos.Bridge.Handlers
import Mathlib.Algebra.Order.BigOperators.Group.List

/-!
# Restarts end

Every restart nested in another one uses up a group member or a waiting prepared stream. The
sum of both never grows while a session restarts, so `restartFuel` is always enough and no
handler is ever out of fuel.
-/

namespace AirSonos

namespace BridgeRuntime

variable (env : Env)

/-- The members of all native groups. -/
def groupLoad (groups : NativeGroups) : Nat :=
  ((AssocMap.values groups).map List.length).sum

/-- The prepared streams that wait in all cohorts. -/
def cohortLoad (cohorts : List SyncCohort) : Nat :=
  (cohorts.map fun cohort => cohort.preparedStreams.length).sum

/-- The restarts that can still be nested. -/
def load (st : BridgeRuntime) : Nat :=
  groupLoad st.nativeGroups + cohortLoad st.cohorts

theorem restartFuel_eq (st : BridgeRuntime) : st.restartFuel = st.load + 1 := rfl

theorem groupLoad_erase (groups : NativeGroups) (id : SessionId) :
    groupLoad (groups.erase id) + ((groups.lookup id).getD []).length = groupLoad groups := by
  cases h : groups.lookup id with
  | none =>
    rw [AssocMap.erase_of_lookup_none h]
    rfl
  | some members =>
    unfold groupLoad
    rw [((AssocMap.values_perm_erase h).map List.length).sum_eq]
    simp only [Option.getD_some, List.map_cons, List.sum_cons]
    omega

theorem groupLoad_insert (groups : NativeGroups) (id : SessionId) (members : List SessionId) :
    groupLoad (groups.insert id ((groups.lookup id).getD [] ++ members)) =
      groupLoad groups + members.length := by
  have herase := groupLoad_erase groups id
  unfold groupLoad at herase ⊢
  rw [AssocMap.values_insert]
  simp only [List.map_cons, List.sum_cons, List.length_append]
  omega

theorem load_forgetNativeMember (st : BridgeRuntime) (id : SessionId) :
    (st.forgetNativeMember id).load ≤ st.load := by
  have hgroups : groupLoad (st.forgetNativeMember id).nativeGroups ≤
      groupLoad st.nativeGroups := by
    unfold groupLoad forgetNativeMember
    rw [AssocMap.values_mapValues, List.map_map]
    exact List.sum_le_sum fun members _ => List.length_filter_le _ _
  exact Nat.add_le_add_right hgroups _

/-- A group that is left gives its members up to be restarted. -/
theorem load_removeNativeGroup (st : BridgeRuntime) (id : SessionId) :
    (st.removeNativeGroup id).load + ((st.nativeGroups.lookup id).getD []).length = st.load := by
  have hgroups : groupLoad (st.removeNativeGroup id).nativeGroups +
      ((st.nativeGroups.lookup id).getD []).length = groupLoad st.nativeGroups :=
    groupLoad_erase st.nativeGroups id
  have hcohorts : (st.removeNativeGroup id).cohorts = st.cohorts := rfl
  unfold load
  rw [hcohorts]
  omega

/-! ### A release turns waiting streams into group members -/

theorem pushSender_length (sender : IpAddr) (id : SessionId)
    (groups : List (IpAddr × List SessionId)) :
    ((pushSender sender id groups).map fun group => group.2.length).sum =
      (groups.map fun group => group.2.length).sum + 1 := by
  induction groups with
  | nil => rfl
  | cons group rest ih =>
    obtain ⟨other, ids⟩ := group
    simp only [pushSender]
    split
    · simp only [List.map_cons, List.sum_cons, List.length_append, List.length_singleton]
      omega
    · simp only [List.map_cons, List.sum_cons, ih]
      omega

theorem addToSender_length (st : BridgeRuntime) (groups : List (IpAddr × List SessionId))
    (stream : PreparedDownstream) :
    ((st.addToSender groups stream).map fun group => group.2.length).sum ≤
      (groups.map fun group => group.2.length).sum + 1 := by
  unfold addToSender
  split
  · split
    · exact Nat.le_of_eq (pushSender_length _ _ _)
    · exact Nat.le_succ _
  · exact Nat.le_succ _

theorem bySender_length (st : BridgeRuntime) (prepared : List PreparedDownstream) :
    ((st.bySender prepared).map fun group => group.2.length).sum ≤ prepared.length := by
  have hfold (groups : List (IpAddr × List SessionId)) :
      ((prepared.foldl st.addToSender groups).map fun group => group.2.length).sum ≤
        (groups.map fun group => group.2.length).sum + prepared.length := by
    induction prepared generalizing groups with
    | nil => exact Nat.le_refl _
    | cons stream rest ih =>
      have hadd := st.addToSender_length groups stream
      have hrest := ih (st.addToSender groups stream)
      simp only [List.foldl_cons, List.length_cons]
      omega
  have hempty := hfold []
  simpa [bySender] using hempty

theorem chooseCoordinator_length {playing : Option SessionId} {ids members : List SessionId}
    {coordinator : SessionId}
    (h : chooseCoordinator playing ids = some (coordinator, members)) :
    members.length ≤ ids.length := by
  unfold chooseCoordinator at h
  split at h
  · cases h
    exact Nat.le_refl _
  · cases h
    exact Nat.le_succ _
  · cases h

/-- Planning a group adds no more members than its sender has sessions. -/
theorem groupLoad_planGroup (st : BridgeRuntime) (plan : GroupPlan)
    (group : IpAddr × List SessionId) :
    groupLoad (st.planGroup env plan group).groups ≤ groupLoad plan.groups + group.2.length := by
  unfold planGroup
  split
  · exact Nat.le_add_right _ _
  · next hchosen =>
    have hlength := chooseCoordinator_length hchosen
    split
    · simp only [GroupPlan.join, GroupPlan.walked, groupLoad_insert]
      omega
    · exact Nat.le_add_right _ _

theorem groupLoad_planNativeGroups (st : BridgeRuntime) (prepared : List PreparedDownstream) :
    groupLoad (st.planNativeGroups env prepared).groups ≤
      groupLoad st.nativeGroups + prepared.length := by
  have hfold (groups : List (IpAddr × List SessionId)) (plan : GroupPlan) :
      groupLoad (groups.foldl (st.planGroup env) plan).groups ≤
        groupLoad plan.groups + (groups.map fun group => group.2.length).sum := by
    induction groups generalizing plan with
    | nil => exact Nat.le_add_right _ _
    | cons group rest ih =>
      have hgroup := st.groupLoad_planGroup env plan group
      have hrest := ih (st.planGroup env plan group)
      simp only [List.foldl_cons, List.map_cons, List.sum_cons]
      omega
  unfold planNativeGroups
  split
  · have hplanned := hfold (st.bySender prepared) ⟨st.nativeGroups, st.hashWalks, ∅⟩
    have hlength := st.bySender_length prepared
    simp only at hplanned
    omega
  · exact Nat.le_add_right _ _

theorem load_recordDelay (st : BridgeRuntime) (id : SessionId) (delay : Option Duration) :
    (st.recordDelay id delay).load = st.load := by
  cases delay <;> rfl

theorem load_planStart (st : BridgeRuntime) (cutoff : Instant) (delay : Option Duration)
    (command : TransportCommand) : (st.planStart cutoff delay command).load = st.load := by
  cases command with
  | play _ => cases delay <;> rfl
  | _ => rfl

theorem load_sendCommand (st : BridgeRuntime) (zoneId : ZoneId) (command : TransportCommand) :
    (st.sendCommand env zoneId command).load = st.load := rfl

theorem load_startStream (joins : Option GroupJoins) (delays : AssocMap SessionId Duration)
    (cutoff : Instant) (acc : BridgeRuntime × AssocMap SessionId NativeMember)
    (stream : PreparedDownstream) :
    (startStream env joins delays cutoff acc stream).1.load = acc.1.load := by
  unfold startStream
  rw [load_sendCommand, load_planStart, load_recordDelay]

/-- A release makes group members of at most its own streams. -/
theorem load_playPreparedDownstreams (st : BridgeRuntime) (prepared : List PreparedDownstream) :
    (st.playPreparedDownstreams env prepared).load ≤ st.load + prepared.length := by
  have hstart (joins : Option GroupJoins) (delays : AssocMap SessionId Duration)
      (cutoff : Instant) (streams : List PreparedDownstream)
      (acc : BridgeRuntime × AssocMap SessionId NativeMember) :
      (streams.foldl (startStream env joins delays cutoff) acc).1.load = acc.1.load := by
    induction streams generalizing acc with
    | nil => rfl
    | cons stream rest ih => rw [List.foldl_cons, ih, load_startStream]
  have hopen (release : Release) :
      (st.openRelease env release).load =
        groupLoad (st.planNativeGroups env release.prepared).groups + cohortLoad st.cohorts := by
    unfold openRelease
    split <;> rfl
  have hgroups := st.groupLoad_planNativeGroups env prepared
  simp only [playPreparedDownstreams, hstart, hopen]
  unfold load
  simp only [planRelease]
  omega

/-! ### The cohort operations -/

theorem cohorts_recordDelay (st : BridgeRuntime) (id : SessionId) (delay : Option Duration) :
    (st.recordDelay id delay).cohorts = st.cohorts := by
  cases delay <;> rfl

theorem cohorts_planStart (st : BridgeRuntime) (cutoff : Instant) (delay : Option Duration)
    (command : TransportCommand) : (st.planStart cutoff delay command).cohorts = st.cohorts := by
  cases command with
  | play _ => cases delay <;> rfl
  | _ => rfl

theorem cohorts_playPreparedDownstreams (st : BridgeRuntime)
    (prepared : List PreparedDownstream) :
    (st.playPreparedDownstreams env prepared).cohorts = st.cohorts := by
  have hstart (joins : Option GroupJoins) (delays : AssocMap SessionId Duration)
      (cutoff : Instant) (streams : List PreparedDownstream)
      (acc : BridgeRuntime × AssocMap SessionId NativeMember) :
      (streams.foldl (startStream env joins delays cutoff) acc).1.cohorts = acc.1.cohorts := by
    induction streams generalizing acc with
    | nil => rfl
    | cons stream rest ih =>
      rw [List.foldl_cons, ih]
      exact (cohorts_planStart _ _ _ _).trans (cohorts_recordDelay _ _ _)
  rw [playPreparedDownstreams, hstart, openRelease]
  split <;> rfl

theorem cohorts_releaseCohort (st : BridgeRuntime) (cohort : SyncCohort) :
    (st.releaseCohort env cohort).cohorts = st.cohorts :=
  cohorts_playPreparedDownstreams env _ _

theorem preparedStreams_length_le {cohort cohort' : SyncCohort}
    (sessions : cohort'.sessions.Sublist cohort.sessions)
    (prepared : ∀ id, (cohort'.prepared.lookup id).isSome → (cohort.prepared.lookup id).isSome) :
    cohort'.preparedStreams.length ≤ cohort.preparedStreams.length := by
  unfold SyncCohort.preparedStreams
  rw [List.length_filterMap_eq_countP, List.length_filterMap_eq_countP]
  exact (List.countP_mono_left fun id _ => prepared id).trans sessions.countP_le

theorem preparedStreams_drop (cohort : SyncCohort) (id : SessionId) :
    (cohort.drop id).preparedStreams.length ≤ cohort.preparedStreams.length := by
  refine preparedStreams_length_le List.filter_sublist fun other hsome => ?_
  simp only [SyncCohort.drop, AssocMap.lookup_erase_ite] at hsome
  split at hsome
  · cases hsome
  · exact hsome

theorem preparedStreams_drop_add (cohort : SyncCohort) (id : SessionId) :
    ((cohort.drop id).add id).preparedStreams = (cohort.drop id).preparedStreams := by
  simp [SyncCohort.preparedStreams, SyncCohort.drop, SyncCohort.add]

theorem preparedStreams_prune (st : BridgeRuntime) (cohort : SyncCohort) :
    (st.pruneCohort cohort).preparedStreams.length ≤ cohort.preparedStreams.length := by
  refine preparedStreams_length_le List.filter_sublist fun id hsome => ?_
  obtain ⟨stream, hstream⟩ := Option.isSome_iff_exists.mp hsome
  rw [((AssocMap.lookup_retain_eq_some _ _).mp hstream).1]
  rfl

theorem cohortLoad_append (before after : List SyncCohort) :
    cohortLoad (before ++ after) = cohortLoad before + cohortLoad after := by
  simp [cohortLoad]

theorem cohortLoad_drop (cohorts : List SyncCohort) (id : SessionId) :
    cohortLoad (cohorts.map fun cohort => cohort.drop id) ≤ cohortLoad cohorts := by
  unfold cohortLoad
  rw [List.map_map]
  exact List.sum_le_sum fun cohort _ => preparedStreams_drop cohort id

theorem cohortLoad_newCohort (now : Instant) (id : SessionId) :
    (newCohort env now id).preparedStreams.length = 0 := rfl

theorem load_addSessionToSyncCohort (st : BridgeRuntime) (id : SessionId) :
    (st.addSessionToSyncCohort env id).load ≤ st.load := by
  have hdrop := cohortLoad_drop st.cohorts id
  have hcohorts : cohortLoad (st.addSessionToSyncCohort env id).cohorts ≤
      cohortLoad st.cohorts := by
    rcases st.cohorts_addSessionToSyncCohort env id with
      ⟨before, last, hdropped, -, hcohorts, -⟩ | ⟨-, hcohorts, -⟩
    · have hlast : last ∈ st.cohorts.map fun cohort => cohort.drop id := by simp [hdropped]
      obtain ⟨cohort, -, rfl⟩ := List.mem_map.mp hlast
      rw [hcohorts, cohortLoad_append]
      rw [hdropped, cohortLoad_append] at hdrop
      have hadd : cohortLoad [(cohort.drop id).add id] = cohortLoad [cohort.drop id] := by
        simp only [cohortLoad, List.map_cons, preparedStreams_drop_add]
      omega
    · rw [hcohorts]
      split
      · simp only [cohortLoad, List.map_cons, List.sum_cons, cohortLoad_newCohort] at hdrop ⊢
        omega
      · rw [cohortLoad_append]
        simp only [cohortLoad, List.map_cons, List.map_nil, List.sum_cons, List.sum_nil,
          cohortLoad_newCohort] at hdrop ⊢
        omega
  exact Nat.add_le_add_left hcohorts _

theorem load_replaceDownstream (st : BridgeRuntime) (id : SessionId) (zoneId : ZoneId) :
    (st.replaceDownstream env id zoneId).1.load ≤ st.load := by
  unfold replaceDownstream
  split
  · exact Nat.le_refl _
  · split
    · exact Nat.le_refl _
    · unfold admitDownstream
      rw [load_sendCommand]
      exact load_addSessionToSyncCohort env _ id

theorem load_releaseCohort (st : BridgeRuntime) (cohort : SyncCohort) :
    (st.releaseCohort env cohort).load ≤ st.load + cohort.preparedStreams.length :=
  load_playPreparedDownstreams env _ _

theorem load_of_cohorts {st : BridgeRuntime} {cohort : SyncCohort} {rest : List SyncCohort}
    (h : st.cohorts = cohort :: rest) :
    st.load = (st.takeCohort rest).load + cohort.preparedStreams.length := by
  have hrest : (st.takeCohort rest).cohorts = rest := rfl
  have hgroups : (st.takeCohort rest).nativeGroups = st.nativeGroups := rfl
  simp only [load, h, hrest, hgroups, cohortLoad, List.map_cons, List.sum_cons]
  omega

theorem load_maybeStartLoop (force : Bool) (cohorts : List SyncCohort) (st : BridgeRuntime)
    (h : st.cohorts = cohorts) : (maybeStartLoop env force cohorts st).load ≤ st.load := by
  induction cohorts generalizing st with
  | nil =>
    simp only [maybeStartLoop, load, h]
    exact Nat.le_refl _
  | cons cohort rest ih =>
    have hprune := st.preparedStreams_prune cohort
    have hload := load_of_cohorts h
    simp only [maybeStartLoop]
    split
    · have := ih (st.takeCohort rest) rfl
      omega
    · split
      · have hrelease := load_releaseCohort env (st.takeCohort rest) (st.pruneCohort cohort)
        have := ih ((st.takeCohort rest).releaseCohort env (st.pruneCohort cohort))
          (cohorts_releaseCohort env _ _)
        omega
      · have hwait : (st.keepCohort (st.pruneCohort cohort) rest).load =
            (st.takeCohort rest).load + (st.pruneCohort cohort).preparedStreams.length :=
          load_of_cohorts rfl
        omega

/-- Whatever cohorts are released, the load does not grow. -/
theorem load_maybeStartSyncCohort (st : BridgeRuntime) (force : Bool) :
    (st.maybeStartSyncCohort env force).load ≤ st.load :=
  load_maybeStartLoop env force st.cohorts st rfl

/-! ### The fuel is enough -/

/-- What leaving a group does with one of the members. -/
def restartMember (restart : BridgeRuntime → SessionId → ZoneId → Option BridgeRuntime)
    (st : BridgeRuntime) (member : SessionId) : Option BridgeRuntime :=
  match st.session member with
  | some session =>
    if session.desiredPlayback then restart st member session.zoneId else some st
  | none => some st

theorem leaveNativeGroup_eq (restart : BridgeRuntime → SessionId → ZoneId → Option BridgeRuntime)
    (st : BridgeRuntime) (id : SessionId) :
    leaveNativeGroup restart st id =
      (((st.forgetNativeMember id).nativeGroups.lookup id).getD []).foldlM (restartMember restart)
        ((st.forgetNativeMember id).removeNativeGroup id) := rfl

/-- Each member restarts with less load than the group had, so the fuel of the restart is enough. -/
theorem leaveNativeGroup_total {restart : BridgeRuntime → SessionId → ZoneId → Option BridgeRuntime}
    {fuel : Nat} (hrestart : ∀ st id zoneId, st.load < fuel →
      ∃ st', restart st id zoneId = some st' ∧ st'.load ≤ st.load)
    (st : BridgeRuntime) (id : SessionId) (hload : st.load ≤ fuel) :
    ∃ st', leaveNativeGroup restart st id = some st' ∧ st'.load ≤ st.load := by
  have hforget := st.load_forgetNativeMember id
  have hremove := (st.forgetNativeMember id).load_removeNativeGroup id
  have hloop (members : List SessionId) (st : BridgeRuntime)
      (hmembers : members ≠ [] → st.load < fuel) :
      ∃ st', members.foldlM (restartMember restart) st = some st' ∧ st'.load ≤ st.load := by
    induction members generalizing st with
    | nil => exact ⟨st, rfl, Nat.le_refl _⟩
    | cons member rest ih =>
      have hst := hmembers (List.cons_ne_nil _ _)
      simp only [List.foldlM_cons, Option.bind_eq_bind, restartMember]
      cases hsession : st.session member with
      | none => exact ih st fun _ => hst
      | some session =>
        simp only
        split
        · obtain ⟨st₁, hst₁, hle⟩ := hrestart st member session.zoneId hst
          obtain ⟨st₂, hst₂, hle₂⟩ := ih st₁ fun _ => by omega
          exact ⟨st₂, by rw [hst₁]; exact hst₂, by omega⟩
        · exact ih st fun _ => hst
  obtain ⟨st', hst', hle⟩ := hloop (((st.forgetNativeMember id).nativeGroups.lookup id).getD [])
    ((st.forgetNativeMember id).removeNativeGroup id) fun hmembers => by
      have := List.length_pos_of_ne_nil hmembers
      omega
  exact ⟨st', hst', by omega⟩

/-- By induction on the fuel: a nested restart has strictly less load. -/
theorem restartDownstreamForPlay_total (fuel : Nat) (st : BridgeRuntime) (id : SessionId)
    (zoneId : ZoneId) (hload : st.load < fuel) :
    ∃ st', restartDownstreamForPlay env fuel st id zoneId = some st' ∧ st'.load ≤ st.load := by
  induction fuel generalizing st id zoneId with
  | zero => omega
  | succ fuel ih =>
    have hcancel : (st.cancelDownstreamRetry id).load = st.load := rfl
    obtain ⟨st₁, hst₁, hle⟩ := leaveNativeGroup_total ih
      (st.cancelDownstreamRetry id) id (by omega)
    simp only [restartDownstreamForPlay, hst₁]
    cases hsession : st₁.session id with
    | none => exact ⟨st₁, rfl, by omega⟩
    | some session =>
      have hreplace := load_replaceDownstream env st₁ id zoneId
      simp only
      split
      · next st₂ heq =>
        have hst₂ : (st₁.replaceDownstream env id zoneId).1 = st₂ := by rw [heq]
        have := load_maybeStartSyncCohort env st₂ false
        rw [hst₂] at hreplace
        exact ⟨_, rfl, by omega⟩
      · next st₂ heq =>
        have hst₂ : (st₁.replaceDownstream env id zoneId).1 = st₂ := by rw [heq]
        rw [hst₂] at hreplace
        exact ⟨_, rfl, by omega⟩

theorem restart_total (st : BridgeRuntime) (id : SessionId) (zoneId : ZoneId) :
    ∃ st', st.restart env id zoneId = some st' := by
  obtain ⟨st', hst', -⟩ := restartDownstreamForPlay_total env st.restartFuel st id zoneId
    (by rw [restartFuel_eq]; omega)
  exact ⟨st', hst'⟩

theorem leaveGroup_total (st : BridgeRuntime) (id : SessionId) :
    ∃ st', st.leaveGroup env id = some st' := by
  obtain ⟨st', hst', -⟩ := leaveNativeGroup_total (restartDownstreamForPlay_total env st.restartFuel)
    st id (by rw [restartFuel_eq]; omega)
  exact ⟨st', hst'⟩

theorem setPlaybackState_total (st : BridgeRuntime) (id : SessionId) (zoneId : ZoneId)
    (playing : Bool) : ∃ st', st.setPlaybackState env id zoneId playing = some st' := by
  unfold setPlaybackState
  split
  · exact ⟨_, rfl⟩
  · split
    · split
      · exact restart_total env _ id zoneId
      · exact ⟨_, rfl⟩
    · obtain ⟨st', hst'⟩ := leaveGroup_total env (st.pausePlayback id) id
      rw [hst']
      exact ⟨_, rfl⟩

theorem stopSession_total (st : BridgeRuntime) (id : SessionId) (fallback : Option ZoneId) :
    ∃ st', st.stopSession env id fallback = some st' := by
  unfold stopSession
  split
  · exact ⟨_, rfl⟩
  · obtain ⟨st', hst'⟩ := leaveGroup_total env (st.removeSession id) id
    rw [hst']
    exact ⟨_, rfl⟩

/-- The sessions may be stopped in any order. -/
theorem stopSessions_total (ids : List SessionId) (st : BridgeRuntime) :
    ∃ st', ids.foldlM (fun st id => st.stopSession env id none) st = some st' := by
  induction ids generalizing st with
  | nil => exact ⟨st, rfl⟩
  | cons id rest ih =>
    obtain ⟨st₁, hst₁⟩ := stopSession_total env st id none
    obtain ⟨st₂, hst₂⟩ := ih st₁
    exact ⟨st₂, by simp only [List.foldlM_cons, hst₁]; exact hst₂⟩

theorem startSession_total (st : BridgeRuntime) (id : SessionId) (zoneId : ZoneId)
    (format : PcmFormat) (sender : Option IpAddr) :
    ∃ st', st.startSession env id zoneId format sender = some st' := by
  unfold startSession
  obtain ⟨st₁, hst₁⟩ := stopSessions_total env (st.zoneSessions env zoneId) st.walkSessions
  rw [hst₁]
  simp only
  split
  · exact ⟨_, rfl⟩
  · exact restart_total env _ id zoneId

theorem flushed_total (st : BridgeRuntime) (id : SessionId) (playbackEpoch : Nat)
    (zoneId : ZoneId) : ∃ st', st.flushed env id playbackEpoch zoneId = some st' := by
  unfold flushed
  split
  · exact ⟨_, rfl⟩
  · split
    · exact ⟨_, rfl⟩
    · split
      · exact restart_total env _ id zoneId
      · exact setPlaybackState_total env _ id zoneId false

theorem handleEvent_total (st : BridgeRuntime) (event : AirPlayEvent) :
    ∃ st', st.handleEvent env event = some st' := by
  cases event with
  | sessionStarted id zoneId format sender => exact startSession_total env st id zoneId format sender
  | pcm id zoneId frames => exact ⟨_, rfl⟩
  | playbackState id zoneId playing => exact setPlaybackState_total env st id zoneId playing
  | flushed id playbackEpoch zoneId => exact flushed_total env st id playbackEpoch zoneId
  | volume zoneId volumePercent => exact ⟨_, rfl⟩
  | sessionStopped id zoneId => exact stopSession_total env st id (some zoneId)
  | streamEndedWhilePaused id zoneId => exact ⟨_, rfl⟩

theorem startFailed_total (st : BridgeRuntime) (result : DownstreamStartResult) :
    ∃ st', st.startFailed env result = some st' := by
  unfold startFailed
  split
  · exact ⟨_, rfl⟩
  · exact leaveGroup_total env _ _

theorem handleDownstreamStartResult_total (st : BridgeRuntime) (result : DownstreamStartResult) :
    ∃ st', st.handleDownstreamStartResult env result = some st' := by
  unfold handleDownstreamStartResult
  split
  · exact ⟨_, rfl⟩
  · split
    · exact ⟨_, rfl⟩
    · split
      · exact ⟨_, rfl⟩
      · split
        · exact ⟨_, rfl⟩
        · exact ⟨_, rfl⟩
        · exact ⟨_, rfl⟩
        · exact ⟨_, rfl⟩
        · exact leaveGroup_total env _ _
        · exact startFailed_total env st result
        · exact startFailed_total env st result

theorem handleDownstreamRetry_total (st : BridgeRuntime) (retry : DownstreamRetry) :
    ∃ st', st.handleDownstreamRetry env retry = some st' := by
  unfold handleDownstreamRetry
  split
  · exact ⟨_, rfl⟩
  · split
    · exact ⟨_, rfl⟩
    · split
      · exact restart_total env _ _ _
      · exact ⟨_, rfl⟩

theorem handleCleanup_total (st : BridgeRuntime) (id : SessionId) :
    ∃ st', st.handleCleanup env id = some st' := by
  unfold handleCleanup
  split
  · exact ⟨_, rfl⟩
  · split
    · exact stopSession_total env st id none
    · exact ⟨_, rfl⟩

theorem shutdown_total (st : BridgeRuntime) : ∃ st', st.shutdown env = some st' := by
  unfold shutdown
  obtain ⟨st', hst'⟩ := stopSessions_total env (env.hashOrder st.hashWalks st.sessions.keys)
    st.walkSessions
  rw [hst']
  exact ⟨_, rfl⟩

end BridgeRuntime

end AirSonos
