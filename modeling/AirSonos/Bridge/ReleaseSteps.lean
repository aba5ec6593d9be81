import AirSonos.Bridge.OwnUri
import AirSonos.Bridge.ReleasePlan

/-!
# Releases in a run

A release begins when no other one is being carried out. A stream is in one release only, and
the time at which its rooms stop waiting for the joins is fixed once.
-/

namespace AirSonos

open Relation BridgeRuntime

variable {env : Env} {guard : BridgeRuntime → BridgeLabel → Prop}

/-! ### Releases after a move -/

/-- A move from streams that are being started starts the first of them, or ends. -/
theorem Move.of_starting {release : Release} {todo : List PreparedDownstream}
    {roles : AssocMap SessionId NativeMember} {tail stack' : List Frame} {st st' : BridgeRuntime}
    (move : Move env guard (.starting release todo roles :: tail) st stack' st') :
    (∃ stream rest, todo = stream :: rest ∧
      stack' = .starting release rest (roles.erase stream.sessionId) :: tail ∧
      st' = (startStream env release.joins release.delays release.cutoff (st, roles) stream).1) ∨
    todo = [] ∧ stack' = tail ∧ st' = st := by
  cases move with
  | inner move =>
    cases move with
    | streamStarted => exact .inl ⟨_, _, rfl, rfl, rfl⟩
    | startsDone => exact .inr ⟨rfl, rfl, rfl⟩

/-- The calls of `play_prepared_downstreams` after a move. A call begins when no other one is
being carried out. -/
inductive ReleasesStep (env : Env) (stack : List Frame) (st : BridgeRuntime)
    (stack' : List Frame) (st' : BridgeRuntime) : List Release → Prop
  | kept : ReleasesStep env stack st stack' st' st.releases
  | opened {release tail} (opened : release.Opened env st')
      (top : stack' = .starting release release.prepared release.roles :: tail)
      (quiet : ∀ other todo roles, .starting other todo roles ∉ stack)
      (genuine : ∀ stream ∈ release.prepared, stream.Genuine env st'.streams)
      (joins : ∀ joins, release.joins = some joins → joins.ref < st'.nextGroupJoins) :
      ReleasesStep env stack st stack' st' (release :: st.releases)

namespace ReleasesStep

variable {stack stack' : List Frame} {st st' : BridgeRuntime}

theorem same (history : st'.history = st.history) :
    ReleasesStep env stack st stack' st' st'.releases := by
  rw [BridgeRuntime.releases, history]
  exact .kept

/-- What is recorded about cohorts is no release. -/
theorem noted {event : HistoryEvent} (history : st'.history = event :: st.history)
    (other : event.release? = none) : ReleasesStep env stack st stack' st' st'.releases := by
  rw [BridgeRuntime.releases, history, List.filterMap_cons_none other]
  exact .kept

theorem releases_openPlay (env : Env) (st : BridgeRuntime) (prepared : List PreparedDownstream) :
    (st.openPlay env prepared).releases = st.planRelease env prepared :: st.releases := by
  obtain ⟨groupJoins, nextGroupJoins, heq⟩ := openPlay_spec env st prepared
  rw [heq]
  rfl

theorem joins_openPlay {prepared : List PreparedDownstream} {joins : GroupJoins}
    (opened : (st.planRelease env prepared).joins = some joins) :
    joins.ref < (st.openPlay env prepared).nextGroupJoins := by
  have href : joins.ref = st.nextGroupJoins := by
    simp only [planRelease] at opened
    split at opened
    · cases opened
    · cases opened
      rfl
  unfold openPlay openRelease
  rw [opened, href]
  exact Nat.lt_succ_self _

theorem opens (wav : env.config.codec = .wav) {tail : List Frame} {mid : BridgeRuntime}
    {prepared : List PreparedDownstream} (releasable : Releasable env mid prepared)
    (coherent : Coherent env stack mid) (sound : Sound env stack mid)
    (codec : ∀ stream ∈ mid.streams, stream.session.codec = env.config.codec)
    (releases : mid.releases = st.releases)
    (quiet : ∀ other todo roles, .starting other todo roles ∉ stack) :
    ReleasesStep env stack st (mid.startFrame env prepared :: tail) (mid.openPlay env prepared)
      (mid.openPlay env prepared).releases := by
  have hopened := releasable.opened coherent sound fun stream hmem =>
    (codec _ (releasable.genuine stream hmem).registered).trans wav
  rw [releases_openPlay, releases]
  refine .opened (hopened.of_session (session_openPlay env mid prepared)) rfl quiet ?_
    fun joins => joins_openPlay
  rw [Sound.streams_openPlay]
  exact releasable.genuine

/-- What a cohort hands over can be released. -/
theorem releasable_preparedStreams (visited : Visited env guard stack st) {cohort : SyncCohort}
    {rest : List SyncCohort} (first : st.cohorts = cohort :: rest) :
    Releasable env (st.handOver (st.pruneCohort cohort) rest)
      (st.pruneCohort cohort).preparedStreams := by
  have hcohort : cohort ∈ st.cohorts := by
    rw [first]
    exact List.mem_cons_self
  have hlisted {id : SessionId} {stream : PreparedDownstream}
      (found : (st.pruneCohort cohort).prepared.lookup id = some stream) :
      stream.sessionId = id ∧ stream.Genuine env st.streams ∧
        st.generationOf id = some stream.generation := by
    obtain ⟨hfound, hkept⟩ := (AssocMap.lookup_retain_eq_some _ _).mp found
    obtain ⟨hid, hgenuine⟩ := visited.sound.waiting cohort hcohort id stream hfound
    rw [Bool.and_eq_true] at hkept
    obtain ⟨session, hlive, hsame⟩ := (Option.any_eq_true _ _).mp hkept.2
    exact ⟨hid, hgenuine, by simp [generationOf, hlive, beq_iff_eq.mp hsame]⟩
  constructor
  · have hsessions : (st.pruneCohort cohort).sessions.Nodup := by
      have honce := visited.scheduled.ordered.once
      rw [first, List.flatMap_cons] at honce
      exact (List.nodup_append.mp honce).1.filter _
    rw [SyncCohort.preparedStreams, List.map_filterMap]
    refine hsessions.filterMap fun id other name hid hother => ?_
    obtain ⟨stream, hfound, rfl⟩ := Option.map_eq_some_iff.mp hid
    obtain ⟨stream', hfound', hsame⟩ := Option.map_eq_some_iff.mp hother
    rw [← (hlisted hfound).1, ← hsame, (hlisted hfound').1]
  · intro stream hmem
    obtain ⟨id, -, hfound⟩ := List.mem_filterMap.mp hmem
    obtain ⟨rfl, -, hcurrent⟩ := hlisted hfound
    exact hcurrent
  · intro stream hmem
    obtain ⟨id, -, hfound⟩ := List.mem_filterMap.mp hmem
    exact (hlisted hfound).2.1

theorem inner (wav : env.config.codec = .wav) (visited : Visited env guard stack st)
    (move : Inner env stack st stack' st') :
    ReleasesStep env stack st stack' st' st'.releases := by
  cases move with
  | memberSkipped => exact .kept
  | memberRestarted => exact same rfl
  | vanished => exact .kept
  | rendererMissing => exact same rfl
  | buildFailed => exact same rfl
  | built => exact noted rfl rfl
  | left => exact .kept
  | pauseFinished => exact same rfl
  | stopFinished => exact same rfl
  | cohortDropped => exact same rfl
  | @cohortReleased tail _ cohort rest first =>
    have hcoherent : Coherent env (.checking :: tail)
        (st.handOver (st.pruneCohort cohort) rest) := { visited.coherent with }
    have hsound : Sound env (.checking :: tail) (st.handOver (st.pruneCohort cohort) rest) :=
      (visited.sound.takeCohort first).record _
    refine opens wav (releasable_preparedStreams visited first) hcoherent hsound visited.codec
      rfl ?_
    intro other todo roles hmem
    have hshaped := visited.scheduled.shaped
    exact not_starting_of_leaving hshaped ((List.mem_cons.mp hmem).resolve_left nofun)
  | cohortKept => exact noted rfl rfl
  | cohortsDone => exact noted rfl rfl
  | @streamStarted tail _ release stream rest roles =>
    obtain ⟨planned, playbackRelease, f, heq, -, -⟩ := startStream_spec env release.joins
      release.delays release.cutoff st roles stream
    rw [heq]
    exact .kept
  | startsDone => exact .kept

theorem move (wav : env.config.codec = .wav) (visited : Visited env guard stack st)
    (h : Move env guard stack st stack' st') :
    ReleasesStep env stack st stack' st' st'.releases := by
  cases h with
  | inner move => exact inner wav visited move
  | @workerReplied _ zoneId worker reply worker' outputs =>
    obtain ⟨groupJoins, heq⟩ := deliver_eq (st.setWorker zoneId worker') outputs
    rw [heq]
    exact .kept
  | @groupReleased _ zoneId worker stream joins delay since _ found waiting released =>
    obtain ⟨-, rfl⟩ := releaseGroup_spec released
    cases delay <;> exact same rfl
  | encoderClosed =>
    unfold BridgeRuntime.encoderInputClosed
    split <;> exact same rfl
  | @startSucceeded _ result =>
    obtain ⟨nativeGroups, heq⟩ :=
      startSucceeded_spec st.takeResult result.sessionId result.outcome
    rw [heq]
    exact same rfl
  | @startRetried _ result =>
    obtain ⟨nativeGroups, heq⟩ :=
      startUncertain_spec st.takeResult result.sessionId result.outcome
    rw [heq]
    exact same rfl
  | @startExhausted _ result =>
    obtain ⟨nativeGroups, heq⟩ :=
      startUncertain_spec st.takeResult result.sessionId result.outcome
    rw [heq]
    exact same rfl
  | @retryReplayed _ retry rest session prepared =>
    obtain ⟨playbackRelease, heq⟩ := replayPrepared_spec env st.takeRetry retry.sessionId
      retry.zoneId prepared
    rw [heq]
    exact same rfl
  | @preparedPlayed _ prepared rest session first live current wanted =>
    have hmessage : prepared ∈ st.preparedRx := by
      rw [first]
      exact List.mem_cons_self
    have hgenuine := visited.sound.message prepared hmessage
    have hreleasable : Releasable env (st.takePrepared.keepPrepared prepared) [prepared] := by
      refine ⟨List.nodup_singleton _, ?_, ?_⟩
      · intro stream hmem
        cases List.mem_singleton.mp hmem
        simp [generationOf, live, current]
      · intro stream hmem
        cases List.mem_singleton.mp hmem
        exact hgenuine
    exact opens wav hreleasable
      (visited.coherent.takePrepared.keepPrepared hgenuine live current wanted)
      (visited.sound.takePrepared.keepPrepared hgenuine) visited.codec rfl
      fun _ _ _ => List.not_mem_nil
  | _ => exact same rfl

theorem subset (h : ReleasesStep env stack st stack' st' st'.releases) :
    st.releases ⊆ st'.releases := by
  generalize st'.releases = releases at h
  cases h with
  | kept => exact List.Subset.refl _
  | opened => exact List.subset_cons_self _ _

end ReleasesStep

/-- The time at which the rooms of a release stop waiting is fixed once. -/
structure JoinsStep (st st' : BridgeRuntime) : Prop where
  next : st.nextGroupJoins ≤ st'.nextGroupJoins
  fixed : ∀ ref < st.nextGroupJoins, ∀ time, (st.groupJoins ref).released = some time →
    (st'.groupJoins ref).released = some time

namespace JoinsStep

variable {stack stack' : List Frame} {st st' : BridgeRuntime}

theorem same (joins : st'.groupJoins = st.groupJoins)
    (next : st'.nextGroupJoins = st.nextGroupJoins) : JoinsStep st st' := by
  refine ⟨next.ge, fun ref _ time => ?_⟩
  rw [joins]
  exact id

theorem trans {mid : BridgeRuntime} (first : JoinsStep st mid) (second : JoinsStep mid st') :
    JoinsStep st st' := by
  refine ⟨first.next.trans second.next, fun ref bounded time h => ?_⟩
  exact second.fixed ref (bounded.trans_le first.next) time (first.fixed ref bounded time h)

theorem invalidateDownstream (env : Env) (st : BridgeRuntime) (id : SessionId) (zoneId : ZoneId) :
    JoinsStep st (st.invalidateDownstream env id zoneId) := by
  have hretired : JoinsStep st (st.retireDownstream id) := same rfl rfl
  exact hretired.trans (same rfl rfl)

theorem released_deliver (st : BridgeRuntime) (outputs : List WorkerOutput) (ref : Nat) :
    ((outputs.foldl deliver st).groupJoins ref).released = (st.groupJoins ref).released := by
  induction outputs generalizing st with
  | nil => rfl
  | cons output rest ih =>
    rw [List.foldl_cons, ih]
    cases output with
    | result => rfl
    | joined joins =>
      simp only [deliver, Function.update_apply]
      split
      · case isTrue heq =>
        rw [heq]
        rfl
      · rfl

theorem released_fixRelease (joins : GroupJoins) {ref : Nat} {time : Instant}
    (h : (st.groupJoins ref).released = some time) :
    ((st.fixRelease joins).groupJoins ref).released = some time := by
  simp only [fixRelease, Function.update_apply]
  split
  · case isTrue heq =>
    rw [← heq]
    simp [GroupJoinState.release, h]
  · exact h

theorem openPlay (mid : BridgeRuntime) (prepared : List PreparedDownstream)
    (joins : mid.groupJoins = st.groupJoins) (next : mid.nextGroupJoins = st.nextGroupJoins) :
    JoinsStep st (mid.openPlay env prepared) := by
  unfold BridgeRuntime.openPlay openRelease
  split
  · refine ⟨next.ge.trans (Nat.le_succ _), fun ref bounded time h => ?_⟩
    have hne : ref ≠ mid.nextGroupJoins := by
      rw [next]
      exact bounded.ne
    change (Function.update mid.groupJoins mid.nextGroupJoins _ ref).released = some time
    rw [Function.update_of_ne hne, joins]
    exact h
  · exact same joins next

theorem inner (move : Inner env stack st stack' st') : JoinsStep st st' := by
  cases move with
  | cohortReleased => exact openPlay _ _ rfl rfl
  | @streamStarted tail _ release stream rest roles =>
    obtain ⟨planned, playbackRelease, f, heq, -, -⟩ := startStream_spec env release.joins
      release.delays release.cutoff st roles stream
    rw [heq]
    exact same rfl rfl
  | memberSkipped => exact same rfl rfl
  | memberRestarted => exact same rfl rfl
  | vanished => exact same rfl rfl
  | rendererMissing => exact same rfl rfl
  | @buildFailed _ _ id zoneId => exact (invalidateDownstream env st id zoneId).trans (same rfl rfl)
  | @built _ _ id zoneId => exact (invalidateDownstream env st id zoneId).trans (same rfl rfl)
  | left => exact same rfl rfl
  | pauseFinished => exact same rfl rfl
  | stopFinished => exact same rfl rfl
  | cohortDropped => exact same rfl rfl
  | cohortKept => exact same rfl rfl
  | cohortsDone => exact same rfl rfl
  | startsDone => exact same rfl rfl

theorem move (h : Move env guard stack st stack' st') : JoinsStep st st' := by
  cases h with
  | inner move => exact inner move
  | @workerReplied _ zoneId worker reply worker' outputs =>
    refine ⟨?_, fun ref _ time h => ?_⟩
    · obtain ⟨groupJoins, heq⟩ := deliver_eq (st.setWorker zoneId worker') outputs
      rw [heq]
      exact le_rfl
    · rw [released_deliver]
      exact h
  | @groupReleased _ zoneId worker stream joins delay since _ found waiting released =>
    obtain ⟨-, rfl⟩ := releaseGroup_spec released
    cases delay <;> exact ⟨le_rfl, fun ref _ time h => released_fixRelease joins h⟩
  | encoderClosed =>
    unfold BridgeRuntime.encoderInputClosed
    split <;> exact same rfl rfl
  | @startSucceeded _ result =>
    obtain ⟨nativeGroups, heq⟩ :=
      startSucceeded_spec st.takeResult result.sessionId result.outcome
    rw [heq]
    exact same rfl rfl
  | @startRetried _ result =>
    obtain ⟨nativeGroups, heq⟩ :=
      startUncertain_spec st.takeResult result.sessionId result.outcome
    rw [heq]
    exact same rfl rfl
  | @startExhausted _ result =>
    obtain ⟨nativeGroups, heq⟩ :=
      startUncertain_spec st.takeResult result.sessionId result.outcome
    rw [heq]
    exact same rfl rfl
  | @retryReplayed _ retry rest session prepared =>
    obtain ⟨playbackRelease, heq⟩ := replayPrepared_spec env st.takeRetry retry.sessionId
      retry.zoneId prepared
    rw [heq]
    exact same rfl rfl
  | preparedPlayed => exact openPlay _ _ rfl rfl
  | _ => exact same rfl rfl

end JoinsStep

/-! ### Streams and the releases they are in -/

section Handed

variable {stack : List Frame} {st : BridgeRuntime}

/-- A stream of a session and generation is in one release. -/
theorem Visited.release_unique (visited : Visited env guard stack st) {release other : Release}
    (mem : release ∈ st.releases) (mem' : other ∈ st.releases) {stream stream' : PreparedDownstream}
    (handed : stream ∈ release.prepared) (handed' : stream' ∈ other.prepared)
    (id : stream'.sessionId = stream.sessionId)
    (generation : stream'.generation = stream.generation) : other = release ∧ stream' = stream := by
  obtain ⟨hinside, hbetween⟩ := List.nodup_flatMap.mp visited.handedOnce
  have hsymm : Std.Symm (Function.onFun List.Disjoint fun release : Release =>
      release.prepared.map fun stream => (stream.sessionId, stream.generation)) :=
    ⟨fun _ _ h => List.disjoint_symm h⟩
  have hsame : other = release := by
    by_contra hne
    refine hbetween.forall mem' mem hne ?_ (List.mem_map_of_mem handed)
    rw [← id, ← generation]
    exact List.mem_map_of_mem handed'
  subst hsame
  exact ⟨rfl, List.inj_on_of_nodup_map (hinside other mem) handed' handed (Prod.ext id generation)⟩

end Handed

end AirSonos
