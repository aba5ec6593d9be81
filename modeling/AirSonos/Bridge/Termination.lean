import AirSonos.Bridge.Chains
import AirSonos.Lib.TransitionSystem

/-!
# Nested restarts use up a budget

A restart may release cohorts, a release makes group members out of waiting streams, and the
members of a group restart again. Waiting streams, members, cohorts and unfinished work are
weighed together, and every move inside a handler makes the sum smaller.
-/

namespace AirSonos

open Relation

namespace BridgeRuntime

variable (env : Env)

/-! ### The promotion loop -/

/-- How a round of the loop in `maybe_start_sync_cohort` ends. -/
inductive Round
  | again (st : BridgeRuntime)
  | finished (st : BridgeRuntime)

/-- One round looks at the active cohort, or at the first pending one promoted in its place. -/
def promote (force : Bool) (st : BridgeRuntime) : Round :=
  match st.cohorts with
  | [] => .finished (st.takeCohort [])
  | cohort :: rest =>
    if (st.pruneCohort cohort).sessions.isEmpty then .again (st.takeCohort rest)
    else if (st.pruneCohort cohort).shouldStart st.now force then
      .again ((st.takeCohort rest).releaseCohort env (st.pruneCohort cohort))
    else .finished (st.keepCohort (st.pruneCohort cohort) rest)

/-- The loop for at most the given number of rounds. -/
def promotions (force : Bool) : Nat → BridgeRuntime → Option BridgeRuntime
  | 0, _ => none
  | rounds + 1, st =>
    match promote env force st with
    | .again st => promotions force rounds st
    | .finished st => some st

/-- A cohort released in one round never comes back, so each round has one cohort fewer. -/
theorem promotions_eq (force : Bool) (cohorts : List SyncCohort) (st : BridgeRuntime)
    (h : st.cohorts = cohorts) (rounds : Nat) (enough : cohorts.length < rounds) :
    promotions env force rounds st = some (maybeStartLoop env force cohorts st) := by
  induction cohorts generalizing st rounds with
  | nil =>
    cases rounds with
    | zero => omega
    | succ rounds => simp only [promotions, promote, h, maybeStartLoop]
  | cons cohort rest ih =>
    cases rounds with
    | zero => omega
    | succ rounds =>
      have hrest : rest.length < rounds := by
        simp only [List.length_cons] at enough
        omega
      simp only [promotions, promote, h, maybeStartLoop]
      by_cases hempty : (st.pruneCohort cohort).sessions.isEmpty = true
      · simp only [hempty, if_true]
        exact ih (st.takeCohort rest) rfl rounds hrest
      · by_cases hstart : (st.pruneCohort cohort).shouldStart st.now force = true
        · simp only [hempty, hstart, if_true, Bool.false_eq_true, if_false]
          exact ih _ (cohorts_releaseCohort env (st.takeCohort rest) (st.pruneCohort cohort))
            rounds hrest
        · simp only [hempty, hstart, Bool.false_eq_true, if_false]

/-! ### More depth changes nothing -/

theorem leaveNativeGroup_mono {restart restart' :
      BridgeRuntime → SessionId → ZoneId → Option BridgeRuntime}
    (larger : ∀ st id zoneId st', restart st id zoneId = some st' →
      restart' st id zoneId = some st') {st st' : BridgeRuntime} {id : SessionId}
    (h : leaveNativeGroup restart st id = some st') :
    leaveNativeGroup restart' st id = some st' := by
  have hloop (members : List SessionId) (st : BridgeRuntime)
      (h : members.foldlM (restartMember restart) st = some st') :
      members.foldlM (restartMember restart') st = some st' := by
    induction members generalizing st with
    | nil => exact h
    | cons member rest ih =>
      simp only [List.foldlM_cons, Option.bind_eq_bind] at h ⊢
      obtain ⟨st₁, hst₁, hrest⟩ := Option.bind_eq_some_iff.mp h
      refine Option.bind_eq_some_iff.mpr ⟨st₁, ?_, ih st₁ hrest⟩
      unfold restartMember at hst₁ ⊢
      split at hst₁
      · split at hst₁
        · next hlive hwanted =>
          simp only [hwanted, if_true]
          exact larger _ _ _ _ hst₁
        · next hlive hwanted =>
          simp only [hwanted, Bool.false_eq_true, if_false]
          exact hst₁
      · exact hst₁
  rw [leaveNativeGroup_eq] at h ⊢
  exact hloop _ _ h

theorem restartDownstreamForPlay_mono {depth depth' : Nat} (deeper : depth ≤ depth')
    {st st' : BridgeRuntime} {id : SessionId} {zoneId : ZoneId}
    (h : restartDownstreamForPlay env depth st id zoneId = some st') :
    restartDownstreamForPlay env depth' st id zoneId = some st' := by
  induction depth generalizing depth' st st' id zoneId with
  | zero => cases h
  | succ depth ih =>
    obtain ⟨more, rfl⟩ := Nat.exists_eq_add_of_lt (Nat.lt_of_lt_of_le (Nat.lt_succ_self depth) deeper)
    simp only [restartDownstreamForPlay] at h ⊢
    split at h
    · cases h
    · next st₁ hst₁ =>
      have hdeeper : leaveNativeGroup (restartDownstreamForPlay env (depth + more))
          (st.cancelDownstreamRetry id) id = some st₁ :=
        leaveNativeGroup_mono (fun _ _ _ _ hrestart => ih (Nat.le_add_right _ _) hrestart) hst₁
      rw [hdeeper]
      exact h

/-! ### The budget -/

/-- What the memberships, the waiting streams and the cohorts of a state can still cost. A
waiting stream costs more than the membership that a release makes of it. -/
def weight (st : BridgeRuntime) : Nat :=
  5 * groupLoad st.nativeGroups + 6 * cohortLoad st.cohorts + 2 * st.cohorts.length

end BridgeRuntime

open BridgeRuntime

variable {env : Env}

/-- What a piece of unfinished work can still cost. -/
def Frame.weight : Frame → Nat
  | leaving _ todo => 5 * todo.length + 4
  | checking => 1
  | starting _ todo _ => todo.length + 1

/-- The calls, rounds and commands that can still follow. -/
def callBudget (stack : List Frame) (st : BridgeRuntime) : Nat :=
  (stack.map Frame.weight).sum + st.weight

namespace BridgeRuntime

theorem weight_sendCommand (st : BridgeRuntime) (zoneId : ZoneId) (command : TransportCommand) :
    (st.sendCommand env zoneId command).weight = st.weight := rfl

theorem weight_retireDownstream (st : BridgeRuntime) (id : SessionId) :
    (st.retireDownstream id).weight = st.weight := rfl

theorem weight_invalidateDownstream (st : BridgeRuntime) (id : SessionId) (zoneId : ZoneId) :
    (st.invalidateDownstream env id zoneId).weight = st.weight :=
  (weight_sendCommand _ _ _).trans (weight_retireDownstream st id)

theorem weight_registerStream (st : BridgeRuntime) (id : SessionId) (liveStream : LiveStream) :
    (st.registerStream id liveStream).weight = st.weight := rfl

theorem weight_scheduleDownstreamRetry (st : BridgeRuntime) (id : SessionId) (zoneId : ZoneId)
    (generation : Nat) :
    (st.scheduleDownstreamRetry id zoneId generation).1.weight = st.weight := rfl

theorem weight_disband (st : BridgeRuntime) (id : SessionId) :
    (st.disband id).weight + 5 * (st.groupMembers id).length ≤ st.weight := by
  have hcohorts : (st.disband id).cohorts = st.cohorts := rfl
  have hforget : groupLoad (st.forgetNativeMember id).nativeGroups ≤ groupLoad st.nativeGroups :=
    Nat.le_of_add_le_add_right (st.load_forgetNativeMember id)
  have herase : groupLoad (st.disband id).nativeGroups + (st.groupMembers id).length =
      groupLoad (st.forgetNativeMember id).nativeGroups :=
    groupLoad_erase (st.forgetNativeMember id).nativeGroups id
  unfold weight
  rw [hcohorts]
  omega

variable (env) in
theorem length_addSessionToSyncCohort (st : BridgeRuntime) (id : SessionId) :
    (st.addSessionToSyncCohort env id).cohorts.length ≤ st.cohorts.length + 1 := by
  rcases st.cohorts_addSessionToSyncCohort env id with
    ⟨before, last, hdropped, -, hcohorts, -⟩ | ⟨-, hcohorts, -⟩
  · have hlength := congrArg List.length hdropped
    rw [hcohorts]
    simp only [List.length_map, List.length_append, List.length_singleton] at hlength ⊢
    omega
  · rw [hcohorts]
    split
    · simp
    · simp

variable (env) in
theorem weight_addSessionToSyncCohort (st : BridgeRuntime) (id : SessionId) :
    (st.addSessionToSyncCohort env id).weight ≤ st.weight + 2 := by
  have hgroups : (st.addSessionToSyncCohort env id).nativeGroups = st.nativeGroups := rfl
  have hload := load_addSessionToSyncCohort env st id
  have hlength := length_addSessionToSyncCohort env st id
  unfold load at hload
  unfold weight
  rw [hgroups] at hload ⊢
  omega

theorem weight_of_cohorts {st : BridgeRuntime} {cohort : SyncCohort} {rest : List SyncCohort}
    (first : st.cohorts = cohort :: rest) :
    st.weight = (st.takeCohort rest).weight + 6 * cohort.preparedStreams.length + 2 := by
  have hload := load_of_cohorts first
  have hgroups : (st.takeCohort rest).nativeGroups = st.nativeGroups := rfl
  have hrest : (st.takeCohort rest).cohorts = rest := rfl
  unfold load at hload
  unfold weight
  rw [hgroups, hrest] at hload ⊢
  rw [first] at hload ⊢
  simp only [List.length_cons]
  omega

variable (env) in
theorem weight_openPlay (st : BridgeRuntime) (prepared : List PreparedDownstream) :
    (st.openPlay env prepared).weight ≤ st.weight + 5 * prepared.length := by
  have hgroups := st.groupLoad_planNativeGroups env prepared
  obtain ⟨groupJoins, nextGroupJoins, heq⟩ := openPlay_spec env st prepared
  have hopen : (st.openPlay env prepared).weight =
      5 * groupLoad (st.planNativeGroups env prepared).groups + 6 * cohortLoad st.cohorts +
        2 * st.cohorts.length := by
    rw [heq]
    rfl
  unfold weight at hopen ⊢
  omega

variable (env) in
theorem weight_startStream (joins : Option GroupJoins) (delays : AssocMap SessionId Duration)
    (cutoff : Instant) (st : BridgeRuntime) (roles : AssocMap SessionId NativeMember)
    (stream : PreparedDownstream) :
    (startStream env joins delays cutoff (st, roles) stream).1.weight = st.weight := by
  obtain ⟨planned, playbackRelease, f, heq, -, -⟩ :=
    startStream_spec env joins delays cutoff st roles stream
  rw [heq]
  rfl

end BridgeRuntime

/-- Each case names what the move uses up: a member to restart, a group to leave, a cohort, a
stream to start, or the frame itself. -/
theorem Inner.callBudget_lt {stack stack' : List Frame} {st st' : BridgeRuntime}
    (move : Inner env stack st stack' st') : callBudget stack' st' < callBudget stack st := by
  unfold callBudget
  cases move with
  | memberSkipped =>
    simp only [List.map_cons, List.sum_cons, Frame.weight, List.length_cons]
    omega
  | @memberRestarted _ _ _ member =>
    have hdisband := weight_disband (st.cancelDownstreamRetry member) member
    have hcancel : (st.cancelDownstreamRetry member).weight = st.weight := rfl
    simp only [List.map_cons, List.sum_cons, Frame.weight, leaveFrame, Goal.id, List.length_cons]
    omega
  | vanished =>
    simp only [List.map_cons, List.sum_cons, Frame.weight]
    omega
  | @rendererMissing _ _ id =>
    rw [weight_retireDownstream]
    simp only [List.map_cons, List.sum_cons, Frame.weight]
    omega
  | @buildFailed _ _ id zoneId =>
    rw [weight_scheduleDownstreamRetry, weight_invalidateDownstream]
    simp only [List.map_cons, List.sum_cons, Frame.weight]
    omega
  | @built _ _ id zoneId session renderer liveStream =>
    have hadd := weight_addSessionToSyncCohort env
      ((st.invalidateDownstream env id zoneId).registerStream id liveStream) id
    rw [weight_registerStream, weight_invalidateDownstream] at hadd
    rw [admitDownstream, weight_sendCommand]
    simp only [List.map_cons, List.sum_cons, Frame.weight, List.length_nil]
    omega
  | left =>
    simp only [List.map_cons, List.sum_cons, Frame.weight]
    omega
  | @pauseFinished _ _ id zoneId =>
    have hpaused : (st.stopPaused env id zoneId).weight = st.weight := rfl
    simp only [List.map_cons, List.sum_cons, Frame.weight]
    omega
  | @stopFinished _ _ id zoneId generation =>
    rw [weight_sendCommand]
    simp only [List.map_cons, List.sum_cons, Frame.weight]
    omega
  | @cohortDropped _ _ cohort rest first =>
    have htake := weight_of_cohorts first
    omega
  | @cohortReleased _ _ cohort rest first =>
    have htake := weight_of_cohorts first
    have hprune := st.preparedStreams_prune cohort
    have hopen := weight_openPlay env (st.handOver (st.pruneCohort cohort) rest)
      (st.pruneCohort cohort).preparedStreams
    have hhand : (st.handOver (st.pruneCohort cohort) rest).weight =
        (st.takeCohort rest).weight := rfl
    simp only [List.map_cons, List.sum_cons, Frame.weight, startFrame]
    omega
  | @cohortKept _ _ cohort rest first =>
    have htake := weight_of_cohorts first
    have hprune := st.preparedStreams_prune cohort
    have hkeep : ((st.keepCohort (st.pruneCohort cohort) rest).record
        (.checked st.now (st.pruneCohort cohort :: rest))).weight =
        (st.takeCohort rest).weight + 6 * (st.pruneCohort cohort).preparedStreams.length + 2 :=
      weight_of_cohorts rfl
    simp only [List.map_cons, List.sum_cons, Frame.weight]
    omega
  | cohortsDone none_left =>
    have hnone : ((st.takeCohort []).record (.checked st.now [])).weight ≤ st.weight := by
      unfold BridgeRuntime.weight
      rw [none_left]
      exact Nat.le_refl _
    simp only [List.map_cons, List.sum_cons, Frame.weight]
    omega
  | @streamStarted _ _ release stream rest roles =>
    have hstart := weight_startStream env release.joins release.delays release.cutoff st
      roles stream
    simp only [List.map_cons, List.sum_cons, Frame.weight, List.length_cons]
    omega
  | startsDone =>
    simp only [List.map_cons, List.sum_cons, Frame.weight]
    omega

variable (env) in
/-- Unfinished work can always go on, so a run that has ended has nothing left to do. -/
theorem Inner.exists_move (frame : Frame) (stack : List Frame) (st : BridgeRuntime) :
    ∃ stack' st', Inner env (frame :: stack) st stack' st' := by
  cases frame with
  | leaving goal todo =>
    cases todo with
    | cons member rest =>
      cases hlive : st.session member with
      | none =>
        exact ⟨_, _, .memberSkipped fun session hsome => by rw [hlive] at hsome; cases hsome⟩
      | some session =>
        cases hwanted : session.desiredPlayback with
        | true => exact ⟨_, _, .memberRestarted hlive hwanted⟩
        | false =>
          refine ⟨_, _, .memberSkipped fun other hother => ?_⟩
          rw [hlive] at hother
          cases hother
          exact hwanted
    | nil =>
      cases goal with
      | restart id zoneId =>
        cases hlive : st.session id with
        | none => exact ⟨_, _, .vanished hlive⟩
        | some session =>
          cases hrenderer : env.renderers zoneId with
          | none => exact ⟨_, _, .rendererMissing hlive hrenderer⟩
          | some renderer =>
            cases hcreated : (st.invalidateDownstream env id zoneId).createDownstreamStream env id
                zoneId (st.invalidateDownstream env id zoneId).nextGeneration with
            | none => exact ⟨_, _, .buildFailed hlive hrenderer hcreated⟩
            | some liveStream => exact ⟨_, _, .built hlive hrenderer hcreated⟩
      | pause id zoneId => exact ⟨_, _, .pauseFinished⟩
      | stop id zoneId generation => exact ⟨_, _, .stopFinished⟩
      | leave id => exact ⟨_, _, .left⟩
  | checking =>
    cases hcohorts : st.cohorts with
    | nil => exact ⟨_, _, .cohortsDone hcohorts⟩
    | cons cohort rest =>
      cases hempty : (st.pruneCohort cohort).sessions.isEmpty with
      | true => exact ⟨_, _, .cohortDropped hcohorts hempty⟩
      | false =>
        cases hstart : (st.pruneCohort cohort).shouldStart st.now false with
        | true => exact ⟨_, _, .cohortReleased hcohorts hempty hstart⟩
        | false => exact ⟨_, _, .cohortKept hcohorts hempty hstart⟩
  | starting release todo roles =>
    cases todo with
    | nil => exact ⟨_, _, .startsDone⟩
    | cons stream rest => exact ⟨_, _, .streamStarted⟩

/-- Whatever the groups, cohorts and waiting streams are, a restart and the departure from a group
return once the recursion may go deeper than the load of the state, the promotion loop returns
after one round more than there are cohorts, and no unfinished work goes on for longer than its
budget. -/
theorem restarts_end (env : Env) (st : BridgeRuntime) (id : SessionId) (zoneId : ZoneId) :
    (∃ st', (∀ depth, st.load < depth →
        restartDownstreamForPlay env depth st id zoneId = some st') ∧
      ∀ stack, InnerChain env
        ((st.cancelDownstreamRetry id).leaveFrame (.restart id zoneId) :: stack,
          (st.cancelDownstreamRetry id).disband id) (stack, st')) ∧
    (∃ st', (∀ depth, st.load ≤ depth →
        leaveNativeGroup (restartDownstreamForPlay env depth) st id = some st') ∧
      ∀ stack goal, goal.id = id → InnerChain env (st.leaveFrame goal :: stack, st.disband id)
        (.leaving goal [] :: stack, st')) ∧
    (∀ force rounds, st.cohorts.length < rounds →
      promotions env force rounds st = some (maybeStartLoop env force st.cohorts st)) ∧
    ∀ (run : Nat → List Frame × BridgeRuntime) (calls : Nat), (run 0).2 = st →
      (∀ k < calls, Inner env (run k).1 (run k).2 (run (k + 1)).1 (run (k + 1)).2) →
      calls ≤ callBudget (run 0).1 st ∧
        ((∀ stack' st', ¬ Inner env (run calls).1 (run calls).2 stack' st') →
          (run calls).1 = []) := by
  refine ⟨?_, ?_, ?_, ?_⟩
  · obtain ⟨st', hst', -⟩ := restartDownstreamForPlay_total env (st.load + 1) st id zoneId
      (Nat.lt_succ_self _)
    refine ⟨st', fun depth hdepth => restartDownstreamForPlay_mono env hdepth hst', ?_⟩
    intro stack
    exact restartDownstreamForPlay_chain _ stack st id zoneId st' hst'
  · obtain ⟨st', hst', -⟩ := leaveNativeGroup_total
      (restartDownstreamForPlay_total env st.load) st id (Nat.le_refl _)
    refine ⟨st', fun depth hdepth => leaveNativeGroup_mono (fun _ _ _ _ hrestart =>
      restartDownstreamForPlay_mono env hdepth hrestart) hst', ?_⟩
    rintro stack goal rfl
    exact leave_chain (restartDownstreamForPlay_chain st.load) stack goal hst'
  · intro force rounds enough
    exact promotions_eq env force st.cohorts st rfl rounds enough
  · intro run calls start taken
    constructor
    · have hlength := length_add_measure_le
        (fun state : List Frame × BridgeRuntime => callBudget state.1 state.2)
        (fun _ _ move => Inner.callBudget_lt move) taken
      simp only [start] at hlength
      omega
    · intro stuck
      cases hstack : (run calls).1 with
      | nil => rfl
      | cons frame stack =>
        rw [hstack] at stuck
        obtain ⟨stack', st', move⟩ := Inner.exists_move env frame stack (run calls).2
        exact absurd move (stuck stack' st')

end AirSonos
