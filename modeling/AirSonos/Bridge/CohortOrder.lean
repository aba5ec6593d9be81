import AirSonos.Bridge.Generations

/-!
# Cohorts in order

A cohort that opens later starts later, and a session is listed once. So the first cohort that
must wait holds back only cohorts that must wait too, and as many prepared streams as listed
sessions are one for each of them.
-/

namespace AirSonos

open BridgeRuntime

variable {env : Env} {guard : BridgeRuntime → BridgeLabel → Prop}

def Frame.isLeaving : Frame → Bool
  | .leaving _ _ => true
  | _ => false

/-- Below work on cohorts there are only sessions that leave their groups. -/
def Shaped : List Frame → Prop
  | .starting _ _ _ :: .checking :: rest => rest.all Frame.isLeaving = true
  | .starting _ _ _ :: rest => rest = []
  | .checking :: rest => rest.all Frame.isLeaving = true
  | .leaving _ _ :: rest => rest.all Frame.isLeaving = true
  | [] => True

theorem Shaped.of_leaving {stack : List Frame} (h : stack.all Frame.isLeaving = true) :
    Shaped stack := by
  cases stack with
  | nil => trivial
  | cons frame rest =>
    cases frame with
    | leaving goal todo => exact h
    | checking => cases h
    | starting release todo roles => cases h

theorem Shaped.inner {stack stack' : List Frame} {st st' : BridgeRuntime} (h : Shaped stack)
    (move : Inner env stack st stack' st') : Shaped stack' := by
  cases move with
  | memberSkipped => exact h
  | memberRestarted => exact h
  | built => exact h
  | pauseFinished => exact h
  | stopFinished => exact h
  | cohortDropped => exact h
  | cohortReleased => exact h
  | @streamStarted stack _ release stream rest roles =>
    cases stack with
    | nil => exact h
    | cons frame below => cases frame <;> exact h
  | startsDone =>
    cases stack' with
    | nil => trivial
    | cons frame below =>
      cases frame with
      | checking => exact h
      | _ => cases h
  | _ => exact .of_leaving h

theorem Shaped.move {stack stack' : List Frame} {st st' : BridgeRuntime} (h : Shaped stack)
    (move : Move env guard stack st stack' st') : Shaped stack' := by
  cases move with
  | inner move => exact h.inner move
  | preparedPlayed => exact rfl
  | _ => trivial

/-- Later cohorts start later, and each session is listed once. -/
structure Ordered (env : Env) (now : Instant) (cohorts : List SyncCohort) : Prop where
  once : (cohorts.flatMap SyncCohort.sessions).Nodup
  keys : ∀ cohort ∈ cohorts, ∀ id ∈ cohort.prepared.keys, id ∈ cohort.sessions
  window : ∀ cohort ∈ cohorts, cohort.windowDeadline ≤ cohort.startDeadline
  opened : ∀ cohort ∈ cohorts,
    cohort.startDeadline ≤ now + Duration.fromMillis env.config.sync.startDeadlineMs
  sorted : cohorts.Pairwise fun cohort later => cohort.startDeadline ≤ later.startDeadline

namespace Ordered

variable {now : Instant} {cohort : SyncCohort} {cohorts rest : List SyncCohort}

theorem nil : Ordered env now [] where
  once := .nil
  keys := fun _ h => nomatch h
  window := fun _ h => nomatch h
  opened := fun _ h => nomatch h
  sorted := .nil

theorem later (h : Ordered env now cohorts) {now' : Instant} (hnow : now ≤ now') :
    Ordered env now' cohorts :=
  { h with opened := fun cohort hmem => (h.opened cohort hmem).trans (Nat.add_le_add_right hnow _) }

theorem tail (h : Ordered env now (cohort :: rest)) : Ordered env now rest where
  once := (List.nodup_append.mp (List.flatMap_cons ▸ h.once)).2.1
  keys := fun other hmem => h.keys other (List.mem_cons_of_mem _ hmem)
  window := fun other hmem => h.window other (List.mem_cons_of_mem _ hmem)
  opened := fun other hmem => h.opened other (List.mem_cons_of_mem _ hmem)
  sorted := h.sorted.of_cons

/-- Sessions leave the cohort, or prepared streams of listed sessions come in. -/
structure Shrinks (cohort cohort' : SyncCohort) : Prop where
  sessions : cohort'.sessions.Sublist cohort.sessions
  keys : (∀ id ∈ cohort.prepared.keys, id ∈ cohort.sessions) →
    ∀ id ∈ cohort'.prepared.keys, id ∈ cohort'.sessions
  window : cohort'.windowDeadline = cohort.windowDeadline
  start : cohort'.startDeadline = cohort.startDeadline

theorem Shrinks.refl (cohort : SyncCohort) : Shrinks cohort cohort :=
  ⟨.refl _, id, rfl, rfl⟩

theorem shrinks_refl (cohorts : List SyncCohort) : List.Forall₂ Shrinks cohorts cohorts :=
  List.forall₂_same.mpr fun cohort _ => .refl cohort

theorem shrink (h : Ordered env now cohorts) {cohorts' : List SyncCohort}
    (shrinks : List.Forall₂ Shrinks cohorts cohorts') : Ordered env now cohorts' := by
  induction shrinks with
  | nil => exact h
  | @cons cohort cohort' rest rest' first others ih =>
    have hrest := ih h.tail
    have hsub : (rest'.flatMap SyncCohort.sessions).Sublist (rest.flatMap SyncCohort.sessions) := by
      clear ih hrest h first
      induction others with
      | nil => exact .slnil
      | cons first _ ih => exact first.sessions.append ih
    have hstart (bound : Instant) (hbound : ∀ later ∈ rest, bound ≤ later.startDeadline) :
        ∀ later ∈ rest', bound ≤ later.startDeadline := by
      clear ih hrest h hsub
      induction others with
      | nil => exact hbound
      | cons first _ ih =>
        intro later hmem
        rcases List.mem_cons.mp hmem with rfl | hmem
        · rw [first.start]
          exact hbound _ List.mem_cons_self
        · exact ih (fun later hlater => hbound later (List.mem_cons_of_mem _ hlater)) later hmem
    refine ⟨?_, ?_, ?_, ?_, ?_⟩
    · exact h.once.sublist (first.sessions.append hsub)
    · exact List.forall_mem_cons.mpr ⟨first.keys (h.keys cohort List.mem_cons_self), hrest.keys⟩
    · refine List.forall_mem_cons.mpr ⟨?_, hrest.window⟩
      rw [first.window, first.start]
      exact h.window cohort List.mem_cons_self
    · refine List.forall_mem_cons.mpr ⟨?_, hrest.opened⟩
      rw [first.start]
      exact h.opened cohort List.mem_cons_self
    · refine List.pairwise_cons.mpr ⟨?_, hrest.sorted⟩
      rw [first.start]
      exact hstart _ (List.pairwise_cons.mp h.sorted).1

theorem shrinks_drop (id : SessionId) (cohort : SyncCohort) : Shrinks cohort (cohort.drop id) := by
  refine ⟨List.filter_sublist, fun hkeys other hkey => ?_, rfl, rfl⟩
  have hother := AList.mem_erase.mp (AList.mem_keys.mpr hkey)
  exact List.mem_filter.mpr ⟨hkeys other (AList.mem_keys.mp hother.2), by simpa using hother.1⟩

theorem shrinks_prune (st : BridgeRuntime) (cohort : SyncCohort) :
    Shrinks cohort (st.pruneCohort cohort) := by
  refine ⟨List.filter_sublist, fun _ id hkey => ?_, rfl, rfl⟩
  obtain ⟨stream, hstream⟩ := AssocMap.mem_keys_iff_lookup.mp hkey
  have hkept := ((AssocMap.lookup_retain_eq_some _ _).mp hstream).2
  simp only [Bool.and_eq_true, List.contains_iff_mem] at hkept
  exact hkept.1

theorem shrinks_insertPrepared (prepared : PreparedDownstream) (cohorts : List SyncCohort) :
    List.Forall₂ Shrinks cohorts (insertPrepared prepared cohorts) := by
  induction cohorts with
  | nil => exact .nil
  | cons cohort rest ih =>
    simp only [insertPrepared]
    split
    · next hlisted =>
      refine .cons ⟨.refl _, fun hkeys id hkey => ?_, rfl, rfl⟩ (shrinks_refl rest)
      rw [AList.keys_insert] at hkey
      rcases List.mem_cons.mp hkey with rfl | hold
      · exact List.contains_iff_mem.mp hlisted
      · exact hkeys id (List.mem_of_mem_erase hold)
    · exact .cons (.refl cohort) ih

theorem drop (h : Ordered env now cohorts) (id : SessionId) :
    Ordered env now (cohorts.map fun cohort => cohort.drop id) := by
  refine h.shrink ?_
  clear h
  induction cohorts with
  | nil => exact .nil
  | cons cohort rest ih => exact .cons (shrinks_drop id cohort) ih

theorem unlisted_drop (cohorts : List SyncCohort) (id : SessionId) :
    id ∉ (cohorts.map fun cohort => cohort.drop id).flatMap SyncCohort.sessions := by
  intro hmem
  obtain ⟨dropped, hdropped, hid⟩ := List.mem_flatMap.mp hmem
  obtain ⟨cohort, -, rfl⟩ := List.mem_map.mp hdropped
  simpa using (List.mem_filter.mp hid).2

/-- The session joins the last cohort. -/
theorem add {before : List SyncCohort} {last : SyncCohort} (h : Ordered env now (before ++ [last]))
    {id : SessionId} (unlisted : id ∉ (before ++ [last]).flatMap SyncCohort.sessions) :
    Ordered env now (before ++ [last.add id]) := by
  have hlisted : (before ++ [last.add id]).flatMap SyncCohort.sessions =
      (before ++ [last]).flatMap SyncCohort.sessions ++ [id] := by
    simp [SyncCohort.add]
  have hcases (P : SyncCohort → Prop) (hP : ∀ cohort ∈ before ++ [last], P cohort)
      (hlast : P last → P (last.add id)) : ∀ cohort ∈ before ++ [last.add id], P cohort := by
    intro cohort hmem
    rcases List.mem_append.mp hmem with hmem | hmem
    · exact hP cohort (List.mem_append_left _ hmem)
    · rw [List.mem_singleton.mp hmem]
      exact hlast (hP last (List.mem_append_right _ List.mem_cons_self))
  refine ⟨?_, ?_, ?_, ?_, ?_⟩
  · rw [hlisted, ← List.concat_eq_append]
    exact h.once.concat unlisted
  · exact hcases _ h.keys fun hkeys other hkey => List.mem_append_left _ (hkeys other hkey)
  · exact hcases _ h.window fun hle => hle
  · exact hcases _ h.opened fun hle => hle
  · obtain ⟨hbefore, -, hle⟩ := List.pairwise_append.mp h.sorted
    refine List.pairwise_append.mpr
      ⟨hbefore, List.pairwise_singleton _ _, fun cohort hmem later hlater => ?_⟩
    rw [List.mem_singleton.mp hlater]
    exact hle cohort hmem last List.mem_cons_self

/-- The session opens a cohort behind the others. -/
theorem openBehind (h : Ordered env now cohorts) {id : SessionId}
    (unlisted : id ∉ cohorts.flatMap SyncCohort.sessions) :
    Ordered env now (cohorts ++ [newCohort env now id]) := by
  have hcases (P : SyncCohort → Prop) (hP : ∀ cohort ∈ cohorts, P cohort)
      (hnew : P (newCohort env now id)) : ∀ cohort ∈ cohorts ++ [newCohort env now id], P cohort := by
    intro cohort hmem
    rcases List.mem_append.mp hmem with hmem | hmem
    · exact hP cohort hmem
    · rw [List.mem_singleton.mp hmem]
      exact hnew
  refine ⟨?_, ?_, ?_, ?_, ?_⟩
  · have hlisted : (cohorts ++ [newCohort env now id]).flatMap SyncCohort.sessions =
        (cohorts.flatMap SyncCohort.sessions).concat id := by
      simp [newCohort]
    rw [hlisted]
    exact h.once.concat unlisted
  · exact hcases _ h.keys fun _ hkey => by cases hkey
  · refine hcases _ h.window (Nat.add_le_add_left ?_ now)
    exact Nat.mul_le_mul_right _ env.config.sync.window_le_deadline
  · exact hcases _ h.opened le_rfl
  · refine List.pairwise_append.mpr ⟨h.sorted, List.pairwise_singleton _ _,
      fun cohort hmem later hlater => ?_⟩
    rw [List.mem_singleton.mp hlater]
    exact h.opened cohort hmem

end Ordered

/-- What the history tells about released and examined cohorts. -/
structure Recorded (history : List HistoryEvent) : Prop where
  released : ∀ cohort now generation, .released cohort now generation ∈ history →
    now < cohort.startDeadline → ∀ id ∈ cohort.sessions, ∃ stream,
      cohort.prepared.lookup id = some stream ∧ generation id = some stream.generation
  checked : ∀ now remaining, .checked now remaining ∈ history → ∀ cohort ∈ remaining,
    ¬(cohort.windowDeadline ≤ now ∧ cohort.startDeadline ≤ now)

theorem Recorded.other {history : List HistoryEvent} {event : HistoryEvent}
    (h : Recorded history)
    (notReleased : ∀ cohort now generation, event ≠ .released cohort now generation)
    (notChecked : ∀ now remaining, event ≠ .checked now remaining) :
    Recorded (event :: history) where
  released := fun cohort now generation hmem => h.released cohort now generation
    ((List.mem_cons.mp hmem).resolve_left fun heq => notReleased _ _ _ heq.symm)
  checked := fun now remaining hmem => h.checked now remaining
    ((List.mem_cons.mp hmem).resolve_left fun heq => notChecked _ _ heq.symm)

theorem Recorded.registered {history : List HistoryEvent} (h : Recorded history)
    (stream : LiveStream) : Recorded (.registered stream :: history) :=
  h.other (fun _ _ _ heq => by cases heq) fun _ _ heq => by cases heq

theorem Recorded.played {history : List HistoryEvent} (h : Recorded history) (release : Release) :
    Recorded (.played release :: history) :=
  h.other (fun _ _ _ heq => by cases heq) fun _ _ heq => by cases heq

/-- A cohort that starts early has as many prepared streams as listed sessions. -/
theorem Recorded.release {history : List HistoryEvent} (h : Recorded history) {st : BridgeRuntime}
    {cohort : SyncCohort} {rest : List SyncCohort} (ordered : Ordered env st.now (cohort :: rest))
    (starts : (st.pruneCohort cohort).shouldStart st.now false = true) :
    Recorded (.released (st.pruneCohort cohort) st.now
      (fun id => (st.session id).map SessionRuntime.generation) :: history) where
  released := fun released now generation hmem => by
    rcases List.mem_cons.mp hmem with heq | hmem
    · cases heq
      intro early id hid
      have hsize : (st.pruneCohort cohort).sessions.length =
          AssocMap.size (st.pruneCohort cohort).prepared := by
        have hlate : ¬(st.pruneCohort cohort).startDeadline ≤ st.now := Nat.not_le.mpr early
        simp only [SyncCohort.shouldStart, Bool.false_or, Bool.or_eq_true, Bool.and_eq_true,
          decide_eq_true_eq, beq_iff_eq] at starts
        exact starts.elim (·.2) fun expired => absurd expired.2 hlate
      obtain ⟨stream, hstream⟩ := AssocMap.covers_of_size_eq
        ((Ordered.shrinks_prune st cohort).keys (ordered.keys cohort List.mem_cons_self)) hsize hid
      refine ⟨stream, hstream, ?_⟩
      have hkept := ((AssocMap.lookup_retain_eq_some _ _).mp hstream).2
      simp only [Bool.and_eq_true, Option.any_eq_true, beq_iff_eq] at hkept
      obtain ⟨session, live, hgeneration⟩ := hkept.2
      exact congrArg (Option.map SessionRuntime.generation) live |>.trans
        (congrArg some hgeneration)
    · exact h.released released now generation hmem
  checked := fun now remaining hmem => h.checked now remaining
    ((List.mem_cons.mp hmem).resolve_left fun heq => by cases heq)

/-- Behind a cohort that must wait every cohort must wait. -/
theorem Recorded.check {history : List HistoryEvent} (h : Recorded history) {now : Instant}
    {cohorts : List SyncCohort} (ordered : Ordered env now cohorts)
    (waits : ∀ cohort, cohorts.head? = some cohort → cohort.shouldStart now false = false) :
    Recorded (.checked now cohorts :: history) where
  released := fun cohort now generation hmem => h.released cohort now generation
    ((List.mem_cons.mp hmem).resolve_left fun heq => by cases heq)
  checked := fun now' remaining hmem => by
    rcases List.mem_cons.mp hmem with heq | hmem
    · cases heq
      cases cohorts with
      | nil => exact fun _ h => nomatch h
      | cons first rest =>
        have hfirst : now < first.startDeadline := by
          have hwaits := waits first rfl
          have hwindow := ordered.window first List.mem_cons_self
          simp only [SyncCohort.shouldStart, Bool.false_or, Bool.or_eq_false_iff,
            Bool.and_eq_false_iff, decide_eq_false_iff_not] at hwaits
          rcases hwaits.2 with hopen | hearly
          · exact (Nat.lt_of_not_le hopen).trans_le hwindow
          · exact Nat.lt_of_not_le hearly
        intro cohort hcohort expired
        rcases List.mem_cons.mp hcohort with rfl | hcohort
        · exact Nat.not_lt.mpr expired.2 hfirst
        · have hle := (List.pairwise_cons.mp ordered.sorted).1 cohort hcohort
          exact Nat.not_lt.mpr (hle.trans expired.2) hfirst
    · exact h.checked now' remaining hmem

structure Scheduled (env : Env) (stack : List Frame) (st : BridgeRuntime) : Prop where
  shaped : Shaped stack
  ordered : Ordered env st.now st.cohorts
  recorded : Recorded st.history
  active : .checking ∉ stack → st.syncCohort = none → st.pendingCohorts = []

theorem not_checking_of_leaving {stack : List Frame} (h : stack.all Frame.isLeaving = true) :
    .checking ∉ stack := by
  intro hmem
  cases List.all_eq_true.mp h _ hmem

theorem cohorts_eq {st st' : BridgeRuntime} (sync : st'.syncCohort = st.syncCohort)
    (pending : st'.pendingCohorts = st.pendingCohorts) : st'.cohorts = st.cohorts := by
  unfold BridgeRuntime.cohorts
  rw [sync, pending]

namespace Scheduled

variable {stack stack' : List Frame} {st st' : BridgeRuntime}

theorem start : Scheduled env [] .new where
  shaped := trivial
  ordered := .nil
  recorded := ⟨fun _ _ _ h => (nomatch h), fun _ _ h => (nomatch h)⟩
  active := fun _ _ => rfl

theorem keep (h : Scheduled env stack st) (shaped : Shaped stack')
    (hstack : .checking ∈ stack → .checking ∈ stack') (sync : st'.syncCohort = st.syncCohort)
    (pending : st'.pendingCohorts = st.pendingCohorts) (now : st.now ≤ st'.now)
    (recorded : Recorded st'.history) : Scheduled env stack' st' where
  shaped := shaped
  ordered := by
    rw [cohorts_eq sync pending]
    exact h.ordered.later now
  recorded := recorded
  active := fun hchecking hnone => by
    rw [pending]
    exact h.active (fun hmem => hchecking (hstack hmem)) (sync.symm.trans hnone)

theorem addSession (h : Scheduled env stack st) (id : SessionId)
    (active : st.syncCohort = none → st.pendingCohorts = []) :
    Ordered env st.now (st.addSessionToSyncCohort env id).cohorts := by
  have hdropped := h.ordered.drop id
  rcases cohorts_addSessionToSyncCohort env st id with
    ⟨before, last, heq, -, hcohorts, -⟩ | ⟨-, hcohorts, -⟩
  · rw [hcohorts]
    rw [heq] at hdropped
    exact hdropped.add (heq ▸ Ordered.unlisted_drop st.cohorts id)
  · rw [hcohorts]
    split
    · next hnone =>
      have hempty : st.cohorts = [] := by
        unfold BridgeRuntime.cohorts
        rw [hnone, active hnone]
        rfl
      rw [hempty]
      exact Ordered.nil.openBehind List.not_mem_nil
    · exact hdropped.openBehind (Ordered.unlisted_drop st.cohorts id)

theorem admitDownstream (h : Scheduled env stack st) {id : SessionId} {zoneId : ZoneId}
    {renderer : Renderer} {liveStream : LiveStream} {rest : List Frame}
    (shaped : Shaped (.checking :: rest)) (active : st.syncCohort = none → st.pendingCohorts = []) :
    Scheduled env (.checking :: rest)
      (st.admitDownstream env id zoneId renderer liveStream) := by
  have hregistered : Scheduled env stack (st.registerStream id liveStream) :=
    h.keep h.shaped (fun hmem => hmem) rfl rfl le_rfl (h.recorded.registered liveStream)
  exact ⟨shaped, hregistered.addSession id active, hregistered.recorded,
    fun hmem => absurd List.mem_cons_self hmem⟩

theorem inner (h : Scheduled env stack st) (move : Inner env stack st stack' st') :
    Scheduled env stack' st' := by
  have shaped := h.shaped.inner move
  cases move with
  | memberSkipped => exact h.keep shaped (by simp) rfl rfl le_rfl h.recorded
  | memberRestarted =>
    exact h.keep shaped (fun hmem => List.mem_cons_of_mem _ (by simpa using hmem)) rfl rfl le_rfl
      h.recorded
  | vanished => exact h.keep shaped (by simp) rfl rfl le_rfl h.recorded
  | rendererMissing => exact h.keep shaped (by simp) rfl rfl le_rfl h.recorded
  | buildFailed => exact h.keep shaped (by simp) rfl rfl le_rfl h.recorded
  | @built stack _ id zoneId session renderer liveStream =>
    have hinvalidated : Scheduled env (.leaving (.restart id zoneId) [] :: stack)
        (st.invalidateDownstream env id zoneId) :=
      h.keep h.shaped (fun hmem => hmem) rfl rfl le_rfl h.recorded
    have hchecking : .checking ∉ .leaving (.restart id zoneId) [] :: stack :=
      not_checking_of_leaving h.shaped
    exact (hinvalidated.admitDownstream shaped (hinvalidated.active hchecking))
  | left => exact h.keep shaped (by simp) rfl rfl le_rfl h.recorded
  | pauseFinished => exact h.keep shaped (by simp) rfl rfl le_rfl h.recorded
  | stopFinished => exact h.keep shaped (by simp) rfl rfl le_rfl h.recorded
  | cohortDropped first =>
    exact ⟨shaped, (first ▸ h.ordered).tail, h.recorded, fun hmem => absurd List.mem_cons_self hmem⟩
  | @cohortReleased stack _ cohort rest first listed starts =>
    have hordered : Ordered env st.now (cohort :: rest) := first ▸ h.ordered
    have hreleased := h.recorded.release hordered starts
    obtain ⟨groupJoins, nextGroupJoins, heq⟩ := openPlay_spec env
      (st.handOver (st.pruneCohort cohort) rest) (st.pruneCohort cohort).preparedStreams
    rw [heq]
    exact ⟨shaped, hordered.tail, hreleased.played _,
      fun hmem => absurd (List.mem_cons_of_mem _ List.mem_cons_self) hmem⟩
  | @cohortKept stack _ cohort rest first listed waits =>
    have hordered : Ordered env st.now (st.pruneCohort cohort :: rest) :=
      (first ▸ h.ordered : Ordered env st.now (cohort :: rest)).shrink
        (.cons (Ordered.shrinks_prune st cohort) (Ordered.shrinks_refl rest))
    refine ⟨shaped, hordered, h.recorded.check hordered ?_, fun _ hnone => by cases hnone⟩
    rintro _ ⟨⟩
    exact waits
  | cohortsDone =>
    have hnone : Ordered env st.now [] := .nil
    exact ⟨shaped, hnone, h.recorded.check hnone nofun, fun _ _ => rfl⟩
  | @streamStarted stack _ release stream rest roles =>
    obtain ⟨planned, playbackRelease, f, heq, -, -⟩ := startStream_spec env release.joins
      release.delays release.cutoff st roles stream
    rw [heq]
    exact h.keep shaped (by simp) rfl rfl le_rfl h.recorded
  | startsDone => exact h.keep shaped (by simp) rfl rfl le_rfl h.recorded

theorem move (h : Scheduled env stack st) (move : Move env guard stack st stack' st') :
    Scheduled env stack' st' := by
  have shaped := h.shaped.move move
  cases move with
  | inner move => exact h.inner move
  | tick elapsed => exact h.keep shaped id rfl rfl (Nat.le_add_right _ _) h.recorded
  | @workerReplied _ zoneId worker reply worker' outputs =>
    obtain ⟨groupJoins, heq⟩ := deliver_eq (st.setWorker zoneId worker') outputs
    rw [heq]
    exact h.keep shaped id rfl rfl le_rfl h.recorded
  | @groupReleased _ zoneId worker stream joins delay since _ found waiting released =>
    obtain ⟨-, rfl⟩ := releaseGroup_spec released
    cases delay <;> exact h.keep shaped id rfl rfl le_rfl h.recorded
  | @startSucceeded _ result =>
    obtain ⟨nativeGroups, heq⟩ := startSucceeded_spec st.takeResult result.sessionId result.outcome
    rw [heq]
    exact h.keep shaped id rfl rfl le_rfl h.recorded
  | @startRetried _ result =>
    obtain ⟨nativeGroups, heq⟩ := startUncertain_spec st.takeResult result.sessionId result.outcome
    rw [heq]
    exact h.keep shaped id rfl rfl le_rfl h.recorded
  | @startExhausted _ result =>
    obtain ⟨nativeGroups, heq⟩ := startUncertain_spec st.takeResult result.sessionId result.outcome
    rw [heq] at shaped ⊢
    exact h.keep shaped (fun hmem => nomatch hmem) rfl rfl le_rfl h.recorded
  | @retryReplayed _ retry rest session prepared =>
    obtain ⟨playbackRelease, heq⟩ := replayPrepared_spec env st.takeRetry retry.sessionId
      retry.zoneId prepared
    rw [heq]
    exact h.keep shaped id rfl rfl le_rfl h.recorded
  | encoderClosed =>
    unfold BridgeRuntime.encoderInputClosed
    split <;> exact h.keep shaped id rfl rfl le_rfl h.recorded
  | @preparedListed _ prepared =>
    refine ⟨shaped, ?_, h.recorded, fun hmem => absurd List.mem_cons_self hmem⟩
    rw [cohorts_enlistPrepared]
    exact h.ordered.shrink (Ordered.shrinks_insertPrepared prepared _)
  | @preparedPlayed _ prepared =>
    obtain ⟨groupJoins, nextGroupJoins, heq⟩ := openPlay_spec env
      (st.takePrepared.keepPrepared prepared) [prepared]
    rw [heq]
    exact h.keep shaped (fun hmem => nomatch hmem) rfl rfl le_rfl (h.recorded.played _)
  | _ => exact h.keep shaped (fun hmem => nomatch hmem) rfl rfl le_rfl h.recorded

end Scheduled

theorem Visited.scheduled {stack : List Frame} {st : BridgeRuntime}
    (h : Visited env guard stack st) : Scheduled env stack st :=
  h.invariant .start fun _ _ _ _ _ scheduled move => scheduled.move move

end AirSonos
