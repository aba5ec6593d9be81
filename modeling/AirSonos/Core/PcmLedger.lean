import AirSonos.Core.PcmAccounting

/-!
# The ledger of a queue of delivered PCM

Every frame the queue has accepted is still queued or has met one fate, and fates are met in
the order of acceptance. The ledger keeps what the callers see and derives the fates from the
lengths alone: what an operation takes from the front and does not return, it drops.
-/

namespace AirSonos.PcmQueue

inductive Fate
  | popped
  | dropped
deriving DecidableEq

/-- `refused` counts the pushes that were refused and counted as drops, `taken` the values
that `take_new_drops` returned, and `lastDrops` the drop count at its last call. -/
structure Ledger where
  state : State
  accepted : List (PcmFrame × Instant)
  fates : List Fate
  popped : List (PcmFrame × Instant)
  refused : Nat
  taken : List Nat
  lastDrops : Nat
deriving DecidableEq

/-- The operations, with the instant each of them reads from the clock. -/
inductive QueueLabel
  | push (frame : PcmFrame) (now : Instant)
  | pop (now : Instant)
  | beginBatch (now : Instant)
  | clear
  | close
  | takeNewDrops
  | stats (now : Instant)

/-- A vector holds at most `ISIZE_MAX` bytes. -/
def QueueLabel.Allocated : QueueLabel → Prop
  | .push frame _ => frame.capacity * 4 ≤ ISIZE_MAX
  | _ => True

def QueueLabel.elimPop {α : Type*} (label : QueueLabel) (other : α) (pop : Instant → α) : α :=
  match label with
  | .pop now => pop now
  | _ => other

namespace Ledger

def new : Ledger := ⟨.empty, [], [], [], 0, [], 0⟩

/-- Books an operation that accepted and returned the given frames. -/
def book (ledger : Ledger) (after : State) (accepted popped : List (PcmFrame × Instant)) :
    Ledger :=
  { ledger with
    state := after
    accepted := ledger.accepted ++ accepted
    popped := ledger.popped ++ popped
    fates := ledger.fates ++
      List.replicate (ledger.state.frames.length + accepted.length -
        (popped.length + after.frames.length)) .dropped ++ popped.map fun _ => .popped }

def step (queue : PcmQueue) (ledger : Ledger) : QueueLabel → Option Ledger
  | .push frame now =>
    (queue.pushAt ledger.state frame now).map fun (after, admission) =>
      { ledger.book after (if admission.accepted then [(frame, now)] else []) [] with
        refused := ledger.refused +
          if !ledger.state.closed && !queue.admits frame then 1 else 0 }
  | .pop now =>
    let (after, entry) := queue.popAt ledger.state now
    some (ledger.book after [] entry.toList)
  | .beginBatch now => some (ledger.book (queue.beginBatch ledger.state now).1 [] [])
  | .clear => some (ledger.book (PcmQueue.clear ledger.state) [] [])
  | .close => some (ledger.book (PcmQueue.close ledger.state) [] [])
  | .takeNewDrops =>
    let (after, drops) := PcmQueue.takeNewDrops ledger.state
    some { ledger.book after [] [] with
      taken := ledger.taken ++ [drops], lastDrops := ledger.state.dropped }
  | .stats now => some (ledger.book (queue.stats ledger.state now).1 [] [])

end Ledger

def ledger (queue : PcmQueue) : TransitionSystem Ledger QueueLabel where
  init := .new
  step := Ledger.step queue

/-! ### Fates -/

/-- The frames whose fate is the given one, in the order of acceptance. -/
def withFate (fate : Fate) (accepted : List (PcmFrame × Instant)) (fates : List Fate) :
    List (PcmFrame × Instant) :=
  ((accepted.zip fates).filter fun entry => entry.2 = fate).map Prod.fst

/-- Every accepted frame is popped, dropped or queued: the fates are those of the oldest
frames, and the queue holds the others. -/
structure Settled (ledger : Ledger) : Prop where
  decided : ledger.fates.length ≤ ledger.accepted.length
  queued : ledger.state.frames = ledger.accepted.drop ledger.fates.length
  popped : ledger.popped = withFate .popped ledger.accepted ledger.fates
  dropped : ledger.state.dropped = ledger.refused + ledger.fates.count .dropped

theorem zip_append_of_le {α β : Type*} {xs : List α} {ys : List β} (h : ys.length ≤ xs.length)
    (more : List α) (next : List β) :
    (xs ++ more).zip (ys ++ next) = xs.zip ys ++ (xs.drop ys.length ++ more).zip next := by
  induction ys generalizing xs with
  | nil => simp
  | cons y ys ih =>
    cases xs with
    | nil => cases h
    | cons x xs =>
      simp only [List.length_cons, Nat.add_le_add_iff_right] at h
      simp [ih h]

theorem withFate_popped (gone : List (PcmFrame × Instant)) (popped rest : List (PcmFrame × Instant)) :
    withFate .popped (gone ++ popped ++ rest)
      (List.replicate gone.length .dropped ++ popped.map fun _ => .popped) = popped := by
  induction gone with
  | nil =>
    induction popped with
    | nil => simp [withFate]
    | cons entry popped ih =>
      simpa [withFate] using ih
  | cons entry gone ih =>
    simpa [withFate, List.replicate_succ] using ih

/-- What an operation does to the frames: it appends those it accepts, and takes from the front
those it loses and then those it returns. -/
structure Moves (before after : State) (accepted gone popped : List (PcmFrame × Instant))
    (refused : Nat) : Prop where
  frames : before.frames ++ accepted = gone ++ popped ++ after.frames
  dropped : after.dropped = before.dropped + gone.length + refused
  reported : after.reportedDropped = before.reportedDropped

/-- What `book` counts as dropped is what is gone, and the open end of the ledger is what leaves
and what stays. -/
theorem Settled.gone {ledger : Ledger} (h : Settled ledger) {after : State}
    {accepted gone popped : List (PcmFrame × Instant)}
    (frames : ledger.state.frames ++ accepted = gone ++ popped ++ after.frames) :
    ledger.state.frames.length + accepted.length - (popped.length + after.frames.length) =
        gone.length ∧
      ledger.accepted.drop ledger.fates.length ++ accepted = gone ++ popped ++ after.frames := by
  constructor
  · have heq := congrArg List.length frames
    simp only [List.length_append] at heq
    omega
  · rw [← h.queued, frames]

theorem Settled.book {ledger : Ledger} (h : Settled ledger) {after : State}
    {accepted gone popped : List (PcmFrame × Instant)} {refused : Nat}
    (moves : Moves ledger.state after accepted gone popped refused) :
    Settled { ledger.book after accepted popped with refused := ledger.refused + refused } := by
  have hdropped := moves.dropped
  obtain ⟨hlength, hsuffix⟩ := h.gone moves.frames
  have hdecided : ledger.fates.length ≤ ledger.accepted.length := h.decided
  have hcount := congrArg List.length hsuffix
  simp only [List.length_append, List.length_drop] at hcount
  constructor
  · simp only [Ledger.book, hlength, List.length_append, List.length_replicate, List.length_map]
    omega
  · have hskip : (ledger.accepted ++ accepted).drop ledger.fates.length =
        gone ++ popped ++ after.frames := by
      rw [List.drop_append_of_le_length hdecided, hsuffix]
    simp only [Ledger.book, hlength, List.length_append, List.length_replicate, List.length_map]
    rw [Nat.add_assoc, ← List.drop_drop, hskip, ← List.length_append, List.drop_left]
  · have hpopped := h.popped
    simp only [withFate] at hpopped
    have hnew := withFate_popped gone popped after.frames
    simp only [withFate] at hnew
    simp only [Ledger.book, hlength, withFate, List.append_assoc ledger.fates,
      zip_append_of_le hdecided, List.filter_append, List.map_append, ← hpopped, hsuffix, hnew]
  · have hnone : (popped.map fun _ => Fate.popped).count .dropped = 0 := by
      apply List.count_eq_zero.mpr
      simp
    have hstate := h.dropped
    simp only [Ledger.book, hlength, List.count_append, List.count_replicate_self, hnone]
    omega

/-! ### The operations -/

variable {queue : PcmQueue} {state after : State} {now : Instant}

theorem Moves.refl (state : State) : Moves state state [] [] [] 0 :=
  ⟨by simp, rfl, rfl⟩

theorem Moves.discards (state : State) {n : Nat} (hn : n ≤ state.frames.length) :
    Moves state (queue.discardFront^[n] state) [] (state.frames.take n) [] 0 where
  frames := by simp
  dropped := by
    rw [discards_dropped state hn, List.length_take_of_le hn]
    rfl
  reported := discards_reportedDropped state n

/-- What comes after a loss takes from what the loss has left. -/
theorem Moves.after_loss {before middle after : State}
    {accepted gone lost popped : List (PcmFrame × Instant)} {refused : Nat}
    (loss : Moves before middle [] lost [] 0) (next : Moves middle after accepted gone popped refused) :
    Moves before after accepted (lost ++ gone) popped refused where
  frames := by
    have hloss := loss.frames
    simp only [List.append_nil] at hloss
    simp only [hloss, List.append_assoc, next.frames]
  dropped := by
    rw [next.dropped, loss.dropped, List.length_append]
    omega
  reported := next.reported.trans loss.reported

theorem expire_moves (state : State) (now : Instant) :
    Moves state (queue.expire state now) [] (queue.expired state now) [] 0 := by
  have hmoves : Moves state (queue.discardFront^[(queue.expired state now).length] state) []
      (state.frames.take (queue.expired state now).length) [] 0 :=
    .discards state (expired_length_le state now)
  rw [take_expired, ← expire_eq_discards] at hmoves
  exact hmoves

theorem Balanced.expire (h : queue.Balanced state) (now : Instant) :
    queue.Balanced (queue.expire state now) := by
  rw [expire_eq_discards]
  exact h.discards _

theorem Within.expire (h : queue.Within state) (now : Instant) :
    queue.Within (queue.expire state now) := by
  rw [expire_eq_discards]
  exact h.discards _

/-- An accepted push loses the frames that expire, then those it evicts. -/
theorem accepted_moves (frame : PcmFrame) (now : Instant) {n : Nat}
    (hn : n ≤ (queue.expire state now).frames.length) :
    Moves state (queue.append (queue.discardFront^[n] (queue.expire state now)) frame now).1
      [(frame, now)] (queue.expired state now ++ (queue.expire state now).frames.take n) [] 0 := by
  rw [← List.append_nil ((queue.expire state now).frames.take n)]
  apply (expire_moves state now).after_loss
  apply Moves.after_loss (.discards _ hn)
  exact ⟨rfl, rfl, rfl⟩

theorem Within.append (h : queue.Within state) {frame : PcmFrame}
    (hroom : queue.needsRoom state frame = false) (now : Instant) :
    queue.Within (queue.append state frame now).1 := by
  simp only [needsRoom, Bool.or_eq_false_iff, decide_eq_false_iff_not, Nat.not_lt] at hroom
  constructor
  · constructor
    · simp [PcmQueue.append, h.samples]
    · simp [PcmQueue.append, h.bytes]
  · exact hroom.1
  · exact hroom.2

theorem isPermitFree_of_isExpired {entry : PcmFrame × Instant}
    (h : queue.isExpired now entry = true) : isPermitFree entry = true := by
  rw [isExpired, Bool.and_eq_true] at h
  exact h.1

theorem isExpired_of_mem {entry : PcmFrame × Instant} (h : entry ∈ queue.expired state now) :
    queue.isExpired now entry = true :=
  List.mem_takeWhile_imp h

/-- A push loses the frames that expire and those it evicts. None of them holds a permit. -/
theorem pushAt_loses {frame : PcmFrame} {admission : PcmAdmission}
    (h : queue.pushAt state frame now = some (after, admission)) :
    ∃ gone, Moves state after (if admission.accepted then [(frame, now)] else []) gone []
        (if !state.closed && !queue.admits frame then 1 else 0) ∧
      ∀ entry ∈ gone, isPermitFree entry = true ∧ state.closed = false := by
  have hloses : ∀ n, state.closed = false →
      (∀ other ∈ (queue.expire state now).frames.take n, isPermitFree other = true) →
      ∀ entry ∈ queue.expired state now ++ (queue.expire state now).frames.take n,
        isPermitFree entry = true ∧ state.closed = false := by
    intro n hopen hfree entry hentry
    refine ⟨?_, hopen⟩
    obtain hexpired | hevicted := List.mem_append.mp hentry
    · exact isPermitFree_of_isExpired (isExpired_of_mem hexpired)
    · exact hfree entry hevicted
  cases pushAt_pushed h with
  | closed hclosed =>
    rw [hclosed]
    exact ⟨[], .refl state, List.forall_mem_nil _⟩
  | turnedAway hopen hadmits =>
    rw [hopen, hadmits]
    exact ⟨[], ⟨by simp, rfl, rfl⟩, List.forall_mem_nil _⟩
  | @refused n entry rest hopen hadmits hfree hfront hpermit hneeds =>
    have hn : n ≤ (queue.expire state now).frames.length := by
      by_contra hlong
      rw [List.drop_eq_nil_of_le (Nat.le_of_not_le hlong)] at hfront
      cases hfront
    refine ⟨_, ?_, hloses n hopen hfree⟩
    rw [hopen, hadmits]
    exact (expire_moves state now).after_loss (.discards _ hn)
  | @accepted n hopen hadmits hn hfree hneeded hroom =>
    refine ⟨_, ?_, hloses n hopen hfree⟩
    rw [hopen, hadmits]
    exact accepted_moves frame now hn

theorem pushAt_moves {frame : PcmFrame} {admission : PcmAdmission}
    (h : queue.pushAt state frame now = some (after, admission)) :
    ∃ gone, Moves state after (if admission.accepted then [(frame, now)] else []) gone []
      (if !state.closed && !queue.admits frame then 1 else 0) := by
  obtain ⟨gone, hmoves, -⟩ := pushAt_loses h
  exact ⟨gone, hmoves⟩

theorem Within.pushAt (hstate : queue.Within state) {frame : PcmFrame} {admission : PcmAdmission}
    (h : queue.pushAt state frame now = some (after, admission)) : queue.Within after := by
  cases pushAt_pushed h with
  | closed => exact hstate
  | turnedAway => exact ⟨⟨hstate.samples, hstate.bytes⟩, hstate.samples_le, hstate.bytes_le⟩
  | refused => exact (hstate.expire now).discards _
  | accepted _ _ _ _ _ hroom => exact ((hstate.expire now).discards _).append hroom now

theorem popAt_moves (state : State) (now : Instant) :
    Moves state (queue.popAt state now).1 [] (queue.expired state now)
      (queue.popAt state now).2.toList 0 := by
  rw [← List.append_nil (queue.expired state now)]
  refine (expire_moves state now).after_loss ?_
  simp only [popAt]
  split
  · exact ⟨by simp, rfl, rfl⟩
  · case h_2 frame arrived rest hframes =>
    refine ⟨?_, rfl, rfl⟩
    rw [hframes, List.append_nil]
    rfl

theorem Within.popAt (h : queue.Within state) (now : Instant) :
    queue.Within (queue.popAt state now).1 := by
  have hexpired : queue.Within (queue.expire state now) := h.expire now
  simp only [PcmQueue.popAt]
  split
  · exact ⟨⟨hexpired.samples, hexpired.bytes⟩, hexpired.samples_le, hexpired.bytes_le⟩
  · case h_2 frame arrived rest hframes =>
    have hnext : queue.Within (queue.discardFront (queue.expire state now)) := hexpired.discards 1
    rw [discardFront_of_cons hframes] at hnext
    exact ⟨⟨hnext.samples, hnext.bytes⟩, hnext.samples_le, hnext.bytes_le⟩

theorem clear_moves (state : State) : Moves state (clear state) [] state.frames [] 0 :=
  ⟨by simp [clear], rfl, rfl⟩

theorem Within.clear : queue.Within (clear state) :=
  ⟨⟨rfl, rfl⟩, Nat.zero_le _, Nat.zero_le _⟩

/-! ### Every run -/

variable (queue) in
/-- The counters that an operation subtracts the front frame from cover it, however many frames
the operation has discarded before. -/
def Covered (state : State) : Prop :=
  ∀ n entry rest, (queue.discardFront^[n] state).frames = entry :: rest →
    entry.1.samples.length ≤ (queue.discardFront^[n] state).samples ∧
      queue.allocated entry.1 ≤ (queue.discardFront^[n] state).allocatedBytes

theorem Balanced.covered (h : queue.Balanced state) : queue.Covered state := by
  intro n entry rest hframes
  have hsamples := (h.discards n).samples
  have hbytes := (h.discards n).bytes
  rw [hframes, sampleSum_cons] at hsamples
  rw [hframes, byteSum_cons] at hbytes
  omega

/-- The drops that were reported. -/
structure Reported (ledger : Ledger) : Prop where
  reported_le : ledger.state.reportedDropped ≤ ledger.state.dropped
  last : ledger.lastDrops = ledger.state.reportedDropped
  taken : ledger.taken.sum = ledger.lastDrops

variable (queue) in
structure Accounted (ledger : Ledger) : Prop extends
    queue.Within ledger.state, Settled ledger, Reported ledger where
  covered : queue.Covered ledger.state

theorem Reported.book {ledger : Ledger} (h : Reported ledger) {after : State}
    {accepted gone popped : List (PcmFrame × Instant)} {refused : Nat}
    (moves : Moves ledger.state after accepted gone popped refused) :
    Reported { ledger.book after accepted popped with refused := ledger.refused + refused } where
  reported_le := by
    simp only [Ledger.book, moves.reported, moves.dropped]
    exact h.reported_le.trans (by omega)
  last := h.last.trans moves.reported.symm
  taken := h.taken

theorem Accounted.book {ledger : Ledger} (h : queue.Accounted ledger) {after : State}
    {accepted gone popped : List (PcmFrame × Instant)} {refused : Nat}
    (moves : Moves ledger.state after accepted gone popped refused)
    (within : queue.Within after) :
    queue.Accounted
      { ledger.book after accepted popped with refused := ledger.refused + refused } where
  toWithin := within
  toSettled := h.toSettled.book moves
  toReported := h.toReported.book moves
  covered := within.toBalanced.covered

theorem Accounted.takeNewDrops {ledger after : Ledger} (h : queue.Accounted ledger)
    (taken : Ledger.step queue ledger .takeNewDrops = some after) : queue.Accounted after := by
  cases taken
  have hsettled : Settled { ledger.book ledger.state [] [] with refused := ledger.refused + 0 } :=
    h.toSettled.book (.refl _)
  refine { toWithin := ?_, toSettled := ?_, toReported := ?_, covered := ?_ }
  · exact ⟨⟨h.samples, h.bytes⟩, h.samples_le, h.bytes_le⟩
  · exact ⟨hsettled.decided, hsettled.queued, hsettled.popped, hsettled.dropped⟩
  · constructor
    · exact Nat.le_refl _
    · rfl
    · have hreported := h.reported_le
      have htaken : ledger.taken.sum = ledger.state.reportedDropped := h.taken.trans h.last
      simp only [List.sum_append, List.sum_singleton, htaken]
      omega
  · exact Balanced.covered ⟨h.samples, h.bytes⟩

theorem Accounted.step {ledger after : Ledger} {label : QueueLabel} (h : queue.Accounted ledger)
    (taken : Ledger.step queue ledger label = some after) : queue.Accounted after := by
  cases label with
  | push frame now =>
    obtain ⟨⟨state, admission⟩, hpush, rfl⟩ := Option.map_eq_some_iff.mp taken
    obtain ⟨gone, hmoves⟩ := pushAt_moves hpush
    exact h.book hmoves (h.toWithin.pushAt hpush)
  | pop now =>
    cases taken
    exact h.book (popAt_moves _ now) (h.toWithin.popAt now)
  | beginBatch now =>
    cases taken
    have hexpired : queue.Within (queue.expire ledger.state now) := h.toWithin.expire now
    have hmoves : Moves ledger.state (queue.beginBatch ledger.state now).1 []
        (queue.expired ledger.state now) [] 0 :=
      ⟨(expire_moves _ now).frames, (expire_moves _ now).dropped, (expire_moves _ now).reported⟩
    exact h.book hmoves
      ⟨⟨hexpired.samples, hexpired.bytes⟩, hexpired.samples_le, hexpired.bytes_le⟩
  | clear =>
    cases taken
    exact h.book (clear_moves _) .clear
  | close =>
    cases taken
    have hmoves : Moves ledger.state (PcmQueue.close ledger.state) [] [] [] 0 :=
      ⟨by simp [PcmQueue.close], rfl, rfl⟩
    exact h.book hmoves ⟨⟨h.samples, h.bytes⟩, h.samples_le, h.bytes_le⟩
  | takeNewDrops => exact h.takeNewDrops taken
  | stats now =>
    cases taken
    exact h.book (expire_moves _ now) (h.toWithin.expire now)

theorem accounted_new : queue.Accounted .new := by
  refine { toWithin := ?_, toSettled := ?_, toReported := ?_, covered := ?_ }
  · exact ⟨⟨rfl, rfl⟩, Nat.zero_le _, Nat.zero_le _⟩
  · exact ⟨Nat.le_refl _, rfl, rfl, rfl⟩
  · exact ⟨Nat.le_refl _, rfl, rfl⟩
  · exact Balanced.covered ⟨rfl, rfl⟩

theorem Accounted.of_reachable {after : Ledger} (h : (ledger queue).Reachable after) :
    queue.Accounted after :=
  TransitionSystem.Reachable.invariant accounted_new (fun _ _ _ hs taken => hs.step taken) h

theorem reachable_step {before after : Ledger} {label : QueueLabel}
    (h : (ledger queue).Reachable before) (taken : Ledger.step queue before label = some after) :
    (ledger queue).Reachable after :=
  TransitionSystem.Reachable.next h taken

/-- Only a pop returns a frame. -/
theorem step_popped {before after : Ledger} {label : QueueLabel}
    (taken : Ledger.step queue before label = some after) :
    after.popped = before.popped ++ label.elimPop [] fun now =>
      (queue.popAt before.state now).2.toList := by
  cases label with
  | push frame now =>
    obtain ⟨⟨state, admission⟩, hpush, rfl⟩ := Option.map_eq_some_iff.mp taken
    rfl
  | pop now =>
    cases taken
    rfl
  | beginBatch now =>
    cases taken
    rfl
  | clear =>
    cases taken
    rfl
  | close =>
    cases taken
    rfl
  | takeNewDrops =>
    cases taken
    rfl
  | stats now =>
    cases taken
    rfl

/-- Only frames that pass the checks are accepted. -/
theorem step_accepted {before after : Ledger} {label : QueueLabel}
    (taken : Ledger.step queue before label = some after) :
    ∃ added, after.accepted = before.accepted ++ added ∧
      ∀ entry ∈ added, queue.admits entry.1 = true := by
  cases label with
  | push frame now =>
    obtain ⟨⟨state, admission⟩, hpush, rfl⟩ := Option.map_eq_some_iff.mp taken
    refine ⟨_, rfl, ?_⟩
    cases pushAt_pushed hpush with
    | closed => exact List.forall_mem_nil _
    | turnedAway => exact List.forall_mem_nil _
    | refused => exact List.forall_mem_nil _
    | accepted _ hadmits => exact List.forall_mem_singleton.mpr hadmits
  | pop now =>
    cases taken
    exact ⟨[], rfl, List.forall_mem_nil _⟩
  | beginBatch now =>
    cases taken
    exact ⟨[], rfl, List.forall_mem_nil _⟩
  | clear =>
    cases taken
    exact ⟨[], rfl, List.forall_mem_nil _⟩
  | close =>
    cases taken
    exact ⟨[], rfl, List.forall_mem_nil _⟩
  | takeNewDrops =>
    cases taken
    exact ⟨[], rfl, List.forall_mem_nil _⟩
  | stats now =>
    cases taken
    exact ⟨[], rfl, List.forall_mem_nil _⟩

theorem admits_of_reachable {after : Ledger} (h : (ledger queue).Reachable after) :
    ∀ entry ∈ after.accepted, queue.admits entry.1 = true := by
  refine TransitionSystem.Reachable.invariant
    (I := fun ledger => ∀ entry ∈ ledger.accepted, queue.admits entry.1 = true) ?_ ?_ h
  · exact List.forall_mem_nil _
  · intro s label t hs taken entry hentry
    obtain ⟨added, haccepted, hadded⟩ := step_accepted taken
    rw [haccepted] at hentry
    obtain hold | hnew := List.mem_append.mp hentry
    · exact hs entry hold
    · exact hadded entry hnew

/-! ### What leaves the queue -/

/-- From one ledger to a later one frames come in at the back and leave at the front. Those that
leave are returned in their order, or there is a reason why not. Nothing enters a closed queue. -/
structure Passes (reason : PcmFrame × Instant → Prop) (before after : Ledger) : Prop where
  frames : ∃ (added : List (PcmFrame × Instant)) (left : List ((PcmFrame × Instant) × Fate)),
    after.accepted = before.accepted ++ added ∧
    before.state.frames ++ added = left.map Prod.fst ++ after.state.frames ∧
    after.popped = before.popped ++ (left.filter fun entry => entry.2 = Fate.popped).map Prod.fst ∧
    (∀ entry, (entry, Fate.dropped) ∈ left → reason entry) ∧
    (before.state.closed = true → added = [])
  closed : before.state.closed = true → after.state.closed = true

/-- An operation drops frames that have expired, frames it evicts, or all of them. -/
def QueueLabel.Loses (queue : PcmQueue) (closed : Bool) :
    QueueLabel → PcmFrame × Instant → Prop
  | .push _ _, entry => isPermitFree entry = true ∧ closed = false
  | .pop now, entry => queue.isExpired now entry = true
  | .beginBatch now, entry => queue.isExpired now entry = true
  | .stats now, entry => queue.isExpired now entry = true
  | .clear, _ => True
  | .close, _ => False
  | .takeNewDrops, _ => False

theorem QueueLabel.Loses.of_closed_le {label : QueueLabel} {closed closed' : Bool}
    {entry : PcmFrame × Instant} (h : label.Loses queue closed' entry)
    (le : closed = true → closed' = true) : label.Loses queue closed entry := by
  cases label with
  | push frame now =>
    refine ⟨h.1, ?_⟩
    cases closed with
    | false => rfl
    | true => exact absurd ((le rfl).symm.trans h.2) nofun
  | _ => exact h

section Passing

variable {reason : PcmFrame × Instant → Prop} {before last : Ledger}

theorem Passes.refl (all : Ledger) : Passes reason all all :=
  ⟨⟨[], [], by simp, by simp, by simp, nofun, fun _ => rfl⟩, id⟩

theorem Passes.mono {weaker : PcmFrame × Instant → Prop} (h : Passes reason before last)
    (le : ∀ entry, reason entry → weaker entry) : Passes weaker before last := by
  obtain ⟨⟨added, left, haccepted, hframes, hpopped, hlost, hnone⟩, hclosed⟩ := h
  exact ⟨⟨added, left, haccepted, hframes, hpopped, fun entry hmem => le _ (hlost entry hmem),
    hnone⟩, hclosed⟩

theorem Passes.trans {middle : Ledger} (first : Passes reason before middle)
    (next : Passes reason middle last) : Passes reason before last := by
  obtain ⟨⟨added, left, haccepted, hframes, hpopped, hlost, hnone⟩, hclosed⟩ := first
  obtain ⟨⟨added', left', haccepted', hframes', hpopped', hlost', hnone'⟩, hclosed'⟩ := next
  refine ⟨⟨added ++ added', left ++ left', ?_, ?_, ?_, ?_, ?_⟩, fun h => hclosed' (hclosed h)⟩
  · rw [haccepted', haccepted, List.append_assoc]
  · rw [← List.append_assoc, hframes, List.append_assoc, hframes', List.map_append,
      List.append_assoc]
  · rw [hpopped', hpopped, List.filter_append, List.map_append, List.append_assoc]
  · intro entry hmem
    obtain hold | hnew := List.mem_append.mp hmem
    · exact hlost entry hold
    · exact hlost' entry hnew
  · intro h
    rw [hnone h, hnone' (hclosed h)]
    rfl

theorem passes_of_frames {accepted gone popped : List (PcmFrame × Instant)}
    (frames : before.state.frames ++ accepted = gone ++ popped ++ last.state.frames)
    (haccepted : last.accepted = before.accepted ++ accepted)
    (hpopped : last.popped = before.popped ++ popped) (hreason : ∀ entry ∈ gone, reason entry)
    (hclosed : before.state.closed = true → last.state.closed = true ∧ accepted = []) :
    Passes reason before last := by
  refine ⟨⟨accepted, (gone.map fun entry => (entry, Fate.dropped)) ++
    popped.map fun entry => (entry, Fate.popped), haccepted, ?_, ?_, ?_, fun h => (hclosed h).2⟩,
    fun h => (hclosed h).1⟩
  · rw [frames]
    simp [Function.comp_def]
  · rw [hpopped, List.filter_append]
    simp [List.filter_map, Function.comp_def]
  · intro entry hmem
    obtain hgone | hreturned := List.mem_append.mp hmem
    · obtain ⟨other, hother, heq⟩ := List.mem_map.mp hgone
      cases heq
      exact hreason entry hother
    · obtain ⟨other, -, heq⟩ := List.mem_map.mp hreturned
      cases heq

theorem step_passes {label : QueueLabel} (taken : Ledger.step queue before label = some last) :
    Passes (label.Loses queue before.state.closed) before last := by
  have hexpires : ∀ now, ∀ entry ∈ queue.expired before.state now,
      queue.isExpired now entry = true := fun now entry => isExpired_of_mem
  cases label with
  | push frame now =>
    obtain ⟨⟨state, admission⟩, hpush, rfl⟩ := Option.map_eq_some_iff.mp taken
    obtain ⟨gone, hmoves, hloses⟩ := pushAt_loses hpush
    refine passes_of_frames hmoves.frames rfl rfl hloses ?_
    intro hclosed
    refine ⟨(pushAt_closed hpush).trans hclosed, ?_⟩
    cases pushAt_pushed hpush with
    | closed => rfl
    | turnedAway hopen => exact absurd (hclosed.symm.trans hopen) nofun
    | refused hopen => exact absurd (hclosed.symm.trans hopen) nofun
    | accepted hopen => exact absurd (hclosed.symm.trans hopen) nofun
  | pop now =>
    cases taken
    refine passes_of_frames (popAt_moves before.state now).frames rfl rfl (hexpires now) ?_
    intro hclosed
    exact ⟨(popAt_closed before.state now).trans hclosed, rfl⟩
  | beginBatch now =>
    cases taken
    refine passes_of_frames (expire_moves before.state now).frames rfl rfl (hexpires now) ?_
    intro hclosed
    exact ⟨(expire_closed before.state now).trans hclosed, rfl⟩
  | clear =>
    cases taken
    refine passes_of_frames (clear_moves before.state).frames rfl rfl (fun _ _ => trivial) ?_
    intro hclosed
    exact ⟨hclosed, rfl⟩
  | close =>
    cases taken
    refine passes_of_frames (List.append_nil _) rfl rfl (List.forall_mem_nil _) ?_
    intro _
    exact ⟨rfl, rfl⟩
  | takeNewDrops =>
    cases taken
    refine passes_of_frames (List.append_nil _) rfl rfl (List.forall_mem_nil _) ?_
    intro hclosed
    exact ⟨hclosed, rfl⟩
  | stats now =>
    cases taken
    refine passes_of_frames (expire_moves before.state now).frames rfl rfl (hexpires now) ?_
    intro hclosed
    exact ⟨(expire_closed before.state now).trans hclosed, rfl⟩

/-- Whatever is done with a queue, a frame that leaves it is returned in its turn, or some
operation has dropped it for a reason. -/
theorem run_passes {labels : List QueueLabel}
    (hrun : (ledger queue).run before labels = some last) :
    Passes (fun entry => ∃ label ∈ labels, label.Loses queue before.state.closed entry)
      before last := by
  induction labels generalizing before with
  | nil =>
    cases hrun
    exact .refl _
  | cons label labels ih =>
    obtain ⟨middle, htaken, hrest⟩ := Option.bind_eq_some_iff.mp hrun
    have hstep := step_passes htaken
    refine (hstep.mono ?_).trans ((ih hrest).mono ?_)
    · intro entry hloses
      exact ⟨label, List.mem_cons_self, hloses⟩
    · rintro entry ⟨later, hmem, hloses⟩
      exact ⟨later, List.mem_cons_of_mem _ hmem, hloses.of_closed_le hstep.closed⟩

end Passing

theorem Settled.popped_subset {ledger : Ledger} (h : Settled ledger) :
    ledger.popped ⊆ ledger.accepted := by
  intro entry hentry
  rw [h.popped, withFate, List.mem_map] at hentry
  obtain ⟨⟨entry, fate⟩, hmem, rfl⟩ := hentry
  exact (List.of_mem_zip (List.mem_of_mem_filter hmem)).1

theorem Balanced.emptied (h : queue.Balanced state) :
    (queue.discardFront^[state.frames.length] state).samples = 0 ∧
      (queue.discardFront^[state.frames.length] state).allocatedBytes = 0 := by
  have hall := h.discards state.frames.length
  constructor
  · rw [hall.samples, discards_frames, List.drop_length, sampleSum_nil]
  · rw [hall.bytes, discards_frames, List.drop_length, byteSum_nil]

/-- The byte limit holds the entry of a vector that is within the sample limit. -/
theorem allocated_le_maxBytes {capacity entrySize maxSamples : Nat} (entry_le : entrySize ≤ 1024)
    (allocated : capacity * 4 ≤ ISIZE_MAX) (hcapacity : capacity ≤ maxSamples) :
    capacity * 4 + entrySize ≤ min (min (maxSamples * 8) USIZE_MAX + 1024) USIZE_MAX := by
  have husize : ISIZE_MAX + 1024 ≤ USIZE_MAX := by decide
  apply Nat.le_min.mpr
  constructor
  · have hleft : capacity * 4 ≤ min (maxSamples * 8) USIZE_MAX := by
      apply Nat.le_min.mpr
      constructor <;> omega
    omega
  · omega

/-- A frame that passes the checks fits an empty queue. -/
theorem admitted_fits_empty {entrySize sampleRate channels : Nat} {duration : Duration}
    {frame : PcmFrame} {state : State} (entry_le : entrySize ≤ 1024)
    (allocated : frame.capacity * 4 ≤ ISIZE_MAX)
    (hadmits : (new entrySize sampleRate channels duration).admits frame = true)
    (hsamples : state.samples = 0) (hbytes : state.allocatedBytes = 0) :
    (new entrySize sampleRate channels duration).needsRoom state frame = false := by
  simp only [admits, Bool.and_eq_true, decide_eq_true_eq] at hadmits
  obtain ⟨⟨⟨⟨⟨⟨_, hlength⟩, hcapacity⟩, _⟩, _⟩, _⟩, _⟩ := hadmits
  simp only [needsRoom, PcmQueue.allocated, hsamples, hbytes, Bool.or_eq_false_iff,
    decide_eq_false_iff_not, Nat.not_lt, Nat.zero_add]
  exact ⟨hlength, allocated_le_maxBytes entry_le allocated hcapacity⟩

theorem pushAt_isSome {entrySize sampleRate channels : Nat} {duration : Duration}
    {frame : PcmFrame} {state : State} (entry_le : entrySize ≤ 1024)
    (allocated : frame.capacity * 4 ≤ ISIZE_MAX)
    (h : (new entrySize sampleRate channels duration).Balanced state) (now : Instant) :
    ((new entrySize sampleRate channels duration).pushAt state frame now).isSome = true := by
  simp only [pushAt]
  split
  · rfl
  · split
    · case isTrue hadmits =>
      rw [Option.isSome_map]
      apply evictLoop_isSome rfl
      obtain ⟨hsamples, hbytes⟩ := (h.expire now).emptied
      exact admitted_fits_empty entry_le allocated hadmits hsamples hbytes
    · rfl

theorem Accounted.progress {entrySize sampleRate channels : Nat} {duration : Duration}
    {before : Ledger} {label : QueueLabel} (entry_le : entrySize ≤ 1024)
    (allocated : label.Allocated)
    (h : (new entrySize sampleRate channels duration).Accounted before) :
    ∃ after, Ledger.step (new entrySize sampleRate channels duration) before label = some after := by
  cases label with
  | push frame now =>
    apply Option.isSome_iff_exists.mp
    simp only [Ledger.step, Option.isSome_map]
    exact pushAt_isSome entry_le allocated h.toBalanced now
  | pop now => exact ⟨_, rfl⟩
  | beginBatch now => exact ⟨_, rfl⟩
  | clear => exact ⟨_, rfl⟩
  | close => exact ⟨_, rfl⟩
  | takeNewDrops => exact ⟨_, rfl⟩
  | stats now => exact ⟨_, rfl⟩

theorem Accounted.run {entrySize sampleRate channels : Nat} {duration : Duration}
    {before : Ledger} {labels : List QueueLabel} (entry_le : entrySize ≤ 1024)
    (allocated : ∀ label ∈ labels, QueueLabel.Allocated label)
    (h : (new entrySize sampleRate channels duration).Accounted before) :
    ∃ after, (ledger (new entrySize sampleRate channels duration)).run before labels = some after ∧
      (new entrySize sampleRate channels duration).Accounted after := by
  induction labels generalizing before with
  | nil => exact ⟨before, rfl, h⟩
  | cons label labels ih =>
    rw [List.forall_mem_cons] at allocated
    obtain ⟨next, hnext⟩ := h.progress entry_le allocated.1
    obtain ⟨after, hrun, hafter⟩ := ih allocated.2 (h.step hnext)
    refine ⟨after, ?_, hafter⟩
    simp only [TransitionSystem.run]
    exact Option.bind_eq_some_iff.mpr ⟨next, hnext, hrun⟩

/-- Whatever is done with a queue, every operation ends, its counters are exact and bounded, and
every frame and every drop is accounted for. -/
theorem accounted_of_operations {entrySize : Nat} (entry_le : entrySize ≤ 1024)
    (sampleRate channels : Nat) (duration : Duration) (labels : List QueueLabel)
    (allocated : ∀ label ∈ labels, QueueLabel.Allocated label) :
    ∃ after, (ledger (new entrySize sampleRate channels duration)).run .new labels = some after ∧
      (new entrySize sampleRate channels duration).Accounted after :=
  accounted_new.run entry_le allocated

theorem accounted_of_two_pushes :
    ∃ after, (ledger telephone).run .new
        [.push (tone 1600 none) 0, .push (tone 640 none) 0, .pop 0, .takeNewDrops] = some after ∧
      telephone.Accounted after := by
  apply accounted_of_operations
  · decide
  · simp only [List.forall_mem_cons, QueueLabel.Allocated]
    refine ⟨?_, ?_, trivial, trivial, List.forall_mem_nil _⟩
    · decide
    · decide

end AirSonos.PcmQueue
