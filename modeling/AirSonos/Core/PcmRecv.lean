import AirSonos.Core.PcmLedger
import AirSonos.Lib.Notify

/-!
# Receiving from a queue of delivered PCM

One task receives while others push, clear, close and read statistics. A push notifies after it
has given the lock back, and so does a close. The receiver enables its wait, pops, looks whether
the queue is closed, and only then sleeps, each under a lock of its own.
-/

namespace AirSonos.PcmQueue

/-- Where the receiver stands. After a pop that found nothing, and after it has returned
nothing, `seen` is the number of frames accepted before that pop. -/
inductive Receiver
  | outside
  | entering
  | popping
  | checking (seen : Nat)
  | awaiting
  | finished (seen : Nat)
deriving DecidableEq

/-- `pushing` counts the accepted pushes and `closing` the closes that have not notified yet. -/
structure Channel where
  ledger : Ledger
  ready : Notify
  pushing : Nat
  closing : Nat
  receiver : Receiver
deriving DecidableEq

inductive RecvLabel
  | push (frame : PcmFrame) (now : Instant)
  | notifyOne
  | clear
  | close
  | notifyWaiters
  | stats (now : Instant)
  | recv
  | enable
  | pop (now : Instant)
  | checkClosed
  | poll

namespace Channel

def new : Channel := ⟨.new, .new, 0, 0, .outside⟩

variable (queue : PcmQueue)

/-- An operation under the lock. -/
def locked (st : Channel) (label : QueueLabel) (next : Ledger → Channel) : Option Channel :=
  (Ledger.step queue st.ledger label).map next

def push (st : Channel) (frame : PcmFrame) (now : Instant) : Option Channel :=
  (queue.pushAt st.ledger.state frame now).bind fun (_, admission) =>
    st.locked queue (.push frame now) fun ledger =>
      { st with ledger, pushing := st.pushing + admission.accepted.toNat }

def pop (st : Channel) (now : Instant) : Option Channel :=
  st.locked queue (.pop now) fun ledger =>
    match (queue.popAt st.ledger.state now).2 with
    | some _ => { st with ledger, ready := st.ready.cancel, receiver := .outside }
    | none => { st with ledger, receiver := .checking st.ledger.accepted.length }

def checkClosed (st : Channel) (seen : Nat) : Channel :=
  if st.ledger.state.closed then { st with ready := st.ready.cancel, receiver := .finished seen }
  else { st with receiver := .awaiting }

def step (st : Channel) : RecvLabel → Option Channel
  | .push frame now => st.push queue frame now
  | .notifyOne =>
    if st.pushing = 0 then none
    else some { st with pushing := st.pushing - 1, ready := st.ready.notifyOne }
  | .clear => st.locked queue .clear fun ledger => { st with ledger }
  | .close => st.locked queue .close fun ledger => { st with ledger, closing := st.closing + 1 }
  | .notifyWaiters =>
    if st.closing = 0 then none
    else some { st with closing := st.closing - 1, ready := st.ready.notifyWaiters }
  | .stats now => st.locked queue (.stats now) fun ledger => { st with ledger }
  | .recv =>
    match st.receiver with
    | .outside => some { st with receiver := .entering }
    | .finished _ => some { st with receiver := .entering }
    | _ => none
  | .enable =>
    match st.receiver with
    | .entering => some { st with ready := st.ready.enable, receiver := .popping }
    | _ => none
  | .pop now =>
    match st.receiver with
    | .popping => st.pop queue now
    | _ => none
  | .checkClosed =>
    match st.receiver with
    | .checking seen => some (st.checkClosed seen)
    | _ => none
  | .poll =>
    match st.receiver with
    | .awaiting =>
      if st.ready.isReady then some { st with ready := st.ready.finish, receiver := .entering }
      else none
    | _ => none

end Channel

def channel (queue : PcmQueue) : TransitionSystem Channel RecvLabel where
  init := .new
  step := Channel.step queue

/-! ### What a step does -/

variable {queue : PcmQueue} {st next : Channel}

variable (queue) in
/-- Every step, with what the lock protects taken from the ledger. -/
inductive RecvStep (st : Channel) : RecvLabel → Channel → Prop
  | pushes {frame : PcmFrame} {now : Instant} {ledger : Ledger} {admission : PcmAdmission}
      (hpush : queue.pushAt st.ledger.state frame now = some (ledger.state, admission))
      (taken : Ledger.step queue st.ledger (.push frame now) = some ledger) :
      RecvStep st (.push frame now)
        { st with ledger, pushing := st.pushing + admission.accepted.toNat }
  | notifiesOne (owed : st.pushing ≠ 0) :
      RecvStep st .notifyOne { st with pushing := st.pushing - 1, ready := st.ready.notifyOne }
  | clears {ledger : Ledger} (taken : Ledger.step queue st.ledger .clear = some ledger) :
      RecvStep st .clear { st with ledger }
  | closes {ledger : Ledger} (taken : Ledger.step queue st.ledger .close = some ledger) :
      RecvStep st .close { st with ledger, closing := st.closing + 1 }
  | notifiesWaiters (owed : st.closing ≠ 0) :
      RecvStep st .notifyWaiters
        { st with closing := st.closing - 1, ready := st.ready.notifyWaiters }
  | reads {now : Instant} {ledger : Ledger}
      (taken : Ledger.step queue st.ledger (.stats now) = some ledger) :
      RecvStep st (.stats now) { st with ledger }
  | enters : RecvStep st .recv { st with receiver := .entering }
  | enables : RecvStep st .enable { st with ready := st.ready.enable, receiver := .popping }
  | returns {now : Instant} {ledger : Ledger}
      (taken : Ledger.step queue st.ledger (.pop now) = some ledger) :
      RecvStep st (.pop now) { st with ledger, ready := st.ready.cancel, receiver := .outside }
  | misses {now : Instant} {ledger : Ledger} (popping : st.receiver = .popping)
      (taken : Ledger.step queue st.ledger (.pop now) = some ledger)
      (empty : ledger.state.frames = []) :
      RecvStep st (.pop now)
        { st with ledger, receiver := .checking st.ledger.accepted.length }
  | ends {seen : Nat} (checking : st.receiver = .checking seen)
      (closed : st.ledger.state.closed = true) :
      RecvStep st .checkClosed { st with ready := st.ready.cancel, receiver := .finished seen }
  | sleeps {seen : Nat} (checking : st.receiver = .checking seen)
      (opened : st.ledger.state.closed = false) :
      RecvStep st .checkClosed { st with receiver := .awaiting }
  | wakes : RecvStep st .poll { st with ready := st.ready.finish, receiver := .entering }

namespace Channel

theorem locked_some {label : QueueLabel} {f : Ledger → Channel}
    (h : st.locked queue label f = some next) :
    ∃ ledger, Ledger.step queue st.ledger label = some ledger ∧ next = f ledger := by
  obtain ⟨ledger, hledger, rfl⟩ := Option.map_eq_some_iff.mp h
  exact ⟨ledger, hledger, rfl⟩

theorem step_cases {label : RecvLabel} (h : st.step queue label = some next) :
    RecvStep queue st label next := by
  cases label with
  | push frame now =>
    obtain ⟨⟨after, admission⟩, hpush, hlocked⟩ := Option.bind_eq_some_iff.mp h
    obtain ⟨ledger, hledger, rfl⟩ := locked_some hlocked
    refine .pushes ?_ hledger
    obtain ⟨⟨state, other⟩, hsame, rfl⟩ := Option.map_eq_some_iff.mp hledger
    rw [hpush] at hsame
    cases hsame
    exact hpush
  | notifyOne =>
    simp only [step] at h
    split at h
    · cases h
    · case isFalse owed =>
      cases h
      exact .notifiesOne owed
  | clear =>
    obtain ⟨ledger, hledger, rfl⟩ := locked_some h
    exact .clears hledger
  | close =>
    obtain ⟨ledger, hledger, rfl⟩ := locked_some h
    exact .closes hledger
  | notifyWaiters =>
    simp only [step] at h
    split at h
    · cases h
    · case isFalse owed =>
      cases h
      exact .notifiesWaiters owed
  | stats now =>
    obtain ⟨ledger, hledger, rfl⟩ := locked_some h
    exact .reads hledger
  | recv =>
    simp only [step] at h
    split at h
    · cases h
      exact .enters
    · cases h
      exact .enters
    · cases h
  | enable =>
    simp only [step] at h
    split at h
    · cases h
      exact .enables
    · cases h
  | pop now =>
    simp only [step] at h
    split at h
    · case h_1 popping =>
      obtain ⟨ledger, hledger, rfl⟩ := locked_some h
      split
      · exact .returns hledger
      · case h_2 hnone =>
        refine .misses popping hledger ?_
        cases hledger
        obtain ⟨-, -, hempty, -⟩ | ⟨entry, hentry, -, -⟩ := popAt_cases st.ledger.state now
        · exact hempty
        · rw [hnone] at hentry
          cases hentry
    · cases h
  | checkClosed =>
    simp only [step] at h
    split at h
    · case h_1 seen checking =>
      cases h
      rw [checkClosed]
      split
      · case isTrue closed => exact .ends checking closed
      · case isFalse opened => exact .sleeps checking (by simpa using opened)
    · cases h
  | poll =>
    simp only [step] at h
    split at h
    · split at h
      · cases h
        exact .wakes
      · cases h
    · cases h

/-! ### The lock sees a run of the ledger -/

end Channel

/-- The operation that a step performs under the lock. -/
def RecvLabel.operation : RecvLabel → Option QueueLabel
  | push frame now => some (.push frame now)
  | clear => some .clear
  | close => some .close
  | stats now => some (.stats now)
  | pop now => some (.pop now)
  | _ => none

namespace Channel

variable {label : RecvLabel}

theorem ledger_of_step (taken : RecvStep queue st label next) :
    (PcmQueue.ledger queue).run st.ledger label.operation.toList = some next.ledger := by
  have hone : ∀ {operation : QueueLabel} {last : Ledger},
      Ledger.step queue st.ledger operation = some last →
      (PcmQueue.ledger queue).run st.ledger [operation] = some last := by
    intro operation last htaken
    exact Option.bind_eq_some_iff.mpr ⟨last, htaken, rfl⟩
  cases taken with
  | pushes _ taken => exact hone taken
  | clears taken => exact hone taken
  | closes taken => exact hone taken
  | reads taken => exact hone taken
  | returns taken => exact hone taken
  | misses _ taken => exact hone taken
  | _ => rfl

theorem ledger_of_run {labels : List RecvLabel}
    (hrun : (channel queue).run st labels = some next) :
    (PcmQueue.ledger queue).run st.ledger (labels.filterMap RecvLabel.operation) = some next.ledger := by
  induction labels generalizing st with
  | nil =>
    cases hrun
    rfl
  | cons label labels ih =>
    obtain ⟨middle, htaken, hrest⟩ := Option.bind_eq_some_iff.mp hrun
    have hsplit : (label :: labels).filterMap RecvLabel.operation =
        label.operation.toList ++ labels.filterMap RecvLabel.operation := by
      cases hoperation : label.operation with
      | none => simp [hoperation]
      | some operation => simp [hoperation]
    rw [hsplit, TransitionSystem.run_append, ledger_of_step (step_cases htaken)]
    exact ih hrest

theorem ledger_reachable (h : (channel queue).Reachable st) :
    (PcmQueue.ledger queue).Reachable st.ledger := by
  refine h.invariant (I := fun st => (PcmQueue.ledger queue).Reachable st.ledger) ?_ ?_
  · exact .init
  · intro _ _ _ hs taken
    exact hs.of_run (ledger_of_step (step_cases taken))

/-- An operation that adds nothing leaves an empty queue empty. -/
theorem frames_nil_of_moves {before after : State} {gone popped : List (PcmFrame × Instant)}
    {refused : Nat} (moves : Moves before after [] gone popped refused)
    (empty : before.frames = []) : after.frames = [] := by
  have hframes := moves.frames
  rw [empty, List.append_nil, eq_comm, List.append_eq_nil_iff] at hframes
  exact hframes.2

/-! ### Nothing is slept through -/

end Channel

/-- A wait is enabled. -/
def Receiver.waits : Receiver → Bool
  | popping => true
  | checking _ => true
  | awaiting => true
  | _ => false

/-- The receiver has found the queue empty since it enabled its wait. -/
def Receiver.looked : Receiver → Bool
  | checking _ => true
  | awaiting => true
  | _ => false

namespace Channel

/-- A receiver that would sleep is owed a notification for every frame it has not seen, and for
a close it has not seen. -/
structure Attentive (st : Channel) : Prop where
  present : st.receiver.waits = true → st.ready.waiter ≠ .absent
  queued : st.receiver.looked = true → st.ready.isReady = false →
    st.ledger.state.frames ≠ [] → 0 < st.pushing
  closed : st.receiver = .awaiting → st.ready.isReady = false →
    st.ledger.state.closed = true → 0 < st.closing

theorem looked_waits {receiver : Receiver} (looked : receiver.looked = true) :
    receiver.waits = true := by
  cases receiver with
  | checking seen => rfl
  | awaiting => rfl
  | _ => cases looked

theorem attentive_of_outside (outside : st.receiver.waits = false) : Attentive st where
  present := fun waits => absurd (outside.symm.trans waits) nofun
  queued := fun looked => absurd (outside.symm.trans (looked_waits looked)) nofun
  closed := fun awaiting => by
    rw [awaiting] at outside
    cases outside

/-- A notification that goes out now finds the wait. -/
theorem attentive_of_ready (present : st.ready.waiter ≠ .absent)
    (ready : st.ready.isReady = true) : Attentive st where
  present := fun _ => present
  queued := fun _ asleep => absurd (ready.symm.trans asleep) nofun
  closed := fun _ asleep => absurd (ready.symm.trans asleep) nofun

/-- The queue is not fuller than it was, and is not closed unless it was. -/
theorem Attentive.of_less (h : st.Attentive) (receiver : next.receiver = st.receiver)
    (ready : next.ready = st.ready)
    (frames : st.ledger.state.frames = [] → next.ledger.state.frames = [])
    (pushing : st.pushing ≤ next.pushing)
    (closed : next.ledger.state.closed = true → st.ledger.state.closed = true ∨ 0 < next.closing)
    (closing : st.closing ≤ next.closing) : next.Attentive := by
  constructor
  · rw [receiver, ready]
    exact h.present
  · rw [receiver, ready]
    intro looked asleep unseen
    exact (h.queued looked asleep fun empty => unseen (frames empty)).trans_le pushing
  · rw [receiver, ready]
    intro awaiting asleep shut
    obtain hbefore | howed := closed shut
    · exact (h.closed awaiting asleep hbefore).trans_le closing
    · exact howed

theorem Attentive.step (h : st.Attentive) (taken : RecvStep queue st label next) :
    next.Attentive := by
  cases taken with
  | @pushes frame now ledger admission hpush taken =>
    have hclosed := pushAt_closed hpush
    obtain ⟨gone, hmoves⟩ := pushAt_moves hpush
    cases haccepted : admission.accepted with
    | true =>
      refine ⟨h.present, fun _ _ _ => Nat.succ_pos _, fun awaiting asleep shut => ?_⟩
      exact h.closed awaiting asleep (hclosed.symm.trans shut)
    | false =>
      rw [haccepted] at hmoves
      refine h.of_less rfl rfl (frames_nil_of_moves hmoves) (Nat.le_refl _) ?_ (Nat.le_refl _)
      intro shut
      exact .inl (hclosed.symm.trans shut)
  | notifiesOne owed =>
    cases hwaits : st.receiver.waits with
    | false => exact attentive_of_outside hwaits
    | true =>
      obtain ⟨hpresent, hready⟩ := Notify.notifyOne_present (h.present hwaits)
      exact attentive_of_ready hpresent hready
  | clears taken =>
    cases taken
    refine h.of_less rfl rfl (fun _ => rfl) (Nat.le_refl _) ?_ (Nat.le_refl _)
    exact fun shut => .inl shut
  | closes taken =>
    cases taken
    refine h.of_less rfl rfl (fun empty => empty) (Nat.le_refl _) ?_ (Nat.le_succ _)
    exact fun _ => .inr (Nat.succ_pos _)
  | notifiesWaiters owed =>
    cases hwaits : st.receiver.waits with
    | false => exact attentive_of_outside hwaits
    | true =>
      obtain ⟨hpresent, hready⟩ := Notify.notifyWaiters_present (h.present hwaits)
      exact attentive_of_ready hpresent hready
  | @reads now ledger taken =>
    cases taken
    refine h.of_less rfl rfl (frames_nil_of_moves (expire_moves _ now)) (Nat.le_refl _) ?_
      (Nat.le_refl _)
    exact fun shut => .inl ((expire_closed st.ledger.state now).symm.trans shut)
  | enters => exact attentive_of_outside rfl
  | enables => exact ⟨fun _ => Notify.enable_present _, nofun, nofun⟩
  | returns taken => exact attentive_of_outside rfl
  | misses popping taken empty =>
    refine ⟨fun _ => h.present ?_, fun _ _ unseen => absurd empty unseen, nofun⟩
    rw [popping]
    rfl
  | ends checking closed => exact attentive_of_outside rfl
  | sleeps checking opened =>
    refine ⟨fun _ => h.present ?_, fun _ => h.queued ?_, fun _ _ shut => ?_⟩
    · rw [checking]
      rfl
    · rw [checking]
      rfl
    · exact absurd (shut.symm.trans opened) nofun
  | wakes => exact attentive_of_outside rfl

/-- What is queued after a pop that found nothing was accepted after that pop. -/
structure Seen (st : Channel) : Prop where
  checking : ∀ seen, st.receiver = .checking seen → seen ≤ st.ledger.fates.length
  finished : ∀ seen, st.receiver = .finished seen →
    seen ≤ st.ledger.fates.length ∧ st.ledger.state.closed = true

theorem fates_le_of_run {before last : Ledger} {labels : List QueueLabel}
    (hrun : (PcmQueue.ledger queue).run before labels = some last) :
    before.fates.length ≤ last.fates.length := by
  induction labels generalizing before with
  | nil =>
    cases hrun
    exact Nat.le_refl _
  | cons label labels ih =>
    obtain ⟨middle, htaken, hrest⟩ := Option.bind_eq_some_iff.mp hrun
    refine Nat.le_trans ?_ (ih hrest)
    have hbook : ∀ after accepted popped,
        before.fates.length ≤ (before.book after accepted popped).fates.length := by
      intro after accepted popped
      simp only [Ledger.book, List.length_append]
      omega
    cases label with
    | push frame now =>
      obtain ⟨⟨state, admission⟩, hpush, rfl⟩ := Option.map_eq_some_iff.mp htaken
      exact hbook _ _ _
    | _ =>
      cases htaken
      exact hbook _ _ _

theorem Seen.step (reachable : (PcmQueue.ledger queue).Reachable st.ledger) (h : st.Seen)
    (taken : RecvStep queue st label next) : next.Seen := by
  have hle : st.ledger.fates.length ≤ next.ledger.fates.length := fates_le_of_run (ledger_of_step taken)
  have hpasses := run_passes (ledger_of_step taken)
  have hsame : next.receiver = st.receiver → next.Seen := by
    intro hreceiver
    constructor
    · rw [hreceiver]
      intro seen hchecking
      exact (h.checking seen hchecking).trans hle
    · rw [hreceiver]
      intro seen hfinished
      obtain ⟨hseen, hclosed⟩ := h.finished seen hfinished
      exact ⟨hseen.trans hle, hpasses.closed hclosed⟩
  cases taken with
  | @misses now ledger popping taken empty =>
    constructor
    · intro seen hchecking
      cases hchecking
      have hsettled := (Accounted.of_reachable (reachable_step reachable taken)).toSettled
      have hqueued := hsettled.queued
      rw [empty, eq_comm, List.drop_eq_nil_iff] at hqueued
      refine Nat.le_trans ?_ hqueued
      obtain ⟨added, haccepted, -⟩ := step_accepted taken
      rw [haccepted, List.length_append]
      exact Nat.le_add_right _ _
    · exact nofun
  | ends checking closed =>
    refine ⟨nofun, fun seen hfinished => ?_⟩
    cases hfinished
    exact ⟨h.checking _ checking, closed⟩
  | enters => exact ⟨nofun, nofun⟩
  | enables => exact ⟨nofun, nofun⟩
  | returns => exact ⟨nofun, nofun⟩
  | sleeps => exact ⟨nofun, nofun⟩
  | wakes => exact ⟨nofun, nofun⟩
  | _ => exact hsame rfl

/-! ### Every interleaving -/

variable (queue) in
/-- A receiver that sleeps has nothing to do or is about to be woken. It gives up only when the
queue is closed and nothing is left that was there when it last popped. What leaves the queue is
returned in its turn, unless an operation has dropped it for a reason. -/
structure NeverSleeps (st : Channel) : Prop where
  parked : st.receiver = .awaiting → st.ready.isReady = false →
    (st.ledger.state.frames = [] ∧ st.ledger.state.closed = false) ∨
      ∃ label next, (label = .notifyOne ∨ label = .notifyWaiters) ∧
        st.step queue label = some next ∧ next.receiver = .awaiting ∧ next.ready.isReady = true
  ended : ∀ seen, st.receiver = .finished seen → st.ledger.state.closed = true ∧
    st.ledger.state.frames <:+ st.ledger.accepted.drop seen
  returned : ∀ labels next, (channel queue).run st labels = some next →
    Passes (fun entry => ∃ operation ∈ labels.filterMap RecvLabel.operation,
      operation.Loses queue st.ledger.state.closed entry) st.ledger next.ledger

theorem attentive_of_reachable (h : (channel queue).Reachable st) : st.Attentive :=
  h.invariant (attentive_of_outside rfl) fun _ _ _ hs taken => hs.step (step_cases taken)

theorem seen_of_reachable (h : (channel queue).Reachable st) : st.Seen :=
  h.invariant_with (fun _ => ledger_reachable) ⟨nofun, nofun⟩
    fun _ _ _ hledger hs taken => hs.step hledger (step_cases taken)

theorem wakes_of_owed (h : st.Attentive) (awaiting : st.receiver = .awaiting)
    (owed : 0 < st.pushing ∨ 0 < st.closing) :
    ∃ label next, (label = .notifyOne ∨ label = .notifyWaiters) ∧
      st.step queue label = some next ∧ next.receiver = .awaiting ∧ next.ready.isReady = true := by
  have hpresent := h.present (by rw [awaiting]; rfl)
  obtain hpushing | hclosing := owed
  · refine ⟨.notifyOne, _, .inl rfl, if_neg hpushing.ne', awaiting, ?_⟩
    exact (Notify.notifyOne_present hpresent).2
  · refine ⟨.notifyWaiters, _, .inr rfl, if_neg hclosing.ne', awaiting, ?_⟩
    exact (Notify.notifyWaiters_present hpresent).2

theorem never_sleeps (h : (channel queue).Reachable st) : st.NeverSleeps queue := by
  have hattentive := attentive_of_reachable h
  constructor
  · intro awaiting asleep
    by_cases howed : 0 < st.pushing ∨ 0 < st.closing
    · exact .inr (wakes_of_owed hattentive awaiting howed)
    · left
      constructor
      · by_contra hunseen
        exact howed (.inl (hattentive.queued (by rw [awaiting]; rfl) asleep hunseen))
      · cases hclosed : st.ledger.state.closed with
        | false => rfl
        | true => exact absurd (.inr (hattentive.closed awaiting asleep hclosed)) howed
  · intro seen hfinished
    obtain ⟨hseen, hclosed⟩ := (seen_of_reachable h).finished seen hfinished
    refine ⟨hclosed, ?_⟩
    rw [(Accounted.of_reachable (ledger_reachable h)).queued, ← Nat.add_sub_cancel' hseen,
      ← List.drop_drop]
    exact List.drop_suffix _ _
  · intro labels next hrun
    exact run_passes (ledger_of_run hrun)

/-- A frame of one sample for a telephone line. -/
def click : PcmFrame := tone 1 none

/-- The receiver sleeps, a push wakes it, and a close ends it. -/
def wokenThenEnded : List RecvLabel :=
  [.recv, .enable, .pop 0, .checkClosed, .push click 0, .notifyOne, .poll, .enable, .pop 0, .recv,
    .enable, .pop 0, .checkClosed, .close, .notifyWaiters, .poll, .enable, .pop 0, .checkClosed]

theorem never_sleeps_when_woken :
    ∃ st, (channel telephone).run .new wokenThenEnded = some st ∧ st.receiver = .finished 1 ∧
      st.ledger.popped = [(click, 0)] ∧ st.NeverSleeps telephone := by
  obtain ⟨st, hrun, hfinished, hpopped⟩ : ∃ st, (channel telephone).run .new wokenThenEnded =
      some st ∧ st.receiver = .finished 1 ∧ st.ledger.popped = [(click, 0)] := ⟨_, rfl, rfl, rfl⟩
  exact ⟨st, hrun, hfinished, hpopped, never_sleeps (TransitionSystem.Reachable.of_run .init hrun)⟩

/-- A frame is too old by the time the receiver gets to it. -/
def expiredAfterClose : List RecvLabel :=
  [.push click 0, .notifyOne, .close, .notifyWaiters, .recv, .enable, .pop (telephone.maxAge + 1),
    .checkClosed]

/-- A frame is accepted, and the queue closed, after the receiver found it empty. -/
def pushedBehindPop : List RecvLabel :=
  [.recv, .enable, .pop 0, .push click 0, .notifyOne, .close, .notifyWaiters, .checkClosed]

theorem ends_with_frame_unreturned :
    QueueLabel.clear ∉ expiredAfterClose.filterMap RecvLabel.operation ∧
    (∃ st, (channel telephone).run .new expiredAfterClose = some st ∧ st.receiver = .finished 1 ∧
      st.ledger.accepted = [(click, 0)] ∧ st.ledger.popped = [] ∧ st.ledger.state.frames = []) ∧
    ∃ st, (channel telephone).run .new pushedBehindPop = some st ∧ st.receiver = .finished 0 ∧
      st.ledger.state.frames = [(click, 0)] := by
  refine ⟨?_, ⟨_, rfl, rfl, rfl, rfl, rfl⟩, ⟨_, rfl, rfl, rfl⟩⟩
  simp [expiredAfterClose, RecvLabel.operation]

end Channel

end AirSonos.PcmQueue
