import AirSonos.Core.PcmQueue
import AirSonos.Lib.Doorbell
import AirSonos.Lib.TransitionSystem

/-!
# The notifications of one adapter queue

The audio thread pushes frames and sends an event when the push asked for one. The run loop
takes an event, begins a batch and pops at most the frames it counted. Each lock of the queue
is one step, so pushes, clears and the handler interleave freely.
-/

namespace AirSonos

/-- Where the run loop is in the `Pcm` arm. -/
inductive PcmHandler
  | idle
  | received
  | counted (batch : Nat)
  | popping (left : Nat)
deriving DecidableEq

/-- `sending` counts the pushes that asked for an event which is not sent yet, `events` the
events of the queue in the channel. -/
structure PcmFeed where
  state : PcmQueue.State
  sending : Nat
  events : Nat
  handler : PcmHandler
deriving DecidableEq

inductive FeedLabel
  | push (frame : PcmFrame) (now : Instant)
  | send
  | clear
  | close
  | receive
  | beginBatch (now : Instant)
  | takeNewDrops
  | pop (now : Instant)
  | finish

namespace PcmFeed

def new : PcmFeed := ⟨.empty, 0, 0, .idle⟩

/-- The events that were asked for and that the run loop has not begun to process. -/
def outstanding (feed : PcmFeed) : Nat :=
  feed.sending + feed.events

def step (queue : PcmQueue) (feed : PcmFeed) : FeedLabel → Option PcmFeed
  | .push frame now =>
    (queue.pushAt feed.state frame now).map fun (state, admission) =>
      { feed with state := state, sending := feed.sending + admission.notify.toNat }
  | .send =>
    if feed.sending = 0 then none
    else some { feed with sending := feed.sending - 1, events := feed.events + 1 }
  | .clear => some { feed with state := PcmQueue.clear feed.state }
  | .close => some { feed with state := PcmQueue.close feed.state }
  | .receive =>
    if feed.handler = .idle ∧ feed.events ≠ 0 then
      some { feed with events := feed.events - 1, handler := .received }
    else none
  | .beginBatch now =>
    match feed.handler with
    | .received =>
      let (state, batch) := queue.beginBatch feed.state now
      some { feed with state := state, handler := .counted batch }
    | _ => none
  | .takeNewDrops =>
    match feed.handler with
    | .counted batch =>
      some { feed with state := (PcmQueue.takeNewDrops feed.state).1, handler := .popping batch }
    | _ => none
  | .pop now =>
    match feed.handler with
    | .popping (left + 1) =>
      let (state, frame) := queue.popAt feed.state now
      some { feed with
        state := state
        handler := if frame.isSome then .popping left else .idle }
    | _ => none
  | .finish => if feed.handler = .popping 0 then some { feed with handler := .idle } else none

end PcmFeed

def pcmFeed (queue : PcmQueue) : TransitionSystem PcmFeed FeedLabel where
  init := .new
  step := PcmFeed.step queue

/-! ### The feed as a doorbell -/

def PcmHandler.consumer : PcmHandler → Consumer
  | .idle => .idle
  | .received => .answering
  | .counted batch => .serving batch
  | .popping left => .serving left

namespace PcmFeed

def doorbell (feed : PcmFeed) : Doorbell where
  work := feed.state.frames.length
  rung := feed.state.notified
  sending := feed.sending
  events := feed.events
  consumer := feed.handler.consumer

/-- No pop finds the queue empty while its flag is set for a later event. -/
def NoPopWhileNotified (queue : PcmQueue) (feed : PcmFeed) : FeedLabel → Prop
  | .pop now => feed.state.notified = true → (queue.expire feed.state now).frames ≠ []
  | _ => True

instance (queue : PcmQueue) (feed : PcmFeed) (label : FeedLabel) :
    Decidable (NoPopWhileNotified queue feed label) :=
  match label with
  | .pop _ => inferInstanceAs (Decidable (_ → _))
  | .push _ _ | .send | .clear | .close | .receive | .beginBatch _ | .takeNewDrops | .finish =>
    .isTrue trivial

variable {queue : PcmQueue} {feed after : PcmFeed} {label : FeedLabel}

variable (strays : Prop) in
/-- Every step of the feed is a step of its doorbell. Bookkeeping of the drops is none. -/
theorem doorbell_step (taken : step queue feed label = some after)
    (allowed : NoPopWhileNotified queue feed label ∨ strays) :
    feed.doorbell = after.doorbell ∨ Doorbell.Step strays feed.doorbell after.doorbell := by
  obtain ⟨state, sending, events, handler⟩ := feed
  cases label with
  | push frame now =>
    obtain ⟨⟨state', admission⟩, hpush, rfl⟩ := Option.map_eq_some_iff.mp taken
    obtain ⟨hnotify, hflag, hlength⟩ | ⟨hnotify, hflag⟩ := PcmQueue.pushAt_cases hpush
    · right
      simp only [doorbell, hnotify, hflag, Bool.toNat_false, Nat.add_zero]
      exact .vanish _ hlength
    · right
      simp only [doorbell, hnotify, hflag]
      exact .add _
  | send =>
    simp only [step] at taken
    split at taken
    · cases taken
    · cases taken
      right
      obtain ⟨n, rfl⟩ := Nat.exists_eq_succ_of_ne_zero ‹_›
      exact .send
  | clear =>
    cases taken
    exact .inr (.vanish 0 (Nat.zero_le _))
  | close =>
    cases taken
    exact .inl rfl
  | receive =>
    simp only [step] at taken
    split at taken
    · case isTrue hready =>
      cases taken
      obtain ⟨rfl, hevents⟩ := hready
      obtain ⟨n, rfl⟩ := Nat.exists_eq_succ_of_ne_zero hevents
      exact .inr .answer
    · cases taken
  | beginBatch now =>
    simp only [step] at taken
    split at taken
    · cases taken
      exact .inr (.count _)
    · cases taken
  | takeNewDrops =>
    simp only [step] at taken
    split at taken
    · cases taken
      exact .inl rfl
    · cases taken
  | pop now =>
    simp only [step] at taken
    split at taken
    · case h_1 left =>
      cases taken
      right
      have hcases := @PcmQueue.popAt_cases queue state now
      obtain ⟨hempty, hnone, hframes, hflag⟩ | ⟨entry, hsome, hflag, hlength⟩ := hcases
      · simp only [doorbell, hnone, hframes, hflag]
        refine .miss fun hrung => ?_
        obtain hquiet | hstrays := allowed
        · exact absurd hempty (hquiet hrung)
        · exact hstrays
      · simp only [doorbell, hsome, hflag]
        exact .serve _ hlength
    · cases taken
  | finish =>
    simp only [step] at taken
    split at taken
    · case isTrue hready =>
      cases taken
      cases hready
      exact .inr .finish
    · cases taken

theorem attended_of_reachable (h : (pcmFeed queue).Reachable feed) : feed.doorbell.Attended := by
  refine TransitionSystem.Reachable.invariant (I := fun feed => feed.doorbell.Attended) ?_ ?_ h
  · constructor
    · intro hrung
      cases hrung
    · intro _
      exact Nat.le_refl _
  · intro s l t hs taken
    obtain heq | hstep := doorbell_step True taken (.inr trivial)
    · exact heq ▸ hs
    · exact hs.step hstep

theorem coalesced_of_reachable (h : (pcmFeed queue).ReachableWhen (NoPopWhileNotified queue) feed) :
    feed.doorbell.Coalesced := by
  refine TransitionSystem.ReachableWhen.invariant (I := fun feed => feed.doorbell.Coalesced) ?_ ?_ h
  · constructor
    · exact Nat.zero_le _
    · intro _
      rfl
    · intro hanswering
      cases hanswering
  · intro s l t hs allowed taken
    obtain heq | hstep := doorbell_step False taken (.inl allowed)
    · exact heq ▸ hs
    · exact hs.step hstep

/-- Frames that wait for an idle handler have been announced. -/
theorem no_stranded_pcm (h : (pcmFeed queue).Reachable feed) (idle : feed.handler = .idle)
    (waiting : feed.state.frames ≠ []) : 0 < feed.sending ∨ 0 < feed.events := by
  have hwork : feed.doorbell.work ≠ 0 := fun hzero => waiting (List.length_eq_zero_iff.mp hzero)
  have hconsumer : feed.doorbell.consumer = .idle := by
    simp only [doorbell, idle, PcmHandler.consumer]
  have hevents : 0 < feed.sending + feed.events :=
    (attended_of_reachable h).notified hconsumer hwork
  omega

/-- The queue of a mono session at 8 kHz. -/
def mono : PcmQueue := .new 128 8000 1 (.fromMillis 250)

def chunk (samples : Nat) : PcmFrame where
  bufferedPermit := none
  playbackEpoch := 0
  sampleRate := 8000
  channels := 1
  samples := List.replicate samples 0
  capacity := samples
  presentationTime := none
  samples_le := by rw [List.length_replicate]

/-- Two short frames are announced and counted as one batch. Then a push of the longest frame
evicts both and is announced too, and the batch pops that frame. -/
def overtaken : List FeedLabel :=
  [.push (chunk 640) 0, .send, .push (chunk 640) 0, .receive, .beginBatch 0, .takeNewDrops,
    .push (chunk 2000) 0, .send, .pop 0]

/-- The batch is finished, its second event finds nothing, and of two later frames the first is
too old when the second arrives. -/
def expired : List FeedLabel :=
  overtaken ++ [.push (chunk 640) 0, .pop 0, .finish, .receive, .beginBatch 0, .takeNewDrops,
    .finish, .push (chunk 640) 0, .send, .push (chunk 640) 300000000]

/-- The event of the frame that waits is on its way to the idle handler. -/
theorem no_stranded_pcm_after_push :
    ∃ feed, (pcmFeed mono).run .new expired = some feed ∧ feed.state.dropped = 3 ∧
      (0 < feed.sending ∨ 0 < feed.events) := by
  have hrun : (pcmFeed mono).run .new expired =
      some (((pcmFeed mono).run .new expired).getD .new) := by decide +kernel
  refine ⟨_, hrun, ?_, no_stranded_pcm (.of_run .init hrun) ?_ ?_⟩
  · decide +kernel
  · decide +kernel
  · decide +kernel

/-- Nothing is announced twice while no pop of a batch finds the queue empty that was announced
anew in the meantime. -/
theorem one_notification (h : (pcmFeed queue).ReachableWhen (NoPopWhileNotified queue) feed) :
    feed.outstanding ≤ 1 :=
  (coalesced_of_reachable h).one

theorem one_notification_when_overtaken :
    ∃ feed, (pcmFeed mono).run .new overtaken = some feed ∧ feed.outstanding ≤ 1 := by
  have hrun : (pcmFeed mono).run .new overtaken =
      some (((pcmFeed mono).run .new overtaken).getD .new) := by decide +kernel
  have hallowed : (pcmFeed mono).runWhen (NoPopWhileNotified mono) .new overtaken =
      some (((pcmFeed mono).run .new overtaken).getD .new) := by decide +kernel
  exact ⟨_, hrun, one_notification (.of_runWhen .init hallowed)⟩

/-- The next pop of that batch finds nothing and rearms the flag, so the next push asks for a
second event. -/
theorem two_notifications :
    ¬∀ queue feed, (pcmFeed queue).Reachable feed → feed.outstanding ≤ 1 := by
  intro h
  have hrun : (pcmFeed mono).run .new (overtaken ++ [.pop 0, .push (chunk 640) 0]) =
      some (((pcmFeed mono).run .new (overtaken ++ [.pop 0, .push (chunk 640) 0])).getD .new) := by
    decide +kernel
  exact absurd (h mono _ (.of_run .init hrun)) (by decide +kernel)

end PcmFeed

end AirSonos
