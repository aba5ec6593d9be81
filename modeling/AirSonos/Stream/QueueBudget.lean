import AirSonos.Core.Config
import AirSonos.Core.PcmLosses
import AirSonos.Core.Sync
import AirSonos.Lib.ArrivalCurve
import AirSonos.Stream.DelayLine

/-!
# The queue holds what the delay line delays

The task is late by no more than the delay, so what waits in its queue arrived in one window of
that length. The queue is made long enough for the delays of a validated configuration, with
250 ms to spare for bursts.
-/

namespace AirSonos

namespace PcmQueue

def overhead (queue : PcmQueue) (frame : PcmFrame) : Nat :=
  queue.allocated frame - frame.samples.length * 4

end PcmQueue

namespace Live

open PcmQueue (QueueLabel Ledger sampleSum)

namespace WavEnv

variable (env : WavEnv)

/-- The samples that a window of this length may bring: its length and 250 ms at the rate. -/
def pace (length : Duration) : Nat :=
  env.sampleRate * env.channels * (length + Duration.fromMillis 250) / 1000000000

def Paced (entries : List QueueEntry) : Prop :=
  ArrivalCurve.Conforms Prod.snd (fun entry => entry.1.samples.length) env.pace entries

/-- An untimed frame without a permit that is large enough for its entry. -/
structure Plain (frame : PcmFrame) : Prop where
  untimed : frame.presentationTime = none
  free : frame.bufferedPermit = none
  large : env.queue.overhead frame ≤ frame.samples.length * 4

instance (frame : PcmFrame) : Decidable (env.Plain frame) :=
  decidable_of_iff (frame.presentationTime = none ∧ frame.bufferedPermit = none ∧
      env.queue.overhead frame ≤ frame.samples.length * 4)
    ⟨fun ⟨untimed, free, large⟩ => ⟨untimed, free, large⟩,
      fun h => ⟨h.untimed, h.free, h.large⟩⟩

structure Budget : Prop where
  samples : env.pace env.plan.delay ≤ env.queue.maxSamples
  bytes : env.queue.maxSamples * 8 ≤ env.queue.maxBytes
  age : env.plan.delay ≤ env.queue.maxAge

variable {env}

/-- The plan delays by the delay of a room, and the queue is as long as the configuration says. -/
theorem budget_of_config (sync : SyncConfig) {zones : List (ZoneId × String)} {delay : ZoneDelay}
    (h : delay ∈ configuredDelays zones sync.zoneOffsetsMs sync.defaultOffsetMs)
    (rate : env.sampleRate < 2 ^ 32) (channels : env.channels < 2 ^ 8)
    (length : env.queueDuration = sync.pcmQueueDuration)
    (planned : env.plan.delay = Duration.fromMillis delay.delayMs) : env.Budget := by
  have hdelay := sync.delay_le_pcmQueueDuration h
  have hlength := sync.pcmQueueDuration_le
  rw [← length] at hdelay hlength
  have hmillis : delay.delayMs + 250 ≤ env.queueDuration.asMillis := by
    rw [Duration.asMillis, Nat.le_div_iff_mul_le (by decide)]
    exact hdelay
  have hlimit : env.queueDuration.asMillis ≤ 80250 := by
    rw [Duration.asMillis]
    apply Nat.div_le_of_le_mul
    rw [Nat.mul_comm]
    exact hlength
  have hproduct : env.sampleRate * env.channels * env.queueDuration.asMillis ≤
      2 ^ 32 * 2 ^ 8 * 80250 :=
    Nat.mul_le_mul (Nat.mul_le_mul rate.le channels.le) hlimit
  have hsamples : env.queue.maxSamples =
      env.sampleRate * env.channels * env.queueDuration.asMillis / 1000 := by
    apply Nat.min_eq_left
    unfold USIZE_MAX
    omega
  have hpace : env.pace env.plan.delay =
      env.sampleRate * env.channels * (delay.delayMs + 250) / 1000 := by
    rw [pace, planned, Duration.fromMillis, Duration.fromMillis, ← Nat.add_mul, ← Nat.mul_assoc]
    exact Nat.mul_div_mul_right _ 1000 (by decide)
  constructor
  · rw [hpace, hsamples]
    exact Nat.div_le_div_right (Nat.mul_le_mul_left _ hmillis)
  · have hbytes : env.queue.maxBytes =
        min (min (env.queue.maxSamples * 8) USIZE_MAX + 1024) USIZE_MAX := rfl
    have hsmall : env.queue.maxSamples * 8 ≤ USIZE_MAX := by
      rw [hsamples]
      unfold USIZE_MAX
      omega
    rw [hbytes, Nat.min_eq_left hsmall]
    exact le_min (Nat.le_add_right _ _) hsmall
  · have hage : env.queue.maxAge = env.queueDuration := rfl
    rw [hage, planned]
    refine le_trans ?_ hdelay
    exact Nat.mul_le_mul_right _ (Nat.le_add_right _ _)

end WavEnv

namespace WavEncoder

variable (env : WavEnv)

/-- The task waits until this instant: for the plan, which is set before its cutoff, for a frame,
or until the frame in its hands is due. -/
def Waits (st : WavEncoder) (later : Instant) : WavTask → Prop
  | .starting | .waiting => st.release = none ∧ later ≤ env.plan.start
  | .receiving _ => st.input.state.frames = []
  | .delaying release entry => later ≤ due release entry
  | .checking _ _ | .publishing _ _ | .sending _ _ => False
  | .finished => True

instance (st : WavEncoder) (later : Instant) :
    (task : WavTask) → Decidable (Waits env st later task)
  | .starting | .waiting =>
    inferInstanceAs (Decidable (st.release = none ∧ later ≤ env.plan.start))
  | .receiving _ => inferInstanceAs (Decidable (st.input.state.frames = []))
  | .delaying release entry => inferInstanceAs (Decidable (later ≤ due release entry))
  | .checking _ _ | .publishing _ _ | .sending _ _ => isFalse id
  | .finished => isTrue trivial

/-- Every operation reads the clock, every frame is plain, and the queue is cleared only once the
stream is closed. -/
def Feeds (st : WavEncoder) : QueueLabel → Prop
  | .push frame now => now = st.now ∧ env.Plain frame
  | .pop now | .beginBatch now | .stats now => now = st.now
  | .clear => st.stream.closed = true
  | .close | .takeNewDrops => True

instance (st : WavEncoder) : (label : QueueLabel) → Decidable (Feeds env st label)
  | .push frame now => inferInstanceAs (Decidable (now = st.now ∧ env.Plain frame))
  | .pop now | .beginBatch now | .stats now => inferInstanceAs (Decidable (now = st.now))
  | .clear => inferInstanceAs (Decidable (st.stream.closed = true))
  | .close | .takeNewDrops => isTrue trivial

/-- Time passes only while the task waits, so it takes each frame as soon as the one before is
published. -/
def Prompt (st : WavEncoder) : WavLabel → Prop
  | .tick elapsed => Waits env st (st.now + elapsed) st.task
  | .input label => Feeds env st label
  | _ => True

instance (st : WavEncoder) : (label : WavLabel) → Decidable (Prompt env st label)
  | .tick elapsed => inferInstanceAs (Decidable (Waits env st (st.now + elapsed) st.task))
  | .input label => inferInstanceAs (Decidable (Feeds env st label))
  | .subscribe _ | .close | .setAnchor | .setRelease | .next | .stop => isTrue trivial

/-- What is queued from the cutoff on has waited no longer than the delay. -/
structure Timely (st : WavEncoder) : Prop where
  past : ∀ entry ∈ st.input.accepted, entry.2 ≤ st.now
  sorted : st.input.accepted.Pairwise fun entry later => entry.2 ≤ later.2
  plain : ∀ entry ∈ st.input.accepted, env.Plain entry.1
  behind : ∀ entry ∈ st.task.hand, ∀ other ∈ st.input.state.frames, entry.2 ≤ other.2
  early : st.task = .starting ∨ st.task = .waiting → st.now ≤ env.plan.start
  recent : ∀ entry ∈ st.input.state.frames, env.plan.start ≤ entry.2 →
    st.now ≤ entry.2 + env.plan.delay
  ended : st.task = .finished → st.input.state.frames = [] ∧ st.input.state.closed = true

variable {env} {st after : WavEncoder} {label : WavLabel}

theorem ended_of_next (moved : st.next env = some after) (opened : st.stream.closed = false)
    (ended : after.task = .finished) :
    after.input.state.frames = [] ∧ after.input.state.closed = true := by
  simp only [next] at moved
  split at moved
  · cases moved
    cases ended
  · split at moved
    · case isTrue hclosed => exact absurd (opened.symm.trans hclosed) Bool.false_ne_true
    · obtain ⟨release, -, rfl⟩ := Option.map_eq_some_iff.mp moved
      cases ended
  · case h_3 release htask =>
    obtain ⟨input, hinput, hnext⟩ := Option.map_eq_some_iff.mp moved
    cases hinput
    split at hnext
    · cases hnext
      cases ended
    · case h_2 hnone =>
      subst hnext
      refine ⟨?_, ?_⟩
      · have hpop := @PcmQueue.popAt_cases env.queue st.input.state st.now
        obtain ⟨-, -, hempty, -⟩ | ⟨entry, hentry, -⟩ := hpop
        · exact hempty
        · rw [hnone] at hentry
          cases hentry
      · by_contra hopen
        simp only [if_neg hopen, htask] at ended
        cases ended
  · cases moved
    simp only [check] at ended
    split at ended
    · cases ended
    · split at ended
      · cases ended
      · split at ended <;> cases ended
  · split at moved
    · cases moved
      cases ended
    · cases moved
  · cases moved
    simp only [publish] at ended
    split at ended <;> cases ended
  · cases moved
    cases ended
  · cases moved

theorem Timely.same (h : Timely env st) (input : after.input = st.input) (now : after.now = st.now)
    (hand : after.task.hand ⊆ st.task.hand)
    (early : after.task = .starting ∨ after.task = .waiting → st.now ≤ env.plan.start)
    (ended : after.task = .finished → st.task = .finished) : Timely env after where
  past := by
    rw [input, now]
    exact h.past
  sorted := by
    rw [input]
    exact h.sorted
  plain := by
    rw [input]
    exact h.plain
  behind := by
    rw [input]
    intro entry hentry
    exact h.behind entry (hand hentry)
  early := by
    rw [now]
    exact early
  recent := by
    rw [input, now]
    exact h.recent
  ended := by
    rw [input]
    intro hended
    exact h.ended (ended hended)

theorem Timely.tick (fed : Fed env st) (planned : Planned env st) (h : Timely env st)
    {elapsed : Duration} (idle : Waits env st (st.now + elapsed) st.task) :
    Timely env { st with now := st.now + elapsed } where
  past := fun entry hentry => (h.past entry hentry).trans (Nat.le_add_right _ _)
  sorted := h.sorted
  plain := h.plain
  behind := h.behind
  early := by
    intro htask
    have hbefore : st.task = .starting ∨ st.task = .waiting := htask
    unfold Waits at idle
    obtain hstarting | hwaiting := hbefore
    · rw [hstarting] at idle
      exact idle.2
    · rw [hwaiting] at idle
      exact idle.2
  recent := by
    intro entry hentry hfrom
    have hfound := planned.found
    have hplain := h.plain
    have hbehind := h.behind
    have htaken := fed.taken
    have hended := h.ended
    unfold Waits at idle
    split at idle
    · exact (idle.2.trans hfrom).trans (Nat.le_add_right _ _)
    · exact (idle.2.trans hfrom).trans (Nat.le_add_right _ _)
    · rw [idle] at hentry
      cases hentry
    · case h_4 release held htask =>
      rw [htask] at hfound hbehind htaken
      have hheld : held ∈ st.input.accepted :=
        (PcmQueue.Accounted.of_reachable fed.reachable).toSettled.popped_subset
          (htaken held List.mem_cons_self)
      have hdue : due release held = held.2 + env.plan.delay := by
        rw [due, (hplain held hheld).untimed, (hfound release rfl).1]
        rfl
      rw [hdue] at idle
      exact idle.trans (Nat.add_le_add_right (hbehind held List.mem_cons_self entry hentry) _)
    · exact absurd idle id
    · exact absurd idle id
    · exact absurd idle id
    · case h_8 htask =>
      rw [(hended htask).1] at hentry
      cases hentry
  ended := h.ended

theorem Timely.operate (fed : Fed env st) (h : Timely env st) {label : QueueLabel} {input : Ledger}
    {task : WavTask} (taken : Ledger.step env.queue st.input label = some input)
    (feeds : Feeds env st label)
    (hand : ∀ entry ∈ task.hand, entry ∈ st.task.hand ∨ input.popped = st.input.popped ++ [entry])
    (early : task = .starting ∨ task = .waiting → st.now ≤ env.plan.start)
    (ended : task = .finished → st.task = .finished ∨
      input.state.frames = [] ∧ input.state.closed = true) :
    Timely env { st with input := input, task := task } := by
  obtain ⟨added, haccepted, ⟨left, hframes, hleft⟩, hadded, hclosed⟩ := PcmQueue.step_arrivals taken
  have hnew : ∀ entry ∈ added, entry.2 = st.now ∧ env.Plain entry.1 := by
    intro entry hentry
    obtain rfl | ⟨frame, now, rfl, rfl⟩ := hadded
    · cases hentry
    · obtain ⟨hnow, hplain⟩ := feeds
      cases List.mem_singleton.mp hentry
      exact ⟨hnow, hplain⟩
  have hpast : ∀ entry ∈ input.accepted, entry.2 ≤ st.now := by
    intro entry hentry
    rw [haccepted] at hentry
    obtain hold | hentry := List.mem_append.mp hentry
    · exact h.past entry hold
    · exact (hnew entry hentry).1.le
  have hsorted : input.accepted.Pairwise fun entry later => entry.2 ≤ later.2 := by
    rw [haccepted, List.pairwise_append]
    refine ⟨h.sorted, ?_, ?_⟩
    · obtain rfl | ⟨frame, now, -, rfl⟩ := hadded
      · exact List.Pairwise.nil
      · exact List.pairwise_singleton _ _
    · intro entry hentry later hlater
      rw [(hnew later hlater).1]
      exact h.past entry hentry
  have hkept : ∀ entry ∈ input.state.frames, entry ∈ st.input.state.frames ∨ entry ∈ added := by
    intro entry hentry
    apply List.mem_append.mp
    rw [hframes]
    exact List.mem_append_right _ hentry
  have hqueued : (st.input.state.frames ++ added).Sublist input.accepted := by
    rw [haccepted, (PcmQueue.Accounted.of_reachable fed.reachable).queued]
    exact (List.drop_sublist _ _).append_right _
  constructor
  · exact hpast
  · exact hsorted
  · intro entry hentry
    rw [haccepted] at hentry
    obtain hold | hentry := List.mem_append.mp hentry
    · exact h.plain entry hold
    · exact (hnew entry hentry).2
  · intro entry hentry other hother
    obtain hheld | hpopped := hand entry hentry
    · obtain hold | harrived := hkept other hother
      · exact h.behind entry hheld other hold
      · rw [(hnew other harrived).1]
        apply h.past
        exact (PcmQueue.Accounted.of_reachable fed.reachable).toSettled.popped_subset
          (fed.taken entry (List.mem_append_left _ hheld))
    · have hordered := hsorted.sublist hqueued
      rw [hframes, List.pairwise_append] at hordered
      exact hordered.2.2 entry (hleft entry hpopped) other hother
  · exact early
  · intro entry hentry hfrom
    obtain hold | harrived := hkept entry hentry
    · exact h.recent entry hold hfrom
    · rw [(hnew entry harrived).1]
      exact Nat.le_add_right _ _
  · intro hended
    obtain hbefore | hnow := ended hended
    · obtain ⟨hempty, hshut⟩ := h.ended hbefore
      refine ⟨?_, (PcmQueue.step_passes taken).closed hshut⟩
      rw [hempty, hclosed hshut] at hframes
      exact (List.append_eq_nil_iff.mp hframes.symm).2
    · exact hnow

theorem Timely.step (fed : Fed env st) (planned : Planned env st) (h : Timely env st)
    (prompt : Prompt env st label) (opened : st.stream.closed = false)
    (moved : st.step env label = some after) : Timely env after := by
  have taken := step_cases moved
  cases taken with
  | ticks => exact h.tick fed planned prompt
  | feeds others hinput =>
    exact h.operate fed hinput prompt (fun _ => .inl) h.early .inl
  | subscribes => exact h.same rfl rfl (fun _ => id) h.early id
  | closes => exact h.same rfl rfl (fun _ => id) h.early id
  | anchors => exact h.same rfl rfl (fun _ => id) h.early id
  | releases => exact h.same rfl rfl (fun _ => id) h.early id
  | starts task => exact h.same rfl rfl nofun (fun _ => h.early (.inl task)) nofun
  | leaves closed => exact absurd (opened.symm.trans closed) Bool.false_ne_true
  | begins => exact h.same rfl rfl nofun nofun nofun
  | receives task hinput popped =>
    refine h.operate fed hinput rfl ?_ nofun nofun
    intro entry hentry
    cases List.mem_singleton.mp hentry
    exact .inr popped
  | misses receiving hinput popped next =>
    have hended := ended_of_next moved opened
    refine h.operate fed hinput rfl ?_ ?_ fun hfinished => .inr (hended hfinished)
    · obtain rfl | rfl := next <;> exact nofun
    · obtain rfl | rfl := next <;> exact nofun
  | skips => exact h.same rfl rfl nofun nofun nofun
  | passes checking epoch fresh next =>
    obtain ⟨rfl, -⟩ | ⟨rfl, -⟩ := next
    · exact h.same rfl rfl (by rw [checking]; exact fun _ => id) nofun nofun
    · exact h.same rfl rfl (by rw [checking]; exact fun _ => id) nofun nofun
  | wakes task => exact h.same rfl rfl (by rw [task]; exact fun _ => id) nofun nofun
  | drops => exact h.same rfl rfl nofun nofun nofun
  | publishes => exact h.same rfl rfl nofun nofun nofun
  | sends => exact h.same rfl rfl nofun nofun nofun

/-! ### What is lost -/

theorem operates (prompt : Prompt env st label) (taken : WavStep env st label after) :
    after.input = st.input ∨ ∃ label, Ledger.step env.queue st.input label = some after.input ∧
      Feeds env st label ∧ after.now = st.now := by
  cases taken with
  | feeds others hinput => exact .inr ⟨_, hinput, prompt, rfl⟩
  | receives task hinput => exact .inr ⟨_, hinput, rfl, rfl⟩
  | misses receiving hinput => exact .inr ⟨_, hinput, rfl, rfl⟩
  | _ => exact .inl rfl

theorem byteSum_le {entries : List QueueEntry} (plain : ∀ entry ∈ entries, env.Plain entry.1) :
    env.queue.byteSum entries ≤ sampleSum entries * 8 := by
  induction entries with
  | nil => exact Nat.le_refl _
  | cons entry rest ih =>
    obtain ⟨hentry, hrest⟩ := List.forall_mem_cons.mp plain
    have hlarge := hentry.large
    have hsum := ih hrest
    rw [PcmQueue.byteSum_cons, PcmQueue.sampleSum_cons]
    unfold PcmQueue.overhead at hlarge
    omega

/-- Frames that arrived no longer ago than the delay fit the queue together. -/
theorem Timely.not_crowded (fed : Fed env st) (h : Timely env st) (next : Timely env after)
    (budget : env.Budget) (paced : env.Paced after.input.accepted) (now : after.now = st.now)
    {arrival entry : QueueEntry} (accepted : after.input.accepted = st.input.accepted ++ [arrival])
    (late : env.plan.start ≤ entry.2) :
    ¬env.queue.Crowded st.input.state arrival entry := by
  rintro ⟨front, back, hframes, hcrowd⟩
  have hqueued := (PcmQueue.Accounted.of_reachable fed.reachable).queued
  have hentry : entry ∈ st.input.state.frames := by
    rw [hframes]
    exact List.mem_append_right _ List.mem_cons_self
  have hrecent : after.now ≤ entry.2 + env.plan.delay := by
    rw [now]
    exact h.recent entry hentry late
  have hsplit : after.input.accepted =
      st.input.accepted.take st.input.fates.length ++ front ++ entry :: (back ++ [arrival]) := by
    rw [accepted, List.append_assoc, ← List.cons_append, ← List.append_assoc front, ← hframes,
      hqueued, ← List.append_assoc, List.take_append_drop]
  have hpaced := paced
  have hsorted := next.sorted
  have hpast := next.past
  have hplain := next.plain
  rw [hsplit] at hpaced hsorted hpast hplain
  have hsamples : sampleSum (entry :: back ++ [arrival]) ≤ env.queue.maxSamples :=
    (hpaced.tail_le hsorted hpast hrecent).trans budget.samples
  have hbytes : env.queue.byteSum (entry :: back ++ [arrival]) ≤ env.queue.maxBytes := by
    refine (byteSum_le ?_).trans ((Nat.mul_le_mul_right 8 hsamples).trans budget.bytes)
    intro other hother
    exact hplain other (List.mem_append_right _ hother)
  omega

theorem Timely.keeps (fed : Fed env st) (h : Timely env st) (next : Timely env after)
    (budget : env.Budget) (paced : env.Paced after.input.accepted)
    (opened : st.stream.closed = false) (now : after.now = st.now) {label : QueueLabel}
    (taken : Ledger.step env.queue st.input label = some after.input)
    (feeds : Feeds env st label) :
    ∃ gone, after.input.lost = st.input.lost ++ gone ∧ ∀ entry ∈ gone, entry.2 < env.plan.start := by
  have hfree : ∀ entry ∈ st.input.state.frames, PcmQueue.isPermitFree entry = true := by
    intro entry hentry
    rw [(PcmQueue.Accounted.of_reachable fed.reachable).queued] at hentry
    rw [PcmQueue.isPermitFree, (h.plain entry (List.mem_of_mem_drop hentry)).free]
    rfl
  obtain ⟨gone, hlost, hdrops⟩ :=
    (PcmQueue.Accounted.of_reachable fed.reachable).step_lost taken hfree
  refine ⟨gone, hlost, ?_⟩
  intro entry hentry
  by_contra hlate
  have hfrom : env.plan.start ≤ entry.2 := Nat.le_of_not_lt hlate
  have hexpired : ∀ instant, instant = st.now →
      entry ∉ env.queue.expired st.input.state instant := by
    rintro instant rfl hmem
    have hrecent := h.recent entry ((List.takeWhile_prefix _).subset hmem) hfrom
    have hage := PcmQueue.isExpired_of_mem hmem
    simp only [PcmQueue.isExpired, Bool.and_eq_true, decide_eq_true_eq] at hage
    have hwaited : st.now - entry.2 ≤ env.plan.delay := Nat.sub_le_iff_le_add'.mpr hrecent
    exact absurd hage.2 (Nat.not_lt.mpr (hwaited.trans budget.age))
  have hdropped := hdrops entry hentry
  cases label with
  | push frame instant =>
    obtain hold | ⟨haccepted, hcrowded⟩ := hdropped
    · exact hexpired instant feeds.1 hold
    · exact h.not_crowded fed next budget paced now haccepted hfrom hcrowded
  | pop instant => exact hexpired instant feeds hdropped
  | beginBatch instant => exact hexpired instant feeds hdropped
  | clear => exact absurd (opened.symm.trans feeds) Bool.false_ne_true
  | close => exact hdropped
  | takeNewDrops => exact hdropped
  | stats instant => exact hexpired instant feeds hdropped

/-! ### Every prompt run -/

theorem open_before (planned : Planned env st)
    (moved : st.step env label = some after) (opened : after.stream.closed = false) :
    st.stream.closed = false := by
  rw [← Bool.not_eq_true]
  intro hclosed
  have hstays := (closed_step planned hclosed (step_cases moved)).1
  exact absurd (opened.symm.trans hstays) Bool.false_ne_true

theorem timely_of_prompt (h : (wavEncoder env).ReachableWhen (Prompt env) st)
    (opened : st.stream.closed = false) : Timely env st := by
  induction h with
  | init =>
    refine ⟨List.forall_mem_nil _, List.Pairwise.nil, List.forall_mem_nil _,
      List.forall_mem_nil _, fun _ => Nat.zero_le _, List.forall_mem_nil _, nofun⟩
  | step run prompt moved ih =>
    have hfed := fed_reachable run.reachable
    have hplanned := planned_reachable run.reachable
    have hopened := open_before hplanned moved opened
    exact (ih hopened).step hfed hplanned prompt hopened moved

theorem lost_before_cutoff (budget : env.Budget)
    (h : (wavEncoder env).ReachableWhen (Prompt env) st) (opened : st.stream.closed = false)
    (paced : env.Paced st.input.accepted) : ∀ entry ∈ st.input.lost, entry.2 < env.plan.start := by
  induction h with
  | init => exact List.forall_mem_nil _
  | @step before after label run prompt moved ih =>
    have hfed := fed_reachable run.reachable
    have hplanned := planned_reachable run.reachable
    have hopened := open_before hplanned moved opened
    have hbefore := timely_of_prompt run hopened
    have hafter := timely_of_prompt (run.step prompt moved) opened
    obtain hsame | ⟨operation, hoperated, hfeeds, hnow⟩ := operates prompt (step_cases moved)
    · rw [hsame] at paced ⊢
      exact ih hopened paced
    · obtain ⟨added, haccepted, -⟩ := PcmQueue.step_arrivals hoperated
      have hpaced : env.Paced before.input.accepted := by
        apply paced.of_sublist
        rw [haccepted]
        exact List.sublist_append_left _ _
      obtain ⟨gone, hlost, hgone⟩ :=
        hbefore.keeps hfed hafter budget paced hopened hnow hoperated hfeeds
      intro entry hentry
      rw [hlost] at hentry
      obtain hold | hnew := List.mem_append.mp hentry
      · exact ih hopened hpaced entry hold
      · exact hgone entry hnew

/-- From the cutoff on no frame is lost. Those that the task has not taken are in the queue, and
have been there no longer than the delay. -/
structure KeepsFromCutoff (env : WavEnv) (st : WavEncoder) : Prop where
  lost : ∀ entry ∈ st.input.lost, entry.2 < env.plan.start
  taken : ∀ entry ∈ st.input.accepted, env.plan.start ≤ entry.2 →
    entry ∈ st.input.popped ∨ entry ∈ st.input.state.frames
  waits : ∀ entry ∈ st.input.state.frames, env.plan.start ≤ entry.2 →
    st.now ≤ entry.2 + env.plan.delay

/-- The queue is long enough for the delay of every room of a validated configuration. -/
theorem keeps_from_cutoff (sync : SyncConfig) {zones : List (ZoneId × String)} {delay : ZoneDelay}
    (room : delay ∈ configuredDelays zones sync.zoneOffsetsMs sync.defaultOffsetMs) {env : WavEnv}
    (rate : env.sampleRate < 2 ^ 32) (channels : env.channels < 2 ^ 8)
    (length : env.queueDuration = sync.pcmQueueDuration)
    (planned : env.plan.delay = Duration.fromMillis delay.delayMs) {st : WavEncoder}
    (h : (wavEncoder env).ReachableWhen (Prompt env) st) (opened : st.stream.closed = false)
    (paced : env.Paced st.input.accepted) : KeepsFromCutoff env st := by
  have budget := WavEnv.budget_of_config sync room rate channels length planned
  have hlost := lost_before_cutoff budget h opened paced
  constructor
  · exact hlost
  · intro entry haccepted hfrom
    have hsettled := (PcmQueue.Accounted.of_reachable (fed_reachable h.reachable).reachable).toSettled
    obtain hpopped | hgone | hqueued := hsettled.cover haccepted
    · exact .inl hpopped
    · exact absurd hfrom (Nat.not_le.mpr (hlost entry hgone))
    · exact .inr hqueued
  · exact (timely_of_prompt h opened).recent

/-! ### A household with two rooms -/

/-- The Kitchen is 40 ms faster than the Office. -/
def settings : SyncSection where
  defaultOffsetMs := -10
  multiSelectWindowMs := 500
  startDeadlineMs := 2000
  zoneOffsetsMs := ⟨[("Office", 30)], List.pairwise_singleton _ _⟩

def household : SyncConfig :=
  settings.checked rfl

def kitchen : WavEnv :=
  { mono 0 (.fromMillis 40) with queueDuration := household.pcmQueueDuration }

/-- Two frames arrive 20 ms apart. The task takes the second when it has published the first. -/
def busy : List WavLabel :=
  begun ++ [.input (.push (PcmQueue.tone 160 none) 0), .next, .next, .tick (.fromMillis 20),
    .input (.push (PcmQueue.tone 160 none) (Duration.fromMillis 20)), .tick (.fromMillis 20),
    .next, .next, .next, .next]

theorem keeps_from_cutoff_in_kitchen :
    ∃ st, (wavEncoder kitchen).runWhen (Prompt kitchen) .new busy = some st ∧
      st.input.popped.length = 2 ∧ KeepsFromCutoff kitchen st := by
  have hruns : ((wavEncoder kitchen).runWhen (Prompt kitchen) .new busy).map (fun st =>
      (st.input.popped.length, st.stream.closed, sampleSum st.input.accepted)) =
        some (2, false, 320) := by
    decide +kernel
  have hroom : ⟨⟨"a"⟩, 40⟩ ∈ configuredDelays [(⟨"a"⟩, "Kitchen"), (⟨"b"⟩, "Office")]
      household.zoneOffsetsMs household.defaultOffsetMs := by
    decide +kernel
  obtain ⟨st, hrun, hvalues⟩ := Option.map_eq_some_iff.mp hruns
  obtain ⟨hpopped, hrest⟩ := Prod.mk.inj hvalues
  obtain ⟨hopened, hsamples⟩ := Prod.mk.inj hrest
  have hpaced : kitchen.Paced st.input.accepted := by
    apply ArrivalCurve.conforms_of_volume_le
    intro length
    have hvolume : ArrivalCurve.volume (fun entry : QueueEntry => entry.1.samples.length)
        st.input.accepted = 320 := hsamples
    rw [hvolume]
    refine le_trans (by decide : 320 ≤ 8000 * 1 * (0 + Duration.fromMillis 250) / 1000000000) ?_
    exact Nat.div_le_div_right (Nat.mul_le_mul_left _ (Nat.add_le_add_right (Nat.zero_le _) _))
  exact ⟨st, hrun, hpopped, keeps_from_cutoff household hroom (by decide) (by decide) rfl rfl
    (TransitionSystem.ReachableWhen.of_runWhen .init hrun) hopened hpaced⟩

end WavEncoder

end Live

end AirSonos
