import AirSonos.Stream.WavEncoder

/-!
# What the WAV encoder publishes

Every frame the task takes from its queue is published in order, unless it belongs to another
epoch or was received before the cutoff, and none is published once the stream is closed. With
a delay it waits until it is due. What is broadcast of a timed frame starts at the cutoff.
-/

namespace AirSonos.Live

open PcmQueue (QueueLabel Ledger)

/-- The stream plays the frame: it is of the epoch, and it has a time or was received at or after
the cutoff. -/
def WavEnv.plays (env : WavEnv) (entry : QueueEntry) : Bool :=
  decide (entry.1.playbackEpoch = env.playbackEpoch) &&
    (entry.1.presentationTime.isSome || decide (env.plan.start ≤ entry.2))

namespace WavTask

/-- The release the task has found. -/
def release : WavTask → Option PlaybackRelease
  | starting | waiting | finished => none
  | receiving release | checking release _ | delaying release _ | publishing release _
  | sending release _ => some release

/-- The frame that the task has taken and that is not published yet. -/
def hand : WavTask → List QueueEntry
  | checking _ entry | delaying _ entry | publishing _ entry => [entry]
  | _ => []

/-- The frame whose publication has begun and not ended. -/
def inFlight : WavTask → List QueueEntry
  | sending _ entry => [entry]
  | _ => []

end WavTask

namespace WavEncoder

variable {env : WavEnv} {st after : WavEncoder} {label : WavLabel}

/-- Every step of the system. -/
inductive WavStep (env : WavEnv) (st : WavEncoder) : WavLabel → WavEncoder → Prop
  | ticks {elapsed : Duration} : WavStep env st (.tick elapsed) { st with now := st.now + elapsed }
  | feeds {label : QueueLabel} {input : Ledger} (others : ∀ now, label ≠ .pop now)
      (taken : Ledger.step env.queue st.input label = some input) :
      WavStep env st (.input label) { st with input := input }
  | subscribes {connected : Bool} :
      WavStep env st (.subscribe connected)
        { st with stream := { st.stream with subscriberConnected := connected } }
  | closes : WavStep env st .close { st with stream := { st.stream with closed := true } }
  | anchors :
      WavStep env st .setAnchor
        { st with stream := { st.stream with playbackAnchor := .atInstant env.plan.start } }
  | releases (anchored : st.stream.playbackAnchor = .atInstant env.plan.start) :
      WavStep env st .setRelease { st with release := some env.plan }
  | starts (task : st.task = .starting) :
      WavStep env st .next
        { st with stream := publishHeader st.stream env.header, task := .waiting }
  | leaves {label : WavLabel} (closed : st.stream.closed = true) (task : st.task ≠ .starting)
      (flight : st.task.inFlight = []) : WavStep env st label { st with task := .finished }
  | begins {release : PlaybackRelease} (task : st.task = .waiting)
      (released : st.release = some release) :
      WavStep env st .next { st with task := .receiving release }
  | receives {release : PlaybackRelease} {input : Ledger} {entry : QueueEntry}
      (task : st.task = .receiving release)
      (taken : Ledger.step env.queue st.input (.pop st.now) = some input)
      (popped : input.popped = st.input.popped ++ [entry]) :
      WavStep env st .next { st with input := input, task := .checking release entry }
  | misses {release : PlaybackRelease} {input : Ledger} {task : WavTask}
      (receiving : st.task = .receiving release)
      (taken : Ledger.step env.queue st.input (.pop st.now) = some input)
      (popped : input.popped = st.input.popped)
      (next : task = .finished ∨ task = .receiving release) :
      WavStep env st .next { st with input := input, task := task }
  | skips {release : PlaybackRelease} {entry : QueueEntry} (task : st.task = .checking release entry)
      (refused : st.stream.closed = true ∨ entry.1.playbackEpoch ≠ env.playbackEpoch ∨
        entry.1.presentationTime = none ∧ entry.2 < release.start) :
      WavStep env st .next { st with task := .receiving release }
  | passes {release : PlaybackRelease} {entry : QueueEntry} {task : WavTask}
      (checking : st.task = .checking release entry)
      (epoch : entry.1.playbackEpoch = env.playbackEpoch)
      (fresh : entry.1.presentationTime = none → release.start ≤ entry.2)
      (next : task = .delaying release entry ∧ release.delay ≠ 0 ∨
        task = .publishing release entry ∧ release.delay = 0) :
      WavStep env st .next { st with task := task }
  | wakes {release : PlaybackRelease} {entry : QueueEntry} (task : st.task = .delaying release entry)
      (waited : due release entry ≤ st.now) :
      WavStep env st .next { st with task := .publishing release entry }
  | drops {release : PlaybackRelease} {entry : QueueEntry}
      (task : st.task = .publishing release entry)
      (refused : st.stream.beginPublish (env.chunk entry) = none) :
      WavStep env st .next { st with task := .receiving release }
  | publishes {release : PlaybackRelease} {entry : QueueEntry} {stream : TimedStream Instant}
      (task : st.task = .publishing release entry)
      (begun : st.stream.beginPublish (env.chunk entry) = some stream) :
      WavStep env st .next
        { st with
          stream := stream
          task := .sending release entry
          published := st.published ++ [(entry, st.now)] }
  | sends {release : PlaybackRelease} {entry : QueueEntry} (task : st.task = .sending release entry) :
      WavStep env st .next (st.send env release entry)

theorem step_cases (taken : st.step env label = some after) : WavStep env st label after := by
  cases label with
  | tick elapsed =>
    cases taken
    exact .ticks
  | input label =>
    simp only [step, feed] at taken
    split at taken
    · cases taken
    · case h_2 hother =>
      obtain ⟨input, hinput, rfl⟩ := Option.map_eq_some_iff.mp taken
      exact .feeds hother hinput
  | subscribe connected =>
    cases taken
    exact .subscribes
  | close =>
    cases taken
    exact .closes
  | setAnchor =>
    cases taken
    exact .anchors
  | setRelease =>
    simp only [step] at taken
    split at taken
    · case isTrue hanchored =>
      cases taken
      exact .releases hanchored
    · cases taken
  | stop =>
    simp only [step, stop] at taken
    split at taken
    · case isTrue hclosed =>
      split at taken
      · case h_1 htask =>
        cases taken
        exact .leaves hclosed (by simp [htask]) (by rw [htask]; rfl)
      · case h_2 htask =>
        cases taken
        exact .leaves hclosed (by simp [htask]) (by rw [htask]; rfl)
      · cases taken
    · cases taken
  | next =>
    simp only [step, next] at taken
    split at taken
    · case h_1 htask =>
      cases taken
      exact .starts htask
    · case h_2 htask =>
      split at taken
      · case isTrue hclosed =>
        cases taken
        exact .leaves hclosed (by simp [htask]) (by rw [htask]; rfl)
      · obtain ⟨release, hrelease, rfl⟩ := Option.map_eq_some_iff.mp taken
        exact .begins htask hrelease
    · case h_3 release htask =>
      simp only [receive] at taken
      obtain ⟨input, hinput, hnext⟩ := Option.map_eq_some_iff.mp taken
      have hpopped := PcmQueue.step_popped hinput
      simp only [QueueLabel.elimPop] at hpopped
      split at hnext
      · case h_1 entry hentry =>
        rw [hentry, Option.toList_some] at hpopped
        subst hnext
        exact .receives htask hinput hpopped
      · case h_2 hnone =>
        rw [hnone, Option.toList_none, List.append_nil] at hpopped
        subst hnext
        refine .misses htask hinput hpopped ?_
        split
        · exact .inl rfl
        · exact .inr htask
    · case h_4 release entry htask =>
      cases taken
      simp only [check]
      split
      · case isTrue hrefused =>
        simp only [Bool.or_eq_true, decide_eq_true_eq] at hrefused
        obtain hclosed | hepoch := hrefused
        · exact .skips htask (.inl hclosed)
        · exact .skips htask (.inr (.inl hepoch))
      · case isFalse haccepted =>
        simp only [Bool.or_eq_true, decide_eq_true_eq, not_or, not_not] at haccepted
        split
        · case isTrue hlate =>
          simp only [Bool.and_eq_true, decide_eq_true_eq, Option.isNone_iff_eq_none] at hlate
          exact .skips htask (.inr (.inr hlate))
        · case isFalse hfresh =>
          simp only [Bool.and_eq_true, decide_eq_true_eq, Option.isNone_iff_eq_none, not_and] at hfresh
          have hfresh' : entry.1.presentationTime = none → release.start ≤ entry.2 :=
            fun huntimed => Nat.le_of_not_lt (hfresh huntimed)
          split
          · case isTrue hdelay => exact .passes htask haccepted.2 hfresh' (.inl ⟨rfl, hdelay⟩)
          · case isFalse hdelay =>
            exact .passes htask haccepted.2 hfresh' (.inr ⟨rfl, not_not.mp hdelay⟩)
    · case h_5 release entry htask =>
      split at taken
      · case isTrue hwaited =>
        cases taken
        exact .wakes htask hwaited
      · cases taken
    · case h_6 release entry htask =>
      cases taken
      simp only [publish]
      split
      · case h_1 hrefused => exact .drops htask hrefused
      · case h_2 stream hbegun => exact .publishes htask hbegun
    · case h_7 release entry htask =>
      cases taken
      exact .sends htask
    · cases taken

/-! ### The frames of the queue -/

theorem length_s16le (env : WavEnv) (samples : List Sample) :
    (env.f32PcmToS16leBytes samples).length = samples.length * 2 := by
  induction samples with
  | nil => rfl
  | cons sample samples ih =>
    simp only [WavEnv.f32PcmToS16leBytes, List.flatMap_cons, List.length_append,
      List.length_cons, List.length_nil] at ih ⊢
    omega

/-- A frame that the queue accepts is whole frames at the rate of the stream, no more than the
queue holds. -/
theorem chunk_of_admits {entry : QueueEntry} (hadmits : env.queue.admits entry.1 = true) :
    0 < (env.chunk entry).sampleRate ∧ (env.chunk entry).sampleRate = env.sampleRate ∧
      0 < (env.chunk entry).channels ∧
      (env.chunk entry).channels * 2 ∣ (env.chunk entry).bytes.length ∧
      (env.chunk entry).bytes.length / ((env.chunk entry).channels * 2) ≤
        env.queue.maxSamples := by
  simp only [PcmQueue.admits, Bool.and_eq_true, decide_eq_true_eq] at hadmits
  obtain ⟨⟨⟨⟨⟨⟨hsome, hlength⟩, _⟩, hrate⟩, hchannels⟩, hpositive⟩, hwhole⟩ := hadmits
  have hsamples : 0 < entry.1.samples.length := List.length_pos_iff.mpr hsome
  have hlength' : (env.chunk entry).bytes.length = entry.1.samples.length * 2 :=
    length_s16le env entry.1.samples
  refine ⟨?_, hrate, ?_, ?_, ?_⟩
  · rw [WavEnv.chunk, hrate]
    apply Nat.pos_of_ne_zero
    intro hzero
    have hlimit : env.queue.maxSamples = 0 := by
      have hrate' : env.sampleRate = 0 := hzero
      simp [WavEnv.queue, PcmQueue.new, hrate']
    omega
  · rw [WavEnv.chunk, hchannels]
    exact Nat.pos_of_ne_zero hpositive
  · rw [hlength', WavEnv.chunk, hchannels]
    exact Nat.mul_dvd_mul_right (Nat.dvd_of_mod_eq_zero hwhole) 2
  · rw [hlength', Nat.mul_div_mul_right _ _ two_pos]
    exact (Nat.div_le_self _ _).trans hlength

/-- The queue of the encoder, and the frame in the hands of the task. -/
structure Fed (env : WavEnv) (st : WavEncoder) : Prop where
  reachable : (PcmQueue.ledger env.queue).Reachable st.input
  taken : ∀ entry ∈ st.task.hand ++ st.task.inFlight, entry ∈ st.input.popped

theorem Fed.admits_of_popped (h : Fed env st) {entry : QueueEntry}
    (popped : entry ∈ st.input.popped) : env.queue.admits entry.1 = true :=
  PcmQueue.admits_of_reachable h.reachable entry
    ((PcmQueue.Accounted.of_reachable h.reachable).toSettled.popped_subset popped)

theorem Fed.admits (h : Fed env st) {entry : QueueEntry}
    (hentry : entry ∈ st.task.hand ++ st.task.inFlight) : env.queue.admits entry.1 = true :=
  h.admits_of_popped (h.taken entry hentry)

theorem Fed.step (h : Fed env st) (taken : WavStep env st label after) : Fed env after := by
  have htaken := h.taken
  cases taken with
  | ticks => exact ⟨h.reachable, h.taken⟩
  | feeds others hinput =>
    refine ⟨PcmQueue.reachable_step h.reachable hinput, ?_⟩
    intro entry hentry
    rw [PcmQueue.step_popped hinput]
    exact List.mem_append_left _ (h.taken entry hentry)
  | subscribes => exact ⟨h.reachable, h.taken⟩
  | closes => exact ⟨h.reachable, h.taken⟩
  | anchors => exact ⟨h.reachable, h.taken⟩
  | releases => exact ⟨h.reachable, h.taken⟩
  | starts => exact ⟨h.reachable, List.forall_mem_nil _⟩
  | leaves => exact ⟨h.reachable, List.forall_mem_nil _⟩
  | begins => exact ⟨h.reachable, List.forall_mem_nil _⟩
  | @receives release input entry task hinput popped =>
    refine ⟨PcmQueue.reachable_step h.reachable hinput, ?_⟩
    intro other hother
    cases List.mem_singleton.mp hother
    rw [popped]
    exact List.mem_append_right _ List.mem_cons_self
  | misses receiving hinput popped next =>
    refine ⟨PcmQueue.reachable_step h.reachable hinput, ?_⟩
    obtain rfl | rfl := next
    · exact List.forall_mem_nil _
    · exact List.forall_mem_nil _
  | skips => exact ⟨h.reachable, List.forall_mem_nil _⟩
  | passes checking epoch fresh next =>
    rw [checking] at htaken
    obtain ⟨rfl, _⟩ | ⟨rfl, _⟩ := next
    · exact ⟨h.reachable, htaken⟩
    · exact ⟨h.reachable, htaken⟩
  | wakes task =>
    rw [task] at htaken
    exact ⟨h.reachable, htaken⟩
  | drops => exact ⟨h.reachable, List.forall_mem_nil _⟩
  | publishes task =>
    rw [task] at htaken
    exact ⟨h.reachable, htaken⟩
  | sends => exact ⟨h.reachable, List.forall_mem_nil _⟩

/-! ### The plan -/

structure Planned (env : WavEnv) (st : WavEncoder) : Prop where
  anchored : st.release ≠ none → st.stream.playbackAnchor = .atInstant env.plan.start
  released : st.release = none ∨ st.release = some env.plan
  found : ∀ release, st.task.release = some release → release = env.plan ∧ st.release ≠ none
  quiet : st.release = none → st.published = [] ∧ st.outputs = []

theorem served_cases (bytes : Bytes) : served bytes = [] ∨ served bytes = bytes := by
  unfold served
  split
  · exact .inl rfl
  · exact .inr rfl

/-- The header is broadcast, or nothing is. -/
theorem publishHeader_continues (st : TimedStream Instant) (header : Bytes) :
    ∃ bytes, (bytes = [] ∨ bytes = header) ∧ Continues st (publishHeader st header) bytes := by
  simp only [publishHeader]
  split
  · exact ⟨[], .inl rfl, .quiet rfl id rfl⟩
  · split
    · exact ⟨[], .inl rfl, .quiet rfl id rfl⟩
    · obtain ⟨hanchor, hclosed, hsent⟩ :=
        sendServed_continues { st with encodedBytes := st.encodedBytes + header.length } header
      exact ⟨_, served_cases header, hanchor, hclosed, hsent⟩

theorem publishHeader_anchor (st : TimedStream Instant) (header : Bytes) :
    (publishHeader st header).playbackAnchor = st.playbackAnchor := by
  obtain ⟨_, _, h⟩ := publishHeader_continues st header
  exact h.anchor

theorem beginPublish_cases {stream begun : TimedStream Instant} {chunk : TimedChunk Instant}
    (h : stream.beginPublish chunk = some begun) :
    stream.closed = false ∧
      begun = { stream with encodedBytes := stream.encodedBytes + chunk.bytes.length } := by
  simp only [TimedStream.beginPublish] at h
  split at h
  · cases h
  · case isFalse hopen =>
    simp only [Bool.or_eq_true, not_or, Bool.not_eq_true] at hopen
    cases h
    exact ⟨hopen.2, rfl⟩

/-- What ends a publication that the plan has anchored. -/
theorem Planned.send_continues (h : Planned env st) {release : PlaybackRelease}
    {entry : QueueEntry} (task : st.task = .sending release entry) :
    Continues st.stream (st.send env release entry).stream
      (if st.stream.subscriberConnected then served (env.kept entry) else []) := by
  have hfound := h.found release
  rw [task] at hfound
  exact finishPublish_continues env (h.anchored (hfound rfl).2) st.now

theorem Planned.step (h : Planned env st) (taken : WavStep env st label after) :
    Planned env after := by
  have hfound := h.found
  cases taken with
  | ticks => exact ⟨h.anchored, h.released, h.found, h.quiet⟩
  | feeds => exact ⟨h.anchored, h.released, h.found, h.quiet⟩
  | subscribes => exact ⟨h.anchored, h.released, h.found, h.quiet⟩
  | closes => exact ⟨h.anchored, h.released, h.found, h.quiet⟩
  | anchors => exact ⟨fun _ => rfl, h.released, h.found, h.quiet⟩
  | releases anchored =>
    refine ⟨fun _ => anchored, .inr rfl, ?_, ?_⟩
    · intro release hrelease
      exact ⟨(h.found release hrelease).1, Option.some_ne_none _⟩
    · intro hnone
      cases hnone
  | starts task =>
    refine ⟨?_, h.released, ?_, h.quiet⟩
    · intro hreleased
      exact (publishHeader_anchor _ _).trans (h.anchored hreleased)
    · intro release hrelease
      cases hrelease
  | leaves =>
    refine ⟨h.anchored, h.released, ?_, h.quiet⟩
    intro release hrelease
    cases hrelease
  | @begins release task released =>
    refine ⟨h.anchored, h.released, ?_, h.quiet⟩
    intro other hother
    cases hother
    obtain hnone | hplan := h.released
    · rw [released] at hnone
      cases hnone
    · rw [hplan] at released
      cases released
      refine ⟨rfl, ?_⟩
      rw [hplan]
      exact Option.some_ne_none _
  | receives task =>
    rw [task] at hfound
    exact ⟨h.anchored, h.released, hfound, h.quiet⟩
  | misses receiving taken popped next =>
    rw [receiving] at hfound
    refine ⟨h.anchored, h.released, ?_, h.quiet⟩
    obtain rfl | rfl := next
    · intro release hrelease
      cases hrelease
    · exact hfound
  | skips task =>
    rw [task] at hfound
    exact ⟨h.anchored, h.released, hfound, h.quiet⟩
  | passes checking epoch fresh next =>
    rw [checking] at hfound
    refine ⟨h.anchored, h.released, ?_, h.quiet⟩
    obtain ⟨rfl, _⟩ | ⟨rfl, _⟩ := next
    · exact hfound
    · exact hfound
  | wakes task =>
    rw [task] at hfound
    exact ⟨h.anchored, h.released, hfound, h.quiet⟩
  | drops task =>
    rw [task] at hfound
    exact ⟨h.anchored, h.released, hfound, h.quiet⟩
  | publishes task begun =>
    rw [task] at hfound
    obtain ⟨_, rfl⟩ := beginPublish_cases begun
    refine ⟨h.anchored, h.released, hfound, ?_⟩
    intro hnone
    exact absurd hnone (hfound _ rfl).2
  | @sends release entry task =>
    rw [task] at hfound
    have hreleased := (hfound release rfl).2
    refine ⟨?_, h.released, hfound, ?_⟩
    · intro _
      exact (h.send_continues task).anchor.trans (h.anchored hreleased)
    · intro hnone
      exact absurd hnone hreleased

/-! ### Order and delay -/

/-- The frames to play are the published ones and, while the stream is open, the one in hand. -/
structure Ordered (env : WavEnv) (st : WavEncoder) : Prop where
  order : ∃ rest, st.input.popped.filter env.plays = st.published.map Prod.fst ++ rest ∧
    (st.stream.closed = false → rest = st.task.hand.filter env.plays)
  sure : ∀ release entry, st.task = .delaying release entry ∨ st.task = .publishing release entry →
    env.plays entry = true

theorem plays_of_passes {entry : QueueEntry} (epoch : entry.1.playbackEpoch = env.playbackEpoch)
    (fresh : entry.1.presentationTime = none → env.plan.start ≤ entry.2) :
    env.plays entry = true := by
  simp only [WavEnv.plays, epoch, decide_true, Bool.true_and, Bool.or_eq_true, decide_eq_true_eq]
  cases htime : entry.1.presentationTime with
  | none => exact .inr (fresh htime)
  | some presentationTime => exact .inl rfl

theorem not_plays_of_refused {entry : QueueEntry}
    (refused : entry.1.playbackEpoch ≠ env.playbackEpoch ∨
      entry.1.presentationTime = none ∧ entry.2 < env.plan.start) : env.plays entry = false := by
  obtain hepoch | ⟨huntimed, hlate⟩ := refused
  · simp [WavEnv.plays, hepoch]
  · have hcutoff : ¬env.plan.start ≤ entry.2 := Nat.not_le_of_lt hlate
    simp [WavEnv.plays, huntimed, hcutoff]

/-- A publication of a frame of the queue only fails because the stream is closed. -/
theorem Fed.closed_of_refused (fed : Fed env st) {release : PlaybackRelease} {entry : QueueEntry}
    (task : st.task = .publishing release entry)
    (refused : st.stream.beginPublish (env.chunk entry) = none) : st.stream.closed = true := by
  have hadmits : env.queue.admits entry.1 = true := by
    apply fed.admits
    rw [task]
    exact List.mem_cons_self
  simp only [PcmQueue.admits, Bool.and_eq_true, decide_eq_true_eq] at hadmits
  have hsamples := List.length_pos_iff.mpr hadmits.1.1.1.1.1.1
  have hbytes : (env.chunk entry).bytes ≠ [] := by
    apply List.ne_nil_of_length_pos
    rw [WavEnv.chunk, length_s16le]
    omega
  simp only [TimedStream.beginPublish] at refused
  split at refused
  · case isTrue hclosed =>
    simpa [hbytes] using hclosed
  · cases refused

/-- Nothing is received and nothing published. -/
theorem Ordered.steady (h : Ordered env st) (popped : after.input.popped = st.input.popped)
    (published : after.published = st.published)
    (closed : after.stream.closed = false → st.stream.closed = false)
    (hand : after.stream.closed = false →
      after.task.hand.filter env.plays = st.task.hand.filter env.plays)
    (sure : ∀ release entry,
      after.task = .delaying release entry ∨ after.task = .publishing release entry →
        env.plays entry = true) : Ordered env after where
  order := by
    obtain ⟨rest, horder, hrest⟩ := h.order
    refine ⟨rest, ?_, ?_⟩
    · rw [popped, published]
      exact horder
    · intro hopen
      rw [hand hopen]
      exact hrest (closed hopen)
  sure := sure

/-- Nothing but the stream, the clock or the release changes. -/
theorem Ordered.same (h : Ordered env st) (popped : after.input.popped = st.input.popped)
    (published : after.published = st.published) (task : after.task = st.task)
    (closed : after.stream.closed = false → st.stream.closed = false) : Ordered env after :=
  h.steady popped published closed (fun _ => by rw [task]) (task ▸ h.sure)

/-- The task has put the frame down and takes the next one. -/
theorem Ordered.putDown (h : Ordered env st) {release : PlaybackRelease} {entry : QueueEntry}
    (planned : Planned env st) (task : st.task = .checking release entry)
    (refused : st.stream.closed = true ∨ entry.1.playbackEpoch ≠ env.playbackEpoch ∨
      entry.1.presentationTime = none ∧ entry.2 < release.start) :
    Ordered env { st with task := .receiving release } := by
  refine h.steady rfl rfl id ?_ (by simp)
  intro hopen
  obtain hclosed | hrefused := refused
  · rw [show st.stream.closed = false from hopen] at hclosed
    cases hclosed
  · have hfound := planned.found release
    rw [task] at hfound
    obtain ⟨rfl, _⟩ := hfound rfl
    rw [task]
    simp [WavTask.hand, not_plays_of_refused hrefused]

/-- The frame in hand is one the stream plays. -/
theorem Ordered.passOn (h : Ordered env st) {release : PlaybackRelease} {entry : QueueEntry}
    {task : WavTask} (planned : Planned env st) (checking : st.task = .checking release entry)
    (epoch : entry.1.playbackEpoch = env.playbackEpoch)
    (fresh : entry.1.presentationTime = none → release.start ≤ entry.2)
    (next : task = .delaying release entry ∨ task = .publishing release entry) :
    Ordered env { st with task := task } := by
  have hfound := planned.found release
  rw [checking] at hfound
  obtain ⟨rfl, _⟩ := hfound rfl
  refine h.steady rfl rfl id ?_ ?_
  · intro _
    rw [checking]
    obtain rfl | rfl := next <;> rfl
  · rintro other frame (hnext | hnext) <;> obtain rfl | rfl := next <;> cases hnext <;>
      exact plays_of_passes epoch fresh

/-- The frame in hand becomes the last one published. -/
theorem Ordered.publishes (h : Ordered env st) {release : PlaybackRelease} {entry : QueueEntry}
    {stream : TimedStream Instant} (task : st.task = .publishing release entry)
    (begun : st.stream.beginPublish (env.chunk entry) = some stream) :
    Ordered env
      { st with
        stream := stream
        task := .sending release entry
        published := st.published ++ [(entry, st.now)] } := by
  obtain ⟨rest, horder, hrest⟩ := h.order
  obtain ⟨hopen, rfl⟩ := beginPublish_cases begun
  have hplays := h.sure release entry (.inr task)
  refine ⟨⟨[], ?_, fun _ => rfl⟩, by simp⟩
  rw [horder, hrest hopen, task]
  simp [WavTask.hand, hplays]

theorem Ordered.step (fed : Fed env st) (planned : Planned env st) (h : Ordered env st)
    (taken : WavStep env st label after) : Ordered env after := by
  cases taken with
  | ticks => exact h.same rfl rfl rfl id
  | @feeds label input others hinput =>
    refine h.same ?_ rfl rfl id
    have hpopped := PcmQueue.step_popped hinput
    cases label with
    | pop now => exact absurd rfl (others now)
    | _ => rw [hpopped]; exact List.append_nil _
  | subscribes => exact h.same rfl rfl rfl id
  | closes => exact h.same rfl rfl rfl fun hopen => by cases hopen
  | anchors => exact h.same rfl rfl rfl id
  | releases => exact h.same rfl rfl rfl id
  | starts task =>
    refine h.steady rfl rfl ?_ (fun _ => by rw [task]; rfl) (by simp)
    intro hopen
    by_contra hclosed
    rw [Bool.not_eq_false] at hclosed
    rw [publishHeader, if_pos hclosed, hclosed] at hopen
    cases hopen
  | leaves closed =>
    refine h.steady rfl rfl id (fun hopen => ?_) (by simp)
    rw [show st.stream.closed = true from closed] at hopen
    cases hopen
  | begins task => exact h.steady rfl rfl id (fun _ => by rw [task]; rfl) (by simp)
  | @receives release input entry task hinput popped =>
    obtain ⟨rest, horder, hrest⟩ := h.order
    refine ⟨⟨rest ++ [entry].filter env.plays, ?_, ?_⟩, by simp⟩
    · rw [popped, List.filter_append, horder, List.append_assoc]
    · intro hopen
      rw [hrest hopen, task]
      rfl
  | misses receiving taken popped next =>
    obtain rfl | rfl := next
    · exact h.steady popped rfl id (fun _ => by rw [receiving]; rfl) (by simp)
    · exact h.steady popped rfl id (fun _ => by rw [receiving]) (by simp)
  | skips task refused => exact h.putDown planned task refused
  | passes checking epoch fresh next =>
    exact h.passOn planned checking epoch fresh (next.imp And.left And.left)
  | @wakes release entry task =>
    refine h.steady rfl rfl id (fun _ => by rw [task]; rfl) ?_
    rintro other frame (hnext | hnext) <;> cases hnext
    exact h.sure release entry (.inl task)
  | @drops release entry task refused =>
    refine h.steady rfl rfl id (fun hopen => ?_) (by simp)
    have hclosed := fed.closed_of_refused task refused
    rw [show st.stream.closed = false from hopen] at hclosed
    cases hclosed
  | publishes task begun => exact h.publishes task begun
  | @sends release entry task =>
    refine h.steady rfl rfl (fun hopen => ?_) (fun _ => by rw [task]; rfl) (by simp [send])
    by_contra hnot
    rw [(planned.send_continues task).closed (Bool.not_eq_false _ ▸ hnot)] at hopen
    cases hopen

/-! ### Delay -/

/-- No frame is published before it is due. -/
structure Punctual (env : WavEnv) (st : WavEncoder) : Prop where
  published : ∀ entry ∈ st.published, env.plan.delay ≠ 0 → due env.plan entry.1 ≤ entry.2
  waited : ∀ release entry, st.task = .publishing release entry → release.delay ≠ 0 →
    due release entry ≤ st.now

theorem Punctual.idle (h : Punctual env st) (published : after.published = st.published)
    (task : ∀ release entry, after.task ≠ .publishing release entry) : Punctual env after where
  published := published ▸ h.published
  waited := fun release entry htask => absurd htask (task release entry)

theorem Punctual.step (planned : Planned env st) (h : Punctual env st)
    (taken : WavStep env st label after) : Punctual env after := by
  have hfound := planned.found
  cases taken with
  | ticks =>
    refine ⟨h.published, ?_⟩
    intro release entry task delayed
    exact Nat.le_trans (h.waited release entry task delayed) (Nat.le_add_right _ _)
  | feeds => exact ⟨h.published, h.waited⟩
  | subscribes => exact ⟨h.published, h.waited⟩
  | closes => exact ⟨h.published, h.waited⟩
  | anchors => exact ⟨h.published, h.waited⟩
  | releases => exact ⟨h.published, h.waited⟩
  | starts => exact h.idle rfl (by simp)
  | leaves => exact h.idle rfl (by simp)
  | begins => exact h.idle rfl (by simp)
  | receives => exact h.idle rfl (by simp)
  | misses receiving taken popped next =>
    obtain rfl | rfl := next
    · exact h.idle rfl (by simp)
    · exact h.idle rfl (by simp)
  | skips => exact h.idle rfl (by simp)
  | passes checking epoch fresh next =>
    obtain ⟨rfl, _⟩ | ⟨rfl, hzero⟩ := next
    · exact h.idle rfl (by simp)
    · refine ⟨h.published, ?_⟩
      intro other frame task delayed
      cases task
      exact absurd hzero delayed
  | wakes task waited =>
    refine ⟨h.published, ?_⟩
    intro other frame hnext _
    cases hnext
    exact waited
  | drops => exact h.idle rfl (by simp)
  | @publishes release entry stream task begun =>
    rw [task] at hfound
    obtain ⟨rfl, _⟩ := hfound release rfl
    refine ⟨?_, ?_⟩
    · intro other hother delayed
      obtain hbefore | hlast := List.mem_append.mp hother
      · exact h.published other hbefore delayed
      · cases List.mem_singleton.mp hlast
        exact h.waited _ entry task delayed
    · intro other frame hnext
      cases hnext
  | sends => exact h.idle rfl (by simp [send])

/-! ### What is broadcast -/

/-- What is kept of the frame is broadcast exactly if someone listens. A publication that is too
large closes the stream instead. -/
def Broadcasts (env : WavEnv) (output : WavOutput) : Prop :=
  output.bytes = if output.subscribed then served (env.kept output.entry) else []

/-- Everything that was broadcast comes from the header and the publications, in their order. -/
structure Heard (env : WavEnv) (st : WavEncoder) : Prop where
  published : st.published.map Prod.fst = st.outputs.map WavOutput.entry ++ st.task.inFlight
  sent : ∃ header, (header = [] ∨ header = env.header) ∧
    st.stream.sent.flatten = header ++ (st.outputs.map WavOutput.bytes).flatten
  starting : st.task = .starting → st.stream.sent = [] ∧ st.outputs = []
  outputs : ∀ output ∈ st.outputs, Broadcasts env output

theorem Heard.same (h : Heard env st) (published : after.published = st.published)
    (outputs : after.outputs = st.outputs) (sent : after.stream.sent = st.stream.sent)
    (task : after.task ≠ .starting) (inFlight : after.task.inFlight = st.task.inFlight) :
    Heard env after where
  published := by
    rw [published, outputs, inFlight]
    exact h.published
  sent := by
    rw [outputs, sent]
    exact h.sent
  starting := fun hstarting => absurd hstarting task
  outputs := outputs ▸ h.outputs

theorem Heard.step (planned : Planned env st) (h : Heard env st)
    (taken : WavStep env st label after) : Heard env after := by
  have hfound := planned.found
  have hpublished := h.published
  cases taken with
  | ticks => exact ⟨h.published, h.sent, h.starting, h.outputs⟩
  | feeds => exact ⟨h.published, h.sent, h.starting, h.outputs⟩
  | subscribes => exact ⟨h.published, h.sent, h.starting, h.outputs⟩
  | closes => exact ⟨h.published, h.sent, h.starting, h.outputs⟩
  | anchors => exact ⟨h.published, h.sent, h.starting, h.outputs⟩
  | releases => exact ⟨h.published, h.sent, h.starting, h.outputs⟩
  | starts task =>
    obtain ⟨hsent, houtputs⟩ := h.starting task
    rw [task] at hpublished
    refine ⟨hpublished, ?_, ?_, h.outputs⟩
    · obtain ⟨bytes, hheader, hcontinues⟩ := publishHeader_continues st.stream env.header
      obtain ⟨chunks, hchunks, hbytes⟩ := hcontinues.sent
      refine ⟨bytes, hheader, ?_⟩
      simp [hchunks, hsent, houtputs, hbytes]
    · intro hstarting
      cases hstarting
  | leaves closed task flight => exact h.same rfl rfl rfl (by simp) flight.symm
  | begins task => exact h.same rfl rfl rfl (by simp) (by rw [task]; rfl)
  | receives task => exact h.same rfl rfl rfl (by simp) (by rw [task]; rfl)
  | misses receiving taken popped next =>
    obtain rfl | rfl := next
    · exact h.same rfl rfl rfl (by simp) (by rw [receiving]; rfl)
    · exact h.same rfl rfl rfl (by simp) (by rw [receiving])
  | skips task => exact h.same rfl rfl rfl (by simp) (by rw [task]; rfl)
  | passes checking epoch fresh next =>
    obtain ⟨rfl, _⟩ | ⟨rfl, _⟩ := next
    · exact h.same rfl rfl rfl (by simp) (by rw [checking]; rfl)
    · exact h.same rfl rfl rfl (by simp) (by rw [checking]; rfl)
  | wakes task => exact h.same rfl rfl rfl (by simp) (by rw [task]; rfl)
  | drops task => exact h.same rfl rfl rfl (by simp) (by rw [task]; rfl)
  | @publishes release entry stream task begun =>
    obtain ⟨_, rfl⟩ := beginPublish_cases begun
    rw [task] at hpublished
    refine ⟨?_, h.sent, ?_, h.outputs⟩
    · rw [List.map_append, hpublished]
      simp [WavTask.inFlight]
    · intro hstarting
      cases hstarting
  | @sends release entry task =>
    rw [task] at hpublished
    obtain ⟨chunks, hsent, hflatten⟩ := (planned.send_continues task).sent
    have houtputs : (st.send env release entry).outputs =
        st.outputs ++ [⟨entry, st.stream.subscriberConnected, chunks.flatten⟩] := by
      have hdrop : (st.send env release entry).stream.sent.drop st.stream.sent.length = chunks := by
        rw [hsent, List.drop_left]
      rw [← hdrop]
      rfl
    refine ⟨?_, ?_, ?_, ?_⟩
    · rw [houtputs, List.map_append]
      exact hpublished.trans (List.append_nil _).symm
    · obtain ⟨header, hheader, hall⟩ := h.sent
      refine ⟨header, hheader, ?_⟩
      rw [houtputs, hsent, List.flatten_append, hall]
      simp
    · intro hstarting
      cases hstarting
    · rw [houtputs]
      intro output houtput
      obtain hbefore | hlast := List.mem_append.mp houtput
      · exact h.outputs output hbefore
      · cases List.mem_singleton.mp hlast
        exact hflatten

/-! ### After closing -/

theorem closed_step (planned : Planned env st) (closed : st.stream.closed = true)
    (taken : WavStep env st label after) :
    after.stream.closed = true ∧ after.published = st.published := by
  cases taken with
  | ticks => exact ⟨closed, rfl⟩
  | feeds => exact ⟨closed, rfl⟩
  | subscribes => exact ⟨closed, rfl⟩
  | closes => exact ⟨rfl, rfl⟩
  | anchors => exact ⟨closed, rfl⟩
  | releases => exact ⟨closed, rfl⟩
  | starts =>
    obtain ⟨_, _, h⟩ := publishHeader_continues st.stream env.header
    exact ⟨h.closed closed, rfl⟩
  | leaves => exact ⟨closed, rfl⟩
  | begins => exact ⟨closed, rfl⟩
  | receives => exact ⟨closed, rfl⟩
  | misses => exact ⟨closed, rfl⟩
  | skips => exact ⟨closed, rfl⟩
  | passes => exact ⟨closed, rfl⟩
  | wakes => exact ⟨closed, rfl⟩
  | drops => exact ⟨closed, rfl⟩
  | publishes task begun =>
    rw [(beginPublish_cases begun).1] at closed
    cases closed
  | sends task => exact ⟨(planned.send_continues task).closed closed, rfl⟩

/-! ### Every run -/

theorem fed_reachable (h : (wavEncoder env).Reachable st) : Fed env st :=
  h.invariant ⟨.init, List.forall_mem_nil _⟩ fun _ _ _ hfed taken => hfed.step (step_cases taken)

theorem planned_reachable (h : (wavEncoder env).Reachable st) : Planned env st := by
  apply h.invariant
  · refine ⟨?_, .inl rfl, ?_, fun _ => ⟨rfl, rfl⟩⟩
    · intro hreleased
      exact absurd rfl hreleased
    · intro release hrelease
      cases hrelease
  · intro before label next hplanned taken
    exact hplanned.step (step_cases taken)

theorem ordered_reachable (h : (wavEncoder env).Reachable st) : Ordered env st := by
  apply h.invariant_with (fun _ hs => And.intro (fed_reachable hs) (planned_reachable hs))
  · refine ⟨⟨[], rfl, fun _ => rfl⟩, ?_⟩
    rintro release entry (hnext | hnext)
    · cases hnext
    · cases hnext
  · intro before label next hknown hordered taken
    exact hordered.step hknown.1 hknown.2 (step_cases taken)

theorem punctual_reachable (h : (wavEncoder env).Reachable st) : Punctual env st := by
  apply h.invariant_with (fun _ => planned_reachable)
  · refine ⟨List.forall_mem_nil _, ?_⟩
    intro release entry hnext
    cases hnext
  · intro before label next hplanned hpunctual taken
    exact hpunctual.step hplanned (step_cases taken)

theorem heard_reachable (h : (wavEncoder env).Reachable st) : Heard env st := by
  apply h.invariant_with (fun _ => planned_reachable)
  · exact ⟨rfl, ⟨[], .inl rfl, rfl⟩, fun _ => ⟨rfl, rfl⟩, List.forall_mem_nil _⟩
  · intro before label next hplanned hheard taken
    exact hheard.step hplanned (step_cases taken)

/-- No byte of a frame before the cutoff is broadcast. -/
theorem broadcast_from_cutoff (h : (wavEncoder env).Reachable st)
    (covers : env.float.Covers env.sampleRate env.queue.maxSamples) {output : WavOutput}
    (mem : output ∈ st.outputs) {presentationTime : Instant}
    (timed : output.entry.1.presentationTime = some presentationTime) :
    output.bytes <:+ audible (secs env.plan.start)
      ((env.chunk output.entry).inSeconds.frames (secs presentationTime)) := by
  have hfed := fed_reachable h
  have hpublished : output.entry ∈ st.published.map Prod.fst := by
    rw [(heard_reachable h).published]
    exact List.mem_append_left _ (List.mem_map_of_mem mem)
  obtain ⟨rest, horder, -⟩ := (ordered_reachable h).order
  have hpopped : output.entry ∈ st.input.popped := by
    apply List.mem_of_mem_filter
    rw [horder]
    exact List.mem_append_left _ hpublished
  obtain ⟨hrate, hsame, hchannels, hwhole, hframes⟩ :=
    chunk_of_admits (hfed.admits_of_popped hpopped)
  have hskipped : exactSkipBytes (secs env.plan.start) (secs presentationTime)
      (env.chunk output.entry).inSeconds ≤
        floatSkipBytes env.float env.plan.start presentationTime (env.chunk output.entry) :=
    exactSkipBytes_le_float hrate hchannels hwhole (hsame ▸ covers.mono hframes)
  have hkept : env.kept output.entry <:+ audible (secs env.plan.start)
      ((env.chunk output.entry).inSeconds.frames (secs presentationTime)) := by
    rw [audible_eq_drop hrate hwhole]
    simp only [WavEnv.kept, timed]
    obtain ⟨more, hmore⟩ := Nat.exists_eq_add_of_le hskipped
    rw [hmore, ← List.drop_drop]
    exact List.drop_suffix _ _
  rw [(heard_reachable h).outputs output mem]
  split
  · obtain hnone | hall := served_cases (env.kept output.entry)
    · rw [hnone]
      exact List.nil_suffix
    · rw [hall]
      exact hkept
  · exact List.nil_suffix

theorem published_closed (h : (wavEncoder env).Reachable st) (closed : st.stream.closed = true)
    {labels : List WavLabel} (hrun : (wavEncoder env).run st labels = some after) :
    after.published = st.published := by
  induction labels generalizing st with
  | nil =>
    cases hrun
    rfl
  | cons label labels ih =>
    obtain ⟨next, hnext, hrest⟩ := Option.bind_eq_some_iff.mp hrun
    obtain ⟨hclosed, hpublished⟩ :=
      closed_step (planned_reachable h) closed (step_cases hnext)
    rw [ih (h.next hnext) hclosed hrest, hpublished]

/-- What the encoder is: it is silent until the release, it plays the frames of its epoch in the
order of the queue, it delays them, it broadcasts what it keeps of each to whoever listens, which
is nothing from before the cutoff as long as no frame is lost in rounding, and it stops. -/
structure DelaysLine (env : WavEnv) (st : WavEncoder) : Prop where
  silent : st.release = none →
    st.published = [] ∧ (st.stream.sent.flatten = [] ∨ st.stream.sent.flatten = env.header)
  order : ∃ rest, st.input.popped.filter env.plays = st.published.map Prod.fst ++ rest ∧
    (st.stream.closed = false → rest = st.task.hand.filter env.plays)
  delayed : ∀ entry ∈ st.published, env.plan.delay ≠ 0 → due env.plan entry.1 ≤ entry.2
  broadcast : ∃ header, (header = [] ∨ header = env.header) ∧
    st.stream.sent.flatten = header ++ (st.outputs.map WavOutput.bytes).flatten
  outputs : st.published.map Prod.fst = st.outputs.map WavOutput.entry ++ st.task.inFlight
  kept : ∀ output ∈ st.outputs, Broadcasts env output
  cutoff : env.float.Covers env.sampleRate env.queue.maxSamples →
    ∀ output ∈ st.outputs, ∀ presentationTime,
      output.entry.1.presentationTime = some presentationTime →
        output.bytes <:+ audible (secs env.plan.start)
          ((env.chunk output.entry).inSeconds.frames (secs presentationTime))
  closed : st.stream.closed = true → ∀ labels after,
    (wavEncoder env).run st labels = some after → after.published = st.published

theorem delays_line (env : WavEnv) {st : WavEncoder} (h : (wavEncoder env).Reachable st) :
    DelaysLine env st where
  silent := by
    intro hnone
    obtain ⟨hpublished, houtputs⟩ := (planned_reachable h).quiet hnone
    refine ⟨hpublished, ?_⟩
    obtain ⟨header, hheader, hsent⟩ := (heard_reachable h).sent
    rw [houtputs, List.map_nil, List.flatten_nil, List.append_nil] at hsent
    rw [hsent]
    exact hheader
  order := (ordered_reachable h).order
  delayed := (punctual_reachable h).published
  broadcast := (heard_reachable h).sent
  outputs := (heard_reachable h).published
  kept := (heard_reachable h).outputs
  cutoff := fun covers _ mem _ timed => broadcast_from_cutoff h covers mem timed
  closed := fun hclosed _ _ hrun => published_closed h hclosed hrun

/-! ### A frame that waits, and one that does not -/

/-- Mono at 8 kHz. -/
def mono (start : Instant) (delay : Duration) : WavEnv where
  entrySize := 128
  sampleRate := 8000
  channels := 1
  queueDuration := .fromMillis 250
  playbackEpoch := 0
  plan := ⟨start, delay⟩
  quantize := fun _ => 0
  float := .exact

def begun : List WavLabel :=
  [.setAnchor, .setRelease, .subscribe true, .next, .next]

def presented (time : Instant) : PcmFrame :=
  { PcmQueue.tone 2 none with presentationTime := some time }

def patient : List WavLabel :=
  begun ++ [.input (.push (presented 0) 0), .next, .next, .tick 5, .next, .next, .next]

/-- The cutoff lies between the two samples of a frame that waits. -/
theorem delays_line_waits : ∃ st, (wavEncoder (mono 125000 5)).run .new patient = some st ∧
    st.published.length = 1 ∧ st.outputs.map WavOutput.bytes = [[0, 0]] ∧
    DelaysLine (mono 125000 5) st ∧
    ∀ output ∈ st.outputs, ∀ presentationTime,
      output.entry.1.presentationTime = some presentationTime →
        output.bytes <:+ audible (secs 125000)
          (((mono 125000 5).chunk output.entry).inSeconds.frames (secs presentationTime)) := by
  have hruns : ((wavEncoder (mono 125000 5)).run .new patient).any (fun st =>
      decide (st.published.length = 1 ∧ st.outputs.map WavOutput.bytes = [[0, 0]])) = true := by
    decide +kernel
  obtain ⟨st, hst, hfacts⟩ := (Option.any_eq_true _ _).mp hruns
  obtain ⟨hpublished, houtputs⟩ := of_decide_eq_true hfacts
  have hline := delays_line (mono 125000 5) (TransitionSystem.Reachable.of_run .init hst)
  exact ⟨st, hst, hpublished, houtputs, hline, hline.cutoff (FloatTime.exact_covers _ _)⟩

def early : List WavLabel :=
  begun ++ [.input (.push (presented 1000000000) 0), .next, .next, .next, .close]

/-- Without a delay a frame is published a second before it is presented, and a publication that
has begun is broadcast although the stream is closed. -/
theorem publishes_early : ∃ st after, (wavEncoder (mono 0 0)).run .new early = some st ∧
    (∃ entry ∈ st.published, entry.2 < due (mono 0 0).plan entry.1) ∧ st.stream.closed = true ∧
    (wavEncoder (mono 0 0)).step st .next = some after ∧ after.stream.sent ≠ st.stream.sent := by
  have hrun : (((wavEncoder (mono 0 0)).run .new early).any fun st =>
      (st.published.any fun entry => decide (entry.2 < due (mono 0 0).plan entry.1)) &&
        st.stream.closed && ((wavEncoder (mono 0 0)).step st .next).any fun after =>
          decide (after.stream.sent ≠ st.stream.sent)) = true := by
    decide +kernel
  simp only [Option.any_eq_true, Bool.and_eq_true, List.any_eq_true, decide_eq_true_eq] at hrun
  obtain ⟨st, hst, ⟨hearly, hclosed⟩, after, hnext, hsent⟩ := hrun
  exact ⟨st, after, hst, hearly, hclosed, hnext, hsent⟩

end WavEncoder

end AirSonos.Live
