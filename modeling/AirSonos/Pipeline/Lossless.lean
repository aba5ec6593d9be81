import AirSonos.Pipeline.Ledger

/-!
# Buffered audio is lossless up to the encoder

While only the buffered callback is used, every accepted frame holds a permit for exactly its
samples and bytes. The frames of one encoder come from one adapter queue, so all that is queued
there was reserved from one pool. A pool is no larger than either queue, and so there is always
room for a frame whose permit was granted: only a closed queue refuses it.
-/

namespace AirSonos

variable {env : PipelineEnv} {st after : Pipeline} {label : PipelineLabel}

def PipelineLabel.timed : PipelineLabel → Bool
  | audioProcessTimed _ _ _ => true
  | _ => false

/-- Every sum is that of the queued frames. -/
structure InBalance (env : PipelineEnv) (st : Pipeline) : Prop where
  queues : ∀ queue pcm, st.queues.lookup queue = some pcm → env.adapterQueue.Within pcm
  encoders : ∀ generation task, st.encoders.lookup generation = some task →
    env.encoderQueue.Within task.input

namespace InBalance

theorem setQueue (h : InBalance env st) {queue : Nat} {next : PcmQueue.State}
    (queues : after.queues = st.queues.insert queue next) (encoders : after.encoders = st.encoders)
    (within : env.adapterQueue.Within next) : InBalance env after where
  queues := by
    intro other pcm found
    rw [queues, AssocMap.lookup_insert_ite] at found
    split at found
    · cases found
      exact within
    · exact h.queues other pcm found
  encoders := by
    rw [encoders]
    exact h.encoders

theorem setTask (h : InBalance env st) {generation : Nat} {next : EncoderTask}
    (queues : after.queues = st.queues)
    (encoders : after.encoders = st.encoders.insert generation next)
    (within : env.encoderQueue.Within next.input) : InBalance env after where
  queues := by
    rw [queues]
    exact h.queues
  encoders := by
    intro other task found
    rw [encoders, AssocMap.lookup_insert_ite] at found
    split at found
    · cases found
      exact within
    · exact h.encoders other task found

theorem closed {queue : PcmQueue} {state : PcmQueue.State} (h : queue.Within state) :
    queue.Within (PcmQueue.close state) :=
  ⟨⟨h.samples, h.bytes⟩, h.samples_le, h.bytes_le⟩

theorem empty (queue : PcmQueue) : queue.Within .empty :=
  ⟨⟨rfl, rfl⟩, Nat.zero_le _, Nat.zero_le _⟩

theorem closeStream (h : InBalance env st) (generation : Nat) :
    InBalance env (st.closeStream generation) := by
  unfold Pipeline.closeStream
  split
  · exact h
  · exact h.setTask rfl rfl .clear

theorem spawn (h : InBalance env st) (stream : LiveStream) : InBalance env (st.spawn stream) := by
  unfold Pipeline.spawn
  split
  · exact h
  · exact h.setTask rfl rfl (empty _)

theorem adopt (h : InBalance env st) (runtime : BridgeRuntime) :
    InBalance env (st.adopt env runtime) :=
  Pipeline.adopt_rule { h with } (fun _ generation h => h.closeStream generation)
    fun _ stream _ h => h.spawn stream

theorem emission (h : InBalance env st) {frame : PcmFrame} {now : Instant} {accepted : Bool}
    (emission : Emission env st frame now after accepted) : InBalance env after := by
  cases emission with
  | blocked => exact { h with }
  | refused found _ push => exact h.setQueue rfl rfl ((h.queues _ _ found).pushAt push)
  | accepted found push => exact h.setQueue rfl rfl ((h.queues _ _ found).pushAt push)

theorem popped {queue : PcmQueue} {before behind : PcmQueue.State} {now : Instant}
    {popped : Option (PcmFrame × Instant)} (h : queue.Within before)
    (pop : queue.popAt before now = (behind, popped)) : queue.Within behind := by
  have hpopped := h.popAt now
  rw [pop] at hpopped
  exact hpopped

theorem step (h : InBalance env st) (taken : st.step env label = some after) :
    InBalance env after := by
  cases Pipeline.step_cases taken with
  | audio step =>
    cases step with
    | emits _ emission => exact h.emission emission
    | pushes _ emission => exact { h.emission emission with }
    | refuses _ emission => exact { h.emission emission with }
    | clears _ found => exact h.setQueue rfl rfl .clear
    | flushes => exact h.setQueue rfl rfl (empty _)
    | closes _ found => exact h.setQueue rfl rfl (closed (h.queues _ _ found))
    | _ => exact { h with }
  | sends => exact { h with }
  | @delivers _ rest =>
    have hrest : InBalance env { st with events := rest } := { h with }
    exact hrest.adopt _
  | @begins queue _ now pcm _ _ found =>
    have hexpired : env.adapterQueue.Within (env.adapterQueue.expire pcm now) :=
      (h.queues queue pcm found).expire now
    exact h.setQueue rfl rfl
      ⟨⟨hexpired.samples, hexpired.bytes⟩, hexpired.samples_le, hexpired.bytes_le⟩
  | handles step =>
    cases step with
    | misses _ found pop => exact h.setQueue rfl rfl (popped (h.queues _ _ found) pop)
    | pops _ found pop => exact h.setQueue rfl rfl (popped (h.queues _ _ found) pop)
    | @retires queue remaining _ frame =>
      have hdiscarded : InBalance env (st.discard frame queue remaining) := { h with }
      exact hdiscarded.adopt _
    | writes _ found push => exact h.setTask rfl rfl ((h.encoders _ _ found).pushAt push)
    | refused _ found push => exact h.setTask rfl rfl ((h.encoders _ _ found).pushAt push)
    | _ => exact { h with }
  | runtime => exact h.adopt _
  | @encoder _ _ task _ found step =>
    have hinput : env.encoderQueue.Within task.input := h.encoders _ task found
    cases step with
    | misses _ pop => exact h.setTask rfl rfl (popped hinput pop)
    | receives _ pop => exact h.setTask rfl rfl (popped hinput pop)
    | checks => exact h.setTask rfl rfl hinput
    | publishes => exact { h with }
    | overflows => exact h.closeStream _
    | finishes => exact h.setTask rfl rfl hinput
  | releases => exact { h with }

theorem new : InBalance env (.new env) where
  queues := by
    intro queue pcm found
    rw [Pipeline.new, AssocMap.lookup_insert_ite] at found
    split at found
    · cases found
      exact empty _
    · cases found
  encoders := nofun

end InBalance

theorem inBalance_of_reachable (h : (pipeline env).Reachable st) : InBalance env st :=
  h.invariant (I := InBalance env) .new fun _ _ _ balance taken => balance.step taken

/-! ### Permits -/

/-- The frame holds the permit that was reserved for it in the pool. -/
structure Stamped (env : PipelineEnv) (pool : Nat) (frame : PcmFrame) : Prop where
  permit : frame.bufferedPermit =
    some ⟨pool, frame.samples.length, frame.samples.length * 4 + env.entrySize⟩
  capacity : frame.capacity = frame.samples.length
  sampleRate : frame.sampleRate = env.format.sampleRate
  channels : frame.channels = env.format.channels

/-- The call holds a permit for the piece that it is about to push, and every frame that was
accepted holds one of the pool of its queue. -/
structure Permitted (env : PipelineEnv) (st : Pipeline) : Prop where
  call : ∀ packet stop permit, st.audio.call = .pushing packet stop permit →
    permit = ⟨st.audio.pcm, stop - st.audio.progress,
      (stop - st.audio.progress) * 4 + env.entrySize⟩ ∧
    stop ≤ packet.samples.length ∧ stop - st.audio.progress ≤ env.adapterQueue.maxSamples
  emitted : ∀ queue frame, (queue, frame) ∈ st.emitted →
    Stamped env queue frame ∧ env.adapterQueue.admits frame = true

namespace Permitted

theorem piece_length (h : Permitted env st) {packet : Packet} {stop : Nat} {permit : PcmPermit}
    (call : st.audio.call = .pushing packet stop permit) :
    (st.piece env packet stop permit).samples.length = stop - st.audio.progress := by
  have hstop := (h.call packet stop permit call).2.1
  simp only [Pipeline.piece, Pipeline.frame, BufferedEnv.frame, List.length_drop, List.length_take]
  omega

theorem piece (h : Permitted env st) {packet : Packet} {stop : Nat} {permit : PcmPermit}
    (call : st.audio.call = .pushing packet stop permit) :
    Stamped env st.audio.pcm (st.piece env packet stop permit) where
  permit := by
    rw [h.piece_length call, ← (h.call packet stop permit call).1]
    rfl
  capacity := rfl
  sampleRate := rfl
  channels := rfl

end Permitted

theorem PcmQueue.admits_of_pushAt {queue : PcmQueue} {before behind : State} {frame : PcmFrame}
    {now : Instant} {notify : Bool}
    (h : queue.pushAt before frame now = some (behind, ⟨true, notify⟩)) :
    queue.admits frame = true := by
  generalize hadmission : (⟨true, notify⟩ : PcmAdmission) = admission at h
  cases pushAt_pushed h with
  | closed => cases hadmission
  | turnedAway => cases hadmission
  | refused => cases hadmission
  | accepted _ hadmits => exact hadmits

namespace Permitted

theorem audioStep (h : Permitted env st) (solvent : Solvent env st st.audio.pcm)
    (untimed : label.timed = false) (step : AudioStep env st label after) :
    Permitted env after := by
  have hleave {next : Pipeline} (call : ∀ packet stop permit,
      next.audio.call ≠ .pushing packet stop permit) (emitted : next.emitted = st.emitted) :
      Permitted env next :=
    ⟨fun packet stop permit hcall => absurd hcall (call packet stop permit),
      fun queue frame hmem => h.emitted queue frame (emitted ▸ hmem)⟩
  cases step with
  | announces => exact { h with }
  | emits => cases untimed
  | calls => exact hleave (by rintro _ _ _ ⟨⟩) rfl
  | starves => exact hleave (by rintro _ _ _ ⟨⟩) rfl
  | @reserves packet _ credits permit call more granted =>
    refine ⟨fun packet' stop' permit' hcall => ?_, h.emitted⟩
    cases hcall
    obtain ⟨hpermit, -⟩ := PcmCredits.tryReserve_cases granted
    rw [solvent.pool_eq] at hpermit
    refine ⟨hpermit, Nat.min_le_right _ _, ?_⟩
    have hmin := Nat.min_le_left (st.audio.progress + env.adapterQueue.maxSamples) packet.samples.length
    simp only [Pipeline.goto, Pipeline.setPool]
    omega
  | admits => exact hleave (by rintro _ _ _ ⟨⟩) rfl
  | pushes call emission =>
    refine ⟨by rintro _ _ _ ⟨⟩, fun queue frame hmem => ?_⟩
    cases emission with
    | accepted _ push =>
      obtain heq | hold := List.mem_cons.mp hmem
      · cases heq
        exact ⟨h.piece call, PcmQueue.admits_of_pushAt push⟩
      · exact h.emitted queue frame hold
  | refuses call emission =>
    refine hleave (by rintro _ _ _ ⟨⟩) ?_
    cases emission <;> rfl
  | clears => exact hleave (by rintro _ _ _ ⟨⟩) rfl
  | flushes => exact hleave (by rintro _ _ _ ⟨⟩) rfl
  | stops => exact hleave (by rintro _ _ _ ⟨⟩) rfl
  | drops => exact hleave (by rintro _ _ _ ⟨⟩) rfl
  | notifies => exact { h with }
  | closes => exact hleave (by rintro _ _ _ ⟨⟩) rfl
  | endsPaused => exact { h with }
  | endedBefore => exact h

theorem step (h : Permitted env st) (solvent : Solvent env st st.audio.pcm)
    (untimed : label.timed = false) (taken : st.step env label = some after) :
    Permitted env after := by
  have hadopt {st : Pipeline} (h : Permitted env st) (runtime : BridgeRuntime) :
      Permitted env (st.adopt env runtime) := by
    obtain ⟨encoders, held, heq⟩ := Pipeline.adopt_frame env st runtime
    rw [heq]
    exact { h with }
  cases Pipeline.step_cases taken with
  | audio step => exact h.audioStep solvent untimed step
  | sends => exact { h with }
  | @delivers _ rest =>
    have hrest : Permitted env { st with events := rest } := { h with }
    exact hadopt hrest _
  | begins => exact { h with }
  | handles step =>
    cases step with
    | @retires queue remaining _ frame =>
      have hdiscarded : Permitted env (st.discard frame queue remaining) := { h with }
      exact hadopt hdiscarded _
    | _ => exact { h with }
  | runtime => exact hadopt h _
  | encoder _ step =>
    cases step with
    | overflows =>
      obtain ⟨encoders, held, heq⟩ := Pipeline.closeStream_frame st _
      rw [heq]
      exact { h with }
    | _ => exact { h with }
  | releases => exact { h with }

end Permitted

/-! ### Refusals -/

/-- What is queued of a pool weighs as much as its permits. -/
theorem weigh_stamped {queue : PcmQueue} (size : queue.entrySize = env.entrySize) {pool : Nat}
    {entries : List (PcmFrame × Instant)} (stamped : ∀ entry ∈ entries, Stamped env pool entry.1) :
    weigh (PcmPermit.within pool PcmPermit.samples) (PcmQueue.permits entries) =
        PcmQueue.sampleSum entries ∧
      weigh (PcmPermit.within pool PcmPermit.bytes) (PcmQueue.permits entries) =
        queue.byteSum entries := by
  induction entries with
  | nil => exact ⟨rfl, rfl⟩
  | cons entry rest ih =>
    obtain ⟨hentry, hrest⟩ := List.forall_mem_cons.mp stamped
    obtain ⟨hsamples, hbytes⟩ := ih hrest
    have hpermits : PcmQueue.permits (entry :: rest) =
        ⟨pool, entry.1.samples.length, entry.1.samples.length * 4 + env.entrySize⟩ ::
          PcmQueue.permits rest :=
      List.filterMap_cons_some (f := fun entry : PcmFrame × Instant => entry.1.bufferedPermit)
        hentry.permit
    constructor
    · rw [hpermits, weigh_cons, hsamples, PcmQueue.sampleSum_cons, PcmPermit.within, if_pos rfl]
    · rw [hpermits, weigh_cons, hbytes, PcmQueue.byteSum_cons, PcmPermit.within, if_pos rfl,
        PcmQueue.allocated, hentry.capacity, size]

/-- A frame fits when its permit and those that are queued stay within the limits. -/
theorem PcmQueue.fits {queue : PcmQueue} {state : State} {frame : PcmFrame} {pool : Nat}
    (size : queue.entrySize = env.entrySize) (within : queue.Within state)
    (stamped : ∀ entry ∈ state.frames, Stamped env pool entry.1) (stamp : Stamped env pool frame)
    (samples : weigh (PcmPermit.within pool PcmPermit.samples) (permits state.frames) +
      weigh (PcmPermit.within pool PcmPermit.samples) frame.permits ≤ queue.maxSamples)
    (bytes : weigh (PcmPermit.within pool PcmPermit.bytes) (permits state.frames) +
      weigh (PcmPermit.within pool PcmPermit.bytes) frame.permits ≤ queue.maxBytes) :
    queue.needsRoom state frame = false := by
  obtain ⟨hsamples, hbytes⟩ := weigh_stamped size stamped
  have hpermits : frame.permits =
      [⟨pool, frame.samples.length, frame.samples.length * 4 + env.entrySize⟩] := by
    rw [PcmFrame.permits, stamp.permit, Option.toList_some]
  rw [hpermits, weigh_cons, weigh_nil, hsamples, PcmPermit.within, if_pos rfl] at samples
  rw [hpermits, weigh_cons, weigh_nil, hbytes, PcmPermit.within, if_pos rfl] at bytes
  have hbalanced := within.samples
  have hallocated := within.bytes
  dsimp only at samples bytes
  simp only [needsRoom, allocated, stamp.capacity, size, Bool.or_eq_false_iff,
    decide_eq_false_iff_not, Nat.not_lt]
  constructor <;> omega

/-- Only a closed queue refuses a frame that it admits and has room for. -/
theorem PcmQueue.closed_of_refused {queue : PcmQueue} {state behind : State} {frame : PcmFrame}
    {now : Instant} {notify : Bool} (admits : queue.admits frame = true)
    (room : queue.needsRoom state frame = false)
    (push : queue.pushAt state frame now = some (behind, ⟨false, notify⟩)) :
    state.closed = true := by
  generalize hadmission : (⟨false, notify⟩ : PcmAdmission) = admission at push
  cases pushAt_pushed push with
  | closed hclosed => exact hclosed
  | turnedAway _ hadmits =>
    rw [admits] at hadmits
    cases hadmits
  | refused _ _ _ _ _ hneeds =>
    have hexpired := needsRoom_of_discards hneeds
    rw [expire_eq_discards] at hexpired
    rw [needsRoom_of_discards hexpired] at room
    cases room
  | accepted => cases hadmission

/-- The queue was closed, unless the frame was no whole number of audio frames. -/
def Refusal.Excused (env : PipelineEnv) (refusal : Refusal) : Prop :=
  refusal.frame.samples ≠ [] → env.format.channels ∣ refusal.frame.samples.length →
    refusal.closed = true

theorem Stamped.admits {pool : Nat} {frame : PcmFrame} (h : Stamped env pool frame)
    (short : frame.samples.length ≤ env.adapterQueue.maxSamples) (nonempty : frame.samples ≠ [])
    (whole : env.format.channels ∣ frame.samples.length) :
    env.adapterQueue.admits frame = true := by
  have hchannels : env.adapterQueue.channels ≠ 0 := by
    intro hzero
    have hnone : env.format.channels = 0 := hzero
    rw [hnone, Nat.zero_dvd, List.length_eq_zero_iff] at whole
    exact nonempty whole
  simp only [PcmQueue.admits, Bool.and_eq_true, decide_eq_true_eq]
  exact ⟨⟨⟨⟨⟨⟨nonempty, short⟩, h.capacity ▸ short⟩, h.sampleRate⟩, h.channels⟩, hchannels⟩,
    Nat.mod_eq_zero_of_dvd whole⟩

/-- The adapter queue has room for the piece of the call. -/
theorem Emission.excused (sourced : Sourced st) (solvent : Solvent env st st.audio.pcm)
    (balance : InBalance env st) (permitted : Permitted env st) {packet : Packet} {stop : Nat}
    {permit : PcmPermit} {now : Instant} (call : st.audio.call = .pushing packet stop permit)
    (fair : ∀ refusal ∈ st.refused, refusal.Excused env)
    (emission : Emission env st (st.piece env packet stop permit) now after false) :
    ∀ refusal ∈ after.refused, refusal.Excused env := by
  obtain ⟨hpermit, -, hstop⟩ := permitted.call packet stop permit call
  have hstamp : Stamped env st.audio.pcm (st.piece env packet stop permit) := permitted.piece call
  have hshort : (st.piece env packet stop permit).samples.length ≤ env.adapterQueue.maxSamples := by
    rw [permitted.piece_length call]
    exact hstop
  cases emission with
  | @blocked pcm _ blocked =>
    intro refusal hrefusal nonempty whole
    obtain rfl | hold := List.mem_cons.mp hrefusal
    · exact blocked.resolve_left (Nat.not_lt.mpr hshort)
    · exact fair refusal hold nonempty whole
  | @refused pcm behind _ found _ push =>
    intro refusal hrefusal nonempty whole
    obtain rfl | hold := List.mem_cons.mp hrefusal
    · refine PcmQueue.closed_of_refused (hstamp.admits hshort nonempty whole) ?_ push
      have hqueued : ∀ entry ∈ pcm.frames, Stamped env st.audio.pcm entry.1 := fun entry hentry =>
        (permitted.emitted _ _ ((sourced.queued _ pcm found).2 entry hentry)).1
      have hleast (w : PcmPermit → Nat) : weigh w (PcmQueue.permits pcm.frames) +
          weigh w (st.piece env packet stop permit).permits ≤ weigh w st.outstanding := by
        have hle := AssocMap.le_total (fun pcm => weigh w (PcmQueue.permits pcm.frames)) found
        rw [Pipeline.weigh_outstanding, call, Pipeline.piece_permits, AudioCall.permits]
        omega
      refine PcmQueue.fits rfl (balance.queues _ pcm found) hqueued hstamp ?_ ?_
      · exact ((hleast _).trans solvent.usedSamples.ge).trans solvent.samples_le
      · exact ((hleast _).trans solvent.usedBytes.ge).trans solvent.bytes_le
    · exact fair refusal hold nonempty whole

/-- A longer queue has higher limits. -/
theorem PipelineEnv.limits_le (long : Duration.fromMillis 250 ≤ env.queueDuration) :
    env.adapterQueue.maxSamples ≤ env.encoderQueue.maxSamples ∧
      env.adapterQueue.maxBytes ≤ env.encoderQueue.maxBytes := by
  have hmillis : Duration.asMillis (.fromMillis 250) ≤ env.queueDuration.asMillis :=
    Nat.div_le_div_right long
  have hsamples : env.adapterQueue.maxSamples ≤ env.encoderQueue.maxSamples := by
    simp only [adapterQueue, encoderQueue, PcmQueue.new]
    exact min_le_min_right _ (Nat.div_le_div_right (Nat.mul_le_mul_left _ hmillis))
  refine ⟨hsamples, ?_⟩
  have hbytes (queueDuration : Duration) :
      (PcmQueue.new env.entrySize env.format.sampleRate env.format.channels queueDuration).maxBytes =
        min (min ((PcmQueue.new env.entrySize env.format.sampleRate env.format.channels
          queueDuration).maxSamples * 8) USIZE_MAX + 1024) USIZE_MAX := rfl
  rw [adapterQueue, encoderQueue, hbytes, hbytes]
  simp only [adapterQueue, encoderQueue] at hsamples
  omega

theorem PcmQueue.admits_mono {queue larger : PcmQueue} {frame : PcmFrame}
    (limit : queue.maxSamples ≤ larger.maxSamples) (rate : larger.sampleRate = queue.sampleRate)
    (channels : larger.channels = queue.channels) (h : queue.admits frame = true) :
    larger.admits frame = true := by
  simp only [admits, Bool.and_eq_true, decide_eq_true_eq, rate, channels] at h ⊢
  obtain ⟨⟨⟨⟨⟨⟨hnonempty, hshort⟩, hcapacity⟩, hrest⟩, hchannels⟩, hsome⟩, hwhole⟩ := h
  exact ⟨⟨⟨⟨⟨⟨hnonempty, hshort.trans limit⟩, hcapacity.trans limit⟩, hrest⟩, hchannels⟩, hsome⟩,
    hwhole⟩

/-- The encoder queue has room for the frame that the handler writes. -/
theorem HandlerStep.excused (sourced : Sourced st) (solvent : ∀ pool, Solvent env st pool)
    (balance : InBalance env st) (permitted : Permitted env st)
    (long : Duration.fromMillis 250 ≤ env.queueDuration) (few : st.audio.pcm < 2 ^ 64)
    {now : Instant} (fair : ∀ refusal ∈ st.refused, refusal.Excused env)
    (step : HandlerStep env st now after) : ∀ refusal ∈ after.refused, refusal.Excused env := by
  cases step with
  | @retires queue remaining _ frame _ runtime =>
    obtain ⟨encoders, held, heq⟩ :=
      Pipeline.adopt_frame env (st.discard frame queue remaining) runtime
    rw [heq]
    exact fair
  | @refused queue remaining generation frame task behind _ writing found push =>
    intro refusal hrefusal nonempty whole
    obtain rfl | hold := List.mem_cons.mp hrefusal
    · have hemitted : (queue, frame) ∈ st.emitted :=
        sourced.handled queue frame (by rw [writing]; rfl)
      obtain ⟨hstamp, hadmits⟩ := permitted.emitted queue frame hemitted
      obtain ⟨hle, hepoch⟩ := sourced.emitted queue frame hemitted
      obtain ⟨hsamples, hbytes⟩ := PipelineEnv.limits_le long
      -- the epoch of the stream tells the queue that all its frames come from
      have hqueued : ∀ entry ∈ task.input.frames, Stamped env queue entry.1 := by
        intro entry hentry
        obtain ⟨other, hother, hstream⟩ := sourced.encoders generation task found entry.1
          (EncoderTask.mem_frames.mpr (.inl ⟨entry, hentry, rfl⟩))
        obtain ⟨stream, haimed, hsame⟩ := sourced.aimed generation frame (by rw [writing]; rfl)
        rw [found, Option.map_some, Option.some.injEq] at haimed
        have hqueue : epochAt other = epochAt queue := by
          rw [← hstream, haimed, hsame, hepoch]
        have hothers := (sourced.emitted other entry.1 hother).1
        rw [epochAt_injective (by omega) (by omega) hqueue] at hother
        exact (permitted.emitted queue entry.1 hother).1
      have hleast (w : PcmPermit → Nat) : weigh w (PcmQueue.permits task.input.frames) +
          weigh w frame.permits ≤ weigh w st.outstanding := by
        have htotal := AssocMap.le_total (fun task => weigh w task.permits) found
        rw [EncoderTask.permits, weigh_append] at htotal
        rw [Pipeline.weigh_outstanding, writing, PcmBatch.permits]
        omega
      refine PcmQueue.closed_of_refused (PcmQueue.admits_mono hsamples rfl rfl hadmits) ?_ push
      refine PcmQueue.fits rfl (balance.encoders generation task found) hqueued hstamp ?_ ?_
      · exact (((hleast _).trans (solvent queue).usedSamples.ge).trans
          (solvent queue).samples_le).trans hsamples
      · exact (((hleast _).trans (solvent queue).usedBytes.ge).trans
          (solvent queue).bytes_le).trans hbytes
    · exact fair refusal hold nonempty whole
  | _ => exact fair

/-! ### Every run of buffered audio -/

variable (env) in
/-- What holds while the receiver uses the buffered callback only. -/
structure Lossless (st : Pipeline) : Prop where
  permitted : Permitted env st
  lost : st.lost = []
  refused : st.audio.pcm < 2 ^ 64 → ∀ refusal ∈ st.refused, refusal.Excused env

theorem Lossless.step (h : Lossless env st) (reached : (pipeline env).Reachable st)
    (long : Duration.fromMillis 250 ≤ env.queueDuration) (untimed : label.timed = false)
    (taken : st.step env label = some after) : Lossless env after := by
  have hsourced : Sourced st := sourced_of_reachable reached
  have hsolvent (pool : Nat) : Solvent env st pool := solvent_of_reachable reached pool
  have hbalance : InBalance env st := inBalance_of_reachable reached
  refine ⟨h.permitted.step (hsolvent _) untimed taken, ?_, ?_⟩
  · obtain ⟨more, hloses⟩ := Loses.of_step hsourced taken
    have hnone : more = [] := by
      apply List.eq_nil_iff_forall_not_mem.mpr
      intro frame hframe
      obtain ⟨queue, hemitted⟩ := hloses.accepted frame hframe
      have hpermit := (h.permitted.emitted queue frame hemitted).1.permit
      rw [hloses.free frame hframe] at hpermit
      cases hpermit
    rw [hloses.lost, hnone, h.lost, List.append_nil]
  · intro few
    have hadopt (st : Pipeline) (runtime : BridgeRuntime) :
        (st.adopt env runtime).refused = st.refused ∧
          (st.adopt env runtime).audio.pcm = st.audio.pcm := by
      obtain ⟨encoders, held, heq⟩ := Pipeline.adopt_frame env st runtime
      rw [heq]
      exact ⟨rfl, rfl⟩
    cases Pipeline.step_cases taken with
    | audio step =>
      cases step with
      | emits => cases untimed
      | pushes _ emission =>
        cases emission
        exact h.refused few
      | @refuses _ stop permit _ emitted call emission =>
        have hpcm : emitted.audio.pcm = st.audio.pcm := by cases emission <;> rfl
        have hfew : st.audio.pcm < 2 ^ 64 := hpcm ▸ few
        have hexcused : ∀ refusal ∈ emitted.refused, refusal.Excused env :=
          emission.excused hsourced (hsolvent _) hbalance h.permitted call (h.refused hfew)
        exact hexcused
      | flushes => exact h.refused ((Nat.lt_succ_self _).trans few)
      | _ => exact h.refused few
    | sends => exact h.refused few
    | delivers =>
      rw [(hadopt _ _).2] at few
      rw [(hadopt _ _).1]
      exact h.refused few
    | begins => exact h.refused few
    | handles step =>
      have hpcm : after.audio.pcm = st.audio.pcm := by
        cases step with
        | retires => exact (hadopt _ _).2
        | _ => rfl
      have hfew : st.audio.pcm < 2 ^ 64 := hpcm ▸ few
      exact step.excused hsourced hsolvent hbalance h.permitted long hfew (h.refused hfew)
    | runtime =>
      rw [(hadopt _ _).2] at few
      rw [(hadopt _ _).1]
      exact h.refused few
    | encoder _ step =>
      cases step with
      | overflows =>
        obtain ⟨encoders, held, heq⟩ := Pipeline.closeStream_frame st _
        rw [heq] at few ⊢
        exact h.refused few
      | _ => exact h.refused few
    | releases => exact h.refused few

theorem lossless_of_reachable (long : Duration.fromMillis 250 ≤ env.queueDuration)
    (h : (pipeline env).ReachableWhen (fun _ label => label.timed = false) st) :
    Lossless env st := by
  refine h.invariant_with (I := Lossless env) (fun _ reached => reached.reachable) ?_
    fun _ _ _ reached lossless untimed taken => lossless.step reached long untimed taken
  exact ⟨⟨nofun, nofun⟩, rfl, fun _ => nofun⟩

/-- Every accepted frame holds a permit for its samples and its bytes, none is ever evicted or
expires, and as long as the epochs are distinct a frame is refused only by a queue that was
closed, unless it was empty or no whole number of audio frames. -/
theorem buffered_lossless (long : Duration.fromMillis 250 ≤ env.queueDuration)
    (h : (pipeline env).ReachableWhen (fun _ label => label.timed = false) st)
    (few : st.audio.pcm < 2 ^ 64) :
    (∀ queue frame, (queue, frame) ∈ st.emitted → frame.bufferedPermit =
      some ⟨queue, frame.samples.length, frame.samples.length * 4 + env.entrySize⟩) ∧
    st.lost = [] ∧
    ∀ refusal ∈ st.refused, refusal.frame.samples ≠ [] →
      env.format.channels ∣ refusal.frame.samples.length → refusal.closed = true := by
  have hlossless : Lossless env st := lossless_of_reachable long h
  exact ⟨fun queue frame hmem => (hlossless.permitted.emitted queue frame hmem).1.permit,
    hlossless.lost, hlossless.refused few⟩

/-- The queue refuses the second packet because the session has ended. -/
theorem buffered_lossless_in_kitchen :
    ∃ st, (pipeline Household.pipelineEnv).run (.new Household.pipelineEnv) Household.buffers =
        some st ∧
      st.refused.map (fun refusal => refusal.frame.samples.length) = [4] ∧
      ∀ refusal ∈ st.refused, refusal.frame.samples ≠ [] →
        2 ∣ refusal.frame.samples.length → refusal.closed = true := by
  have hruns : (((pipeline Household.pipelineEnv).run (.new Household.pipelineEnv)
      Household.buffers).map fun st =>
        (st.refused.map fun refusal => refusal.frame.samples.length, st.audio.pcm)) =
          some ([4], 0) := by
    decide +kernel
  obtain ⟨st, hrun, heq⟩ := Option.map_eq_some_iff.mp hruns
  have huntimed : ∀ label ∈ Household.buffers, ∀ _ : Pipeline, label.timed = false := by
    have hall : ∀ label ∈ Household.buffers, label.timed = false := by decide
    exact fun label hlabel _ => hall label hlabel
  have hreached : (pipeline Household.pipelineEnv).ReachableWhen
      (fun _ label => label.timed = false) st :=
    .of_run_forall .init (fun label hlabel st => huntimed label hlabel st) hrun
  have hpcm : st.audio.pcm = 0 := congrArg Prod.snd heq
  exact ⟨st, hrun, congrArg Prod.fst heq,
    (buffered_lossless (by decide) hreached (by rw [hpcm]; decide)).2.2⟩

end AirSonos
