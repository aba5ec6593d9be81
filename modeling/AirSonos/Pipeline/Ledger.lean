import AirSonos.Pipeline.Provenance

/-!
# The ledger of credits

Every permit is in one place: with a frame in a queue, with the frame that the handler or an
encoder task holds, in the call that is about to push it, or on its way to be dropped. A step
moves permits from one place to another; only a reservation makes one and only a drop ends it.
So the credits in use are those of the outstanding permits, however the threads interleave.
-/

namespace AirSonos

variable {env : PipelineEnv} {st after : Pipeline} {label : PipelineLabel}

/-! ### Where a permit can be -/

def AudioCall.permits : AudioCall → List PcmPermit
  | pushing _ _ permit => [permit]
  | _ => []

def PcmBatch.permits : PcmBatch → List PcmPermit
  | idle => []
  | batch _ _ => []
  | popped _ _ frame => frame.permits
  | writing _ _ _ frame => frame.permits

def EncoderTask.permits (task : EncoderTask) : List PcmPermit :=
  PcmQueue.permits task.input.frames ++ task.holding.elim [] PcmFrame.permits

def Pipeline.outstanding (st : Pipeline) : List PcmPermit :=
  (AssocMap.values st.queues).flatMap (fun pcm => PcmQueue.permits pcm.frames) ++
    st.audio.call.permits ++ st.handler.permits ++
    (AssocMap.values st.encoders).flatMap EncoderTask.permits ++ st.held

/-- The sum of a weight over permits. -/
def weigh (w : PcmPermit → Nat) (permits : List PcmPermit) : Nat :=
  (permits.map w).sum

@[simp] theorem weigh_nil (w : PcmPermit → Nat) : weigh w [] = 0 := rfl

@[simp] theorem weigh_append (w : PcmPermit → Nat) (front back : List PcmPermit) :
    weigh w (front ++ back) = weigh w front + weigh w back := by
  simp [weigh]

@[simp] theorem weigh_cons (w : PcmPermit → Nat) (permit : PcmPermit) (rest : List PcmPermit) :
    weigh w (permit :: rest) = w permit + weigh w rest := by
  simp [weigh]

theorem weigh_flatMap {α : Type} (w : PcmPermit → Nat) (permits : α → List PcmPermit)
    (l : List α) : weigh w (l.flatMap permits) = (l.map fun a => weigh w (permits a)).sum := by
  induction l with
  | nil => rfl
  | cons a l ih => rw [List.flatMap_cons, weigh_append, ih, List.map_cons, List.sum_cons]

theorem weigh_erase (w : PcmPermit → Nat) {permit : PcmPermit} {permits : List PcmPermit}
    (h : permit ∈ permits) : weigh w permits = w permit + weigh w (permits.erase permit) := by
  rw [weigh, ((List.perm_cons_erase h).map w).sum_eq, List.map_cons, List.sum_cons, weigh]

namespace Pipeline

/-- The weight of the outstanding permits, place by place. -/
theorem weigh_outstanding (w : PcmPermit → Nat) (st : Pipeline) :
    weigh w st.outstanding =
      AssocMap.total (fun pcm => weigh w (PcmQueue.permits pcm.frames)) st.queues +
        weigh w st.audio.call.permits + weigh w st.handler.permits +
        AssocMap.total (fun task => weigh w task.permits) st.encoders + weigh w st.held := by
  simp only [outstanding, weigh_append, weigh_flatMap]
  rfl

/-! ### What a step does to the permits -/

theorem weigh_goto (w : PcmPermit → Nat) (st : Pipeline) (call : AudioCall) :
    weigh w (st.goto call).outstanding + weigh w st.audio.call.permits =
      weigh w st.outstanding + weigh w call.permits := by
  simp only [weigh_outstanding, goto]
  omega

@[simp] theorem piece_permits (st : Pipeline) (packet : Packet) (stop : Nat) (permit : PcmPermit) :
    (st.piece env packet stop permit).permits = [permit] := rfl

theorem weigh_setQueue (w : PcmPermit → Nat) {queue : Nat} {pcm : PcmQueue.State}
    (found : st.queues.lookup queue = some pcm) (next : PcmQueue.State) :
    weigh w { st with queues := st.queues.insert queue next }.outstanding +
        weigh w (PcmQueue.permits pcm.frames) =
      weigh w st.outstanding + weigh w (PcmQueue.permits next.frames) := by
  have htotal := AssocMap.total_insert_of_some
    (fun pcm => weigh w (PcmQueue.permits pcm.frames)) found next
  simp only [weigh_outstanding]
  omega

theorem weigh_emission (w : PcmPermit → Nat) {frame : PcmFrame} {now : Instant} {accepted : Bool}
    (emission : Emission env st frame now after accepted) :
    weigh w after.outstanding =
        weigh w st.outstanding + weigh w (if accepted then frame.permits else []) ∧
      after.pools = st.pools ∧ after.audio.call = st.audio.call := by
  cases emission with
  | blocked => exact ⟨rfl, rfl, rfl⟩
  | @refused pcm behind _ found _ push =>
    refine ⟨?_, rfl, rfl⟩
    have hpermits : PcmQueue.permits behind.frames = PcmQueue.permits pcm.frames ++ [] :=
      PcmQueue.permits_pushAt push
    have hset := weigh_setQueue w found behind
    simp only [weigh_outstanding, hpermits, weigh_append, weigh_nil, Bool.false_eq_true,
      if_false] at hset ⊢
    omega
  | @accepted pcm behind _ found push =>
    refine ⟨?_, rfl, rfl⟩
    have hpermits : PcmQueue.permits behind.frames = PcmQueue.permits pcm.frames ++ frame.permits :=
      PcmQueue.permits_pushAt push
    have hset := weigh_setQueue w found behind
    simp only [weigh_outstanding, hpermits, weigh_append, if_true] at hset ⊢
    omega

theorem weigh_setTask (w : PcmPermit → Nat) {generation : Nat} {task : EncoderTask}
    (found : st.encoders.lookup generation = some task) (next : EncoderTask) :
    weigh w (st.setTask generation next).outstanding + weigh w task.permits =
      weigh w st.outstanding + weigh w next.permits := by
  have htotal := AssocMap.total_insert_of_some (fun task => weigh w task.permits) found next
  simp only [weigh_outstanding, setTask]
  omega

theorem weigh_closeStream (w : PcmPermit → Nat) (st : Pipeline) (generation : Nat) :
    weigh w (st.closeStream generation).outstanding = weigh w st.outstanding ∧
      (st.closeStream generation).pools = st.pools := by
  unfold closeStream
  split
  · exact ⟨rfl, rfl⟩
  · case h_2 task found =>
    refine ⟨?_, rfl⟩
    have hset := weigh_setTask w found task.close
    simp only [weigh_outstanding, setTask, EncoderTask.permits, EncoderTask.close, PcmQueue.clear,
      PcmQueue.close, weigh_append] at hset ⊢
    simp only [PcmQueue.permits, List.filterMap_nil, weigh_nil] at hset ⊢
    omega

theorem weigh_spawn (w : PcmPermit → Nat) (st : Pipeline) (stream : LiveStream) :
    weigh w (st.spawn stream).outstanding = weigh w st.outstanding ∧
      (st.spawn stream).pools = st.pools := by
  unfold spawn
  split
  · exact ⟨rfl, rfl⟩
  · case isFalse hnone =>
    refine ⟨?_, rfl⟩
    have htotal := AssocMap.total_insert_of_none (fun task => weigh w task.permits)
      (Option.not_isSome_iff_eq_none.mp hnone) (.spawn stream)
    have hempty : weigh w (EncoderTask.spawn stream).permits = 0 := rfl
    simp only [weigh_outstanding]
    omega

variable (env) in
theorem weigh_adopt (w : PcmPermit → Nat) (st : Pipeline) (runtime : BridgeRuntime) :
    weigh w (st.adopt env runtime).outstanding = weigh w st.outstanding ∧
      (st.adopt env runtime).pools = st.pools := by
  apply adopt_rule (P := fun next => weigh w next.outstanding = weigh w st.outstanding ∧
    next.pools = st.pools)
  · exact ⟨rfl, rfl⟩
  · intro next generation hnext
    obtain ⟨hweight, hpools⟩ := weigh_closeStream w next generation
    exact ⟨hweight.trans hnext.1, hpools.trans hnext.2⟩
  · intro next stream _ hnext
    obtain ⟨hweight, hpools⟩ := weigh_spawn w next stream
    exact ⟨hweight.trans hnext.1, hpools.trans hnext.2⟩

end Pipeline

variable (env) in
/-- A step moves permits, makes one, or ends one. -/
inductive Booked (st after : Pipeline) : Prop
  | moved (pools : after.pools = st.pools)
      (weight : ∀ w, weigh w after.outstanding = weigh w st.outstanding)
  | reserved {samples : Nat} {credits : PcmCredits} {permit : PcmPermit}
      (granted : (st.pools st.audio.pcm).tryReserve env.entrySize samples = some (credits, permit))
      (pools : after.pools = Function.update st.pools st.audio.pcm credits)
      (weight : ∀ w, weigh w after.outstanding = w permit + weigh w st.outstanding)
  | released {permit : PcmPermit}
      (pools : after.pools =
        Function.update st.pools permit.credits ((st.pools permit.credits).release permit))
      (weight : ∀ w, w permit + weigh w after.outstanding = weigh w st.outstanding)

namespace Booked

open Pipeline

theorem goto (st : Pipeline) {call : AudioCall} (same : st.audio.call.permits = call.permits) :
    Booked env st (st.goto call) := by
  refine .moved rfl fun w => ?_
  have hgoto := weigh_goto w st call
  rw [same] at hgoto
  exact Nat.add_right_cancel hgoto

theorem call_of_ready (ready : st.ready = true) : st.audio.call = .returned := by
  simp only [Pipeline.ready, Bool.and_eq_true, decide_eq_true_eq] at ready
  exact ready.2

theorem audioStep (sourced : Sourced st) (step : AudioStep env st label after) :
    Booked env st after := by
  cases step with
  | announces => exact .moved rfl fun _ => rfl
  | @emits _ _ _ _ accepted _ emission =>
    refine .moved (weigh_emission (fun _ => 0) emission).2.1 fun w => ?_
    rw [(weigh_emission w emission).1]
    cases accepted <;> rfl
  | calls ready => exact goto st (by rw [call_of_ready ready]; rfl)
  | starves call => exact goto st (by rw [call]; rfl)
  | reserves call _ granted =>
    refine .reserved granted rfl fun w => ?_
    simp only [weigh_outstanding, Pipeline.goto, setPool, call, AudioCall.permits, weigh_cons,
      weigh_nil]
    omega
  | admits call =>
    refine .moved rfl fun w => ?_
    simp only [weigh_outstanding, Pipeline.goto, setProgress, call, AudioCall.permits]
  | @pushes _ stop permit _ emitted call emission =>
    obtain ⟨-, hpools, hcall⟩ := weigh_emission (fun _ => 0) emission
    refine .moved hpools fun w => ?_
    have hweight := (weigh_emission w emission).1
    rw [call] at hcall
    simp only [weigh_outstanding, Pipeline.goto, setProgress, call, hcall, AudioCall.permits,
      if_true, piece_permits, weigh_cons, weigh_nil] at hweight ⊢
    omega
  | @refuses _ stop permit _ emitted call emission =>
    obtain ⟨-, hpools, hcall⟩ := weigh_emission (fun _ => 0) emission
    have hreleased : ((emitted.dropPermit permit).goto .returned).pools =
        Function.update st.pools permit.credits ((st.pools permit.credits).release permit) := by
      simp only [Pipeline.goto, dropPermit, setPool, hpools]
    refine .released hreleased fun w => ?_
    have hweight := (weigh_emission w emission).1
    rw [call] at hcall
    simp only [weigh_outstanding, Pipeline.goto, dropPermit, setPool, call, hcall,
      AudioCall.permits, Bool.false_eq_true, if_false, weigh_cons, weigh_nil] at hweight ⊢
    omega
  | @clears _ _ pcm call found =>
    refine .moved rfl fun w => ?_
    have hset := weigh_setQueue w found (PcmQueue.clear pcm)
    have hempty : weigh w (PcmQueue.permits (PcmQueue.clear pcm).frames) = 0 := rfl
    simp only [weigh_outstanding, Pipeline.goto, call, AudioCall.permits, weigh_append] at hset ⊢
    omega
  | flushes call =>
    refine .moved rfl fun w => ?_
    have hnew : st.queues.lookup (st.audio.pcm + 1) = none := by
      apply Option.eq_none_iff_forall_ne_some.mpr
      intro pcm found
      have hle := (sourced.queued _ pcm found).1
      omega
    have htotal := AssocMap.total_insert_of_none
      (fun pcm => weigh w (PcmQueue.permits pcm.frames)) hnew .empty
    have hempty : weigh w (PcmQueue.permits PcmQueue.State.empty.frames) = 0 := rfl
    simp only [weigh_outstanding, Pipeline.goto, sendEvent, replaceQueue, call, AudioCall.permits]
    omega
  | stops call =>
    refine .moved rfl fun w => ?_
    simp only [weigh_outstanding, Pipeline.goto, sendEvent, call, AudioCall.permits]
  | drops call => exact goto st (by rw [call]; rfl)
  | notifies => exact .moved rfl fun _ => rfl
  | @closes _ _ pcm _ _ _ ready found =>
    refine .moved rfl fun w => ?_
    have hset := weigh_setQueue w found (PcmQueue.close pcm)
    have hsame : (PcmQueue.close pcm).frames = pcm.frames := rfl
    rw [hsame] at hset
    simp only [weigh_outstanding, Pipeline.goto, call_of_ready ready, AudioCall.permits] at hset ⊢
    omega
  | endsPaused => exact .moved rfl fun _ => rfl
  | endedBefore => exact .moved rfl fun _ => rfl

theorem handlerStep {now : Instant} (step : HandlerStep env st now after) :
    Booked env st after := by
  cases step with
  | ends batch =>
    refine .moved rfl fun w => ?_
    simp only [weigh_outstanding, batch, PcmBatch.permits]
  | @misses _ _ pcm behind batch found pop =>
    refine .moved rfl fun w => ?_
    have hpermits := @PcmQueue.permits_popAt env.adapterQueue pcm now
    have hset := weigh_setQueue w found behind
    rw [pop] at hpermits
    simp only [weigh_outstanding, batch, PcmBatch.permits, hpermits, Option.bind_none,
      Option.toList_none, List.nil_append] at hset ⊢
    omega
  | @pops _ _ pcm behind frame _ batch found pop =>
    refine .moved rfl fun w => ?_
    have hpermits : PcmQueue.permits pcm.frames =
        frame.permits ++ PcmQueue.permits behind.frames := by
      have hpopped := @PcmQueue.permits_popAt env.adapterQueue pcm now
      rw [pop] at hpopped
      exact hpopped
    have hset := weigh_setQueue w found behind
    simp only [weigh_outstanding, batch, PcmBatch.permits, hpermits, weigh_append,
      weigh_nil] at hset ⊢
    omega
  | discards popped =>
    refine .moved rfl fun w => ?_
    simp only [weigh_outstanding, Pipeline.discard, popped, PcmBatch.permits, weigh_append, weigh_nil]
    omega
  | @retires queue remaining _ frame _ runtime popped =>
    obtain ⟨-, hpools⟩ :=
      weigh_adopt env (fun _ => 0) (st.discard frame queue remaining) runtime
    refine .moved hpools fun w => ?_
    rw [(weigh_adopt env w _ runtime).1]
    simp only [weigh_outstanding, Pipeline.discard, popped, PcmBatch.permits, weigh_append, weigh_nil]
    omega
  | offers popped =>
    refine .moved rfl fun w => ?_
    simp only [weigh_outstanding, popped, PcmBatch.permits]
  | @writes _ _ generation frame task behind _ writing found push =>
    refine .moved rfl fun w => ?_
    have hpermits : PcmQueue.permits behind.frames =
        PcmQueue.permits task.input.frames ++ frame.permits := PcmQueue.permits_pushAt push
    have hset := weigh_setTask w found { task with input := behind }
    simp only [weigh_outstanding, setTask, writing, PcmBatch.permits, EncoderTask.permits, hpermits,
      weigh_append, weigh_nil] at hset ⊢
    omega
  | @refused _ _ generation frame task behind _ writing found push =>
    refine .moved rfl fun w => ?_
    have hpermits : PcmQueue.permits behind.frames = PcmQueue.permits task.input.frames ++ [] :=
      PcmQueue.permits_pushAt push
    have hset := weigh_setTask w found { task with input := behind }
    simp only [weigh_outstanding, setTask, Pipeline.discard, writing, PcmBatch.permits,
      EncoderTask.permits, hpermits, weigh_append, weigh_nil] at hset ⊢
    omega

theorem encoderStep {generation : Nat} {task : EncoderTask}
    (found : st.encoders.lookup generation = some task)
    (step : EncoderStep env st generation task after) : Booked env st after := by
  cases step with
  | @misses now behind idle pop =>
    refine .moved rfl fun w => ?_
    have hpermits := @PcmQueue.permits_popAt env.encoderQueue task.input now
    have hset := weigh_setTask w found { task with input := behind }
    rw [pop] at hpermits
    simp only [weigh_outstanding, setTask, EncoderTask.permits, hpermits, Option.bind_none,
      Option.toList_none, List.nil_append] at hset ⊢
    omega
  | @receives now behind frame _ idle pop =>
    refine .moved rfl fun w => ?_
    have hpermits : PcmQueue.permits task.input.frames =
        frame.permits ++ PcmQueue.permits behind.frames := by
      have hpopped := @PcmQueue.permits_popAt env.encoderQueue task.input now
      rw [pop] at hpopped
      exact hpopped
    have hset := weigh_setTask w found { task with input := behind, holding := some frame }
    simp only [weigh_outstanding, setTask, EncoderTask.permits, idle, hpermits, Option.elim_none,
      Option.elim_some, weigh_append, weigh_nil] at hset ⊢
    omega
  | @checks frame holding =>
    refine .moved rfl fun w => ?_
    have hset := weigh_setTask w found { task with
      holding := none
      encoded :=
        if task.acceptsEpoch frame.playbackEpoch then frame :: task.encoded else task.encoded }
    simp only [weigh_outstanding, setTask, Pipeline.check, EncoderTask.permits, holding,
      Option.elim_none, Option.elim_some, weigh_append, weigh_nil] at hset ⊢
    omega
  | publishes => exact .moved rfl fun _ => rfl
  | overflows =>
    exact .moved (weigh_closeStream (fun _ => 0) st generation).2 fun w =>
      (weigh_closeStream w st generation).1
  | finishes =>
    refine .moved rfl fun w => ?_
    have hset := weigh_setTask w found { task with finished := true, holding := none }
    simp only [weigh_outstanding, setTask, finish, EncoderTask.permits, Option.elim_none,
      weigh_append, weigh_nil] at hset ⊢
    omega

theorem of_step (sourced : Sourced st) (taken : st.step env label = some after) :
    Booked env st after := by
  cases Pipeline.step_cases taken with
  | audio step => exact audioStep sourced step
  | sends => exact .moved rfl fun _ => rfl
  | delivers =>
    exact .moved (weigh_adopt env (fun _ => 0) _ _).2 fun w => (weigh_adopt env w _ _).1
  | @begins _ _ now pcm idle _ found =>
    refine .moved rfl fun w => ?_
    have hpermits : PcmQueue.permits
        (PcmQueue.takeNewDrops (env.adapterQueue.beginBatch pcm now).1).1.frames =
          PcmQueue.permits pcm.frames := PcmQueue.permits_expire pcm now
    have hset := weigh_setQueue w found
      (PcmQueue.takeNewDrops (env.adapterQueue.beginBatch pcm now).1).1
    simp only [weigh_outstanding, hpermits, idle, PcmBatch.permits] at hset ⊢
    omega
  | handles step => exact handlerStep step
  | runtime =>
    exact .moved (weigh_adopt env (fun _ => 0) _ _).2 fun w => (weigh_adopt env w _ _).1
  | encoder found step => exact encoderStep found step
  | releases held =>
    refine .released rfl fun w => ?_
    have herase := weigh_erase w held
    simp only [weigh_outstanding, dropPermit, setPool]
    omega

end Booked

/-! ### Credits -/

/-- A weight that only counts the permits of one pool. -/
def PcmPermit.within (pool : Nat) (amount : PcmPermit → Nat) (permit : PcmPermit) : Nat :=
  if permit.credits = pool then amount permit else 0

theorem weigh_within (pool : Nat) (amount : PcmPermit → Nat) (permits : List PcmPermit) :
    weigh (PcmPermit.within pool amount) permits =
      ((permits.filter fun permit => permit.credits = pool).map amount).sum := by
  induction permits with
  | nil => rfl
  | cons permit rest ih =>
    rw [weigh_cons, ih, PcmPermit.within, List.filter_cons]
    split
    · case isTrue hpool => simp [hpool]
    · case isFalse hpool => simp [hpool]

/-- The credits in use are those of the outstanding permits, and within the limits. -/
structure Solvent (env : PipelineEnv) (st : Pipeline) (pool : Nat) : Prop where
  pool_eq : (st.pools pool).pool = pool
  maxSamples : (st.pools pool).maxSamples = env.adapterQueue.maxSamples
  maxBytes : (st.pools pool).maxBytes = env.adapterQueue.maxBytes
  usedSamples : (st.pools pool).usedSamples =
    weigh (PcmPermit.within pool PcmPermit.samples) st.outstanding
  usedBytes : (st.pools pool).usedBytes =
    weigh (PcmPermit.within pool PcmPermit.bytes) st.outstanding
  samples_le : (st.pools pool).usedSamples ≤ env.adapterQueue.maxSamples
  bytes_le : (st.pools pool).usedBytes ≤ env.adapterQueue.maxBytes

theorem PcmCredits.tryReserve_cases {credits next : PcmCredits} {entrySize samples : Nat}
    {permit : PcmPermit} (h : credits.tryReserve entrySize samples = some (next, permit)) :
    permit = ⟨credits.pool, samples, samples * 4 + entrySize⟩ ∧
      next = { credits with
        usedSamples := credits.usedSamples + samples
        usedBytes := credits.usedBytes + (samples * 4 + entrySize) } ∧
      samples ≤ credits.maxSamples - credits.usedSamples ∧
      samples * 4 + entrySize ≤ credits.maxBytes - credits.usedBytes := by
  simp only [tryReserve] at h
  split at h
  · cases h
  · split at h
    · cases h
    · case isFalse hroom =>
      cases h
      exact ⟨rfl, rfl, by omega, by omega⟩

/-- A permit of another pool does not count. -/
theorem PcmPermit.within_of_ne {pool : Nat} {permit : PcmPermit} (other : permit.credits ≠ pool)
    (amount : PcmPermit → Nat) : permit.within pool amount = 0 :=
  if_neg other

theorem Solvent.unchanged {pool : Nat} (h : Solvent env st pool)
    (pools : after.pools pool = st.pools pool)
    (weight : ∀ amount, weigh (PcmPermit.within pool amount) after.outstanding =
      weigh (PcmPermit.within pool amount) st.outstanding) : Solvent env after pool where
  pool_eq := pools ▸ h.pool_eq
  maxSamples := pools ▸ h.maxSamples
  maxBytes := pools ▸ h.maxBytes
  usedSamples := by rw [pools, weight, h.usedSamples]
  usedBytes := by rw [pools, weight, h.usedBytes]
  samples_le := pools ▸ h.samples_le
  bytes_le := pools ▸ h.bytes_le

theorem Solvent.booked {pool : Nat} (h : Solvent env st pool)
    (current : Solvent env st st.audio.pcm) (booked : Booked env st after) :
    Solvent env after pool := by
  cases booked with
  | moved pools weight => exact h.unchanged (congrFun pools pool) fun _ => weight _
  | @reserved samples credits permit granted pools weight =>
    obtain ⟨hpermit, hcredits, hsamples, hbytes⟩ := PcmCredits.tryReserve_cases granted
    have howner : permit.credits = st.audio.pcm := by rw [hpermit, current.pool_eq]
    by_cases hpool : pool = st.audio.pcm
    · subst hpool
      have hpools : after.pools st.audio.pcm = credits := by rw [pools, Function.update_self]
      have hwithin (amount : PcmPermit → Nat) :
          permit.within st.audio.pcm amount = amount permit := if_pos howner
      have husedSamples := h.usedSamples
      have husedBytes := h.usedBytes
      have hsamplesLe := h.samples_le
      have hbytesLe := h.bytes_le
      rw [h.maxSamples] at hsamples
      rw [h.maxBytes] at hbytes
      constructor
      · rw [hpools, hcredits, h.pool_eq]
      · rw [hpools, hcredits, h.maxSamples]
      · rw [hpools, hcredits, h.maxBytes]
      · rw [hpools, hcredits, weight, hwithin, hpermit]
        simp only
        omega
      · rw [hpools, hcredits, weight, hwithin, hpermit]
        simp only
        omega
      · rw [hpools, hcredits]
        simp only
        omega
      · rw [hpools, hcredits]
        simp only
        omega
    · have hpools : after.pools pool = st.pools pool := by
        rw [pools, Function.update_of_ne hpool]
      have hweight (amount : PcmPermit → Nat) :
          weigh (PcmPermit.within pool amount) after.outstanding =
            weigh (PcmPermit.within pool amount) st.outstanding := by
        rw [weight, PcmPermit.within_of_ne (howner ▸ Ne.symm hpool), Nat.zero_add]
      exact h.unchanged hpools hweight
  | @released permit pools weight =>
    by_cases hpool : pool = permit.credits
    · subst hpool
      have hpools : after.pools permit.credits = (st.pools permit.credits).release permit := by
        rw [pools, Function.update_self]
      have hsamples := weight (PcmPermit.within permit.credits PcmPermit.samples)
      have hbytes := weight (PcmPermit.within permit.credits PcmPermit.bytes)
      rw [PcmPermit.within, if_pos rfl, ← h.usedSamples] at hsamples
      rw [PcmPermit.within, if_pos rfl, ← h.usedBytes] at hbytes
      have hsamplesLe := h.samples_le
      have hbytesLe := h.bytes_le
      constructor
      · rw [hpools, PcmCredits.release, h.pool_eq]
      · rw [hpools, PcmCredits.release, h.maxSamples]
      · rw [hpools, PcmCredits.release, h.maxBytes]
      · rw [hpools, PcmCredits.release]
        simp only
        omega
      · rw [hpools, PcmCredits.release]
        simp only
        omega
      · rw [hpools, PcmCredits.release]
        simp only
        omega
      · rw [hpools, PcmCredits.release]
        simp only
        omega
    · have hpools : after.pools pool = st.pools pool := by
        rw [pools, Function.update_of_ne hpool]
      have hweight (amount : PcmPermit → Nat) :
          weigh (PcmPermit.within pool amount) after.outstanding =
            weigh (PcmPermit.within pool amount) st.outstanding := by
        rw [← weight, PcmPermit.within_of_ne (Ne.symm hpool), Nat.zero_add]
      exact h.unchanged hpools hweight

theorem solvent_of_reachable (h : (pipeline env).Reachable st) (pool : Nat) :
    Solvent env st pool := by
  refine h.invariant_with (I := fun st => ∀ pool, Solvent env st pool)
    (fun _ reached => sourced_of_reachable reached) ?_ ?_ pool
  · intro pool
    exact ⟨rfl, rfl, rfl, rfl, rfl, Nat.zero_le _, Nat.zero_le _⟩
  · intro st label after sourced solvent taken pool
    exact (solvent pool).booked (solvent _) (.of_step sourced taken)

/-! ### What is lost -/

namespace PcmQueue

variable {queue : PcmQueue} {before behind : State} {now : Instant}

/-- What is lost was gone from the front, and so are the frames that were returned. -/
theorem lost_prefix {accepted gone popped : List (PcmFrame × Instant)} {refused : Nat}
    (moves : Moves before behind accepted gone popped refused) :
    lost before behind accepted.length <+: (gone ++ popped).map Prod.fst := by
  have hlength := congrArg List.length moves.frames
  simp only [List.length_append] at hlength
  have hcount : before.frames.length + accepted.length - behind.frames.length =
      (gone ++ popped).length := by
    rw [List.length_append]
    omega
  rw [lost, hcount]
  apply List.IsPrefix.map
  have htake : (before.frames ++ accepted).take (gone ++ popped).length = gone ++ popped := by
    rw [moves.frames, List.take_left]
  rw [List.take_append] at htake
  exact ⟨_, htake⟩

theorem lost_eq {gone popped : List (PcmFrame × Instant)} {refused : Nat}
    (moves : Moves before behind [] gone popped refused) :
    lost before behind 0 = (gone ++ popped).map Prod.fst := by
  have hframes := moves.frames
  have hlength := congrArg List.length hframes
  simp only [List.append_nil, List.length_append] at hframes hlength
  rw [lost, hframes, List.take_append_of_le_length, List.take_of_length_le] <;>
    simp only [List.length_append] <;> omega

theorem lost_of_pushAt {frame : PcmFrame} {accepted notify : Bool}
    (h : queue.pushAt before frame now = some (behind, ⟨accepted, notify⟩)) {lostFrame : PcmFrame}
    (hlost : lostFrame ∈ lost before behind accepted.toNat) : lostFrame.bufferedPermit = none := by
  obtain ⟨gone, hmoves, hfree⟩ := pushAt_loses h
  have hprefix := lost_prefix hmoves
  rw [List.append_nil] at hprefix
  have hmem : lostFrame ∈ gone.map Prod.fst := by
    apply hprefix.subset
    cases accepted <;> exact hlost
  obtain ⟨entry, hentry, rfl⟩ := List.mem_map.mp hmem
  exact Option.isNone_iff_eq_none.mp (hfree entry hentry).1

theorem free_of_expired {lostFrame : PcmFrame}
    (hlost : lostFrame ∈ (queue.expired before now).map Prod.fst) :
    lostFrame.bufferedPermit = none := by
  obtain ⟨entry, hentry, rfl⟩ := List.mem_map.mp hlost
  exact Option.isNone_iff_eq_none.mp (isPermitFree_of_isExpired (isExpired_of_mem hentry))

theorem lost_of_popAt (h : queue.popAt before now = (behind, none)) {lostFrame : PcmFrame}
    (hlost : lostFrame ∈ lost before behind 0) : lostFrame.bufferedPermit = none := by
  have hmoves := @popAt_moves queue before now
  rw [h] at hmoves
  rw [lost_eq hmoves, Option.toList_none, List.append_nil] at hlost
  exact free_of_expired hlost

/-- The frame that a pop returns is not lost. -/
theorem lost_of_popAt_some {popped : PcmFrame × Instant}
    (h : queue.popAt before now = (behind, some popped)) {lostFrame : PcmFrame}
    (hlost : lostFrame ∈ (lost before behind 0).dropLast) : lostFrame.bufferedPermit = none := by
  have hmoves := @popAt_moves queue before now
  rw [h] at hmoves
  rw [lost_eq hmoves, Option.toList_some, List.map_append, List.map_singleton,
    List.dropLast_concat] at hlost
  exact free_of_expired hlost

theorem lost_of_beginBatch {lostFrame : PcmFrame}
    (hlost : lostFrame ∈ lost before (queue.beginBatch before now).1 0) :
    lostFrame.bufferedPermit = none := by
  have hsame : lost before (queue.beginBatch before now).1 0 =
      lost before (queue.expire before now) 0 := rfl
  rw [hsame, lost_eq (expire_moves before now), List.append_nil] at hlost
  exact free_of_expired hlost

end PcmQueue

theorem PcmQueue.mem_of_lost {before behind : State} {appended : Nat} {frame : PcmFrame}
    (hlost : frame ∈ lost before behind appended) : ∃ entry ∈ before.frames, entry.1 = frame := by
  obtain ⟨entry, hentry, rfl⟩ := List.mem_map.mp hlost
  exact ⟨entry, List.mem_of_mem_take hentry, rfl⟩

/-- What a step loses holds no permit, and had been accepted. -/
structure Loses (st after : Pipeline) (more : List PcmFrame) : Prop where
  lost : after.lost = more ++ st.lost
  free : ∀ frame ∈ more, frame.bufferedPermit = none
  accepted : ∀ frame ∈ more, ∃ queue, (queue, frame) ∈ st.emitted

namespace Loses

theorem nothing (lost : after.lost = st.lost) : ∃ more, Loses st after more :=
  ⟨[], lost, nofun, nofun⟩

/-- Something is lost from an adapter queue. -/
theorem fromQueue (sourced : Sourced st) {queue : Nat} {pcm : PcmQueue.State}
    (found : st.queues.lookup queue = some pcm) {more : List PcmFrame}
    (lost : after.lost = more ++ st.lost) (free : ∀ frame ∈ more, frame.bufferedPermit = none)
    (queued : ∀ frame ∈ more, ∃ entry ∈ pcm.frames, entry.1 = frame) :
    ∃ more, Loses st after more := by
  refine ⟨more, lost, free, fun frame hframe => ?_⟩
  obtain ⟨entry, hentry, rfl⟩ := queued frame hframe
  exact ⟨queue, (sourced.queued queue pcm found).2 entry hentry⟩

/-- Something is lost from the input of an encoder. -/
theorem fromInput (sourced : Sourced st) {generation : Nat} {task : EncoderTask}
    (found : st.encoders.lookup generation = some task) {more : List PcmFrame}
    (lost : after.lost = more ++ st.lost) (free : ∀ frame ∈ more, frame.bufferedPermit = none)
    (queued : ∀ frame ∈ more, ∃ entry ∈ task.input.frames, entry.1 = frame) :
    ∃ more, Loses st after more := by
  refine ⟨more, lost, free, fun frame hframe => ?_⟩
  obtain ⟨queue, hemitted, -⟩ := sourced.encoders generation task found frame
    (EncoderTask.mem_frames.mpr (.inl (queued frame hframe)))
  exact ⟨queue, hemitted⟩

theorem emission (sourced : Sourced st) {frame : PcmFrame} {now : Instant} {accepted : Bool}
    (emission : Emission env st frame now after accepted) : ∃ more, Loses st after more := by
  cases emission with
  | blocked => exact nothing rfl
  | refused found _ push =>
    exact fromQueue sourced found rfl (fun _ => PcmQueue.lost_of_pushAt push)
      fun _ => PcmQueue.mem_of_lost
  | accepted found push =>
    exact fromQueue sourced found rfl (fun _ => PcmQueue.lost_of_pushAt push)
      fun _ => PcmQueue.mem_of_lost

theorem adopt (st : Pipeline) (runtime : BridgeRuntime) :
    (st.adopt env runtime).lost = st.lost := by
  obtain ⟨encoders, held, heq⟩ := Pipeline.adopt_frame env st runtime
  rw [heq]

theorem of_step (sourced : Sourced st) (taken : st.step env label = some after) :
    ∃ more, Loses st after more := by
  cases Pipeline.step_cases taken with
  | audio step =>
    cases step with
    | emits _ emission => exact Loses.emission sourced emission
    | pushes _ emission =>
      obtain ⟨more, hloses⟩ := Loses.emission sourced emission
      exact ⟨more, { hloses with }⟩
    | refuses _ emission =>
      obtain ⟨more, hloses⟩ := Loses.emission sourced emission
      exact ⟨more, { hloses with }⟩
    | _ => exact nothing rfl
  | sends => exact nothing rfl
  | delivers => exact nothing (adopt _ _)
  | begins _ _ found =>
    exact fromQueue sourced found rfl (fun _ => PcmQueue.lost_of_beginBatch)
      fun _ => PcmQueue.mem_of_lost
  | handles step =>
    cases step with
    | misses _ found pop =>
      exact fromQueue sourced found rfl (fun _ => PcmQueue.lost_of_popAt pop)
        fun _ => PcmQueue.mem_of_lost
    | pops _ found pop =>
      exact fromQueue sourced found rfl (fun _ => PcmQueue.lost_of_popAt_some pop)
        fun _ hlost => PcmQueue.mem_of_lost (List.mem_of_mem_dropLast hlost)
    | retires => exact nothing (adopt _ _)
    | writes _ found push =>
      exact fromInput sourced found rfl (fun _ => PcmQueue.lost_of_pushAt push)
        fun _ => PcmQueue.mem_of_lost
    | refused _ found push =>
      exact fromInput sourced found rfl (fun _ => PcmQueue.lost_of_pushAt push)
        fun _ => PcmQueue.mem_of_lost
    | _ => exact nothing rfl
  | runtime => exact nothing (adopt _ _)
  | encoder found step =>
    cases step with
    | misses _ pop =>
      exact fromInput sourced found rfl (fun _ => PcmQueue.lost_of_popAt pop)
        fun _ => PcmQueue.mem_of_lost
    | receives _ pop =>
      exact fromInput sourced found rfl (fun _ => PcmQueue.lost_of_popAt_some pop)
        fun _ hlost => PcmQueue.mem_of_lost (List.mem_of_mem_dropLast hlost)
    | overflows =>
      obtain ⟨encoders, held, heq⟩ := Pipeline.closeStream_frame st _
      exact nothing (by rw [heq])
    | _ => exact nothing rfl
  | releases => exact nothing rfl

end Loses

/-! ### Every run -/

/-- In every pool the credits in use are those of the outstanding permits and stay within the
limits of the queue, and no frame that holds a permit is evicted or expires, in either queue. -/
theorem credits_accounted (h : (pipeline env).Reachable st) :
    (∀ pool,
      (st.pools pool).usedSamples =
          ((st.outstanding.filter fun permit => permit.credits = pool).map
            PcmPermit.samples).sum ∧
        (st.pools pool).usedBytes =
          ((st.outstanding.filter fun permit => permit.credits = pool).map
            PcmPermit.bytes).sum ∧
        (st.pools pool).usedSamples ≤ env.adapterQueue.maxSamples ∧
        (st.pools pool).usedBytes ≤ env.adapterQueue.maxBytes) ∧
      ∀ frame ∈ st.lost, frame.bufferedPermit = none := by
  constructor
  · intro pool
    have hsolvent : Solvent env st pool := solvent_of_reachable h pool
    refine ⟨?_, ?_, hsolvent.samples_le, hsolvent.bytes_le⟩
    · rw [hsolvent.usedSamples, weigh_within]
    · rw [hsolvent.usedBytes, weigh_within]
  · refine h.invariant_with (I := fun st => ∀ frame ∈ st.lost, frame.bufferedPermit = none)
      (fun _ reached => sourced_of_reachable reached) nofun ?_
    intro st label after sourced free taken frame hframe
    obtain ⟨more, hloses⟩ := Loses.of_step sourced taken
    rw [hloses.lost] at hframe
    obtain hmore | hold := List.mem_append.mp hframe
    · exact hloses.free frame hmore
    · exact free frame hold

namespace Household

def packet : Packet := ⟨[0, 0, 0, 0], some 0⟩

/-- A packet is admitted and its frame popped. Then the session ends, and the next packet is
refused. -/
def buffers : List PipelineLabel :=
  [.audioInit (some ⟨1⟩), .deliver 0, .audioProcessBuffered packet, .next 0, .next 0, .notify,
    .next 0, .deliver 0, .handle 0, .audioStopped .teardown, .next 0, .next 0,
    .audioProcessBuffered packet, .next 0, .next 0]

end Household

/-- The popped frame still holds its four samples of credit; the refused one gave them back. -/
theorem credits_accounted_in_kitchen :
    ∃ st, (pipeline Household.pipelineEnv).run (.new Household.pipelineEnv) Household.buffers =
        some st ∧
      (st.pools 0).usedSamples = 4 ∧ st.refused.length = 1 ∧
      (st.pools 0).usedSamples =
        ((st.outstanding.filter fun permit => permit.credits = 0).map PcmPermit.samples).sum := by
  have hruns : (((pipeline Household.pipelineEnv).run (.new Household.pipelineEnv)
      Household.buffers).map fun st => ((st.pools 0).usedSamples, st.refused.length)) =
        some (4, 1) := by
    decide +kernel
  obtain ⟨st, hrun, heq⟩ := Option.map_eq_some_iff.mp hruns
  have hreached : (pipeline Household.pipelineEnv).Reachable st :=
    TransitionSystem.Reachable.of_run .init hrun
  exact ⟨st, hrun, congrArg Prod.fst heq, congrArg Prod.snd heq,
    ((credits_accounted hreached).1 0).1⟩

end AirSonos
