import AirSonos.Pipeline.Steps
import AirSonos.Stream.Fence

/-!
# Where the frames of a stream come from

Every frame in the pipeline was taken by one adapter queue, and has the epoch of that queue. A
frame reaches an encoder only while the session has the frame's epoch, and then the encoder's
stream has it too. So a stream only ever publishes frames of the queue that its epoch belongs
to.
-/

namespace AirSonos

open Relation

variable {env : PipelineEnv} {st after : Pipeline} {label : PipelineLabel}

/-- The epoch while the queue is the current one. It stays at the last number a `u64` has. -/
def epochAt (queue : Nat) : Nat :=
  min queue (2 ^ 64 - 1)

theorem epochAt_succ (queue : Nat) :
    min (epochAt queue + 1) (2 ^ 64 - 1) = epochAt (queue + 1) := by
  unfold epochAt
  omega

theorem epochAt_injective {queue other : Nat} (hqueue : queue < 2 ^ 64) (hother : other < 2 ^ 64)
    (same : epochAt queue = epochAt other) : queue = other := by
  unfold epochAt at same
  omega

/-! ### The encoders of the streams -/

theorem streams_subset_of_step {bridge : Env} {runtime runtime' : BridgeRuntime}
    {label : BridgeLabel} (h : runtime.step bridge label = some runtime') :
    runtime.streams ⊆ runtime'.streams := by
  have hpair {a b : List Frame × BridgeRuntime} (chain : Chain bridge (fun _ _ => True) a b) :
      a.2.streams ⊆ b.2.streams := by
    induction chain with
    | refl => exact List.Subset.refl _
    | tail _ move ih => exact List.Subset.trans ih move.streams_subset
  exact hpair (step_chain trivial h)

/-- An edit of an encoder that keeps its stream. -/
theorem EncoderTask.streams_insert {encoders : AssocMap Nat EncoderTask} {generation : Nat}
    {task next : EncoderTask} (found : encoders.lookup generation = some task)
    (stream : next.stream = task.stream) (other : Nat) :
    ((encoders.insert generation next).lookup other).map EncoderTask.stream =
      (encoders.lookup other).map EncoderTask.stream := by
  rw [AssocMap.lookup_insert_ite]
  split
  · case isTrue heq => rw [heq, found, Option.map_some, Option.map_some, stream]
  · rfl

@[simp] theorem EncoderTask.stream_close (task : EncoderTask) : task.close.stream = task.stream :=
  rfl

namespace Pipeline

/-- Closing a stream is about its encoder and the permits there. -/
theorem closeStream_frame (st : Pipeline) (generation : Nat) :
    ∃ encoders held, st.closeStream generation = { st with encoders := encoders, held := held } := by
  unfold closeStream
  split <;> exact ⟨_, _, rfl⟩

theorem runtime_closeStream (generation : Nat) :
    (st.closeStream generation).runtime = st.runtime := by
  obtain ⟨encoders, held, heq⟩ := closeStream_frame st generation
  rw [heq]

/-- A closed stream keeps its encoder. -/
theorem encoders_closeStream (generation other : Nat) :
    ((st.closeStream generation).encoders.lookup other).map EncoderTask.stream =
      (st.encoders.lookup other).map EncoderTask.stream := by
  unfold closeStream
  split
  · rfl
  · case h_2 task found => exact EncoderTask.streams_insert found task.stream_close other

/-- What is kept when a stream is closed and when one is spawned is kept when the streams of a
new runtime state are adopted. -/
theorem adopt_rule {P : Pipeline → Prop} {runtime : BridgeRuntime}
    (set : P { st with runtime := runtime })
    (closes : ∀ st generation, P st → P (st.closeStream generation))
    (spawns : ∀ st stream, runtime.registry.lookup env.sessionId = some stream → P st →
      P (st.spawn stream)) : P (st.adopt env runtime) := by
  have hclosed : P ((st.runtime.registry.lookup env.sessionId).elim { st with runtime := runtime }
      fun stream => { st with runtime := runtime }.closeStream stream.session.generation) := by
    cases st.runtime.registry.lookup env.sessionId with
    | none => exact set
    | some stream => exact closes _ _ set
  unfold adopt
  dsimp only
  split
  · exact set
  · generalize hafter : runtime.registry.lookup env.sessionId = found
    cases found with
    | none => exact hclosed
    | some stream => exact spawns _ stream hafter hclosed

variable (env) in
/-- Closing and spawning streams leaves everything else as it was. -/
theorem adopt_frame (st : Pipeline) (runtime : BridgeRuntime) :
    ∃ encoders held,
      st.adopt env runtime = { st with runtime := runtime, encoders := encoders, held := held } := by
  apply adopt_rule (P := fun next => ∃ encoders held,
    next = { st with runtime := runtime, encoders := encoders, held := held })
  · exact ⟨_, _, rfl⟩
  · rintro _ generation ⟨encoders, held, rfl⟩
    exact closeStream_frame _ generation
  · rintro _ stream _ ⟨encoders, held, rfl⟩
    unfold spawn
    split <;> exact ⟨_, _, rfl⟩

theorem runtime_spawn (stream : LiveStream) :
    (st.spawn stream).runtime = st.runtime := by
  unfold spawn
  split <;> rfl

theorem encoders_spawn (st : Pipeline) (stream : LiveStream) (generation : Nat) :
    (st.spawn stream).encoders.lookup generation = st.encoders.lookup generation ∨
      generation = stream.session.generation ∧
        (st.spawn stream).encoders.lookup generation = some (.spawn stream) := by
  unfold spawn
  split
  · exact .inl rfl
  · rw [AssocMap.lookup_insert_ite]
    split
    · case isTrue heq => exact .inr ⟨heq, rfl⟩
    · exact .inl rfl

theorem isSome_spawn (stream : LiveStream) :
    ∃ task, (st.spawn stream).encoders.lookup stream.session.generation = some task := by
  apply Option.isSome_iff_exists.mp
  unfold spawn
  split
  · case isTrue found => exact found
  · rw [AList.lookup_insert, Option.isSome_some]

end Pipeline

/-- The encoders are those of streams that were created. -/
structure Stocked (runtime : BridgeRuntime) (st : Pipeline) : Prop where
  state : st.runtime = runtime
  created : ∀ generation task, st.encoders.lookup generation = some task →
    task.stream ∈ runtime.streams ∧ task.stream.session.generation = generation

namespace Stocked

variable {runtime : BridgeRuntime}

theorem edit (h : Stocked runtime st) (same : after.runtime = st.runtime)
    (encoders : ∀ generation,
      (after.encoders.lookup generation).map EncoderTask.stream =
        (st.encoders.lookup generation).map EncoderTask.stream) : Stocked runtime after where
  state := same.trans h.state
  created := by
    intro generation task found
    have hmap := encoders generation
    rw [found, Option.map_some, eq_comm] at hmap
    obtain ⟨old, hold, hstream⟩ := Option.map_eq_some_iff.mp hmap
    exact hstream ▸ h.created generation old hold

theorem spawn (h : Stocked runtime st) {stream : LiveStream} (created : stream ∈ runtime.streams) :
    Stocked runtime (st.spawn stream) where
  state := (Pipeline.runtime_spawn stream).trans h.state
  created := by
    intro generation task found
    obtain hsame | ⟨rfl, hspawned⟩ := Pipeline.encoders_spawn st stream generation
    · exact h.created generation task (hsame ▸ found)
    · rw [hspawned] at found
      cases found
      exact ⟨created, rfl⟩

theorem adopt {old : BridgeRuntime} (h : Stocked old st) (grows : old.streams ⊆ runtime.streams)
    (coherent : Coherent env.bridge [] runtime) : Stocked runtime (st.adopt env runtime) := by
  apply Pipeline.adopt_rule
  · constructor
    · rfl
    · intro generation task found
      exact ⟨grows (h.created generation task found).1, (h.created generation task found).2⟩
  · intro next generation hnext
    exact hnext.edit (Pipeline.runtime_closeStream generation)
      (Pipeline.encoders_closeStream generation)
  · intro next stream registered hnext
    exact hnext.spawn (coherent.stream_of_registry registered).1

end Stocked

/-- The stream that the registry holds has its encoder. -/
structure Spawned (env : PipelineEnv) (st : Pipeline) : Prop extends Stocked st.runtime st where
  reachable : (bridge env.bridge).Reachable st.runtime
  registered : ∀ stream, st.runtime.registry.lookup env.sessionId = some stream →
    ∃ task, st.encoders.lookup stream.session.generation = some task ∧ task.stream = stream

namespace Spawned

theorem coherent (h : Spawned env st) : Coherent env.bridge [] st.runtime :=
  (Visited.of_reachable h.reachable).coherent

/-- Another encoder map with the same streams. -/
theorem edit (h : Spawned env st) (same : after.runtime = st.runtime)
    (encoders : ∀ generation,
      (after.encoders.lookup generation).map EncoderTask.stream =
        (st.encoders.lookup generation).map EncoderTask.stream) : Spawned env after where
  toStocked := by
    rw [same]
    exact h.toStocked.edit same encoders
  reachable := same ▸ h.reachable
  registered := by
    intro stream hstream
    rw [same] at hstream
    obtain ⟨task, found, heq⟩ := h.registered stream hstream
    have hmap := encoders stream.session.generation
    rw [found, Option.map_some, heq] at hmap
    exact Option.map_eq_some_iff.mp hmap

theorem insert (h : Spawned env st) {generation : Nat} {task next : EncoderTask}
    (found : st.encoders.lookup generation = some task)
    (encoders : after.encoders = st.encoders.insert generation next)
    (stream : next.stream = task.stream) (same : after.runtime = st.runtime) :
    Spawned env after := by
  refine h.edit same fun other => ?_
  rw [encoders]
  exact EncoderTask.streams_insert found stream other

theorem closeStream (h : Spawned env st) (generation : Nat) :
    Spawned env (st.closeStream generation) :=
  h.edit (Pipeline.runtime_closeStream generation) (Pipeline.encoders_closeStream generation)

theorem adopt (h : Spawned env st) {runtime : BridgeRuntime} {label : BridgeLabel}
    (step : st.runtime.step env.bridge label = some runtime) :
    Spawned env (st.adopt env runtime) := by
  have hreachable : (bridge env.bridge).Reachable runtime := h.reachable.next step
  have hcoherent : Coherent env.bridge [] runtime := (Visited.of_reachable hreachable).coherent
  have hstocked : Stocked runtime (st.adopt env runtime) :=
    h.toStocked.adopt (streams_subset_of_step step) hcoherent
  have hsame : (st.adopt env runtime).runtime = runtime := hstocked.state
  refine { toStocked := hsame.symm ▸ hstocked, reachable := hsame.symm ▸ hreachable, registered := ?_ }
  intro stream registered
  rw [hsame] at registered
  suffices hfound : ∃ task,
      (st.adopt env runtime).encoders.lookup stream.session.generation = some task by
    obtain ⟨task, found⟩ := hfound
    obtain ⟨hcreated, hgeneration⟩ := hstocked.created _ task found
    exact ⟨task, found, hcoherent.eq_of_generation hcreated
      (hcoherent.stream_of_registry registered).1 hgeneration⟩
  unfold Pipeline.adopt
  dsimp only
  split
  · case isTrue hunchanged =>
    obtain ⟨task, found, -⟩ := h.registered stream (hunchanged.trans registered)
    exact ⟨task, found⟩
  · rw [registered]
    exact Pipeline.isSome_spawn stream

theorem step (h : Spawned env st) (taken : st.step env label = some after) : Spawned env after := by
  cases Pipeline.step_cases taken with
  | audio step =>
    cases step with
    | emits _ emission => cases emission <;> exact { h with }
    | pushes _ emission =>
      cases emission
      exact { h with }
    | refuses _ emission => cases emission <;> exact { h with }
    | _ => exact { h with }
  | sends => exact { h with }
  | @delivers _ rest _ _ _ _ step =>
    have hrest : Spawned env { st with events := rest } := { h with }
    exact hrest.adopt step
  | begins => exact { h with }
  | handles step =>
    cases step with
    | @retires queue remaining _ frame _ _ _ _ _ _ step =>
      have hdiscarded : Spawned env (st.discard frame queue remaining) := { h with }
      exact hdiscarded.adopt step
    | writes _ found => exact h.insert found rfl rfl rfl
    | refused _ found => exact h.insert found rfl rfl rfl
    | _ => exact { h with }
  | runtime _ step => exact h.adopt step
  | encoder found step =>
    cases step with
    | misses => exact h.insert found rfl rfl rfl
    | receives => exact h.insert found rfl rfl rfl
    | checks => exact h.insert found rfl rfl rfl
    | publishes => exact { h with }
    | overflows => exact h.closeStream _
    | finishes => exact h.insert found rfl rfl rfl
  | releases => exact { h with }

end Spawned

theorem spawned_of_reachable (h : (pipeline env).Reachable st) : Spawned env st := by
  refine h.invariant (I := Spawned env) ?_ fun st label after spawned taken => spawned.step taken
  refine { state := rfl, created := ?_, reachable := .init, registered := ?_ }
  · intro generation task found
    cases found
  · intro stream registered
    cases registered

/-! ### Frames -/

namespace PcmQueue

variable {queue : PcmQueue} {before behind : State} {now : Instant}

theorem mem_of_popAt {popped : Option (PcmFrame × Instant)}
    (h : queue.popAt before now = (behind, popped)) {entry : PcmFrame × Instant}
    (hmem : entry ∈ behind.frames ∨ popped = some entry) : entry ∈ before.frames := by
  have hmoves := (@popAt_moves queue before now).frames
  rw [h, List.append_nil] at hmoves
  rw [hmoves]
  obtain hrest | rfl := hmem
  · exact List.mem_append_right _ hrest
  · exact List.mem_append_left _ (List.mem_append_right _ List.mem_cons_self)

theorem mem_of_pushAt {frame : PcmFrame} {accepted notify : Bool}
    (h : queue.pushAt before frame now = some (behind, ⟨accepted, notify⟩))
    {entry : PcmFrame × Instant} (hmem : entry ∈ behind.frames) :
    entry ∈ before.frames ∨ accepted = true ∧ entry = (frame, now) := by
  obtain ⟨gone, hmoves⟩ := pushAt_moves h
  have hframes := hmoves.frames
  have hboth : entry ∈ before.frames ++ if accepted then [(frame, now)] else [] := by
    rw [hframes]
    exact List.mem_append_right _ hmem
  obtain hold | hnew := List.mem_append.mp hboth
  · exact .inl hold
  · cases accepted with
    | true => exact .inr ⟨rfl, List.mem_singleton.mp hnew⟩
    | false => cases hnew

theorem mem_of_beginBatch {entry : PcmFrame × Instant}
    (hmem : entry ∈ (queue.beginBatch before now).1.frames) : entry ∈ before.frames := by
  have hexpired : entry ∈ (queue.expire before now).frames := hmem
  rw [expire_frames] at hexpired
  exact (List.dropWhile_suffix _).mem hexpired

end PcmQueue

/-- The frame that the handler holds, with the queue it popped it from. -/
def PcmBatch.frame? : PcmBatch → Option (Nat × PcmFrame)
  | idle => none
  | batch _ _ => none
  | popped queue _ frame => some (queue, frame)
  | writing queue _ _ frame => some (queue, frame)

def PcmBatch.target? : PcmBatch → Option (Nat × PcmFrame)
  | writing _ _ generation frame => some (generation, frame)
  | _ => none

def EncoderTask.frames (task : EncoderTask) : List PcmFrame :=
  task.input.frames.map Prod.fst ++ task.holding.toList ++ task.encoded

theorem EncoderTask.mem_frames {task : EncoderTask} {frame : PcmFrame} :
    frame ∈ task.frames ↔
      (∃ entry ∈ task.input.frames, entry.1 = frame) ∨ task.holding = some frame ∨
        frame ∈ task.encoded := by
  rw [frames, List.append_assoc, List.mem_append, List.mem_append, List.mem_map,
    Option.mem_toList]

/-- Some adapter queue took the frame while it had the epoch of the stream. -/
def Pipeline.Emitted (st : Pipeline) (stream : LiveStream) (frame : PcmFrame) : Prop :=
  ∃ queue, (queue, frame) ∈ st.emitted ∧ stream.playbackEpoch = epochAt queue

structure Sourced (st : Pipeline) : Prop where
  epoch : st.audio.playbackEpoch = epochAt st.audio.pcm
  emitted : ∀ queue frame, (queue, frame) ∈ st.emitted →
    queue ≤ st.audio.pcm ∧ frame.playbackEpoch = epochAt queue
  queued : ∀ queue pcm, st.queues.lookup queue = some pcm →
    queue ≤ st.audio.pcm ∧ ∀ entry ∈ pcm.frames, (queue, entry.1) ∈ st.emitted
  handled : ∀ queue frame, st.handler.frame? = some (queue, frame) → (queue, frame) ∈ st.emitted
  aimed : ∀ generation frame, st.handler.target? = some (generation, frame) →
    ∃ stream, (st.encoders.lookup generation).map EncoderTask.stream = some stream ∧
      stream.playbackEpoch = frame.playbackEpoch
  encoders : ∀ generation task, st.encoders.lookup generation = some task →
    ∀ frame ∈ task.frames, st.Emitted task.stream frame
  published : ∀ stream frame, (stream, frame) ∈ st.published → st.Emitted stream frame

namespace Sourced

theorem queued_insert (h : Sourced st) {queue : Nat} {pcm next : PcmQueue.State}
    (found : st.queues.lookup queue = some pcm) (sub : ∀ entry ∈ next.frames, entry ∈ pcm.frames)
    (other : Nat) (state : PcmQueue.State)
    (hother : (st.queues.insert queue next).lookup other = some state) :
    other ≤ st.audio.pcm ∧ ∀ entry ∈ state.frames, (other, entry.1) ∈ st.emitted := by
  rw [AssocMap.lookup_insert_ite] at hother
  split at hother
  · case isTrue heq =>
    cases hother
    obtain ⟨hle, hemitted⟩ := h.queued queue pcm found
    rw [heq]
    exact ⟨hle, fun entry hentry => hemitted entry (sub entry hentry)⟩
  · exact h.queued other state hother

/-- The encoder of a generation is replaced by one of the same stream. -/
theorem setTask (h : Sourced st) {generation : Nat} {task next : EncoderTask}
    (found : st.encoders.lookup generation = some task) (stream : next.stream = task.stream)
    (frames : ∀ frame ∈ next.frames, st.Emitted next.stream frame) :
    Sourced (st.setTask generation next) where
  epoch := h.epoch
  emitted := h.emitted
  queued := h.queued
  handled := h.handled
  aimed := by
    intro other frame hwriting
    rw [Pipeline.setTask, EncoderTask.streams_insert found stream]
    exact h.aimed other frame hwriting
  encoders := by
    intro other task' hother
    rw [Pipeline.setTask, AssocMap.lookup_insert_ite] at hother
    split at hother
    · cases hother
      exact frames
    · exact h.encoders other task' hother
  published := h.published

theorem emission (h : Sourced st) {frame : PcmFrame} {now : Instant} {accepted : Bool}
    (stamped : frame.playbackEpoch = st.audio.playbackEpoch)
    (emission : Emission env st frame now after accepted) : Sourced after := by
  cases emission with
  | blocked => exact { h with }
  | refused found _ push =>
    refine { h with queued := h.queued_insert found fun entry hentry => ?_ }
    exact (PcmQueue.mem_of_pushAt push hentry).resolve_right fun hnew => Bool.false_ne_true hnew.1
  | @accepted pcm behind _ found push =>
    have hemitted : ∀ {entry : Nat × PcmFrame}, entry ∈ st.emitted →
        entry ∈ (st.audio.pcm, frame) :: st.emitted := fun hmem => List.mem_cons_of_mem _ hmem
    refine { epoch := h.epoch, emitted := ?_, queued := ?_, handled := ?_, aimed := h.aimed,
             encoders := ?_, published := ?_ }
    · intro queue other hmem
      obtain heq | hold := List.mem_cons.mp hmem
      · cases heq
        exact ⟨Nat.le_refl _, stamped.trans h.epoch⟩
      · exact h.emitted queue other hold
    · intro queue state hqueue
      rw [AssocMap.lookup_insert_ite] at hqueue
      split at hqueue
      · case isTrue heq =>
        cases hqueue
        rw [heq]
        refine ⟨Nat.le_refl _, fun entry hentry => ?_⟩
        obtain hold | ⟨-, rfl⟩ := PcmQueue.mem_of_pushAt push hentry
        · exact hemitted ((h.queued _ pcm found).2 entry hold)
        · exact List.mem_cons_self
      · exact ⟨(h.queued queue state hqueue).1,
          fun entry hentry => hemitted ((h.queued queue state hqueue).2 entry hentry)⟩
    · intro queue other hmem
      exact hemitted (h.handled queue other hmem)
    · intro generation task hlookup other hmem
      obtain ⟨queue, hother, hepoch⟩ := h.encoders generation task hlookup other hmem
      exact ⟨queue, hemitted hother, hepoch⟩
    · intro stream other hmem
      obtain ⟨queue, hother, hepoch⟩ := h.published stream other hmem
      exact ⟨queue, hemitted hother, hepoch⟩

theorem closeStream (h : Sourced st) (generation : Nat) : Sourced (st.closeStream generation) := by
  unfold Pipeline.closeStream
  split
  · exact h
  · case h_2 task found =>
    have hclosed : Sourced (st.setTask generation task.close) := by
      refine h.setTask found task.stream_close fun frame hframe => ?_
      apply h.encoders generation task found frame
      obtain ⟨entry, hentry, -⟩ | hrest := EncoderTask.mem_frames.mp hframe
      · cases hentry
      · exact EncoderTask.mem_frames.mpr (.inr hrest)
    exact { hclosed with }

theorem spawn (h : Sourced st) (stream : LiveStream) : Sourced (st.spawn stream) := by
  unfold Pipeline.spawn
  split
  · exact h
  · case isFalse hnone =>
    refine { h with aimed := ?_, encoders := ?_ }
    · intro generation frame hwriting
      obtain ⟨other, hother, hepoch⟩ := h.aimed generation frame hwriting
      refine ⟨other, ?_, hepoch⟩
      rw [AssocMap.lookup_insert_ite, if_neg]
      · exact hother
      · rintro rfl
        rw [Option.not_isSome_iff_eq_none.mp hnone] at hother
        cases hother
    · intro generation task hlookup frame hmem
      rw [AssocMap.lookup_insert_ite] at hlookup
      split at hlookup
      · cases hlookup
        cases hmem
      · exact h.encoders generation task hlookup frame hmem

theorem adopt (h : Sourced st) (runtime : BridgeRuntime) : Sourced (st.adopt env runtime) :=
  Pipeline.adopt_rule { h with } (fun _ generation h => h.closeStream generation)
    fun _ stream _ h => h.spawn stream

/-- The encoder that the handler writes to has a stream of the frame's epoch. -/
theorem aim (spawned : Spawned env st) {frame : PcmFrame} {generation : Nat}
    (target : st.target env frame = some generation) :
    ∃ stream, (st.encoders.lookup generation).map EncoderTask.stream = some stream ∧
      stream.playbackEpoch = frame.playbackEpoch := by
  obtain ⟨session, live, h⟩ := Option.bind_eq_some_iff.mp target
  split at h
  · case isTrue hepoch =>
    obtain ⟨encoder, hencoder, rfl⟩ := Option.map_eq_some_iff.mp h
    have hregistered : st.runtime.registry.lookup env.sessionId = some encoder.stream := by
      rw [spawned.coherent.stream, live, Option.bind_some, hencoder, Option.map_some]
    obtain ⟨task, found, hstream⟩ := spawned.registered encoder.stream hregistered
    refine ⟨encoder.stream, ?_, ?_⟩
    · rw [found, Option.map_some, hstream]
    · exact (matched_of_reachable spawned.reachable live encoder hencoder).trans hepoch.symm
  · cases h

theorem audioStep (h : Sourced st) (step : AudioStep env st label after) : Sourced after := by
  cases step with
  | emits _ emission => exact h.emission rfl emission
  | pushes _ emission => exact { h.emission rfl emission with }
  | refuses _ emission => exact { h.emission rfl emission with }
  | clears _ found =>
    refine { h with queued := h.queued_insert found fun entry hentry => ?_ }
    cases hentry
  | flushes =>
    refine { h with epoch := ?_, emitted := ?_, queued := ?_ }
    · exact (congrArg (fun epoch => min (epoch + 1) (2 ^ 64 - 1)) h.epoch).trans (epochAt_succ _)
    · intro queue frame hmem
      obtain ⟨hle, hepoch⟩ := h.emitted queue frame hmem
      exact ⟨Nat.le_succ_of_le hle, hepoch⟩
    · intro queue state hqueue
      rw [Pipeline.sendEvent, Pipeline.goto, Pipeline.replaceQueue, AssocMap.lookup_insert_ite]
        at hqueue
      split at hqueue
      · case isTrue heq =>
        cases hqueue
        exact ⟨Nat.le_of_eq heq, fun entry hentry => by cases hentry⟩
      · obtain ⟨hle, hframes⟩ := h.queued queue state hqueue
        exact ⟨Nat.le_succ_of_le hle, hframes⟩
  | closes _ found => exact { h with queued := h.queued_insert found fun _ hentry => hentry }
  | _ => exact { h with }

theorem handlerStep (h : Sourced st) (spawned : Spawned env st) {now : Instant}
    (step : HandlerStep env st now after) : Sourced after := by
  cases step with
  | ends => exact { h with handled := nofun, aimed := nofun }
  | misses _ found pop =>
    exact { h with
      handled := nofun
      aimed := nofun
      queued := h.queued_insert found fun _ hentry => PcmQueue.mem_of_popAt pop (.inl hentry) }
  | @pops queue _ _ _ frame _ _ found pop =>
    refine { h with
      handled := ?_
      aimed := nofun
      queued := h.queued_insert found fun _ hentry => PcmQueue.mem_of_popAt pop (.inl hentry) }
    intro other held hheld
    cases hheld
    exact (h.queued queue _ found).2 _ (PcmQueue.mem_of_popAt pop (.inr rfl))
  | discards => exact { h with handled := nofun, aimed := nofun }
  | @retires queue remaining _ frame =>
    have hdiscarded : Sourced (st.discard frame queue remaining) :=
      { h with handled := nofun, aimed := nofun }
    exact hdiscarded.adopt _
  | @offers queue _ _ frame _ popped target found =>
    refine { h with handled := ?_, aimed := ?_ }
    · intro other held hheld
      cases hheld
      exact h.handled queue frame (by rw [popped]; rfl)
    · intro generation held hheld
      cases hheld
      exact aim spawned target
  | @writes queue remaining generation frame task behind _ writing found push =>
    have hwritten : Sourced (st.setTask generation { task with input := behind }) := by
      refine h.setTask found (by rfl) fun other hother => ?_
      obtain ⟨entry, hentry, rfl⟩ | hrest := EncoderTask.mem_frames.mp hother
      · obtain hold | ⟨-, rfl⟩ := PcmQueue.mem_of_pushAt push hentry
        · exact h.encoders generation task found entry.1
            (EncoderTask.mem_frames.mpr (.inl ⟨entry, hold, rfl⟩))
        · have hemitted : (queue, frame) ∈ st.emitted :=
            h.handled queue frame (by rw [writing]; rfl)
          obtain ⟨stream, hstream, hepoch⟩ := h.aimed generation frame (by rw [writing]; rfl)
          rw [found, Option.map_some] at hstream
          cases hstream
          exact ⟨queue, hemitted, hepoch.trans (h.emitted queue frame hemitted).2⟩
      · exact h.encoders generation task found other (EncoderTask.mem_frames.mpr (.inr hrest))
    exact { hwritten with handled := nofun, aimed := nofun }
  | @refused queue remaining generation frame task behind _ writing found push =>
    have hkept : Sourced (st.setTask generation { task with input := behind }) := by
      refine h.setTask found (by rfl) fun other hother => ?_
      apply h.encoders generation task found other
      obtain ⟨entry, hentry, rfl⟩ | hrest := EncoderTask.mem_frames.mp hother
      · refine EncoderTask.mem_frames.mpr (.inl ⟨entry, ?_, rfl⟩)
        exact (PcmQueue.mem_of_pushAt push hentry).resolve_right fun hnew =>
          Bool.false_ne_true hnew.1
      · exact EncoderTask.mem_frames.mpr (.inr hrest)
    exact { hkept with handled := nofun, aimed := nofun }

/-- The encoder task works on the frames it was given. -/
theorem encoderStep (h : Sourced st) {generation : Nat} {task : EncoderTask}
    (found : st.encoders.lookup generation = some task)
    (step : EncoderStep env st generation task after) : Sourced after := by
  have hkeep {next : EncoderTask} (stream : next.stream = task.stream)
      (sub : ∀ frame ∈ next.frames, frame ∈ task.frames) :
      Sourced (st.setTask generation next) :=
    h.setTask found stream fun frame hframe =>
      stream ▸ h.encoders generation task found frame (sub frame hframe)
  cases step with
  | @misses _ behind _ pop =>
    have hpopped : Sourced (st.setTask generation { task with input := behind }) := by
      refine hkeep (by rfl) fun frame hframe => ?_
      obtain ⟨entry, hentry, rfl⟩ | hrest := EncoderTask.mem_frames.mp hframe
      · exact EncoderTask.mem_frames.mpr
          (.inl ⟨entry, PcmQueue.mem_of_popAt pop (.inl hentry), rfl⟩)
      · exact EncoderTask.mem_frames.mpr (.inr hrest)
    exact { hpopped with }
  | @receives _ behind frame _ _ pop =>
    have hpopped :
        Sourced (st.setTask generation { task with input := behind, holding := some frame }) := by
      refine hkeep (by rfl) fun other hother => ?_
      obtain ⟨entry, hentry, rfl⟩ | hholding | hencoded := EncoderTask.mem_frames.mp hother
      · exact EncoderTask.mem_frames.mpr
          (.inl ⟨entry, PcmQueue.mem_of_popAt pop (.inl hentry), rfl⟩)
      · cases hholding
        exact EncoderTask.mem_frames.mpr
          (.inl ⟨_, PcmQueue.mem_of_popAt pop (.inr rfl), rfl⟩)
      · exact EncoderTask.mem_frames.mpr (.inr (.inr hencoded))
    exact { hpopped with }
  | @checks frame holding =>
    unfold Pipeline.check
    refine { hkeep (by rfl) fun other hother => ?_ with }
    obtain hentry | hholding | hencoded := EncoderTask.mem_frames.mp hother
    · exact EncoderTask.mem_frames.mpr (.inl hentry)
    · cases hholding
    · dsimp only at hencoded
      split at hencoded
      · obtain rfl | hold := List.mem_cons.mp hencoded
        · exact EncoderTask.mem_frames.mpr (.inr (.inl holding))
        · exact EncoderTask.mem_frames.mpr (.inr (.inr hold))
      · exact EncoderTask.mem_frames.mpr (.inr (.inr hencoded))
  | @publishes frame encoded =>
    refine { h with published := fun stream other hmem => ?_ }
    obtain heq | hold := List.mem_cons.mp hmem
    · cases heq
      exact h.encoders generation task found frame (EncoderTask.mem_frames.mpr (.inr (.inr encoded)))
    · exact h.published stream other hold
  | overflows => exact h.closeStream generation
  | finishes =>
    unfold Pipeline.finish
    refine { hkeep (by rfl) fun other hother => ?_ with }
    obtain hentry | hholding | hencoded := EncoderTask.mem_frames.mp hother
    · exact EncoderTask.mem_frames.mpr (.inl hentry)
    · cases hholding
    · exact EncoderTask.mem_frames.mpr (.inr (.inr hencoded))

theorem step (h : Sourced st) (spawned : Spawned env st)
    (taken : st.step env label = some after) : Sourced after := by
  cases Pipeline.step_cases taken with
  | audio step => exact h.audioStep step
  | sends => exact { h with }
  | @delivers _ rest =>
    have hrest : Sourced { st with events := rest } := { h with }
    exact hrest.adopt _
  | begins _ _ found =>
    exact { h with
      handled := nofun
      aimed := nofun
      queued := h.queued_insert found fun _ hentry => PcmQueue.mem_of_beginBatch hentry }
  | handles step => exact h.handlerStep spawned step
  | runtime => exact h.adopt _
  | encoder found step => exact h.encoderStep found step
  | releases => exact { h with }

theorem new : Sourced (.new env) where
  epoch := rfl
  emitted := nofun
  queued := by
    intro queue pcm found
    rw [Pipeline.new, AssocMap.lookup_insert_ite] at found
    split at found
    · case isTrue heq =>
      cases found
      exact ⟨Nat.le_of_eq heq, fun entry hentry => by cases hentry⟩
    · cases found
  handled := nofun
  aimed := nofun
  encoders := nofun
  published := nofun

end Sourced

theorem sourced_of_reachable (h : (pipeline env).Reachable st) : Sourced st :=
  h.invariant_with (fun _ reached => spawned_of_reachable reached) Sourced.new
    fun _ _ _ spawned sourced taken => sourced.step spawned taken

end AirSonos
