import AirSonos.Core.Types

/-!
# Bounded delivered PCM

The queue between an audio callback and its consumer. Its limits are fixed when it is made,
and its state is behind a lock, so an operation is one step. The size of an entry is up to the
compiler. Every operation is given the instant it reads from the clock.
-/

namespace AirSonos

def USIZE_MAX : Nat := 2 ^ 64 - 1
def ISIZE_MAX : Nat := 2 ^ 63 - 1

/-- The bits of a 32-bit float. -/
abbrev Sample := UInt32

/-- A reservation of buffered audio against the pool of credits it was taken from. -/
structure PcmPermit where
  credits : Nat
  samples : Nat
  bytes : Nat
deriving DecidableEq

structure PcmFrame where
  bufferedPermit : Option PcmPermit
  playbackEpoch : Nat
  sampleRate : Nat
  channels : Nat
  samples : List Sample
  capacity : Nat
  presentationTime : Option Instant
  samples_le : samples.length ≤ capacity
deriving DecidableEq

structure PcmQueue where
  sampleRate : Nat
  channels : Nat
  maxSamples : Nat
  maxBytes : Nat
  maxAge : Duration
  entrySize : Nat
deriving DecidableEq

structure PcmAdmission where
  accepted : Bool
  notify : Bool
deriving DecidableEq

namespace PcmQueue

structure State where
  frames : List (PcmFrame × Instant)
  samples : Nat
  allocatedBytes : Nat
  dropped : Nat
  reportedDropped : Nat
  notified : Bool
  closed : Bool
deriving DecidableEq

def State.empty : State := ⟨[], 0, 0, 0, 0, false, false⟩

def new (entrySize sampleRate channels : Nat) (duration : Duration) : PcmQueue :=
  let maxSamples := min (sampleRate * channels * duration.asMillis / 1000) USIZE_MAX
  { sampleRate := sampleRate
    channels := channels
    maxSamples := maxSamples
    maxBytes := min (min (maxSamples * 8) USIZE_MAX + 1024) USIZE_MAX
    maxAge := duration
    entrySize := entrySize }

variable (queue : PcmQueue)

/-- What an entry retains: the buffer of the frame, in samples of four bytes, and the entry
itself. -/
def allocated (frame : PcmFrame) : Nat :=
  frame.capacity * 4 + queue.entrySize

def admits (frame : PcmFrame) : Bool :=
  decide (frame.samples ≠ []) && decide (frame.samples.length ≤ queue.maxSamples) &&
    decide (frame.capacity ≤ queue.maxSamples) && decide (frame.sampleRate = queue.sampleRate) &&
    decide (frame.channels = queue.channels) && decide (queue.channels ≠ 0) &&
    decide (frame.samples.length % queue.channels = 0)

/-- Takes the front entry out of the sums, as eviction and `pop_at` both do. -/
def release (state : State) (frame : PcmFrame) (rest : List (PcmFrame × Instant)) : State :=
  { state with
    frames := rest
    samples := state.samples - frame.samples.length
    allocatedBytes := state.allocatedBytes - queue.allocated frame }

def discardFront (state : State) : State :=
  match state.frames with
  | [] => state
  | (frame, _) :: rest =>
    { queue.release state frame rest with dropped := state.dropped + 1 }

def isExpired (now : Instant) (entry : PcmFrame × Instant) : Bool :=
  entry.1.bufferedPermit.isNone && decide (queue.maxAge < now - entry.2)

/-- The loop runs over the entries of the state, front first. -/
def expireLoop (now : Instant) : List (PcmFrame × Instant) → State → State
  | [], state => state
  | entry :: rest, state =>
    if queue.isExpired now entry then expireLoop now rest (queue.discardFront state) else state

def expire (state : State) (now : Instant) : State :=
  queue.expireLoop now state.frames state

def needsRoom (state : State) (frame : PcmFrame) : Bool :=
  decide (queue.maxSamples < state.samples + frame.samples.length) ||
    decide (queue.maxBytes < state.allocatedBytes + queue.allocated frame)

/-- Evicts from the front until the frame fits. A front entry that holds a permit ends the
loop with a refusal. No value means that the loop does not end: nothing is left to evict. -/
def evictLoop (frame : PcmFrame) : List (PcmFrame × Instant) → State → Option (State × Bool)
  | [], state => if queue.needsRoom state frame then none else some (state, true)
  | (oldest, _) :: rest, state =>
    if queue.needsRoom state frame then
      if oldest.bufferedPermit.isSome then some (state, false)
      else evictLoop frame rest (queue.discardFront state)
    else some (state, true)

/-- Appends a frame that fits. Only the first push since the last batch asks for a
notification. -/
def append (state : State) (frame : PcmFrame) (now : Instant) : State × PcmAdmission :=
  ({ state with
      frames := state.frames ++ [(frame, now)]
      samples := state.samples + frame.samples.length
      allocatedBytes := state.allocatedBytes + queue.allocated frame
      notified := true },
    ⟨true, !state.notified⟩)

def pushAt (state : State) (frame : PcmFrame) (now : Instant) : Option (State × PcmAdmission) :=
  if state.closed then some (state, ⟨false, false⟩)
  else if queue.admits frame then
    let expired := queue.expire state now
    (queue.evictLoop frame expired.frames expired).map fun (state, hasRoom) =>
      if hasRoom then queue.append state frame now else (state, ⟨false, false⟩)
  else some ({ state with dropped := state.dropped + 1 }, ⟨false, false⟩)

/-- Also returns the number of frames in the batch. -/
def beginBatch (state : State) (now : Instant) : State × Nat :=
  let expired := queue.expire state now
  ({ expired with notified := false }, expired.frames.length)

def popAt (state : State) (now : Instant) : State × Option (PcmFrame × Instant) :=
  let expired := queue.expire state now
  match expired.frames with
  | [] => ({ expired with notified := false }, none)
  | (frame, arrived) :: rest => (queue.release expired frame rest, some (frame, arrived))

def clear (state : State) : State :=
  { state with
    dropped := state.dropped + state.frames.length
    frames := []
    samples := 0
    allocatedBytes := 0 }

def close (state : State) : State :=
  { state with closed := true }

/-- Also returns the drops since the last call. -/
def takeNewDrops (state : State) : State × Nat :=
  ({ state with reportedDropped := state.dropped }, state.dropped - state.reportedDropped)

/-- What the metrics read. The duration of the queued audio, a quotient of floats, is left out. -/
structure Stats where
  bytes : Nat
  retainedBytes : Nat
  byteLimit : Nat
  oldestAge : Duration
  droppedFrames : Nat
deriving DecidableEq

def stats (state : State) (now : Instant) : State × Stats :=
  let expired := queue.expire state now
  (expired,
    { bytes := expired.samples * 4
      retainedBytes := expired.allocatedBytes
      byteLimit := queue.maxBytes
      oldestAge := expired.frames.head?.elim 0 fun entry => now - entry.2
      droppedFrames := expired.dropped })

/-! ### What each operation does to the frames and the flag -/

variable {queue}

@[simp] theorem discardFront_frames (state : State) :
    (queue.discardFront state).frames = state.frames.tail := by
  simp only [discardFront]
  split
  · case h_1 hframes => rw [hframes, List.tail_nil]
  · case h_2 hframes => rw [hframes, release, List.tail_cons]

@[simp] theorem discardFront_notified (state : State) :
    (queue.discardFront state).notified = state.notified := by
  simp only [discardFront]
  split <;> rfl

@[simp] theorem discardFront_closed (state : State) :
    (queue.discardFront state).closed = state.closed := by
  simp only [discardFront]
  split <;> rfl

/-- Expiry removes the expired entries at the front and keeps the flags. -/
theorem expireLoop_spec (now : Instant) (entries : List (PcmFrame × Instant)) (state : State)
    (hframes : state.frames = entries) :
    (queue.expireLoop now entries state).frames = entries.dropWhile (queue.isExpired now) ∧
      (queue.expireLoop now entries state).notified = state.notified ∧
      (queue.expireLoop now entries state).closed = state.closed := by
  induction entries generalizing state with
  | nil => exact ⟨hframes, rfl, rfl⟩
  | cons entry rest ih =>
    cases hexpired : queue.isExpired now entry with
    | true =>
      have htail : (queue.discardFront state).frames = rest := by
        rw [discardFront_frames, hframes, List.tail_cons]
      simpa [expireLoop, hexpired] using ih (queue.discardFront state) htail
    | false => simpa [expireLoop, hexpired] using hframes

@[simp] theorem expire_frames (state : State) (now : Instant) :
    (queue.expire state now).frames = state.frames.dropWhile (queue.isExpired now) :=
  (expireLoop_spec now state.frames state rfl).1

@[simp] theorem expire_notified (state : State) (now : Instant) :
    (queue.expire state now).notified = state.notified :=
  (expireLoop_spec now state.frames state rfl).2.1

theorem expire_length_le (state : State) (now : Instant) :
    (queue.expire state now).frames.length ≤ state.frames.length := by
  rw [expire_frames]
  exact (List.dropWhile_suffix _).length_le

theorem evictLoop_spec {frame : PcmFrame} {entries : List (PcmFrame × Instant)}
    {state after : State} {hasRoom : Bool} (hframes : state.frames = entries)
    (h : queue.evictLoop frame entries state = some (after, hasRoom)) :
    after.frames.length ≤ entries.length ∧ after.notified = state.notified := by
  induction entries generalizing state with
  | nil =>
    simp only [evictLoop] at h
    split at h
    · cases h
    · cases h
      exact ⟨hframes ▸ Nat.le_refl _, rfl⟩
  | cons entry rest ih =>
    simp only [evictLoop] at h
    split at h
    · split at h
      · cases h
        exact ⟨hframes ▸ Nat.le_refl _, rfl⟩
      · have htail : (queue.discardFront state).frames = rest := by
          rw [discardFront_frames, hframes, List.tail_cons]
        obtain ⟨hlength, hnotified⟩ := ih htail h
        rw [discardFront_notified] at hnotified
        exact ⟨hlength.trans (Nat.le_succ _), hnotified⟩
    · cases h
      exact ⟨hframes ▸ Nat.le_refl _, rfl⟩

/-- A refused push adds no frame and asks for nothing. An accepted one leaves the flag set, and
asks for a notification when it was not. -/
theorem pushAt_cases {state after : State} {frame : PcmFrame} {now : Instant}
    {admission : PcmAdmission} (h : queue.pushAt state frame now = some (after, admission)) :
    (admission.notify = false ∧ after.notified = state.notified ∧
        after.frames.length ≤ state.frames.length) ∨
      (admission.notify = !state.notified ∧ after.notified = true) := by
  simp only [pushAt] at h
  split at h
  · cases h
    exact .inl ⟨rfl, rfl, Nat.le_refl _⟩
  · split at h
    · obtain ⟨⟨room, hasRoom⟩, hevict, heq⟩ := Option.map_eq_some_iff.mp h
      obtain ⟨hlength, hnotified⟩ := evictLoop_spec rfl hevict
      rw [expire_notified] at hnotified
      cases hasRoom with
      | true =>
        cases heq
        exact .inr ⟨congrArg not hnotified, rfl⟩
      | false =>
        cases heq
        exact .inl ⟨rfl, hnotified, hlength.trans (expire_length_le state now)⟩
    · cases h
      exact .inl ⟨rfl, rfl, Nat.le_refl _⟩

/-- A pop takes an entry, or finds nothing and rearms the notification. -/
theorem popAt_cases (state : State) (now : Instant) :
    ((queue.expire state now).frames = [] ∧ (queue.popAt state now).2 = none ∧
        (queue.popAt state now).1.frames = [] ∧ (queue.popAt state now).1.notified = false) ∨
      (∃ entry, (queue.popAt state now).2 = some entry ∧
        (queue.popAt state now).1.notified = state.notified ∧
        (queue.popAt state now).1.frames.length + 1 ≤ state.frames.length) := by
  have hnotified : (queue.expire state now).notified = state.notified := expire_notified state now
  have hlength : (queue.expire state now).frames.length ≤ state.frames.length :=
    expire_length_le state now
  simp only [popAt]
  generalize queue.expire state now = expired at hnotified hlength
  split
  · case h_1 hframes => exact .inl ⟨hframes, rfl, hframes, rfl⟩
  · case h_2 frame arrived rest hframes =>
    rw [hframes] at hlength
    exact .inr ⟨(frame, arrived), rfl, hnotified, hlength⟩

end PcmQueue

/-- A pool of credits. Its limits are those of a queue, and what is reserved counts against
them until the permit is dropped. -/
structure PcmCredits where
  pool : Nat
  maxSamples : Nat
  maxBytes : Nat
  usedSamples : Nat
  usedBytes : Nat
deriving DecidableEq

namespace PcmCredits

def new (pool : Nat) (queue : PcmQueue) : PcmCredits :=
  ⟨pool, queue.maxSamples, queue.maxBytes, 0, 0⟩

def tryReserve (credits : PcmCredits) (entrySize samples : Nat) :
    Option (PcmCredits × PcmPermit) :=
  let bytes := samples * 4 + entrySize
  if USIZE_MAX < bytes then none
  else if credits.maxSamples - credits.usedSamples < samples ∨
      credits.maxBytes - credits.usedBytes < bytes then none
  else
    some ({ credits with
      usedSamples := credits.usedSamples + samples
      usedBytes := credits.usedBytes + bytes }, ⟨credits.pool, samples, bytes⟩)

/-- A permit is dropped. -/
def release (credits : PcmCredits) (permit : PcmPermit) : PcmCredits :=
  { credits with
    usedSamples := credits.usedSamples - permit.samples
    usedBytes := credits.usedBytes - permit.bytes }

def allFree (credits : PcmCredits) : Bool :=
  decide (credits.usedSamples = 0) && decide (credits.usedBytes = 0)

end PcmCredits

end AirSonos
