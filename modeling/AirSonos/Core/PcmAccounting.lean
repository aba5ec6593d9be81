import AirSonos.Core.PcmQueue
import AirSonos.Lib.TransitionSystem
import Mathlib.Logic.Function.Iterate
import Mathlib.Algebra.BigOperators.Group.List.Basic
import Mathlib.Algebra.Order.Ring.Nat
import Mathlib.Data.UInt
import Mathlib.Data.List.TakeWhile

/-!
# What a queue of delivered PCM accounts for

Frames leave a queue at the front only. Expiry and eviction discard them one by one, so the
states inside an operation are the iterates of one discard. A ledger records beside the queue
what its callers have seen: the frames it accepted and returned, and the drops it reported.
-/

namespace AirSonos.PcmQueue

variable (queue : PcmQueue)

def sampleSum (entries : List (PcmFrame × Instant)) : Nat :=
  (entries.map fun entry => entry.1.samples.length).sum

def byteSum (entries : List (PcmFrame × Instant)) : Nat :=
  (entries.map fun entry => queue.allocated entry.1).sum

/-- The counters are the sums of the queued frames. -/
structure Balanced (state : State) : Prop where
  samples : state.samples = sampleSum state.frames
  bytes : state.allocatedBytes = queue.byteSum state.frames

structure Within (state : State) : Prop extends queue.Balanced state where
  samples_le : state.samples ≤ queue.maxSamples
  bytes_le : state.allocatedBytes ≤ queue.maxBytes

/-- The entries that have expired at the front. -/
def expired (state : State) (now : Instant) : List (PcmFrame × Instant) :=
  state.frames.takeWhile (queue.isExpired now)

variable {queue}

@[simp] theorem sampleSum_nil : sampleSum [] = 0 := rfl

@[simp] theorem sampleSum_cons (entry : PcmFrame × Instant) (rest : List (PcmFrame × Instant)) :
    sampleSum (entry :: rest) = entry.1.samples.length + sampleSum rest :=
  rfl

@[simp] theorem sampleSum_append (front back : List (PcmFrame × Instant)) :
    sampleSum (front ++ back) = sampleSum front + sampleSum back := by
  simp [sampleSum]

@[simp] theorem byteSum_nil : queue.byteSum [] = 0 := rfl

@[simp] theorem byteSum_cons (entry : PcmFrame × Instant) (rest : List (PcmFrame × Instant)) :
    queue.byteSum (entry :: rest) = queue.allocated entry.1 + queue.byteSum rest :=
  rfl

@[simp] theorem byteSum_append (front back : List (PcmFrame × Instant)) :
    queue.byteSum (front ++ back) = queue.byteSum front + queue.byteSum back := by
  simp [byteSum]

/-! ### Repeated discards -/

theorem discardFront_of_nil {state : State} (hframes : state.frames = []) :
    queue.discardFront state = state := by
  simp only [discardFront, hframes]

theorem discardFront_of_cons {state : State} {entry : PcmFrame × Instant}
    {rest : List (PcmFrame × Instant)} (hframes : state.frames = entry :: rest) :
    queue.discardFront state =
      { queue.release state entry.1 rest with dropped := state.dropped + 1 } := by
  simp only [discardFront, hframes]

@[simp] theorem discards_frames (state : State) (n : Nat) :
    (queue.discardFront^[n] state).frames = state.frames.drop n := by
  induction n generalizing state with
  | zero => rfl
  | succ n ih => rw [Function.iterate_succ_apply, ih, discardFront_frames, List.drop_tail]

@[simp] theorem discards_closed (state : State) (n : Nat) :
    (queue.discardFront^[n] state).closed = state.closed := by
  induction n generalizing state with
  | zero => rfl
  | succ n ih => rw [Function.iterate_succ_apply, ih, discardFront_closed]

@[simp] theorem discards_reportedDropped (state : State) (n : Nat) :
    (queue.discardFront^[n] state).reportedDropped = state.reportedDropped := by
  induction n generalizing state with
  | zero => rfl
  | succ n ih =>
    rw [Function.iterate_succ_apply, ih]
    simp only [discardFront]
    split <;> rfl

theorem discards_samples (state : State) (n : Nat) :
    (queue.discardFront^[n] state).samples =
      state.samples - sampleSum (state.frames.take n) := by
  induction n generalizing state with
  | zero => rfl
  | succ n ih =>
    rw [Function.iterate_succ_apply, ih]
    cases hframes : state.frames with
    | nil => simp [discardFront_of_nil hframes, hframes]
    | cons entry rest =>
      simp only [discardFront_of_cons hframes, release, List.take_succ_cons, sampleSum_cons]
      exact Nat.sub_sub _ _ _

theorem discards_bytes (state : State) (n : Nat) :
    (queue.discardFront^[n] state).allocatedBytes =
      state.allocatedBytes - queue.byteSum (state.frames.take n) := by
  induction n generalizing state with
  | zero => rfl
  | succ n ih =>
    rw [Function.iterate_succ_apply, ih]
    cases hframes : state.frames with
    | nil => simp [discardFront_of_nil hframes, hframes]
    | cons entry rest =>
      simp only [discardFront_of_cons hframes, release, List.take_succ_cons, byteSum_cons]
      exact Nat.sub_sub _ _ _

theorem discards_dropped (state : State) {n : Nat} (hn : n ≤ state.frames.length) :
    (queue.discardFront^[n] state).dropped = state.dropped + n := by
  induction n generalizing state with
  | zero => rfl
  | succ n ih =>
    rw [Function.iterate_succ_apply]
    cases hframes : state.frames with
    | nil =>
      rw [hframes] at hn
      cases hn
    | cons entry rest =>
      rw [ih, discardFront_of_cons hframes]
      · simp only
        omega
      · rw [discardFront_frames, hframes]
        rw [hframes] at hn
        exact Nat.le_of_succ_le_succ hn

theorem Balanced.discards {state : State} (h : queue.Balanced state) (n : Nat) :
    queue.Balanced (queue.discardFront^[n] state) := by
  have hsplit : state.frames.take n ++ state.frames.drop n = state.frames :=
    List.take_append_drop n state.frames
  constructor
  · have hsamples := h.samples
    rw [← hsplit, sampleSum_append] at hsamples
    rw [discards_samples, discards_frames]
    omega
  · have hbytes := h.bytes
    rw [← hsplit, byteSum_append] at hbytes
    rw [discards_bytes, discards_frames]
    omega

theorem Within.discards {state : State} (h : queue.Within state) (n : Nat) :
    queue.Within (queue.discardFront^[n] state) where
  toBalanced := h.toBalanced.discards n
  samples_le := by
    rw [discards_samples]
    exact (Nat.sub_le _ _).trans h.samples_le
  bytes_le := by
    rw [discards_bytes]
    exact (Nat.sub_le _ _).trans h.bytes_le

/-- A discard never makes room scarcer. -/
theorem needsRoom_of_discards {state : State} {frame : PcmFrame} {n : Nat}
    (h : queue.needsRoom (queue.discardFront^[n] state) frame = true) :
    queue.needsRoom state frame = true := by
  simp only [needsRoom, discards_samples, discards_bytes, Bool.or_eq_true, decide_eq_true_eq] at h ⊢
  omega

/-! ### The loops -/

theorem expireLoop_eq_discards (now : Instant) (entries : List (PcmFrame × Instant))
    (state : State) (hframes : state.frames = entries) :
    queue.expireLoop now entries state =
      queue.discardFront^[(entries.takeWhile (queue.isExpired now)).length] state := by
  induction entries generalizing state with
  | nil => rfl
  | cons entry rest ih =>
    cases hexpired : queue.isExpired now entry with
    | true =>
      have htail : (queue.discardFront state).frames = rest := by
        rw [discardFront_frames, hframes, List.tail_cons]
      simp only [expireLoop, hexpired, if_true, ih _ htail, List.takeWhile_cons, List.length_cons,
        Function.iterate_succ_apply]
    | false => simp [expireLoop, hexpired]

/-- Expiry makes as many discards as entries have expired at the front. -/
theorem expire_eq_discards (state : State) (now : Instant) :
    queue.expire state now = queue.discardFront^[(queue.expired state now).length] state :=
  expireLoop_eq_discards now state.frames state rfl

theorem take_expired (state : State) (now : Instant) :
    state.frames.take (queue.expired state now).length = queue.expired state now :=
  (List.prefix_iff_eq_take.mp (List.takeWhile_prefix _)).symm

theorem expired_length_le (state : State) (now : Instant) :
    (queue.expired state now).length ≤ state.frames.length :=
  (List.takeWhile_prefix _).length_le

def isPermitFree (entry : PcmFrame × Instant) : Bool :=
  entry.1.bufferedPermit.isNone

/-- Eviction discards frames without a permit while the frame does not fit. It ends where the
frame fits, or at an entry that holds a permit. -/
theorem evictLoop_cases {frame : PcmFrame} {entries : List (PcmFrame × Instant)}
    {state after : State} {hasRoom : Bool} (hframes : state.frames = entries)
    (h : queue.evictLoop frame entries state = some (after, hasRoom)) :
    ∃ n ≤ entries.length, after = queue.discardFront^[n] state ∧
      (∀ m < n, queue.needsRoom (queue.discardFront^[m] state) frame = true) ∧
      (∀ entry ∈ entries.take n, isPermitFree entry = true) ∧
      (hasRoom = true → queue.needsRoom after frame = false) ∧
      (hasRoom = false → queue.needsRoom after frame = true ∧
        ∃ entry rest, entries.drop n = entry :: rest ∧ isPermitFree entry = false) := by
  induction entries generalizing state with
  | nil =>
    simp only [evictLoop] at h
    split at h
    · cases h
    · case isFalse hroom =>
      cases h
      refine ⟨0, Nat.le_refl _, rfl, by simp, by simp, ?_, by simp⟩
      intro _
      exact Bool.eq_false_iff.mpr hroom
  | cons entry rest ih =>
    simp only [evictLoop] at h
    split at h
    · case isTrue hneeds =>
      split at h
      · case isTrue hpermit =>
        cases h
        refine ⟨0, Nat.zero_le _, rfl, by simp, by simp, by simp, ?_⟩
        intro _
        refine ⟨hneeds, entry, rest, rfl, ?_⟩
        simpa [isPermitFree] using hpermit
      · case isFalse hpermit =>
        have htail : (queue.discardFront state).frames = rest := by
          rw [discardFront_frames, hframes, List.tail_cons]
        obtain ⟨n, hn, hafter, hneeded, hfree, htrue, hfalse⟩ := ih htail h
        refine ⟨n + 1, Nat.succ_le_succ hn, hafter, ?_, ?_, htrue, hfalse⟩
        · intro m hm
          cases m with
          | zero => exact hneeds
          | succ m => exact hneeded m (Nat.lt_of_succ_lt_succ hm)
        · rw [List.take_succ_cons, List.forall_mem_cons]
          refine ⟨?_, hfree⟩
          simpa [isPermitFree] using hpermit
    · case isFalse hroom =>
      cases h
      refine ⟨0, Nat.zero_le _, rfl, by simp, by simp, ?_, by simp⟩
      intro _
      exact Bool.eq_false_iff.mpr hroom

/-- Eviction that runs into a permit before the frame fits is a refusal. -/
theorem evictLoop_of_permit {frame : PcmFrame} {lead rest : List (PcmFrame × Instant)}
    {entry : PcmFrame × Instant} {state : State} (hframes : state.frames = lead ++ entry :: rest)
    (hlead : ∀ other ∈ lead, isPermitFree other = true) (hentry : isPermitFree entry = false)
    (hneeds : queue.needsRoom (queue.discardFront^[lead.length] state) frame = true) :
    queue.evictLoop frame (lead ++ entry :: rest) state =
      some (queue.discardFront^[lead.length] state, false) := by
  induction lead generalizing state with
  | nil =>
    have hpermit : entry.1.bufferedPermit.isSome = true := by
      simpa [isPermitFree, Option.isSome_iff_ne_none] using hentry
    have hnow : queue.needsRoom state frame = true := hneeds
    simp [evictLoop, hnow, hpermit]
  | cons other lead ih =>
    rw [List.forall_mem_cons] at hlead
    have hnow : queue.needsRoom state frame = true := needsRoom_of_discards hneeds
    have hpermit : other.1.bufferedPermit.isSome = false := by
      simpa [isPermitFree] using hlead.1
    have htail : (queue.discardFront state).frames = lead ++ entry :: rest := by
      rw [discardFront_frames, hframes, List.cons_append, List.tail_cons]
    simpa [evictLoop, hnow, hpermit] using ih htail hlead.2 hneeds

/-- A frame that fits an empty queue is never looked for room forever. -/
theorem evictLoop_isSome {frame : PcmFrame} {entries : List (PcmFrame × Instant)} {state : State}
    (hframes : state.frames = entries)
    (hroom : queue.needsRoom (queue.discardFront^[entries.length] state) frame = false) :
    (queue.evictLoop frame entries state).isSome = true := by
  induction entries generalizing state with
  | nil =>
    have hnow : queue.needsRoom state frame = false := hroom
    simp [evictLoop, hnow]
  | cons entry rest ih =>
    have htail : (queue.discardFront state).frames = rest := by
      rw [discardFront_frames, hframes, List.tail_cons]
    simp only [evictLoop]
    split
    · split
      · rfl
      · exact ih htail hroom
    · rfl

variable (queue) in
/-- What a push does: it is turned away, or it discards frames and then stops at a permit or
appends its frame. -/
inductive Pushed (state : State) (frame : PcmFrame) (now : Instant) : State → PcmAdmission → Prop
  | closed (hclosed : state.closed = true) : Pushed state frame now state ⟨false, false⟩
  | turnedAway (hopen : state.closed = false) (hadmits : queue.admits frame = false) :
      Pushed state frame now { state with dropped := state.dropped + 1 } ⟨false, false⟩
  | refused {n : Nat} {entry : PcmFrame × Instant} {rest : List (PcmFrame × Instant)}
      (hopen : state.closed = false) (hadmits : queue.admits frame = true)
      (hfree : ∀ other ∈ (queue.expire state now).frames.take n, isPermitFree other = true)
      (hfront : (queue.expire state now).frames.drop n = entry :: rest)
      (hpermit : isPermitFree entry = false)
      (hneeds : queue.needsRoom (queue.discardFront^[n] (queue.expire state now)) frame = true) :
      Pushed state frame now (queue.discardFront^[n] (queue.expire state now)) ⟨false, false⟩
  | accepted {n : Nat} (hopen : state.closed = false) (hadmits : queue.admits frame = true)
      (hn : n ≤ (queue.expire state now).frames.length)
      (hfree : ∀ other ∈ (queue.expire state now).frames.take n, isPermitFree other = true)
      (hneeded : ∀ m < n,
        queue.needsRoom (queue.discardFront^[m] (queue.expire state now)) frame = true)
      (hroom : queue.needsRoom (queue.discardFront^[n] (queue.expire state now)) frame = false) :
      Pushed state frame now
        (queue.append (queue.discardFront^[n] (queue.expire state now)) frame now).1
        (queue.append (queue.discardFront^[n] (queue.expire state now)) frame now).2

theorem pushAt_pushed {state after : State} {frame : PcmFrame} {now : Instant}
    {admission : PcmAdmission} (h : queue.pushAt state frame now = some (after, admission)) :
    queue.Pushed state frame now after admission := by
  simp only [pushAt] at h
  split at h
  · case isTrue hclosed =>
    cases h
    exact .closed hclosed
  · case isFalse hopen =>
    rw [Bool.not_eq_true] at hopen
    split at h
    · case isTrue hadmits =>
      obtain ⟨⟨room, hasRoom⟩, hevict, heq⟩ := Option.map_eq_some_iff.mp h
      obtain ⟨n, hn, rfl, hneeded, hfree, htrue, hfalse⟩ := evictLoop_cases rfl hevict
      cases hasRoom with
      | true =>
        cases heq
        exact .accepted hopen hadmits hn hfree hneeded (htrue rfl)
      | false =>
        cases heq
        obtain ⟨hneeds, entry, rest, hfront, hpermit⟩ := hfalse rfl
        exact .refused hopen hadmits hfree hfront hpermit hneeds
    · case isFalse hadmits =>
      cases h
      exact .turnedAway hopen (Bool.eq_false_iff.mpr hadmits)

@[simp] theorem expire_closed (state : State) (now : Instant) :
    (queue.expire state now).closed = state.closed := by
  rw [expire_eq_discards, discards_closed]

theorem pushAt_closed {state after : State} {frame : PcmFrame} {now : Instant}
    {admission : PcmAdmission} (h : queue.pushAt state frame now = some (after, admission)) :
    after.closed = state.closed := by
  cases pushAt_pushed h with
  | closed => rfl
  | turnedAway => rfl
  | refused => rw [discards_closed, expire_closed]
  | accepted => simp only [append, discards_closed, expire_closed]

theorem popAt_closed (state : State) (now : Instant) :
    (queue.popAt state now).1.closed = state.closed := by
  have hclosed : (queue.expire state now).closed = state.closed := expire_closed state now
  simp only [popAt]
  split <;> exact hclosed

/-! ### The permits of the queued frames -/

def permits (entries : List (PcmFrame × Instant)) : List PcmPermit :=
  entries.filterMap fun entry => entry.1.bufferedPermit

@[simp] theorem permits_append (front back : List (PcmFrame × Instant)) :
    permits (front ++ back) = permits front ++ permits back :=
  List.filterMap_append

theorem permits_eq_nil {entries : List (PcmFrame × Instant)}
    (hfree : ∀ entry ∈ entries, isPermitFree entry = true) : permits entries = [] := by
  apply List.filterMap_eq_nil_iff.mpr
  intro entry hentry
  exact Option.isNone_iff_eq_none.mp (hfree entry hentry)

theorem permits_drop {entries : List (PcmFrame × Instant)} {n : Nat}
    (hfree : ∀ entry ∈ entries.take n, isPermitFree entry = true) :
    permits (entries.drop n) = permits entries := by
  conv_rhs => rw [← List.take_append_drop n entries, permits_append, permits_eq_nil hfree,
    List.nil_append]

/-- Only frames without a permit expire. -/
theorem permits_expire (state : State) (now : Instant) :
    permits (queue.expire state now).frames = permits state.frames := by
  rw [expire_eq_discards, discards_frames]
  apply permits_drop
  intro entry hentry
  rw [take_expired] at hentry
  have hexpired : queue.isExpired now entry = true := List.mem_takeWhile_imp hentry
  simp only [isExpired, Bool.and_eq_true] at hexpired
  exact hexpired.1

/-- A push takes no permit out of the queue, and puts that of its frame in when it is accepted. -/
theorem permits_pushAt {state after : State} {frame : PcmFrame} {now : Instant}
    {admission : PcmAdmission} (h : queue.pushAt state frame now = some (after, admission)) :
    permits after.frames =
      permits state.frames ++ if admission.accepted then frame.bufferedPermit.toList else [] := by
  cases pushAt_pushed h with
  | closed => simp
  | turnedAway => simp
  | refused _ _ hfree =>
    rw [discards_frames, permits_drop hfree, permits_expire]
    simp
  | accepted _ _ _ hfree =>
    simp only [append, discards_frames, permits_append, permits_drop hfree, permits_expire]
    cases hpermit : frame.bufferedPermit <;> simp [permits, hpermit]

theorem permits_popAt (state : State) (now : Instant) :
    permits state.frames =
      ((queue.popAt state now).2.bind fun entry => entry.1.bufferedPermit).toList ++
        permits (queue.popAt state now).1.frames := by
  have hexpire : permits (queue.expire state now).frames = permits state.frames :=
    permits_expire state now
  rw [← hexpire]
  simp only [popAt]
  split
  · simp
  · case h_2 frame arrived rest hframes =>
    rw [hframes]
    cases hpermit : frame.bufferedPermit <;> simp [permits, release, hpermit]

/-! ### A refused push -/

variable (queue) in
/-- The frames and counters are those before the push, or those left by expiry alone. -/
def Intact (state : State) (now : Instant) (after : State) : Prop :=
  (after.frames, after.samples, after.allocatedBytes) =
      (state.frames, state.samples, state.allocatedBytes) ∨
    (after.frames, after.samples, after.allocatedBytes) =
      ((queue.expire state now).frames, (queue.expire state now).samples,
        (queue.expire state now).allocatedBytes)

variable (queue) in
def RefusalLosesNothing (state : State) (frame : PcmFrame) (now : Instant) : Prop :=
  ∀ after admission, queue.pushAt state frame now = some (after, admission) →
    admission.accepted = false → queue.Intact state now after

variable (queue) in
/-- The frames without a permit in front of the first permit, behind those that have expired. -/
def evictable (state : State) (now : Instant) : List (PcmFrame × Instant) :=
  (state.frames.dropWhile (queue.isExpired now)).takeWhile isPermitFree

variable (queue) in
/-- No frame is evicted before a refusal: the push ends before the eviction, or no evictable
frame is there, or no permit stands behind them, or the frame fits once they are gone. -/
def NoEvictionBeforeRefusal (state : State) (frame : PcmFrame) (now : Instant) : Prop :=
  state.closed = true ∨ queue.admits frame = false ∨ queue.evictable state now = [] ∨
    (∀ entry ∈ state.frames, isPermitFree entry = true) ∨
    (state.samples - sampleSum (queue.expired state now ++ queue.evictable state now) +
        frame.samples.length ≤ queue.maxSamples ∧
      state.allocatedBytes - queue.byteSum (queue.expired state now ++ queue.evictable state now) +
        queue.allocated frame ≤ queue.maxBytes)

theorem takeWhile_take_of_drop {α : Type*} {p : α → Bool} {xs rest : List α} {x : α} {n : Nat}
    (hall : ∀ y ∈ xs.take n, p y = true) (hdrop : xs.drop n = x :: rest) (hx : p x = false) :
    xs.takeWhile p = xs.take n := by
  conv_lhs => rw [← List.take_append_drop n xs, hdrop]
  rw [List.takeWhile_append_of_pos hall]
  simp [hx]

/-- The evictable frames are those an eviction takes before it meets a permit. -/
theorem evictable_eq_take {state : State} {now : Instant} {entry : PcmFrame × Instant}
    {rest : List (PcmFrame × Instant)} {n : Nat}
    (hfree : ∀ other ∈ (queue.expire state now).frames.take n, isPermitFree other = true)
    (hfront : (queue.expire state now).frames.drop n = entry :: rest)
    (hpermit : isPermitFree entry = false) :
    queue.evictable state now = (queue.expire state now).frames.take n := by
  rw [evictable, ← expire_frames]
  exact takeWhile_take_of_drop hfree hfront hpermit

/-- The counters once the expired and then the evictable frames are gone. -/
theorem needsRoom_behind_evictable (state : State) (frame : PcmFrame) (now : Instant) :
    queue.needsRoom (queue.discardFront^[(queue.evictable state now).length]
        (queue.expire state now)) frame = false ↔
      state.samples - sampleSum (queue.expired state now ++ queue.evictable state now) +
          frame.samples.length ≤ queue.maxSamples ∧
        state.allocatedBytes - queue.byteSum (queue.expired state now ++ queue.evictable state now) +
          queue.allocated frame ≤ queue.maxBytes := by
  have hevictable : (queue.expire state now).frames.take (queue.evictable state now).length =
      queue.evictable state now := by
    rw [expire_frames]
    exact (List.prefix_iff_eq_take.mp (List.takeWhile_prefix _)).symm
  have hsamples : (queue.expire state now).samples =
      state.samples - sampleSum (queue.expired state now) := by
    rw [expire_eq_discards, discards_samples, take_expired]
  have hbytes : (queue.expire state now).allocatedBytes =
      state.allocatedBytes - queue.byteSum (queue.expired state now) := by
    rw [expire_eq_discards, discards_bytes, take_expired]
  simp only [needsRoom, discards_samples, discards_bytes, hevictable, hsamples, hbytes,
    sampleSum_append, byteSum_append, Nat.sub_sub, Bool.or_eq_false_iff, decide_eq_false_iff_not,
    Nat.not_lt]

/-- A push that meets a permit behind evictable frames, and still does not fit, has lost them. -/
theorem evicts_before_refusal {state : State} {frame : PcmFrame} {now : Instant}
    (h : ¬queue.NoEvictionBeforeRefusal state frame now) :
    queue.evictable state now ≠ [] ∧
      queue.pushAt state frame now =
        some (queue.discardFront^[(queue.evictable state now).length] (queue.expire state now),
          ⟨false, false⟩) := by
  simp only [NoEvictionBeforeRefusal, not_or, ← needsRoom_behind_evictable,
    Bool.not_eq_false, Bool.not_eq_true] at h
  obtain ⟨hopen, hadmits, hevictable, hpermits, hneeds⟩ := h
  refine ⟨hevictable, ?_⟩
  have hsplit : queue.evictable state now ++
      (queue.expire state now).frames.dropWhile isPermitFree = (queue.expire state now).frames := by
    rw [evictable, ← expire_frames]
    exact List.takeWhile_append_dropWhile
  cases hbehind : (queue.expire state now).frames.dropWhile isPermitFree with
  | nil =>
    refine absurd ?_ hpermits
    intro entry hentry
    rw [← List.takeWhile_append_dropWhile (p := queue.isExpired now) (l := state.frames),
      ← expire_frames, List.mem_append] at hentry
    obtain hentry | hentry := hentry
    · have hexpired : queue.isExpired now entry = true := List.mem_takeWhile_imp hentry
      simp only [isExpired, Bool.and_eq_true] at hexpired
      exact hexpired.1
    · exact List.dropWhile_eq_nil_iff.mp hbehind entry hentry
  | cons entry rest =>
    rw [hbehind] at hsplit
    have hpermit : isPermitFree entry = false := by
      have hne : (queue.expire state now).frames.dropWhile isPermitFree ≠ [] := by
        rw [hbehind]
        exact List.cons_ne_nil _ _
      have hhead := List.head_dropWhile_not isPermitFree hne
      simp only [hbehind, List.head_cons] at hhead
      exact hhead
    have hfree : ∀ other ∈ queue.evictable state now, isPermitFree other = true :=
      fun other hother => List.mem_takeWhile_imp hother
    have hevict := evictLoop_of_permit hsplit.symm hfree hpermit hneeds
    simp only [pushAt, hopen, hadmits, ← hsplit, hevict]
    rfl

/-- A push that ends in a refusal keeps every frame that has not expired exactly when it does
not evict before it meets a permit. -/
theorem refusalLosesNothing_iff (state : State) (frame : PcmFrame) (now : Instant) :
    queue.RefusalLosesNothing state frame now ↔ queue.NoEvictionBeforeRefusal state frame now := by
  constructor
  · intro hintact
    by_contra hevicts
    obtain ⟨hevictable, hpush⟩ := evicts_before_refusal hevicts
    have hlength : (queue.expire state now).frames.length ≤ state.frames.length :=
      expire_length_le state now
    have hprefix : (queue.evictable state now).length ≤ (queue.expire state now).frames.length := by
      rw [expire_frames]
      exact (List.takeWhile_prefix _).length_le
    have hsome : 0 < (queue.evictable state now).length := List.length_pos_iff.mpr hevictable
    obtain heq | heq := hintact _ _ hpush rfl
    · have hframes := congrArg (List.length ∘ Prod.fst) heq
      simp only [Function.comp_apply, discards_frames, List.length_drop] at hframes
      omega
    · have hframes := congrArg (List.length ∘ Prod.fst) heq
      simp only [Function.comp_apply, discards_frames, List.length_drop] at hframes
      omega
  · intro hclean after admission hpush haccepted
    cases pushAt_pushed hpush with
    | closed => exact .inl rfl
    | turnedAway => exact .inl rfl
    | @refused n entry rest hopen hadmits hfree hfront hpermit hneeds =>
      have htake := evictable_eq_take hfree hfront hpermit
      have hn : n ≤ (queue.expire state now).frames.length := by
        by_contra hlong
        rw [List.drop_eq_nil_of_le (Nat.le_of_not_le hlong)] at hfront
        cases hfront
      have hlength : (queue.evictable state now).length = n := by
        rw [htake, List.length_take_of_le hn]
      obtain hclosed | hturned | hnone | hfree | hroom := hclean
      · rw [hopen] at hclosed
        cases hclosed
      · rw [hadmits] at hturned
        cases hturned
      · right
        rw [← hlength, hnone]
        rfl
      · have hentry : entry ∈ state.frames := by
          have hdropped : entry ∈ (queue.expire state now).frames.drop n := by
            rw [hfront]
            exact List.mem_cons_self
          have hexpire := List.mem_of_mem_drop hdropped
          rw [expire_frames] at hexpire
          exact (List.dropWhile_suffix _).subset hexpire
        rw [hfree entry hentry] at hpermit
        cases hpermit
      · rw [← needsRoom_behind_evictable, hlength, hneeds] at hroom
        cases hroom
    | accepted => cases haccepted

theorem tone_fits (samples : Nat) : (List.replicate samples (0 : Sample)).length ≤ samples :=
  Nat.le_of_eq List.length_replicate

def tone (samples : Nat) (permit : Option PcmPermit) : PcmFrame where
  bufferedPermit := permit
  playbackEpoch := 0
  sampleRate := 8000
  channels := 1
  samples := List.replicate samples 0
  capacity := samples
  presentationTime := none
  samples_le := tone_fits samples

def telephone : PcmQueue := .new 128 8000 1 (.fromMillis 250)

/-- A frame without a permit, and behind it one with a permit that takes the rest of the queue. -/
def mixed : State :=
  let first := ((telephone.pushAt .empty (tone 640 none) 0).map Prod.fst).getD .empty
  ((telephone.pushAt first (tone 1360 (some ⟨0, 1360, 5568⟩)) 0).map Prod.fst).getD .empty

/-- The next frame does not fit behind the permit. It is refused once the first frame is gone. -/
theorem refusal_loses_frame :
    ¬telephone.RefusalLosesNothing mixed (tone 1000 (some ⟨0, 1000, 4128⟩)) 0 := by
  intro h
  have hpush : telephone.pushAt mixed (tone 1000 (some ⟨0, 1000, 4128⟩)) 0 =
      some (telephone.discardFront mixed, ⟨false, false⟩) := by decide +kernel
  have hintact := h _ _ hpush rfl
  have hlost : ¬telephone.Intact mixed 0 (telephone.discardFront mixed) := by
    simp only [Intact]
    decide +kernel
  exact hlost hintact

end AirSonos.PcmQueue
