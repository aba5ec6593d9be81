import AirSonos.Core.PcmLedger

/-!
# What a queue of delivered PCM loses

The ledger tells which frames were accepted and then lost. Where no frame holds a permit, each
of them had expired, or did not fit the queue with the frames behind it.
-/

namespace AirSonos.PcmQueue

theorem withFate_dropped (gone popped rest : List (PcmFrame × Instant)) :
    withFate .dropped (gone ++ popped ++ rest)
      (List.replicate gone.length .dropped ++ popped.map fun _ => .popped) = gone := by
  induction gone with
  | nil =>
    induction popped with
    | nil => simp [withFate]
    | cons entry popped ih =>
      simpa [withFate] using ih
  | cons entry gone ih =>
    simpa [withFate, List.replicate_succ] using ih

/-- The frames that were accepted and neither returned nor kept. -/
def Ledger.lost (ledger : Ledger) : List (PcmFrame × Instant) :=
  withFate .dropped ledger.accepted ledger.fates

/-- An operation loses the frames it takes from the front and does not return. -/
theorem Settled.book_lost {ledger : Ledger} (h : Settled ledger) {after : State}
    {accepted gone popped : List (PcmFrame × Instant)}
    (frames : ledger.state.frames ++ accepted = gone ++ popped ++ after.frames) :
    (ledger.book after accepted popped).lost = ledger.lost ++ gone := by
  have hdecided : ledger.fates.length ≤ ledger.accepted.length := h.decided
  obtain ⟨hlength, hsuffix⟩ := h.gone frames
  have hnew := withFate_dropped gone popped after.frames
  simp only [withFate] at hnew
  simp only [Ledger.lost, Ledger.book, hlength, withFate, List.append_assoc ledger.fates,
    zip_append_of_le hdecided, List.filter_append, List.map_append, hsuffix, hnew]

section Losses

variable {queue : PcmQueue} {state after : State} {now : Instant}

variable (queue) in
/-- A queued frame that does not fit with the frames behind it and the one that arrives. -/
def Crowded (state : State) (arrival entry : PcmFrame × Instant) : Prop :=
  ∃ front back, state.frames = front ++ entry :: back ∧
    (queue.maxSamples < sampleSum (entry :: back ++ [arrival]) ∨
      queue.maxBytes < queue.byteSum (entry :: back ++ [arrival]))

/-- Eviction takes a frame only when it is crowded out. -/
theorem Balanced.crowded (h : queue.Balanced state) {frame : PcmFrame} {n : Nat}
    (needed : ∀ m < n, queue.needsRoom (queue.discardFront^[m] state) frame = true) :
    ∀ entry ∈ state.frames.take n, queue.Crowded state (frame, now) entry := by
  intro entry hentry
  obtain ⟨m, hm, rfl⟩ := List.mem_take_iff_getElem.mp hentry
  have hlength : m < state.frames.length := hm.trans_le (Nat.min_le_right _ _)
  have hneeds := needed m (hm.trans_le (Nat.min_le_left _ _))
  have hbalanced := h.discards m
  simp only [needsRoom, hbalanced.samples, hbalanced.bytes, discards_frames, Bool.or_eq_true,
    decide_eq_true_eq, List.drop_eq_getElem_cons hlength] at hneeds
  refine ⟨state.frames.take m, state.frames.drop (m + 1), ?_, ?_⟩
  · rw [← List.drop_eq_getElem_cons hlength, List.take_append_drop]
  · rw [sampleSum_append, byteSum_append]
    exact hneeds

/-- Where no frame holds a permit, a push loses frames that have expired, or those that an
accepted frame crowds out. -/
theorem Balanced.pushAt_drops (h : queue.Balanced state) {frame : PcmFrame}
    {admission : PcmAdmission} (pushed : queue.pushAt state frame now = some (after, admission))
    (free : ∀ entry ∈ state.frames, isPermitFree entry = true) :
    ∃ gone, state.frames ++ (if admission.accepted then [(frame, now)] else []) =
        gone ++ [] ++ after.frames ∧
      ∀ entry ∈ gone, entry ∈ queue.expired state now ∨
        admission.accepted = true ∧ queue.Crowded state (frame, now) entry := by
  have hsplit : queue.expired state now ++ (queue.expire state now).frames = state.frames := by
    rw [expire_frames]
    exact List.takeWhile_append_dropWhile
  cases pushAt_pushed pushed with
  | closed => exact ⟨[], List.append_nil _, List.forall_mem_nil _⟩
  | turnedAway => exact ⟨[], List.append_nil _, List.forall_mem_nil _⟩
  | @refused n entry rest _ _ _ hfront hpermit =>
    have hmem : entry ∈ (queue.expire state now).frames.drop n := by
      rw [hfront]
      exact List.mem_cons_self
    have hqueued : entry ∈ state.frames := by
      rw [← hsplit]
      exact List.mem_append_right _ (List.mem_of_mem_drop hmem)
    exact absurd ((free entry hqueued).symm.trans hpermit) nofun
  | @accepted n _ _ hn _ hneeded =>
    refine ⟨_, (accepted_moves frame now hn).frames, ?_⟩
    intro entry hentry
    obtain hexpired | hevicted := List.mem_append.mp hentry
    · exact .inl hexpired
    · obtain ⟨front, back, hframes, hcrowd⟩ := (h.expire now).crowded hneeded entry hevicted
      refine .inr ⟨rfl, queue.expired state now ++ front, back, ?_, hcrowd⟩
      rw [← hsplit, hframes, List.append_assoc]

variable {before last : Ledger}

variable (queue before last) in
/-- Why an operation loses a frame that holds no permit. -/
def QueueLabel.Drops : QueueLabel → PcmFrame × Instant → Prop
  | .push frame now, entry =>
    entry ∈ queue.expired before.state now ∨
      last.accepted = before.accepted ++ [(frame, now)] ∧
        queue.Crowded before.state (frame, now) entry
  | .pop now, entry | .beginBatch now, entry | .stats now, entry =>
    entry ∈ queue.expired before.state now
  | .clear, _ => True
  | .close, _ | .takeNewDrops, _ => False

/-- What is lost grows by the frames that an operation drops, all of them from the queue. -/
theorem Accounted.step_lost (h : queue.Accounted before) {label : QueueLabel}
    (taken : Ledger.step queue before label = some last)
    (free : ∀ entry ∈ before.state.frames, isPermitFree entry = true) :
    ∃ gone, last.lost = before.lost ++ gone ∧
      ∀ entry ∈ gone, label.Drops queue before last entry := by
  cases label with
  | push frame now =>
    obtain ⟨⟨state, admission⟩, hpush, rfl⟩ := Option.map_eq_some_iff.mp taken
    obtain ⟨gone, hframes, hdrops⟩ := h.toBalanced.pushAt_drops hpush free
    refine ⟨gone, h.toSettled.book_lost hframes, ?_⟩
    intro entry hentry
    refine (hdrops entry hentry).imp_right ?_
    rintro ⟨haccepted, hcrowded⟩
    have hadded : before.accepted ++ (if admission.accepted then [(frame, now)] else []) =
        before.accepted ++ [(frame, now)] := by
      rw [haccepted, if_pos rfl]
    exact ⟨hadded, hcrowded⟩
  | pop now =>
    cases taken
    exact ⟨_, h.toSettled.book_lost (popAt_moves before.state now).frames, fun _ => id⟩
  | beginBatch now =>
    cases taken
    exact ⟨_, h.toSettled.book_lost (expire_moves before.state now).frames, fun _ => id⟩
  | clear =>
    cases taken
    exact ⟨_, h.toSettled.book_lost (clear_moves before.state).frames, fun _ _ => trivial⟩
  | close =>
    cases taken
    have hframes : before.state.frames ++ [] = [] ++ [] ++ (close before.state).frames :=
      List.append_nil _
    exact ⟨[], h.toSettled.book_lost hframes, List.forall_mem_nil _⟩
  | takeNewDrops =>
    cases taken
    have hframes : before.state.frames ++ [] =
        [] ++ [] ++ (PcmQueue.takeNewDrops before.state).1.frames :=
      List.append_nil _
    exact ⟨[], h.toSettled.book_lost hframes, List.forall_mem_nil _⟩
  | stats now =>
    cases taken
    exact ⟨_, h.toSettled.book_lost (expire_moves before.state now).frames, fun _ => id⟩

/-- A frame that is accepted was pushed, and what is queued was queued before or is new. -/
theorem step_arrivals {label : QueueLabel} (taken : Ledger.step queue before label = some last) :
    ∃ added, last.accepted = before.accepted ++ added ∧
      (∃ left, before.state.frames ++ added = left ++ last.state.frames ∧
        (∀ entry, last.popped = before.popped ++ [entry] → entry ∈ left)) ∧
      (added = [] ∨ ∃ frame now, label = .push frame now ∧ added = [(frame, now)]) ∧
      (before.state.closed = true → added = []) := by
  have hpassed := (step_passes taken).frames
  obtain ⟨added, left, haccepted, hframes, hpopped, -, hnone⟩ := hpassed
  refine ⟨added, haccepted, ⟨left.map Prod.fst, hframes, ?_⟩, ?_, hnone⟩
  · intro entry hreturned
    have hentry : entry ∈ (left.filter fun entry => entry.2 = Fate.popped).map Prod.fst := by
      rw [List.append_cancel_left (hpopped.symm.trans hreturned)]
      exact List.mem_cons_self
    obtain ⟨other, hother, rfl⟩ := List.mem_map.mp hentry
    exact List.mem_map.mpr ⟨other, List.mem_of_mem_filter hother, rfl⟩
  · have hempty (h : last.accepted = before.accepted ++ []) : added = [] :=
      List.append_cancel_left (haccepted.symm.trans h)
    cases label with
    | push frame now =>
      obtain ⟨⟨state, admission⟩, hpush, rfl⟩ := Option.map_eq_some_iff.mp taken
      have hadded : added = if admission.accepted then [(frame, now)] else [] :=
        List.append_cancel_left haccepted.symm
      split at hadded
      · exact .inr ⟨frame, now, rfl, hadded⟩
      · exact .inl hadded
    | _ =>
      cases taken
      exact .inl (hempty rfl)

/-- A frame the queue has accepted was returned, was lost or is queued. -/
theorem Settled.cover {ledger : Ledger} (h : Settled ledger) {entry : PcmFrame × Instant}
    (accepted : entry ∈ ledger.accepted) :
    entry ∈ ledger.popped ∨ entry ∈ ledger.lost ∨ entry ∈ ledger.state.frames := by
  rw [← List.take_append_drop ledger.fates.length ledger.accepted, List.mem_append] at accepted
  obtain hdecided | hqueued := accepted
  · obtain ⟨k, hk, rfl⟩ := List.mem_take_iff_getElem.mp hdecided
    have hfate : (ledger.accepted[k], ledger.fates[k]) ∈ ledger.accepted.zip ledger.fates := by
      rw [← List.getElem_zip (h := by rw [List.length_zip]; omega)]
      exact List.getElem_mem _
    cases heq : ledger.fates[k] with
    | popped =>
      left
      rw [h.popped]
      exact List.mem_map.mpr ⟨_, List.mem_filter.mpr ⟨hfate, by simpa using heq⟩, rfl⟩
    | dropped =>
      right
      left
      exact List.mem_map.mpr ⟨_, List.mem_filter.mpr ⟨hfate, by simpa using heq⟩, rfl⟩
  · right
    right
    rw [h.queued]
    exact hqueued

end Losses

end AirSonos.PcmQueue
