import AirSonos.Core.PcmLedger
import AirSonos.Lib.LongestSuffix
import Mathlib.Algebra.Order.BigOperators.Group.List
import Mathlib.Data.List.Pairwise

/-!
# The queue at the live edge

Real-time audio holds no permits, so overflow evicts from the front until the new frame fits.
What is queued is then the longest suffix of the accepted frames that fits both limits, less
the frames that were popped or have become too old.
-/

namespace AirSonos.PcmQueue

variable (queue : PcmQueue)

/-- Both limits of the queue. -/
def budget : Budget (PcmFrame × Instant) where
  fits entries :=
    decide (sampleSum entries ≤ queue.maxSamples) &&
      decide (queue.byteSum entries ≤ queue.maxBytes)
  fits_nil := by simp
  fits_sublist := by
    intro xs ys hsublist hfits
    simp only [Bool.and_eq_true, decide_eq_true_eq] at hfits ⊢
    have hsamples : sampleSum ys ≤ sampleSum xs :=
      (hsublist.map _).sum_le_sum fun _ _ => Nat.zero_le _
    have hbytes : queue.byteSum ys ≤ queue.byteSum xs :=
      (hsublist.map _).sum_le_sum fun _ _ => Nat.zero_le _
    omega

def isOld (now : Instant) (entry : PcmFrame × Instant) : Bool :=
  decide (queue.maxAge < now - entry.2)

/-- The accepted frames from the live edge on, without those popped and those too old. -/
def liveContent (ledger : Ledger) (now : Instant) : List (PcmFrame × Instant) :=
  ((ledger.accepted.zipIdx.drop (queue.budget.edge ledger.accepted)).filter fun (entry, i) =>
    decide (ledger.fates[i]? ≠ some .popped) && !queue.isOld now entry).map Prod.fst

/-- Accepted pushes of frames without a permit, and pops, on an open queue whose clock does not
go back. -/
inductive LiveRun : Ledger → Instant → Prop
  | start : LiveRun .new 0
  | push {ledger after : Ledger} {now later : Instant} {frame : PcmFrame}
      (run : LiveRun ledger now) (clock : now ≤ later) (free : frame.bufferedPermit = none)
      (taken : Ledger.step queue ledger (.push frame later) = some after)
      (accepted : after.accepted = ledger.accepted ++ [(frame, later)]) : LiveRun after later
  | pop {ledger after : Ledger} {now later : Instant} (run : LiveRun ledger now)
      (clock : now ≤ later) (taken : Ledger.step queue ledger (.pop later) = some after) :
      LiveRun after later

variable {queue}

/-! ### Arrivals -/

/-- The frames a run has accepted: none holds a permit, and they arrived in order. -/
structure Arrivals (entries : List (PcmFrame × Instant)) (now : Instant) : Prop where
  free : ∀ entry ∈ entries, isPermitFree entry = true
  sorted : entries.Pairwise fun entry later => entry.2 ≤ later.2
  past : ∀ entry ∈ entries, entry.2 ≤ now

theorem Arrivals.later {entries : List (PcmFrame × Instant)} {now later : Instant}
    (h : Arrivals entries now) (clock : now ≤ later) : Arrivals entries later where
  free := h.free
  sorted := h.sorted
  past entry hentry := (h.past entry hentry).trans clock

theorem Arrivals.append {entries : List (PcmFrame × Instant)} {now : Instant}
    (h : Arrivals entries now) {frame : PcmFrame} (free : frame.bufferedPermit = none) :
    Arrivals (entries ++ [(frame, now)]) now where
  free := by
    intro entry hentry
    obtain hentry | hentry := List.mem_append.mp hentry
    · exact h.free entry hentry
    · cases List.mem_singleton.mp hentry
      simp [isPermitFree, free]
  sorted := by
    rw [List.pairwise_append]
    refine ⟨h.sorted, List.pairwise_singleton _ _, ?_⟩
    intro entry hentry other hother
    cases List.mem_singleton.mp hother
    exact h.past entry hentry
  past := by
    intro entry hentry
    obtain hentry | hentry := List.mem_append.mp hentry
    · exact h.past entry hentry
    · cases List.mem_singleton.mp hentry
      exact Nat.le_refl _

theorem Arrivals.drop {entries : List (PcmFrame × Instant)} {now : Instant}
    (h : Arrivals entries now) (n : Nat) : Arrivals (entries.drop n) now where
  free entry hentry := h.free entry (List.mem_of_mem_drop hentry)
  sorted := h.sorted.sublist (List.drop_sublist n entries)
  past entry hentry := h.past entry (List.mem_of_mem_drop hentry)

theorem isExpired_eq_isOld {entry : PcmFrame × Instant} (free : isPermitFree entry = true)
    (now : Instant) : queue.isExpired now entry = queue.isOld now entry := by
  simp only [isPermitFree] at free
  simp [isExpired, isOld, free]

/-- Expiry leaves no frame that is too old: the frames behind a young one are younger. -/
theorem young_after_expiry {entries : List (PcmFrame × Instant)} {now : Instant}
    (h : Arrivals entries now) :
    ∀ entry ∈ entries.dropWhile (queue.isExpired now), queue.isOld now entry = false := by
  induction entries with
  | nil => simp
  | cons first rest ih =>
    have hfree := List.forall_mem_cons.mp h.free
    cases hexpired : queue.isExpired now first with
    | true =>
      rw [List.dropWhile_cons_of_pos hexpired]
      exact ih (h.drop 1)
    | false =>
      have hfirst : queue.isOld now first = false := by
        rw [← isExpired_eq_isOld hfree.1, hexpired]
      rw [List.dropWhile_cons_of_neg (by simp [hexpired])]
      rw [List.forall_mem_cons]
      refine ⟨hfirst, ?_⟩
      intro entry hentry
      have horder : first.2 ≤ entry.2 := (List.pairwise_cons.mp h.sorted).1 entry hentry
      simp only [isOld, decide_eq_false_iff_not, Nat.not_lt] at hfirst ⊢
      exact (Nat.sub_le_sub_left horder now).trans hfirst

theorem isOld_mono {entry : PcmFrame × Instant} {now later : Instant} (clock : now ≤ later)
    (h : queue.isOld now entry = true) : queue.isOld later entry = true := by
  simp only [isOld, decide_eq_true_eq] at h ⊢
  exact h.trans_le (Nat.sub_le_sub_right clock entry.2)

/-! ### The invariant -/

variable (queue) in
/-- Every frame that has left the queue was popped, is too old, or lies before the live edge. -/
structure AtEdge (ledger : Ledger) (now : Instant) : Prop where
  accounted : queue.Accounted ledger
  arrivals : Arrivals ledger.accepted now
  young : ∀ entry ∈ ledger.state.frames, queue.isOld now entry = false
  gone : ∀ i entry, i < ledger.fates.length → ledger.accepted[i]? = some entry →
    ledger.fates[i]? = some .popped ∨ queue.isOld now entry = true ∨
      i < queue.budget.edge ledger.accepted

theorem fits_frames {state : State} (h : queue.Within state) :
    queue.budget.fits state.frames = true := by
  have hsamples := h.samples_le
  have hbytes := h.bytes_le
  rw [h.samples] at hsamples
  rw [h.bytes] at hbytes
  simp [budget, hsamples, hbytes]

/-- A frame that an eviction had to discard starts a suffix that does not fit. -/
theorem not_fits_of_needsRoom {state : State} {frame : PcmFrame} {m : Nat}
    (h : queue.Balanced state)
    (hneeds : queue.needsRoom (queue.discardFront^[m] state) frame = true) (now : Instant) :
    ¬queue.budget.fits (state.frames.drop m ++ [(frame, now)]) = true := by
  have hsamples := (h.discards m).samples
  have hbytes := (h.discards m).bytes
  rw [discards_frames] at hsamples hbytes
  simp only [needsRoom, hsamples, hbytes, Bool.or_eq_true, decide_eq_true_eq] at hneeds
  simp only [budget, sampleSum_append, byteSum_append, sampleSum_cons, byteSum_cons, sampleSum_nil,
    byteSum_nil, Bool.and_eq_true, decide_eq_true_eq]
  omega

/-- What an operation loses has to be old or before the live edge. -/
theorem AtEdge.book {ledger : Ledger} {now later : Instant} (h : queue.AtEdge ledger now)
    (clock : now ≤ later) {after : State} {accepted gone popped : List (PcmFrame × Instant)}
    (moves : Moves ledger.state after accepted gone popped 0) (within : queue.Within after)
    (arrivals : Arrivals (ledger.accepted ++ accepted) later)
    (young : ∀ entry ∈ after.frames, queue.isOld later entry = false)
    (lost : ∀ m entry, gone[m]? = some entry → queue.isOld later entry = true ∨
      ledger.fates.length + m < queue.budget.edge (ledger.accepted ++ accepted)) :
    queue.AtEdge (ledger.book after accepted popped) later where
  accounted := h.accounted.book moves within
  arrivals := arrivals
  young := young
  gone := by
    intro i entry hi hentry
    have hdecided : ledger.fates.length ≤ ledger.accepted.length := h.accounted.decided
    have hsuffix : ledger.accepted.drop ledger.fates.length ++ accepted =
        gone ++ popped ++ after.frames := by
      rw [← h.accounted.queued, moves.frames]
    have hlength : ledger.state.frames.length + accepted.length -
        (popped.length + after.frames.length) = gone.length := by
      have heq := congrArg List.length moves.frames
      simp only [List.length_append] at heq
      omega
    simp only [Ledger.book, hlength] at hi hentry ⊢
    simp only [List.length_append, List.length_replicate, List.length_map] at hi
    by_cases hold : i < ledger.fates.length
    · rw [List.getElem?_append_left (by omega)] at hentry
      rw [List.append_assoc, List.getElem?_append_left hold]
      obtain hpopped | hisOld | hedge := h.gone i entry hold hentry
      · exact .inl hpopped
      · exact .inr (.inl (isOld_mono clock hisOld))
      · exact .inr (.inr (hedge.trans_le (Budget.edge_append _ _)))
    · obtain ⟨m, rfl⟩ := Nat.exists_eq_add_of_le (Nat.le_of_not_lt hold)
      rw [← List.getElem?_drop, List.drop_append_of_le_length hdecided, hsuffix] at hentry
      by_cases hlost : m < gone.length
      · rw [List.append_assoc, List.getElem?_append_left hlost] at hentry
        exact .inr (lost m entry hentry)
      · left
        rw [List.append_assoc, List.getElem?_append_right (Nat.le_add_right _ _),
          List.getElem?_append_right (by simp only [List.length_replicate]; omega),
          List.getElem?_map, List.getElem?_eq_getElem (by simp only [List.length_replicate]; omega)]
        rfl

/-- The frames that expire at an operation are too old at it. -/
theorem old_of_expired {state : State} {now : Instant}
    (free : ∀ entry ∈ state.frames, isPermitFree entry = true) {m : Nat}
    {entry : PcmFrame × Instant} (h : (queue.expired state now)[m]? = some entry) :
    queue.isOld now entry = true := by
  have hmem : entry ∈ queue.expired state now := List.mem_of_getElem? h
  rw [← isExpired_eq_isOld (free entry ((List.takeWhile_prefix _).subset hmem))]
  exact List.mem_takeWhile_imp hmem

theorem AtEdge.queued {ledger : Ledger} {now later : Instant} (h : queue.AtEdge ledger now)
    (clock : now ≤ later) : Arrivals ledger.state.frames later := by
  rw [h.accounted.queued]
  exact (h.arrivals.later clock).drop _

theorem popAt_frames (state : State) (now : Instant) :
    (queue.expire state now).frames =
      (queue.popAt state now).2.toList ++ (queue.popAt state now).1.frames := by
  simp only [popAt]
  split
  · rfl
  · case h_2 hframes => exact hframes

theorem AtEdge.pop {ledger after : Ledger} {now later : Instant} (h : queue.AtEdge ledger now)
    (clock : now ≤ later) (taken : Ledger.step queue ledger (.pop later) = some after) :
    queue.AtEdge after later := by
  cases taken
  have hqueued := h.queued clock
  refine h.book clock (popAt_moves _ later) (h.accounted.toWithin.popAt later) ?_ ?_ ?_
  · rw [List.append_nil]
    exact h.arrivals.later clock
  · intro entry hentry
    apply young_after_expiry hqueued
    rw [← expire_frames, popAt_frames]
    exact List.mem_append_right _ hentry
  · intro m entry hentry
    exact .inl (old_of_expired hqueued.free hentry)

/-- A frame that an accepted push evicts lies before the live edge of all accepted frames. -/
theorem AtEdge.evicted {ledger : Ledger} {now later : Instant} (h : queue.AtEdge ledger now)
    {frame : PcmFrame} {m : Nat} (hm : m < (queue.expire ledger.state later).frames.length)
    (hneeds : queue.needsRoom (queue.discardFront^[m] (queue.expire ledger.state later)) frame =
      true) :
    ledger.fates.length + (queue.expired ledger.state later).length + m <
      queue.budget.edge (ledger.accepted ++ [(frame, later)]) := by
  have hover := not_fits_of_needsRoom (h.accounted.toBalanced.expire later) hneeds later
  have hframes : (queue.expire ledger.state later).frames =
      ledger.accepted.drop (ledger.fates.length + (queue.expired ledger.state later).length) := by
    rw [expire_eq_discards, discards_frames, h.accounted.queued, List.drop_drop]
  rw [hframes, List.length_drop] at hm
  have hdrop : (ledger.accepted ++ [(frame, later)]).drop
      (ledger.fates.length + (queue.expired ledger.state later).length + m) =
        ledger.accepted.drop (ledger.fates.length + (queue.expired ledger.state later).length + m) ++
          [(frame, later)] :=
    List.drop_append_of_le_length (by omega)
  rw [hframes, List.drop_drop, ← hdrop] at hover
  by_contra hedge
  refine hover ((Budget.fits_drop_iff ?_).mpr (Nat.le_of_not_lt hedge))
  rw [List.length_append]
  omega

theorem AtEdge.push {ledger after : Ledger} {now later : Instant} {frame : PcmFrame}
    (h : queue.AtEdge ledger now) (clock : now ≤ later) (free : frame.bufferedPermit = none)
    (taken : Ledger.step queue ledger (.push frame later) = some after)
    (accepted : after.accepted = ledger.accepted ++ [(frame, later)]) :
    queue.AtEdge after later := by
  obtain ⟨⟨state, admission⟩, hpush, rfl⟩ := Option.map_eq_some_iff.mp taken
  have hqueued := h.queued clock
  have hwithin := h.accounted.toWithin.pushAt hpush
  cases pushAt_pushed hpush with
  | closed => simp [Ledger.book] at accepted
  | turnedAway => simp [Ledger.book] at accepted
  | refused => simp [Ledger.book] at accepted
  | @accepted n hopen hadmits hn hfree hneeded hroom =>
    rw [hopen, hadmits]
    refine h.book clock (accepted_moves frame later hn) hwithin ?_ ?_ ?_
    · exact (h.arrivals.later clock).append free
    · intro entry hentry
      simp only [append, discards_frames] at hentry
      obtain hkept | hnew := List.mem_append.mp hentry
      · have hexpire := List.mem_of_mem_drop hkept
        rw [expire_frames] at hexpire
        exact young_after_expiry hqueued entry hexpire
      · cases List.mem_singleton.mp hnew
        simp [isOld]
    · intro m entry hentry
      by_cases hexpired : m < (queue.expired ledger.state later).length
      · rw [List.getElem?_append_left hexpired] at hentry
        exact .inl (old_of_expired hqueued.free hentry)
      · right
        obtain ⟨k, rfl⟩ := Nat.exists_eq_add_of_le (Nat.le_of_not_lt hexpired)
        rw [List.getElem?_append_right (Nat.le_add_right _ _), Nat.add_sub_cancel_left] at hentry
        have hk : k < n := by
          have hlength := (List.getElem?_eq_some_iff.mp hentry).1
          rw [List.length_take_of_le hn] at hlength
          exact hlength
        rw [← Nat.add_assoc]
        exact h.evicted (hk.trans_le hn) (hneeded k hk)

theorem LiveRun.atEdge {ledger : Ledger} {now : Instant} (h : queue.LiveRun ledger now) :
    queue.AtEdge ledger now := by
  induction h with
  | start =>
    constructor
    · exact accounted_new
    · constructor
      · exact List.forall_mem_nil _
      · exact List.Pairwise.nil
      · exact List.forall_mem_nil _
    · exact List.forall_mem_nil _
    · intro i entry hi
      cases hi
  | push run clock free taken accepted ih => exact ih.push clock free taken accepted
  | pop run clock taken ih => exact ih.pop clock taken

/-! ### The content -/

theorem mem_zipIdx_drop {α : Type*} {xs : List α} {n i : Nat} {x : α}
    (h : (x, i) ∈ xs.zipIdx.drop n) : n ≤ i ∧ xs[i]? = some x := by
  obtain ⟨j, hj⟩ := List.mem_iff_getElem?.mp h
  rw [List.getElem?_drop, List.getElem?_zipIdx, Option.map_eq_some_iff] at hj
  obtain ⟨y, hy, heq⟩ := hj
  cases heq
  exact ⟨by omega, by rwa [Nat.zero_add]⟩

/-- A filter by position that keeps what starts at `start` keeps a suffix. -/
theorem filter_zipIdx_drop {α : Type*} {xs : List α} {p : α × Nat → Bool} {edge start : Nat}
    (hstart : edge ≤ start)
    (hp : ∀ i x, xs[i]? = some x → edge ≤ i → (p (x, i) = true ↔ start ≤ i)) :
    ((xs.zipIdx.drop edge).filter p).map Prod.fst = xs.drop start := by
  have hsplit : xs.zipIdx.drop edge =
      (xs.zipIdx.drop edge).take (start - edge) ++ xs.zipIdx.drop start := by
    conv_lhs => rw [← List.take_append_drop (start - edge) (xs.zipIdx.drop edge)]
    rw [List.drop_drop, Nat.add_sub_cancel' hstart]
  have hbefore : ((xs.zipIdx.drop edge).take (start - edge)).filter p = [] := by
    apply List.filter_eq_nil_iff.mpr
    rintro ⟨x, i⟩ hmem hkept
    obtain ⟨hedge, hx⟩ := mem_zipIdx_drop (List.mem_of_mem_take hmem)
    have hlate : start ≤ i := (hp i x hx hedge).mp hkept
    rw [List.take_drop, Nat.add_sub_cancel' hstart] at hmem
    have htake := List.mem_of_mem_drop hmem
    obtain ⟨j, hj⟩ := List.mem_iff_getElem?.mp htake
    rw [List.getElem?_take, List.getElem?_zipIdx] at hj
    split at hj
    · case isTrue hshort =>
      obtain ⟨y, hy, heq⟩ := Option.map_eq_some_iff.mp hj
      cases heq
      omega
    · cases hj
  have hbehind : (xs.zipIdx.drop start).filter p = xs.zipIdx.drop start := by
    apply List.filter_eq_self.mpr
    rintro ⟨x, i⟩ hmem
    obtain ⟨hlate, hx⟩ := mem_zipIdx_drop hmem
    exact (hp i x hx (hstart.trans hlate)).mpr hlate
  rw [hsplit, List.filter_append, hbefore, hbehind, List.nil_append, List.map_drop,
    List.zipIdx_map_fst]

/-- After every operation the queue holds the frames from the live edge on, without those that
were popped and those that are too old. -/
theorem content_at_live_edge {ledger : Ledger} {now : Instant} (h : queue.LiveRun ledger now) :
    ledger.state.frames = queue.liveContent ledger now := by
  have hedge := h.atEdge
  have hqueued : ledger.state.frames = ledger.accepted.drop ledger.fates.length :=
    hedge.accounted.queued
  rw [hqueued, liveContent]
  symm
  apply filter_zipIdx_drop
  · apply (Budget.fits_drop_iff hedge.accounted.decided).mp
    rw [← hqueued]
    exact fits_frames hedge.accounted.toWithin
  · intro i entry hentry hi
    simp only [Bool.and_eq_true, decide_eq_true_eq, Bool.not_eq_true']
    constructor
    · rintro ⟨hpopped, hyoung⟩
      by_contra hgone
      obtain hpopped' | hold | hbefore := hedge.gone i entry (Nat.lt_of_not_le hgone) hentry
      · exact hpopped hpopped'
      · rw [hyoung] at hold
        cases hold
      · omega
    · intro hlate
      constructor
      · rw [List.getElem?_eq_none hlate]
        simp
      · apply hedge.young
        rw [hqueued]
        apply List.mem_iff_getElem?.mpr
        exact ⟨i - ledger.fates.length, by
          rw [List.getElem?_drop, Nat.add_sub_cancel' hlate, hentry]⟩

/-- The second frame of an overflow takes the place of the first. -/
def overflow (labels : List QueueLabel) : Ledger :=
  ((ledger telephone).run .new labels).getD .new

theorem content_after_overflow :
    (overflow [.push (tone 1600 none) 0, .push (tone 640 none) 5]).state.frames =
      telephone.liveContent (overflow [.push (tone 1600 none) 0, .push (tone 640 none) 5]) 5 := by
  have hfirst : Ledger.step telephone .new (.push (tone 1600 none) 0) =
      some (overflow [.push (tone 1600 none) 0]) := by decide +kernel
  have hsecond : Ledger.step telephone (overflow [.push (tone 1600 none) 0])
      (.push (tone 640 none) 5) =
        some (overflow [.push (tone 1600 none) 0, .push (tone 640 none) 5]) := by decide +kernel
  have hrun : telephone.LiveRun (overflow [.push (tone 1600 none) 0]) 0 :=
    .push .start (Nat.le_refl 0) rfl hfirst (by decide +kernel)
  exact content_at_live_edge (.push hrun (Nat.zero_le 5) rfl hsecond (by decide +kernel))

end AirSonos.PcmQueue
