import AirSonos.Stream.Body

/-!
# What becomes of every encoded byte

A buffer that is published is dropped, skipped or broadcast, or cut: its front is skipped and
the rest broadcast, or dropped because it is too long. What is broadcast of it goes out in
pieces, in order. A stream that is closed counts nothing more.
-/

namespace Broadcast

variable {α : Type*}

theorem pieces_nil (size : ℕ) : pieces size ([] : List α) = [] := by
  cases size with
  | zero => simp [pieces]
  | succ n => simp [pieces, Nat.div_eq_of_lt]

theorem mem_pieces {size : ℕ} (positive : 0 < size) {l piece : List α}
    (hmem : piece ∈ pieces size l) : piece ≠ [] ∧ piece.length ≤ size := by
  obtain ⟨k, hk, rfl⟩ := List.mem_map.mp hmem
  have hstart : k * size < l.length := by
    have hcount := Nat.mul_le_of_le_div size _ _ (Nat.succ_le_of_lt (List.mem_range.mp hk))
    rw [Nat.succ_mul] at hcount
    omega
  constructor
  · apply List.ne_nil_of_length_pos
    rw [List.length_take, List.length_drop]
    omega
  · exact List.length_take_le _ _

end Broadcast

namespace AirSonos.Live

/-- The buffer that a call publishes. -/
def LiveLabel.buffer : LiveLabel → Option Bytes
  | publish bytes => some bytes
  | publishTimedPcm bytes _ => some bytes
  | publishPrelude bytes => some bytes
  | _ => none

namespace Publisher

/-- The buffer under way, as long as none of it has been cut into chunks. -/
def buffer : Publisher → Option Bytes
  | idle => none
  | locking bytes => some bytes
  | publishing bytes _ => some bytes
  | anchoring bytes _ => some bytes
  | sending _ _ => none

/-- How many bytes are counted as encoded and have no fate yet. -/
def undecided : Publisher → Nat
  | publishing bytes _ => bytes.length
  | anchoring bytes _ => bytes.length
  | _ => 0

end Publisher

/-- Consecutive chunks that cover a slice of the buffer. -/
structure PartOf (chunks : List Bytes) (buffer : Bytes) : Prop where
  slice : chunks.flatten <:+: buffer
  sizes : ∀ chunk ∈ chunks, chunk ≠ [] ∧ chunk.length ≤ CHUNK_BYTES

/-- All chunks, buffer by buffer. -/
def Parted (buffers chunks : List Bytes) : Prop :=
  ∃ parts, List.Forall₂ PartOf parts buffers ∧ chunks = parts.flatten

theorem partOf_nil (buffer : Bytes) : PartOf [] buffer :=
  ⟨List.nil_infix, nofun⟩

theorem partOf_pieces {part buffer : Bytes} (hslice : part <:+: buffer) :
    PartOf (Broadcast.pieces CHUNK_BYTES part) buffer where
  slice := by
    rw [Broadcast.flatten_pieces (by decide)]
    exact hslice
  sizes := fun _ => Broadcast.mem_pieces (by decide)

theorem parted_nil : Parted [] [] :=
  ⟨[], .nil, rfl⟩

theorem Parted.snoc {buffers chunks part : List Bytes} {buffer : Bytes}
    (h : Parted buffers chunks) (hpart : PartOf part buffer) :
    Parted (buffers ++ [buffer]) (chunks ++ part) := by
  obtain ⟨parts, hparts, rfl⟩ := h
  refine ⟨parts ++ [part], ?_, by simp⟩
  exact List.rel_append hparts (.cons hpart .nil)

/-- The chunks say nothing of a buffer that is refused. -/
theorem Parted.append_toList {buffers chunks : List Bytes} (h : Parted buffers chunks)
    (buffer : Option Bytes) : Parted (buffers ++ buffer.toList) chunks := by
  cases buffer with
  | none => simpa using h
  | some bytes => simpa using h.snoc (partOf_nil bytes)

namespace LiveStream

variable {float : FloatTime} {st next : LiveStream}

def chunks (st : LiveStream) : List Bytes :=
  st.broadcasts.map EncodedChunk.bytes

/-- The counters of a stream. -/
def counters (st : LiveStream) : Nat × Nat × Nat × Nat × Nat :=
  (st.encodedBytes, st.consumed, st.dropped, st.skipped, st.chunksDropped)

theorem length_allBytes (sent : List EncodedChunk) :
    (allBytes sent).length = (sent.map EncodedChunk.bytes).flatten.length := by
  rw [allBytes, List.flatMap_def]

/-- The fate of one buffer: a slice of it is broadcast and the other bytes are counted. -/
structure Settles (st : LiveStream) (bytes : Bytes) (next : LiveStream) : Prop where
  encodedBytes : next.encodedBytes = st.encodedBytes
  sent : next.sent = st.sent
  decided : next.publisher.buffer = none ∧ next.publisher.undecided = 0
  slice : ∃ part, part <:+: bytes ∧
    next.publisher.rest.map EncodedChunk.bytes = Broadcast.pieces CHUNK_BYTES part ∧
    next.dropped + next.skipped + part.length = st.dropped + st.skipped + bytes.length

/-- A publication that ends here broadcasts nothing. -/
theorem settles_ended {bytes : Bytes} (ended : next.publisher = .idle)
    (encodedBytes : next.encodedBytes = st.encodedBytes) (sent : next.sent = st.sent)
    (counted : next.dropped + next.skipped = st.dropped + st.skipped + bytes.length) :
    Settles st bytes next where
  encodedBytes := encodedBytes
  sent := sent
  decided := by
    rw [ended]
    exact ⟨rfl, rfl⟩
  slice := by
    refine ⟨[], List.nil_infix, ?_, counted⟩
    rw [ended, Broadcast.pieces_nil]
    rfl

theorem settles_drop (st : LiveStream) (bytes : Bytes) : Settles st bytes (st.drop bytes) := by
  refine settles_ended rfl rfl rfl ?_
  show st.dropped + bytes.length + st.skipped = _
  omega

theorem settles_broadcast (st : LiveStream) (isPrelude : Bool) (bytes : Bytes) :
    Settles st bytes (st.broadcast isPrelude bytes) where
  encodedBytes := rfl
  sent := rfl
  decided := ⟨rfl, rfl⟩
  slice := by
    refine ⟨bytes, List.infix_rfl, ?_, rfl⟩
    show List.map _ (List.map _ _) = _
    rw [List.map_map]
    exact List.map_id _

theorem settles_sendServed (st : LiveStream) (isPrelude : Bool) (bytes : Bytes) :
    Settles st bytes (st.sendServed isPrelude bytes) := by
  rw [sendServed]
  split
  · refine settles_ended rfl rfl rfl ?_
    show st.dropped + bytes.length + st.skipped = _
    omega
  · exact settles_broadcast st isPrelude bytes

theorem settles_skip (st : LiveStream) {bytes : Bytes} {skipped : Nat}
    (bounded : skipped ≤ bytes.length) : Settles st bytes (st.skip bytes skipped) := by
  rw [skip]
  split
  · refine settles_ended rfl rfl rfl ?_
    show st.dropped + (st.skipped + skipped) = _
    omega
  · have hrest := settles_sendServed { st with skipped := st.skipped + skipped } false
      (bytes.drop skipped)
    obtain ⟨part, hslice, hchunks, hcounted⟩ := hrest.slice
    refine ⟨hrest.encodedBytes, hrest.sent, hrest.decided, part, ?_, hchunks, ?_⟩
    · exact hslice.trans (List.drop_suffix _ _).isInfix
    · rw [hcounted, List.length_drop]
      show st.dropped + (st.skipped + skipped) + _ = _
      omega

theorem skipBytes_le (float : FloatTime) (anchor presentationTime : Instant) (bytes : Bytes)
    (pcm : TimedPcm) : skipBytes float anchor presentationTime bytes pcm ≤ bytes.length := by
  simp only [skipBytes]
  split
  · exact Nat.zero_le _
  · split
    · exact Nat.le_refl _
    · split
      · exact (Nat.mul_le_mul_right _ (Nat.min_le_right _ _)).trans (Nat.div_mul_le_self _ _)
      · exact Nat.zero_le _

theorem settles_anchor (st : LiveStream) (bytes : Bytes) (pcm : TimedPcm) :
    Settles st bytes (st.anchorTimedPcm float bytes pcm) := by
  have hserve : ∀ (st : LiveStream) (anchor : Instant),
      Settles st bytes (anchorTimedPcm.serve float bytes pcm st anchor) := by
    intro st anchor
    rw [anchorTimedPcm.serve]
    split
    · exact settles_sendServed st false bytes
    · exact settles_skip st (skipBytes_le float _ _ _ _)
  rw [anchorTimedPcm]
  split
  · exact settles_skip st (Nat.le_refl _)
  · exact hserve st _
  · have hanchored := hserve { st with playbackAnchor := .atInstant (pcm.presentationTime.getD st.now) }
      (pcm.presentationTime.getD st.now)
    exact ⟨hanchored.encodedBytes, hanchored.sent, hanchored.decided, hanchored.slice⟩

/-! ### The account of a run -/

/-- Every byte that was encoded from the buffers has one fate, or is still under way. -/
structure Accounts (buffers : List Bytes) (st : LiveStream) : Prop where
  balance : st.encodedBytes =
    st.dropped + st.skipped + st.chunks.flatten.length + st.publisher.undecided
  parted : ∃ earlier, Parted earlier st.chunks ∧ buffers = earlier ++ st.publisher.buffer.toList

variable {buffers : List Bytes}

theorem chunks_eq (st : LiveStream) :
    st.chunks = st.sent.map EncodedChunk.bytes ++ st.publisher.rest.map EncodedChunk.bytes :=
  List.map_append

theorem accounts_new : Accounts [] new :=
  ⟨rfl, [], parted_nil, rfl⟩

theorem Accounts.of_same (h : Accounts buffers st) (chunks : next.chunks = st.chunks)
    (buffer : next.publisher.buffer = st.publisher.buffer)
    (undecided : next.publisher.undecided = st.publisher.undecided)
    (encodedBytes : next.encodedBytes = st.encodedBytes)
    (counted : next.dropped = st.dropped ∧ next.skipped = st.skipped) :
    Accounts buffers next := by
  constructor
  · rw [chunks, undecided, encodedBytes, counted.1, counted.2]
    exact h.balance
  · rw [chunks, buffer]
    exact h.parted

/-- A buffer comes in, or gets further without a fate. -/
theorem Accounts.proceeds (h : Accounts buffers st) {more : Option Bytes}
    (buffer : next.publisher.buffer.toList = st.publisher.buffer.toList ++ more.toList)
    (chunks : next.chunks = st.chunks)
    (encodedBytes : next.encodedBytes + st.publisher.undecided =
      st.encodedBytes + next.publisher.undecided)
    (counted : next.dropped = st.dropped ∧ next.skipped = st.skipped) :
    Accounts (buffers ++ more.toList) next := by
  constructor
  · rw [chunks, counted.1, counted.2]
    have := h.balance
    omega
  · obtain ⟨earlier, hparted, rfl⟩ := h.parted
    rw [chunks, buffer]
    exact ⟨earlier, hparted, List.append_assoc _ _ _⟩

/-- A buffer is refused before it is counted. -/
theorem Accounts.refuses (h : Accounts buffers st) {refused : Option Bytes}
    (buffer : next.publisher.buffer = none) (chunks : next.chunks = st.chunks)
    (undecided : next.publisher.undecided = st.publisher.undecided)
    (encodedBytes : next.encodedBytes = st.encodedBytes)
    (counted : next.dropped = st.dropped ∧ next.skipped = st.skipped) :
    Accounts (buffers ++ refused.toList) next := by
  constructor
  · rw [chunks, undecided, encodedBytes, counted.1, counted.2]
    exact h.balance
  · obtain ⟨earlier, hparted, rfl⟩ := h.parted
    rw [chunks, buffer]
    exact ⟨_, (hparted.append_toList _).append_toList _, (List.append_nil _).symm⟩

theorem Accounts.settle (h : Accounts buffers st) {bytes : Bytes}
    (buffer : st.publisher.buffer = some bytes)
    (undecided : st.publisher.undecided = bytes.length) (rest : st.publisher.rest = [])
    (settles : Settles st bytes next) : Accounts buffers next := by
  obtain ⟨part, hslice, hpieces, hcounted⟩ := settles.slice
  have hchunks : next.chunks = st.chunks ++ Broadcast.pieces CHUNK_BYTES part := by
    rw [chunks_eq, chunks_eq, settles.sent, rest, hpieces, List.map_nil, List.append_nil]
  constructor
  · rw [hchunks, List.flatten_append, List.length_append, Broadcast.flatten_pieces (by decide),
      settles.decided.2, settles.encodedBytes]
    have := h.balance
    omega
  · obtain ⟨earlier, hparted, rfl⟩ := h.parted
    rw [hchunks, settles.decided.1, buffer]
    exact ⟨_, hparted.snoc (partOf_pieces hslice), (List.append_nil _).symm⟩

theorem chunks_of_rest (sent : next.sent = st.sent) (rest : next.publisher.rest = st.publisher.rest) :
    next.chunks = st.chunks := by
  rw [chunks_eq, chunks_eq, sent, rest]

theorem accounts_call (h : Accounts buffers st) {label : LiveLabel} {bytes : Bytes}
    {payload : Payload} (buffer : label.buffer = some bytes)
    (taken : st.call ({ st with begun := true }.beginPublish bytes payload) = some next) :
    Accounts (buffers ++ label.buffer.toList) next := by
  obtain ⟨hidle, rfl⟩ := call_some taken
  rw [beginPublish]
  split
  · refine h.refuses ?_ rfl rfl rfl ⟨rfl, rfl⟩
    show st.publisher.buffer = none
    rw [hidle]
    rfl
  · rw [buffer]
    refine h.proceeds ?_ (chunks_of_rest rfl (by rw [hidle]; rfl)) ?_ ⟨rfl, rfl⟩
    · rw [hidle]
      rfl
    · rw [hidle]
      rfl

theorem accounts_publishNext (h : Accounts buffers st) (taken : st.publishNext float = some next) :
    Accounts buffers next := by
  rw [publishNext] at taken
  cases hpublisher : st.publisher with
  | idle =>
    rw [hpublisher] at taken
    cases taken
  | locking bytes =>
    rw [hpublisher] at taken
    have hrefused : ∀ next : LiveStream, next.publisher = .idle → next.sent = st.sent →
        next.encodedBytes = st.encodedBytes → next.dropped = st.dropped ∧ next.skipped = st.skipped →
        Accounts (buffers ++ none.toList) next := by
      intro next hidle hsent hencoded hcounted
      refine h.refuses ?_ (chunks_of_rest hsent ?_) ?_ hencoded hcounted
      · rw [hidle]
        rfl
      · rw [hidle, hpublisher]
        rfl
      · rw [hidle, hpublisher]
        rfl
    rw [← List.append_nil buffers]
    simp only at taken
    split at taken
    · cases taken
      rw [storePrelude]
      split
      · exact hrefused _ rfl rfl rfl ⟨rfl, rfl⟩
      · split
        · exact hrefused _ rfl rfl rfl ⟨rfl, rfl⟩
        · case isFalse hopen =>
          rw [beginPublish, if_neg hopen]
          refine @Accounts.proceeds _ _ _ h none ?_ (chunks_of_rest rfl ?_) ?_ ⟨rfl, rfl⟩
          · rw [hpublisher]
            rfl
          · rw [hpublisher]
            rfl
          · rw [hpublisher]
            rfl
    · cases taken
  | publishing bytes payload =>
    rw [hpublisher] at taken
    have hsettle := fun {next} => @Accounts.settle st next buffers h bytes
      (by rw [hpublisher]; rfl) (by rw [hpublisher]; rfl) (by rw [hpublisher]; rfl)
    simp only at taken
    split at taken
    · cases taken
      exact hsettle (settles_drop st bytes)
    · cases payload with
      | prelude =>
        cases taken
        exact hsettle (settles_sendServed st true bytes)
      | encoded =>
        cases taken
        exact hsettle (settles_sendServed st false bytes)
      | timed pcm =>
        cases taken
        refine h.of_same ?_ ?_ ?_ rfl ⟨rfl, rfl⟩
        · exact chunks_of_rest rfl (by rw [hpublisher]; rfl)
        · rw [hpublisher]
          rfl
        · rw [hpublisher]
          rfl
  | anchoring bytes pcm =>
    rw [hpublisher] at taken
    cases taken
    exact h.settle (by rw [hpublisher]; rfl) (by rw [hpublisher]; rfl) (by rw [hpublisher]; rfl)
      (settles_anchor st bytes pcm)
  | sending isPrelude rest =>
    rw [hpublisher] at taken
    have hdecided : ∀ next : LiveStream, next.chunks = st.chunks → next.publisher.buffer = none →
        next.publisher.undecided = 0 → next.encodedBytes = st.encodedBytes →
        next.dropped = st.dropped ∧ next.skipped = st.skipped → Accounts buffers next := by
      intro next hchunks hbuffer hundecided hencoded hcounted
      apply h.of_same hchunks _ _ hencoded hcounted
      · rw [hbuffer, hpublisher]
        rfl
      · rw [hundecided, hpublisher]
        rfl
    cases rest with
    | nil =>
      cases taken
      exact hdecided _ (chunks_of_rest rfl (by rw [hpublisher]; rfl)) rfl rfl rfl ⟨rfl, rfl⟩
    | cons chunk rest =>
      cases taken
      refine hdecided _ ?_ rfl rfl rfl ⟨rfl, rfl⟩
      rw [chunks, chunks, broadcasts, broadcasts, hpublisher]
      simp [Publisher.rest]

theorem Accounts.step (h : Accounts buffers st) {label : LiveLabel}
    (taken : st.step float label = some next) :
    Accounts (buffers ++ label.buffer.toList) next := by
  cases label with
  | publish bytes => exact accounts_call h rfl taken
  | publishTimedPcm bytes pcm => exact accounts_call h rfl taken
  | publishPrelude bytes =>
    obtain ⟨hidle, rfl⟩ := call_some taken
    rw [startPrelude]
    split
    · exact h.refuses (by rw [hidle]; rfl) rfl rfl rfl ⟨rfl, rfl⟩
    · refine h.proceeds ?_ (chunks_of_rest rfl (by rw [hidle]; rfl)) ?_ ⟨rfl, rfl⟩
      · rw [hidle]
        rfl
      · rw [hidle]
        rfl
  | publishNext =>
    show Accounts (buffers ++ []) next
    rw [List.append_nil]
    exact accounts_publishNext h taken
  | _ =>
    show Accounts (buffers ++ []) next
    rw [List.append_nil]
    cases step_cases taken with
    | ignored calls => cases calls
    | begins calls => cases calls
    | _ => exact h.of_same rfl rfl rfl rfl ⟨rfl, rfl⟩

/-! ### A closed stream -/

/-- The encoder has nothing counted under way. -/
def Resting (st : LiveStream) : Prop :=
  st.publisher = .idle ∨ ∃ bytes, st.publisher = .locking bytes

theorem pollBody_closed (closed : st.closed = true) (body : Body) : (st.pollBody body).2 = [] := by
  simp only [pollBody, closed, if_true]
  split
  · rfl
  · rfl

theorem storePrelude_closed (closed : st.closed = true) (bytes : Bytes) :
    (st.storePrelude bytes).counters = st.counters ∧ (st.storePrelude bytes).Resting := by
  rw [storePrelude]
  split
  · exact ⟨rfl, .inl rfl⟩
  · rw [if_pos (by rw [closed, Bool.or_true])]
    exact ⟨rfl, .inl rfl⟩

theorem step_closed (closed : st.closed = true) (resting : st.Resting) {label : LiveLabel}
    (taken : st.step float label = some next) :
    next.counters = st.counters ∧ next.Resting := by
  have hshut : ∀ bytes : Bytes, (bytes.isEmpty || st.closed) = true := by
    intro bytes
    rw [closed, Bool.or_true]
  cases label with
  | publish bytes =>
    obtain ⟨hidle, rfl⟩ := call_some taken
    rw [beginPublish, if_pos (hshut bytes)]
    exact ⟨rfl, .inl hidle⟩
  | publishTimedPcm bytes pcm =>
    obtain ⟨hidle, rfl⟩ := call_some taken
    rw [beginPublish, if_pos (hshut bytes)]
    exact ⟨rfl, .inl hidle⟩
  | publishPrelude bytes =>
    obtain ⟨hidle, rfl⟩ := call_some taken
    rw [startPrelude, if_pos (hshut bytes)]
    exact ⟨rfl, .inl hidle⟩
  | publishNext =>
    rw [LiveStream.step, publishNext] at taken
    obtain hidle | ⟨bytes, hlocking⟩ := resting
    · rw [hidle] at taken
      cases taken
    · rw [hlocking] at taken
      simp only at taken
      split at taken
      · cases taken
        exact storePrelude_closed closed bytes
      · cases taken
  | poll i =>
    cases step_cases taken with
    | ignored calls => cases calls
    | begins calls => cases calls
    | polls =>
      constructor
      · rw [counters, pollBody_closed closed]
        rfl
      · exact resting
  | _ =>
    cases step_cases taken with
    | ignored calls => cases calls
    | begins calls => cases calls
    | _ => exact ⟨rfl, resting⟩

/-- Whatever happens to a closed stream, none of its counters changes. -/
theorem run_closed {labels : List LiveLabel} (closed : st.closed = true) (resting : st.Resting)
    (hrun : (live float).run st labels = some next) : next.counters = st.counters := by
  induction labels generalizing st with
  | nil =>
    cases hrun
    rfl
  | cons label labels ih =>
    obtain ⟨middle, htaken, hrest⟩ := Option.bind_eq_some_iff.mp hrun
    obtain ⟨hcounters, hresting⟩ := step_closed closed resting htaken
    rw [← hcounters]
    exact ih (closed_of_step closed (step_cases htaken)) hresting hrest

/-! ### Every byte of every run -/

/-- Between two publications every encoded byte has been dropped, skipped or broadcast; during
one, what is left of its buffer is added. The chunks go through the buffers in order. -/
structure OneFate (float : FloatTime) (labels : List LiveLabel) (st : LiveStream) : Prop where
  counted : st.publisher = .idle →
    st.encodedBytes = st.dropped + st.skipped + (allBytes st.sent).length
  underWay : st.encodedBytes =
    st.dropped + st.skipped + (allBytes st.broadcasts).length + st.publisher.undecided
  parted : Parted (labels.filterMap LiveLabel.buffer) (st.broadcasts.map EncodedChunk.bytes)
  closed : st.closed = true → st.publisher = .idle → ∀ later next,
    (live float).run st later = some next → next.counters = st.counters

theorem accounts_of_run {labels : List LiveLabel} (hrun : (live float).run .new labels = some st) :
    Accounts (labels.filterMap LiveLabel.buffer) st := by
  refine TransitionSystem.run_induction (S := live float)
    (P := fun labels st => Accounts (labels.filterMap LiveLabel.buffer) st) accounts_new ?_ hrun
  intro labels st label next _ haccounts htaken
  rw [List.filterMap_append]
  have hone : [label].filterMap LiveLabel.buffer = label.buffer.toList := by
    cases hbuffer : label.buffer with
    | none => simp [hbuffer]
    | some bytes => simp [hbuffer]
  rw [hone]
  exact haccounts.step htaken

theorem one_fate {labels : List LiveLabel} (hrun : (live float).run .new labels = some st) :
    OneFate float labels st := by
  have haccounts := accounts_of_run hrun
  have hbalance := haccounts.balance
  rw [chunks, ← length_allBytes] at hbalance
  constructor
  · intro hidle
    rw [broadcasts, hidle] at hbalance
    simpa [Publisher.rest, Publisher.undecided] using hbalance
  · exact hbalance
  · obtain ⟨earlier, hparted, hbuffers⟩ := haccounts.parted
    rw [hbuffers]
    exact hparted.append_toList _
  · intro closed hidle later next hlater
    exact run_closed closed (.inl hidle) hlater

/-- A frame that starts two samples before the anchor loses them, and the stream closes. -/
def trimmedThenClosed : List LiveLabel :=
  [.attach 0, .attached, .setPlaybackAnchor (.atInstant 2), .publishTimedPcm [1, 2, 3, 4, 5, 6]
      ⟨some 0, 1000000000, 1⟩, .publishNext, .publishNext, .publishNext, .publishNext,
    .detach 0, .detached, .publish [7], .publishNext, .close]

theorem one_fate_of_trimmed :
    ∃ st, (live .exact).run .new trimmedThenClosed = some st ∧
      st.counters = (7, 0, 1, 4, 1) ∧ st.sent.map EncodedChunk.bytes = [[5, 6]] ∧
      OneFate .exact trimmedThenClosed st := by
  obtain ⟨st, hrun, hcounters, hsent⟩ : ∃ st, (live .exact).run .new trimmedThenClosed = some st ∧
      st.counters = (7, 0, 1, 4, 1) ∧ st.sent.map EncodedChunk.bytes = [[5, 6]] := ⟨_, rfl, rfl, rfl⟩
  exact ⟨st, hrun, hcounters, hsent, one_fate hrun⟩

end LiveStream

end AirSonos.Live
