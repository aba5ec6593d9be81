import AirSonos.Stream.Live
import Mathlib.Data.Rat.Floor
import Mathlib.Algebra.Order.Field.Basic

/-!
# Timed PCM

`publish_timed_pcm` as one call. A publication begins when the stream is found open, and ends
with what is broadcast. The clock, and how the bytes before the anchor are counted, are
parameters: the code reads instants in nanoseconds and counts in floating point, exact time is
in seconds, as rational numbers. In exact time the frames of a chunk have a time each, and what is
broadcast depends on these alone.
-/

namespace AirSonos.Live

/-- When output starts. -/
inductive TimedAnchor (τ : Type)
  | unset
  | atInstant (anchor : τ)
  | nextTimedPcm
deriving DecidableEq

/-- What a publication of timed PCM reads and writes. `sent` holds the bytes of every chunk that
was broadcast. -/
structure TimedStream (τ : Type) where
  sent : List Bytes
  encodedBytes : Nat
  dropped : Nat
  skipped : Nat
  chunksDropped : Nat
  subscriberConnected : Bool
  closed : Bool
  playbackAnchor : TimedAnchor τ

structure TimedChunk (τ : Type) where
  bytes : Bytes
  presentationTime : Option τ
  sampleRate : Nat
  channels : Nat

/-- The bytes of a chunk that come before the anchor. -/
abbrev SkipBytes (τ : Type) := (anchor presentationTime : τ) → (chunk : TimedChunk τ) → Nat

/-- As the code computes them. -/
def floatSkipBytes (float : FloatTime) : SkipBytes Instant := fun anchor presentationTime chunk =>
  LiveStream.skipBytes float anchor presentationTime chunk.bytes
    ⟨chunk.presentationTime, chunk.sampleRate, chunk.channels⟩

/-- In exact time, by the code's three cases. -/
def exactSkipBytes : SkipBytes ℚ := fun anchor presentationTime chunk =>
  let frameBytes := chunk.channels * 2
  let frameCount := chunk.bytes.length / frameBytes
  if presentationTime + frameCount / chunk.sampleRate ≤ anchor then chunk.bytes.length
  else if presentationTime < anchor then
    min ⌈(anchor - presentationTime) * chunk.sampleRate⌉₊ frameCount * frameBytes
  else 0

namespace TimedStream

variable {τ : Type} (skipBytes : SkipBytes τ)

def sendServed (st : TimedStream τ) (bytes : Bytes) : TimedStream τ :=
  if MAX_PUBLICATION < bytes.length then
    { st with dropped := st.dropped + bytes.length, closed := true }
  else { st with sent := st.sent ++ Broadcast.pieces CHUNK_BYTES bytes }

def skip (st : TimedStream τ) (bytes : Bytes) (skipped : Nat) : TimedStream τ :=
  let st := { st with skipped := st.skipped + skipped }
  if bytes.length ≤ skipped then { st with chunksDropped := st.chunksDropped + 1 }
  else st.sendServed (bytes.drop skipped)

/-- The check for a closed stream, and the count of what was encoded. -/
def beginPublish (st : TimedStream τ) (chunk : TimedChunk τ) : Option (TimedStream τ) :=
  if chunk.bytes.isEmpty || st.closed then none
  else some { st with encodedBytes := st.encodedBytes + chunk.bytes.length }

/-- The chunk against the anchor it found. -/
def serve (st : TimedStream τ) (anchor : τ) (chunk : TimedChunk τ) : TimedStream τ :=
  match chunk.presentationTime with
  | none => st.sendServed chunk.bytes
  | some presentationTime =>
    if chunk.channels * 2 = 0 ∨ chunk.sampleRate = 0 then st.sendServed chunk.bytes
    else st.skip chunk.bytes (skipBytes anchor presentationTime chunk)

/-- The rest of the publication, at the instant `now`. -/
def finishPublish (st : TimedStream τ) (now : τ) (chunk : TimedChunk τ) : TimedStream τ :=
  if !st.subscriberConnected then
    { st with
      dropped := st.dropped + chunk.bytes.length
      chunksDropped := st.chunksDropped + 1 }
  else
    match st.playbackAnchor with
    | .unset => st.skip chunk.bytes chunk.bytes.length
    | .atInstant anchor => st.serve skipBytes anchor chunk
    | .nextTimedPcm =>
      let anchor := chunk.presentationTime.getD now
      { st with playbackAnchor := .atInstant anchor }.serve skipBytes anchor chunk

def publishTimedPcm (st : TimedStream τ) (now : τ) (chunk : TimedChunk τ) : TimedStream τ :=
  (st.beginPublish chunk).elim st fun st => st.finishPublish skipBytes now chunk

/-- Publishes chunks one after the other, each at its own instant. -/
def publishAll (st : TimedStream τ) : List (τ × TimedChunk τ) → TimedStream τ
  | [] => st
  | (now, chunk) :: rest => (st.publishTimedPcm skipBytes now chunk).publishAll rest

end TimedStream

/-! ### The frames of a chunk -/

/-- The frames of a chunk, each with its time. -/
def TimedChunk.frames (chunk : TimedChunk ℚ) (presentationTime : ℚ) : List (ℚ × Bytes) :=
  (List.range (chunk.bytes.length / (chunk.channels * 2))).map fun (i : Nat) =>
    (presentationTime + i / chunk.sampleRate,
      (chunk.bytes.drop (i * (chunk.channels * 2))).take (chunk.channels * 2))

/-- The frames at or after the anchor. -/
def audible (anchor : ℚ) (frames : List (ℚ × Bytes)) : Bytes :=
  ((frames.filter fun frame => anchor ≤ frame.1).map Prod.snd).flatten

@[simp] theorem audible_append (anchor : ℚ) (front back : List (ℚ × Bytes)) :
    audible anchor (front ++ back) = audible anchor front ++ audible anchor back := by
  simp [audible]

theorem flatten_slices (size : Nat) (bytes : Bytes) (start n : Nat) :
    ((List.range' start n).map fun i => (bytes.drop (i * size)).take size).flatten =
      (bytes.drop (start * size)).take (n * size) := by
  induction n generalizing start with
  | zero => simp
  | succ n ih =>
    rw [List.range'_succ, List.map_cons, List.flatten_cons, ih, Nat.succ_mul n,
      Nat.add_comm (n * size), List.take_add, List.drop_drop, Nat.succ_mul]

theorem filter_range (start n : Nat) :
    (List.range n).filter (fun i => decide (start ≤ i)) = List.range' start (n - start) := by
  induction n with
  | zero => simp
  | succ n ih =>
    rw [List.range_succ, List.filter_append, ih]
    by_cases hstart : start ≤ n
    · have hlast : start + (n - start) = n := Nat.add_sub_cancel' hstart
      rw [Nat.succ_sub hstart, List.range'_concat]
      simp [hstart, hlast]
    · have hnone : n + 1 - start = 0 := by omega
      have hbefore : n - start = 0 := by omega
      simp [hstart, hnone, hbefore]

/-- The frames from a position on are the bytes from there on. -/
theorem audible_frames {chunk : TimedChunk ℚ} {anchor presentationTime : ℚ} (start : Nat)
    (whole : chunk.channels * 2 ∣ chunk.bytes.length)
    (hstart : ∀ i < chunk.bytes.length / (chunk.channels * 2),
      anchor ≤ presentationTime + i / chunk.sampleRate ↔ start ≤ i) :
    audible anchor (chunk.frames presentationTime) =
      chunk.bytes.drop (start * (chunk.channels * 2)) := by
  have hfilter : (List.range (chunk.bytes.length / (chunk.channels * 2))).filter
      (fun i : Nat => decide (anchor ≤ presentationTime + i / chunk.sampleRate)) =
        List.range' start (chunk.bytes.length / (chunk.channels * 2) - start) := by
    rw [← filter_range]
    apply List.filter_congr
    intro i hi
    simp only [hstart i (List.mem_range.mp hi)]
  have hlength : (chunk.bytes.length / (chunk.channels * 2) - start) * (chunk.channels * 2) =
      (chunk.bytes.drop (start * (chunk.channels * 2))).length := by
    rw [Nat.sub_mul, Nat.div_mul_cancel whole, List.length_drop]
  simp only [audible, TimedChunk.frames, List.filter_map, List.map_map, Function.comp_def, hfilter]
  rw [flatten_slices, hlength, List.take_length]

/-- The skipped bytes are those of the frames before the anchor. -/
theorem audible_eq_drop {chunk : TimedChunk ℚ} {anchor presentationTime : ℚ}
    (rate_pos : 0 < chunk.sampleRate) (whole : chunk.channels * 2 ∣ chunk.bytes.length) :
    audible anchor (chunk.frames presentationTime) =
      chunk.bytes.drop (exactSkipBytes anchor presentationTime chunk) := by
  have hrate : (0 : ℚ) < chunk.sampleRate := Nat.cast_pos.mpr rate_pos
  have hcount := Nat.div_mul_cancel whole
  -- a frame is at or after the anchor when its number reaches the distance in samples
  have htime : ∀ i : Nat, anchor ≤ presentationTime + i / chunk.sampleRate ↔
      (anchor - presentationTime) * chunk.sampleRate ≤ i := by
    intro i
    rw [← sub_le_iff_le_add', le_div_iff₀ hrate]
  simp only [exactSkipBytes]
  split
  · case isTrue hend =>
    rw [audible_frames (chunk.bytes.length / (chunk.channels * 2)) whole, hcount]
    intro i hi
    have hall : ((chunk.bytes.length / (chunk.channels * 2) : Nat) : ℚ) ≤
        (anchor - presentationTime) * chunk.sampleRate := by
      rw [← div_le_iff₀ hrate, le_sub_iff_add_le']
      exact hend
    have hi' : (i : ℚ) < (chunk.bytes.length / (chunk.channels * 2) : Nat) := Nat.cast_lt.mpr hi
    rw [htime]
    constructor
    · intro hlate
      exact absurd (hall.trans hlate) (not_le.mpr hi')
    · intro hlate
      exact absurd hlate (Nat.not_le_of_lt hi)
  · case isFalse hend =>
    split
    · case isTrue hbefore =>
      apply audible_frames _ whole
      intro i hi
      rw [htime, ← Nat.ceil_le]
      omega
    · case isFalse hafter =>
      rw [audible_frames 0 whole, Nat.zero_mul]
      intro i hi
      have hoffset : (0 : ℚ) ≤ i / chunk.sampleRate := div_nonneg (Nat.cast_nonneg i) hrate.le
      constructor
      · intro _
        exact Nat.zero_le i
      · intro _
        exact (not_lt.mp hafter).trans (le_add_of_nonneg_right hoffset)

theorem exactSkipBytes_le {chunk : TimedChunk ℚ} (anchor presentationTime : ℚ) :
    exactSkipBytes anchor presentationTime chunk ≤ chunk.bytes.length := by
  simp only [exactSkipBytes]
  split
  · exact Nat.le_refl _
  · split
    · exact (Nat.mul_le_mul_right _ (Nat.min_le_right _ _)).trans (Nat.div_mul_le_self _ _)
    · exact Nat.zero_le _

/-! ### Publications on an anchored stream -/

/-- A chunk of whole frames that fits one publication, with the time of its first frame. -/
structure TimedChunk.Sound {τ : Type} (chunk : TimedChunk τ) : Prop where
  rate_pos : 0 < chunk.sampleRate
  channels_pos : 0 < chunk.channels
  whole : chunk.channels * 2 ∣ chunk.bytes.length
  bounded : chunk.bytes.length ≤ MAX_PUBLICATION
  timed : chunk.presentationTime.isSome = true

/-- All frames of the chunks, in order. -/
def timedFrames (chunks : List (ℚ × TimedChunk ℚ)) : List (ℚ × Bytes) :=
  chunks.flatMap fun entry => entry.2.presentationTime.elim [] entry.2.frames

namespace TimedStream

/-- The stream is open, has a subscriber, and is anchored. -/
structure Anchored {τ : Type} (anchor : τ) (st : TimedStream τ) : Prop where
  opened : st.closed = false
  subscribed : st.subscriberConnected = true
  anchored : st.playbackAnchor = .atInstant anchor

/-- What a publication adds to the broadcast and to the counter of skipped bytes. -/
structure Emits {τ : Type} (st after : TimedStream τ) (bytes : Bytes) (skipped : Nat) : Prop where
  sent : after.sent.flatten = st.sent.flatten ++ bytes
  skipped : after.skipped = st.skipped + skipped

variable {anchor : ℚ} {st : TimedStream ℚ} {chunk : TimedChunk ℚ}

theorem sendServed_emits {bytes : Bytes} (h : Anchored anchor st)
    (bounded : bytes.length ≤ MAX_PUBLICATION) :
    Anchored anchor (st.sendServed bytes) ∧ Emits st (st.sendServed bytes) bytes 0 := by
  rw [sendServed, if_neg (Nat.not_lt_of_le bounded)]
  refine ⟨⟨h.opened, h.subscribed, h.anchored⟩, ?_, rfl⟩
  rw [List.flatten_append, Broadcast.flatten_pieces (by decide)]

theorem skip_emits {bytes : Bytes} {skipped : Nat} (h : Anchored anchor st)
    (bounded : bytes.length ≤ MAX_PUBLICATION) :
    Anchored anchor (st.skip bytes skipped) ∧
      Emits st (st.skip bytes skipped) (bytes.drop skipped) skipped := by
  simp only [skip]
  split
  · case isTrue hall =>
    refine ⟨⟨h.opened, h.subscribed, h.anchored⟩, ?_, rfl⟩
    rw [List.drop_of_length_le hall, List.append_nil]
  · have hrest : (bytes.drop skipped).length ≤ MAX_PUBLICATION := by
      rw [List.length_drop]
      omega
    have hserved := @sendServed_emits anchor { st with skipped := st.skipped + skipped }
      (bytes.drop skipped) ⟨h.opened, h.subscribed, h.anchored⟩ hrest
    exact ⟨hserved.1, hserved.2.sent, hserved.2.skipped⟩

theorem finishPublish_emits {presentationTime : ℚ} (h : Anchored anchor st) (sound : chunk.Sound)
    (htime : chunk.presentationTime = some presentationTime) (now : ℚ) :
    Anchored anchor (st.finishPublish exactSkipBytes now chunk) ∧
      Emits st (st.finishPublish exactSkipBytes now chunk)
        (chunk.bytes.drop (exactSkipBytes anchor presentationTime chunk))
        (exactSkipBytes anchor presentationTime chunk) := by
  have hdata : ¬(chunk.channels * 2 = 0 ∨ chunk.sampleRate = 0) := by
    have hrate := sound.rate_pos
    have hchannels := sound.channels_pos
    omega
  simp only [finishPublish, h.subscribed, Bool.not_true, Bool.false_eq_true, if_false, h.anchored,
    serve, htime, hdata]
  exact skip_emits h sound.bounded

/-- One chunk adds its frames from the anchor on, and the bytes before them are skipped. -/
theorem publish_emits (h : Anchored anchor st) (sound : chunk.Sound) (now : ℚ) :
    Anchored anchor (st.publishTimedPcm exactSkipBytes now chunk) ∧
      ∃ skipped, Emits st (st.publishTimedPcm exactSkipBytes now chunk)
          (audible anchor (chunk.presentationTime.elim [] chunk.frames)) skipped ∧
        skipped + (audible anchor (chunk.presentationTime.elim [] chunk.frames)).length =
          chunk.bytes.length := by
  obtain ⟨presentationTime, htime⟩ := Option.isSome_iff_exists.mp sound.timed
  have haudible : audible anchor (chunk.frames presentationTime) =
      chunk.bytes.drop (exactSkipBytes anchor presentationTime chunk) :=
    audible_eq_drop sound.rate_pos sound.whole
  have hle : exactSkipBytes anchor presentationTime chunk ≤ chunk.bytes.length :=
    exactSkipBytes_le anchor presentationTime
  have htotal : exactSkipBytes anchor presentationTime chunk +
      (chunk.bytes.drop (exactSkipBytes anchor presentationTime chunk)).length =
        chunk.bytes.length := by
    rw [List.length_drop, Nat.add_sub_cancel' hle]
  rw [htime, Option.elim_some, haudible]
  by_cases hempty : chunk.bytes = []
  · have hzero : exactSkipBytes anchor presentationTime chunk = 0 := by
      rw [hempty] at hle
      exact Nat.le_zero.mp hle
    have hsame : st.publishTimedPcm exactSkipBytes now chunk = st := by
      simp [publishTimedPcm, beginPublish, hempty]
    rw [hsame]
    refine ⟨h, exactSkipBytes anchor presentationTime chunk, ⟨?_, ?_⟩, htotal⟩
    · simp [hempty]
    · rw [hzero]
      rfl
  · have hbegin : st.publishTimedPcm exactSkipBytes now chunk =
        { st with encodedBytes := st.encodedBytes + chunk.bytes.length }.finishPublish
          exactSkipBytes now chunk := by
      simp [publishTimedPcm, beginPublish, hempty, h.opened]
    have hfinish := @finishPublish_emits anchor
      { st with encodedBytes := st.encodedBytes + chunk.bytes.length } chunk presentationTime
      ⟨h.opened, h.subscribed, h.anchored⟩ sound htime now
    rw [hbegin]
    exact ⟨hfinish.1, _, ⟨hfinish.2.sent, hfinish.2.skipped⟩, htotal⟩

theorem publishAll_emits {chunks : List (ℚ × TimedChunk ℚ)} (h : Anchored anchor st)
    (sound : ∀ entry ∈ chunks, entry.2.Sound) :
    ∃ skipped, Emits st (st.publishAll exactSkipBytes chunks)
        (audible anchor (timedFrames chunks)) skipped ∧
      skipped + (audible anchor (timedFrames chunks)).length =
        (chunks.map fun entry => entry.2.bytes.length).sum := by
  induction chunks generalizing st with
  | nil => exact ⟨0, ⟨(List.append_nil _).symm, rfl⟩, rfl⟩
  | cons entry rest ih =>
    rw [List.forall_mem_cons] at sound
    obtain ⟨hanchored, skipped, hemits, htotal⟩ := publish_emits h sound.1 entry.1
    obtain ⟨more, hrest, hrestTotal⟩ := ih hanchored sound.2
    have hframes : timedFrames (entry :: rest) =
        entry.2.presentationTime.elim [] entry.2.frames ++ timedFrames rest := rfl
    refine ⟨skipped + more, ⟨?_, ?_⟩, ?_⟩
    · rw [hframes, audible_append, ← List.append_assoc, ← hemits.sent, ← hrest.sent]
      rfl
    · rw [← Nat.add_assoc, ← hemits.skipped, ← hrest.skipped]
      rfl
    · rw [hframes, audible_append, List.length_append, List.map_cons, List.sum_cons, ← htotal,
        ← hrestTotal]
      omega

/-- Exactly the frames at or after the anchor are broadcast, and the other bytes are skipped. So
streams with one anchor broadcast the same bytes however the frames are cut into chunks. -/
theorem output_from_anchor {chunks : List (ℚ × TimedChunk ℚ)} (h : Anchored anchor st)
    (sound : ∀ entry ∈ chunks, entry.2.Sound) :
    (st.publishAll exactSkipBytes chunks).sent.flatten =
        st.sent.flatten ++ audible anchor (timedFrames chunks) ∧
      (st.publishAll exactSkipBytes chunks).skipped + (audible anchor (timedFrames chunks)).length =
        st.skipped + (chunks.map fun entry => entry.2.bytes.length).sum ∧
      ∀ (room : TimedStream ℚ) (cut : List (ℚ × TimedChunk ℚ)), Anchored anchor room →
        (∀ entry ∈ cut, entry.2.Sound) → timedFrames cut = timedFrames chunks →
          ∃ bytes, (st.publishAll exactSkipBytes chunks).sent.flatten = st.sent.flatten ++ bytes ∧
            (room.publishAll exactSkipBytes cut).sent.flatten = room.sent.flatten ++ bytes := by
  obtain ⟨skipped, hemits, htotal⟩ := publishAll_emits h sound
  refine ⟨hemits.sent, ?_, ?_⟩
  · rw [hemits.skipped]
    omega
  · intro room cut hroom hcut hframes
    obtain ⟨_, hother, _⟩ := publishAll_emits hroom hcut
    rw [hframes] at hother
    exact ⟨_, hemits.sent, hother.sent⟩

/-- An open stream with a subscriber that has broadcast nothing yet. -/
def anchoredAt (anchor : ℚ) : TimedStream ℚ :=
  ⟨[], 0, 0, 0, 0, true, false, .atInstant anchor⟩

/-- The anchor lies inside the second of three frames. -/
theorem output_from_inside_frame :
    ((anchoredAt (3 / 2000)).publishAll exactSkipBytes
      [(0, ⟨[1, 2, 3, 4, 5, 6], some 0, 1000, 1⟩)]).sent.flatten = [5, 6] := by
  have hsound : ∀ entry ∈ [((0 : ℚ), (⟨[1, 2, 3, 4, 5, 6], some 0, 1000, 1⟩ : TimedChunk ℚ))],
      entry.2.Sound := by
    simp only [List.forall_mem_cons]
    exact ⟨⟨by decide, by decide, by decide, by decide, rfl⟩, List.forall_mem_nil _⟩
  rw [(output_from_anchor ⟨rfl, rfl, rfl⟩ hsound).1]
  decide +kernel

end TimedStream

/-! ### Instants in nanoseconds -/

def secs (instant : Instant) : ℚ :=
  instant / 1000000000

theorem secs_lt {t u : Instant} : secs t < secs u ↔ t < u := by
  rw [secs, secs, div_lt_div_iff_of_pos_right (by norm_num), Nat.cast_lt]

/-- Whether a chunk of `frames` frames ends at the anchor, `distance` after its start. -/
theorem frame_end_le {presentationTime distance : Nat} {frames sampleRate : Nat}
    (rate_pos : 0 < sampleRate) :
    secs presentationTime + frames / sampleRate ≤ secs (presentationTime + distance) ↔
      frames * 1000000000 ≤ distance * sampleRate := by
  have hrate : (0 : ℚ) < sampleRate := Nat.cast_pos.mpr rate_pos
  rw [secs, secs, Nat.cast_add, add_div, add_le_add_iff_left,
    div_le_div_iff₀ hrate (by norm_num), ← Nat.cast_ofNat (R := ℚ), ← Nat.cast_mul, ← Nat.cast_mul,
    Nat.cast_le]

theorem ceil_distance (presentationTime distance sampleRate : Nat) :
    ⌈(secs (presentationTime + distance) - secs presentationTime) * sampleRate⌉₊ =
      (distance * sampleRate + 1000000000 - 1) / 1000000000 := by
  have hdistance : (secs (presentationTime + distance) - secs presentationTime) * sampleRate =
      ((distance * sampleRate : Nat) : ℚ) / 1000000000 := by
    rw [secs, secs, Nat.cast_add, add_div, add_sub_cancel_left, Nat.cast_mul, div_mul_eq_mul_div]
  rw [hdistance]
  apply eq_of_forall_ge_iff
  intro k
  rw [Nat.ceil_le, div_le_iff₀ (by norm_num), ← Nat.cast_ofNat (R := ℚ), ← Nat.cast_mul,
    Nat.cast_le]
  omega

/-- Durations rounded down to nanoseconds cut a chunk where exact ones do. -/
theorem skipBytes_exact {anchor presentationTime : Instant} {bytes : Bytes} {sampleRate channels : Nat}
    (rate_pos : 0 < sampleRate) (rate_le : sampleRate ≤ 1000000000) (channels_pos : 0 < channels)
    (whole : channels * 2 ∣ bytes.length) :
    LiveStream.skipBytes .exact anchor presentationTime bytes
        ⟨some presentationTime, sampleRate, channels⟩ =
      exactSkipBytes (secs anchor) (secs presentationTime)
        ⟨bytes, some (secs presentationTime), sampleRate, channels⟩ := by
  have hdata : ¬(channels * 2 = 0 ∨ sampleRate = 0) := by omega
  have hcount := Nat.div_mul_cancel whole
  simp only [LiveStream.skipBytes, exactSkipBytes, hdata, if_false, FloatTime.exact,
    Duration.fromSecs, secs_lt]
  obtain hbefore | hafter := Nat.lt_or_ge anchor presentationTime
  · have hend : ¬secs presentationTime +
        ((bytes.length / (channels * 2) : Nat) : ℚ) / (sampleRate : ℚ) ≤ secs anchor := by
      apply not_le_of_gt
      apply (secs_lt.mpr hbefore).trans_le
      exact le_add_of_nonneg_right (div_nonneg (Nat.cast_nonneg _) (Nat.cast_nonneg _))
    have hrounded : ¬presentationTime +
        bytes.length / (channels * 2) * 1000000000 / sampleRate ≤ anchor :=
      Nat.not_le_of_lt (Nat.lt_of_lt_of_le hbefore (Nat.le_add_right _ _))
    have hlate : ¬presentationTime < anchor := Nat.lt_asymm hbefore
    simp only [hrounded, hlate, hend, if_false]
  · obtain ⟨distance, rfl⟩ := Nat.exists_eq_add_of_le hafter
    simp only [frame_end_le rate_pos, ceil_distance, Nat.add_sub_cancel_left, Nat.one_mul,
      Nat.add_le_add_iff_left]
    generalize bytes.length / (channels * 2) = frames at hcount
    have hfloor : frames * 1000000000 / sampleRate ≤ distance ↔
        frames * 1000000000 < distance * sampleRate + sampleRate := by
      rw [← Nat.lt_succ_iff, Nat.div_lt_iff_lt_mul rate_pos, Nat.succ_mul]
    simp only [hfloor]
    by_cases hexact : frames * 1000000000 ≤ distance * sampleRate
    · rw [if_pos (by omega), if_pos hexact]
    · rw [if_neg hexact]
      split
      · -- the end was rounded down to the anchor: every frame starts before it
        case isTrue hrounded =>
        have hall : frames ≤ (distance * sampleRate + 1000000000 - 1) / 1000000000 := by omega
        have hdistance : 0 < distance := by
          apply Nat.pos_of_ne_zero
          rintro rfl
          omega
        rw [if_pos (Nat.lt_add_of_pos_right hdistance), Nat.min_eq_right hall, hcount]
      · rfl

/-- The floating point never counts fewer frames before an instant inside a chunk of up to
`frames` frames than there are. The rounding of a double stays below the billionth of a frame by
which a count can miss a whole number, as long as a chunk has no more than 2^20 frames. -/
def FloatTime.Covers (float : FloatTime) (sampleRate frames : Nat) : Prop :=
  ∀ count ≤ frames, ∀ skipped < float.fromFrames count sampleRate,
    exact.ceilFrames skipped sampleRate ≤ float.ceilFrames skipped sampleRate

theorem FloatTime.Covers.mono {float : FloatTime} {sampleRate frames fewer : Nat}
    (h : float.Covers sampleRate frames) (le : fewer ≤ frames) : float.Covers sampleRate fewer :=
  fun count hcount => h count (hcount.trans le)

theorem FloatTime.exact_covers (sampleRate frames : Nat) : exact.Covers sampleRate frames :=
  fun _ _ _ _ => Nat.le_refl _

/-! ### The code's clock and exact time -/

def TimedAnchor.inSeconds : TimedAnchor Instant → TimedAnchor ℚ
  | unset => .unset
  | atInstant anchor => .atInstant (secs anchor)
  | nextTimedPcm => .nextTimedPcm

def TimedChunk.inSeconds (chunk : TimedChunk Instant) : TimedChunk ℚ where
  bytes := chunk.bytes
  presentationTime := chunk.presentationTime.map secs
  sampleRate := chunk.sampleRate
  channels := chunk.channels

/-- At least the frames before the anchor are skipped. -/
theorem exactSkipBytes_le_float {float : FloatTime} {anchor presentationTime : Instant}
    {chunk : TimedChunk Instant} (rate_pos : 0 < chunk.sampleRate) (channels_pos : 0 < chunk.channels)
    (whole : chunk.channels * 2 ∣ chunk.bytes.length)
    (covers : float.Covers chunk.sampleRate (chunk.bytes.length / (chunk.channels * 2))) :
    exactSkipBytes (secs anchor) (secs presentationTime) chunk.inSeconds ≤
      floatSkipBytes float anchor presentationTime chunk := by
  have hdata : ¬(chunk.channels * 2 = 0 ∨ chunk.sampleRate = 0) := by omega
  have hcount := Nat.div_mul_cancel whole
  have hle := @exactSkipBytes_le chunk.inSeconds (secs anchor) (secs presentationTime)
  simp only [floatSkipBytes, LiveStream.skipBytes, hdata, if_false]
  split
  · exact hle
  case isFalse hend =>
  simp only [exactSkipBytes, TimedChunk.inSeconds, secs_lt]
  generalize chunk.bytes.length / (chunk.channels * 2) = frames at hcount covers hend
  by_cases hbefore : presentationTime < anchor
  · obtain ⟨distance, rfl⟩ := Nat.exists_eq_add_of_le hbefore.le
    have hinside : distance < float.fromFrames frames chunk.sampleRate :=
      Nat.lt_of_not_le fun hle => hend (Nat.add_le_add_left hle _)
    have hceil : (distance * chunk.sampleRate + 1000000000 - 1) / 1000000000 ≤
        float.ceilFrames distance chunk.sampleRate := covers _ (Nat.le_refl _) distance hinside
    simp only [frame_end_le rate_pos, ceil_distance, Nat.add_sub_cancel_left, if_pos hbefore]
    split
    · case isTrue hall =>
      -- every frame is before the anchor
      have hframes : frames ≤ float.ceilFrames distance chunk.sampleRate := by omega
      rw [Nat.min_eq_right hframes, hcount]
    · exact Nat.mul_le_mul_right _ (min_le_min_right _ hceil)
  · rw [if_neg hbefore, if_neg hbefore]
    split
    · case isTrue hall =>
      have hrate : (0 : ℚ) < chunk.sampleRate := Nat.cast_pos.mpr rate_pos
      have hlate : secs anchor ≤ secs presentationTime := not_lt.mp (mt secs_lt.mp hbefore)
      have hnone : (frames : ℚ) / chunk.sampleRate ≤ 0 := by linarith
      have hframes : frames = 0 := by
        rw [div_le_iff₀ hrate, zero_mul] at hnone
        exact_mod_cast le_antisymm hnone (Nat.cast_nonneg frames)
      rw [← hcount, hframes, Nat.zero_mul]
    · exact Nat.le_refl 0

/-- Whole frames, at a rate that nanoseconds can tell apart. -/
structure TimedChunk.Countable (chunk : TimedChunk Instant) : Prop where
  rate_le : chunk.sampleRate ≤ 1000000000
  whole : chunk.channels * 2 ∣ chunk.bytes.length

namespace TimedStream

def inSeconds (st : TimedStream Instant) : TimedStream ℚ where
  sent := st.sent
  encodedBytes := st.encodedBytes
  dropped := st.dropped
  skipped := st.skipped
  chunksDropped := st.chunksDropped
  subscriberConnected := st.subscriberConnected
  closed := st.closed
  playbackAnchor := st.playbackAnchor.inSeconds

theorem sendServed_inSeconds (st : TimedStream Instant) (bytes : Bytes) :
    (st.sendServed bytes).inSeconds = st.inSeconds.sendServed bytes := by
  unfold sendServed
  split <;> rfl

theorem skip_inSeconds (st : TimedStream Instant) (bytes : Bytes) (skipped : Nat) :
    (st.skip bytes skipped).inSeconds = st.inSeconds.skip bytes skipped := by
  unfold skip
  split
  · rfl
  · exact sendServed_inSeconds { st with skipped := st.skipped + skipped } _

theorem serve_inSeconds (st : TimedStream Instant) (anchor : Instant) {chunk : TimedChunk Instant}
    (countable : chunk.Countable) :
    (st.serve (floatSkipBytes .exact) anchor chunk).inSeconds =
      st.inSeconds.serve exactSkipBytes (secs anchor) chunk.inSeconds := by
  obtain ⟨bytes, presentationTime, sampleRate, channels⟩ := chunk
  cases presentationTime with
  | none => exact sendServed_inSeconds st bytes
  | some presentationTime =>
    by_cases hdata : channels * 2 = 0 ∨ sampleRate = 0
    · refine (congrArg inSeconds (if_pos hdata)).trans (.trans ?_ (if_pos hdata).symm)
      exact sendServed_inSeconds st bytes
    · obtain ⟨hframe, hrate⟩ := not_or.mp hdata
      have hchannels : 0 < channels := by omega
      refine (congrArg inSeconds (if_neg hdata)).trans (.trans ?_ (if_neg hdata).symm)
      rw [skip_inSeconds, floatSkipBytes,
        skipBytes_exact (Nat.pos_of_ne_zero hrate) countable.rate_le hchannels countable.whole]
      rfl

theorem publishTimedPcm_inSeconds (st : TimedStream Instant) (now : Instant)
    {chunk : TimedChunk Instant} (countable : chunk.Countable) :
    (st.publishTimedPcm (floatSkipBytes .exact) now chunk).inSeconds =
      st.inSeconds.publishTimedPcm exactSkipBytes (secs now) chunk.inSeconds := by
  have hfinish (st : TimedStream Instant) :
      (st.finishPublish (floatSkipBytes .exact) now chunk).inSeconds =
        st.inSeconds.finishPublish exactSkipBytes (secs now) chunk.inSeconds := by
    simp only [finishPublish, show st.inSeconds.subscriberConnected = st.subscriberConnected from rfl,
      show st.inSeconds.playbackAnchor = st.playbackAnchor.inSeconds from rfl]
    split
    · rfl
    · cases st.playbackAnchor with
      | unset => exact skip_inSeconds st chunk.bytes _
      | atInstant anchor => exact serve_inSeconds st anchor countable
      | nextTimedPcm =>
        have hanchor : (chunk.inSeconds.presentationTime.getD (secs now)) =
            secs (chunk.presentationTime.getD now) := Option.getD_map ..
        simp only [TimedAnchor.inSeconds, hanchor]
        exact serve_inSeconds { st with
          playbackAnchor := .atInstant (chunk.presentationTime.getD now) } _ countable
  simp only [publishTimedPcm, beginPublish, show st.inSeconds.closed = st.closed from rfl,
    show chunk.inSeconds.bytes = chunk.bytes from rfl]
  split
  · rfl
  · exact hfinish { st with encodedBytes := st.encodedBytes + chunk.bytes.length }

theorem publishAll_inSeconds {chunks : List (Instant × TimedChunk Instant)}
    (countable : ∀ entry ∈ chunks, entry.2.Countable) (st : TimedStream Instant) :
    (st.publishAll (floatSkipBytes .exact) chunks).inSeconds =
      st.inSeconds.publishAll exactSkipBytes
        (chunks.map fun entry => (secs entry.1, entry.2.inSeconds)) := by
  induction chunks generalizing st with
  | nil => rfl
  | cons entry rest ih =>
    rw [List.forall_mem_cons] at countable
    rw [publishAll, ih countable.2, publishTimedPcm_inSeconds st entry.1 countable.1]
    rfl

/-- Where the durations are computed without an error, the code broadcasts exactly the frames at
or after the anchor. -/
theorem instants_from_anchor {st : TimedStream Instant} {anchor : Instant}
    {chunks : List (Instant × TimedChunk Instant)} (h : Anchored anchor st)
    (sound : ∀ entry ∈ chunks, entry.2.Sound ∧ entry.2.sampleRate ≤ 1000000000) :
    (st.publishAll (floatSkipBytes .exact) chunks).sent.flatten = st.sent.flatten ++
      audible (secs anchor)
        (timedFrames (chunks.map fun entry => (secs entry.1, entry.2.inSeconds))) := by
  have hanchored : Anchored (secs anchor) st.inSeconds :=
    ⟨h.opened, h.subscribed, congrArg TimedAnchor.inSeconds h.anchored⟩
  have hsound : ∀ entry ∈ chunks.map fun entry => (secs entry.1, entry.2.inSeconds),
      entry.2.Sound := by
    intro entry hentry
    obtain ⟨before, hbefore, rfl⟩ := List.mem_map.mp hentry
    obtain ⟨hchunk, -⟩ := sound before hbefore
    exact ⟨hchunk.rate_pos, hchunk.channels_pos, hchunk.whole, hchunk.bounded,
      Option.isSome_map.trans hchunk.timed⟩
  have hsent := congrArg TimedStream.sent (publishAll_inSeconds
    (fun entry hentry => ⟨(sound entry hentry).2, (sound entry hentry).1.whole⟩) st)
  obtain ⟨_, hemits, -⟩ := publishAll_emits hanchored hsound
  exact (congrArg List.flatten hsent).trans hemits.sent

end TimedStream

/-! ### One call and its steps -/

def PlaybackAnchorState.timed : PlaybackAnchorState → TimedAnchor Instant
  | unset => .unset
  | atInstant anchor => .atInstant anchor
  | nextTimedPcm => .nextTimedPcm

def TimedPcm.chunk (pcm : TimedPcm) (bytes : Bytes) : TimedChunk Instant where
  bytes := bytes
  presentationTime := pcm.presentationTime
  sampleRate := pcm.sampleRate
  channels := pcm.channels

namespace LiveStream

/-- What a publication of timed PCM reads and writes. -/
def timed (st : LiveStream) : TimedStream Instant where
  sent := st.sent.map EncodedChunk.bytes
  encodedBytes := st.encodedBytes
  dropped := st.dropped
  skipped := st.skipped
  chunksDropped := st.chunksDropped
  subscriberConnected := st.subscriberConnected
  closed := st.closed
  playbackAnchor := st.playbackAnchor.timed

/-- Left alone, the encoder comes to the end of its call with this result. -/
def Returns (float : FloatTime) (st : LiveStream) (result : TimedStream Instant) : Prop :=
  ∃ steps st', (live float).run st (List.replicate steps .publishNext) = some st' ∧
    st'.publisher = .idle ∧ st'.timed = result

variable {float : FloatTime} {st next : LiveStream} {bytes : Bytes} {result : TimedStream Instant}

theorem Returns.step (taken : st.publishNext float = some next) (h : next.Returns float result) :
    st.Returns float result := by
  obtain ⟨steps, st', hrun, hrest⟩ := h
  refine ⟨steps + 1, st', ?_, hrest⟩
  rw [List.replicate_succ, TransitionSystem.run]
  exact Option.bind_eq_some_iff.mpr ⟨next, taken, hrun⟩

theorem returns_of_sending {rest : List EncodedChunk} (sending : st.publisher = .sending false rest) :
    st.Returns float { st.timed with sent := st.timed.sent ++ rest.map EncodedChunk.bytes } := by
  induction rest generalizing st with
  | nil =>
    have hnext : st.publishNext float = some st.finish := by rw [publishNext, sending]
    refine .step hnext ⟨0, _, rfl, rfl, ?_⟩
    simp [timed, finish]
  | cons chunk rest ih =>
    have hnext : st.publishNext float =
        some { st with sent := st.sent ++ [chunk], publisher := .sending false rest } := by
      rw [publishNext, sending]
    refine .step hnext ?_
    have hrest := @ih { st with sent := st.sent ++ [chunk], publisher := .sending false rest } rfl
    simpa [timed] using hrest

theorem sendServed_returns (st : LiveStream) (bytes : Bytes) :
    (st.sendServed false bytes).Returns float (st.timed.sendServed bytes) := by
  unfold sendServed TimedStream.sendServed
  split
  · exact ⟨0, _, rfl, rfl, rfl⟩
  · have hsent := @returns_of_sending float (st.broadcast false bytes) _ rfl
    simpa [timed, broadcast, Function.comp_def] using hsent

theorem skip_returns (st : LiveStream) (bytes : Bytes) (skipped : Nat) :
    (st.skip bytes skipped).Returns float (st.timed.skip bytes skipped) := by
  unfold skip TimedStream.skip
  split
  · exact ⟨0, _, rfl, rfl, rfl⟩
  · exact sendServed_returns { st with skipped := st.skipped + skipped } (bytes.drop skipped)

theorem serve_returns (st : LiveStream) (anchor : Instant) (pcm : TimedPcm) (data : bytes ≠ []) :
    (anchorTimedPcm.serve float bytes pcm st anchor).Returns float
      (st.timed.serve (floatSkipBytes float) anchor (pcm.chunk bytes)) := by
  unfold anchorTimedPcm.serve
  rw [TimedStream.serve, show (pcm.chunk bytes).presentationTime = pcm.presentationTime from rfl]
  cases pcm.presentationTime with
  | none => exact sendServed_returns st bytes
  | some presentationTime =>
    simp only
    by_cases hempty : (pcm.chunk bytes).channels * 2 = 0 ∨ (pcm.chunk bytes).sampleRate = 0
    · -- no frame can be counted, so nothing is skipped
      have hnone : skipBytes float anchor presentationTime bytes pcm = 0 := if_pos hempty
      have hall : st.skip bytes 0 = st.sendServed false bytes := by
        simp [skip, data]
      rw [if_pos hempty, hnone, hall]
      exact sendServed_returns st bytes
    · rw [if_neg hempty]
      exact skip_returns st bytes _

theorem anchorTimedPcm_returns (st : LiveStream) (pcm : TimedPcm) (data : bytes ≠ [])
    (subscribed : st.subscriberConnected = true) :
    (st.anchorTimedPcm float bytes pcm).Returns float
      (st.timed.finishPublish (floatSkipBytes float) st.now (pcm.chunk bytes)) := by
  have hconnected : st.timed.subscriberConnected = true := subscribed
  rw [anchorTimedPcm, TimedStream.finishPublish, if_neg (by simp [hconnected]),
    show st.timed.playbackAnchor = st.playbackAnchor.timed from rfl]
  cases st.playbackAnchor with
  | unset => exact skip_returns st bytes _
  | atInstant anchor => exact serve_returns st anchor pcm data
  | nextTimedPcm =>
    exact serve_returns { st with playbackAnchor := .atInstant (pcm.presentationTime.getD st.now) }
      _ pcm data

/-- Left alone, the steps of `publish_timed_pcm` do what one call does. -/
theorem publishTimedPcm_returns (st : LiveStream) (idle : st.publisher = .idle) (pcm : TimedPcm) :
    ∃ next, st.step float (.publishTimedPcm bytes pcm) = some next ∧ next.Returns float
      (st.timed.publishTimedPcm (floatSkipBytes float) st.now (pcm.chunk bytes)) := by
  refine ⟨_, if_pos idle, ?_⟩
  by_cases hdata : bytes = [] ∨ st.closed = true
  · refine ⟨0, _, rfl, ?_, ?_⟩ <;> obtain rfl | hclosed := hdata
    · simpa [beginPublish] using idle
    · simpa [beginPublish, hclosed] using idle
    · simp [beginPublish, TimedStream.publishTimedPcm, TimedStream.beginPublish, TimedPcm.chunk,
        timed]
    · simp [beginPublish, TimedStream.publishTimedPcm, TimedStream.beginPublish, timed, hclosed]
  · obtain ⟨hbytes, hopen⟩ := not_or.mp hdata
    rw [Bool.not_eq_true] at hopen
    have hbegin : st.timed.publishTimedPcm (floatSkipBytes float) st.now (pcm.chunk bytes) =
        { st.timed with encodedBytes := st.encodedBytes + bytes.length }.finishPublish
          (floatSkipBytes float) st.now (pcm.chunk bytes) := by
      simp [TimedStream.publishTimedPcm, TimedStream.beginPublish, TimedPcm.chunk, timed, hbytes,
        hopen]
    rw [hbegin, LiveStream.beginPublish, if_neg (by simp [hbytes, hopen])]
    by_cases hconnected : st.subscriberConnected = true
    · refine .step (if_neg (by simp [hconnected])) (.step rfl ?_)
      refine anchorTimedPcm_returns _ pcm hbytes ?_
      exact hconnected
    · refine .step (if_pos (by simp [hconnected])) ⟨0, _, rfl, rfl, ?_⟩
      simp [TimedStream.finishPublish, timed, hconnected, drop, finish, TimedPcm.chunk]

end LiveStream

end AirSonos.Live
