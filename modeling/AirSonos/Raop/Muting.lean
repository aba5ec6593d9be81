import AirSonos.Raop.Interleaved
import AirSonos.Raop.Turns
import Mathlib.Data.List.Infix
import Mathlib.Data.List.ReduceOption

/-!
# The packet buffer passes an interleaved stream through

Between two frames at most the slot of the next turn is taken, and only after a frame that was not
decoded.
-/

namespace AirSonos.Raop

open Incremental RaopBuffer

variable {δ ρ : Type*} {alac : δ} {muted : Bool}

section Buffer

variable {env : PacketEnv δ} {buf : RaopBuffer δ}

structure Mirrors (buf : RaopBuffer δ) (alac : δ) (muted : Bool) : Prop where
  alac : buf.alac = alac
  length : buf.entries.length = RAOP_BUFFER_LENGTH
  played : buf.isEmpty = true ∨ buf.lastSeqnum + 1 = buf.firstSeqnum
  vacant : muted = false → ∀ entry ∈ buf.entries, entry.available = false
  taken : muted = true → ∃ entry, buf.entries[slot buf.firstSeqnum]? = some entry ∧
    entry.available = true ∧ entry.seqnum = buf.firstSeqnum

theorem seqnumCmp_self (seqnum : UInt16) : seqnumCmp seqnum seqnum = 0 := by
  rw [seqnumCmp, UInt16.sub_self]
  decide

theorem seqnumCmp_window (seqnum : UInt16) : seqnumCmp seqnum (seqnum + 32) = -32 := by
  have hsub : seqnum - (seqnum + 32) = -32 := by grind
  rw [seqnumCmp, hsub]
  decide

theorem seqnumCmp_before {last first : UInt16} (h : last + 1 = first) :
    seqnumCmp last first = -1 := by
  have hsub : last - first = -1 := by grind
  rw [seqnumCmp, hsub]
  decide

theorem seqnumCmp_after {last first : UInt16} (h : last + 1 = first) :
    seqnumCmp first last = 1 := by
  have hsub : first - last = 1 := by grind
  rw [seqnumCmp, hsub]
  decide

variable (env) in
/-- All turns were played. -/
theorem dequeue_played (played : buf.isEmpty = true ∨ buf.lastSeqnum + 1 = buf.firstSeqnum)
    (noResend : Bool) : buf.dequeue env noResend = (buf, none) := by
  rw [RaopBuffer.dequeue, if_pos]
  obtain hempty | hlast := played
  · exact .inl hempty
  · refine .inr ?_
    rw [buflen, seqnumCmp_before hlast]
    decide

variable (env) in
/-- A frame that is not numbered takes the next turn. -/
theorem queue_next (buf : RaopBuffer δ) {data : List UInt8} (long : ¬data.length < 12)
    (fits : data.length ≤ RAOP_PACKET_LEN) :
    buf.queue env data false = buf.insert env buf.firstSeqnum (data.drop 12) := by
  have hvalid : ¬(data.length < 12 ∨ RAOP_PACKET_LEN < data.length) := by omega
  have hstale : ¬(buf.isEmpty = false ∧ seqnumCmp buf.firstSeqnum buf.firstSeqnum < 0) := by
    rw [seqnumCmp_self]
    omega
  have hahead : ¬(0 ≤ seqnumCmp buf.firstSeqnum (buf.firstSeqnum + 32)) := by
    rw [seqnumCmp_window]
    decide
  rw [RaopBuffer.queue, if_neg hvalid]
  dsimp only
  rw [if_neg (Bool.false_ne_true), if_neg hstale, if_neg hahead]

namespace Mirrors

theorem new (alac : δ) : Mirrors (.new alac) alac false :=
  ⟨rfl, rfl, .inl rfl, fun _ entry hmem => by rw [List.eq_of_mem_replicate hmem], by rintro ⟨⟩⟩

theorem flush (h : Mirrors buf alac muted) (nextSeq : Int) :
    Mirrors (buf.flush nextSeq) alac false := by
  have hvacant : ∀ entry ∈ buf.clear.entries, entry.available = false :=
    fun entry hmem => (vacant_of_mem_clear hmem).1
  have hlength : buf.clear.entries.length = RAOP_BUFFER_LENGTH := by rw [length_clear, h.length]
  rw [RaopBuffer.flush]
  split
  · exact ⟨h.alac, hlength, .inr (UInt16.sub_add_cancel _ 1), fun _ => hvacant, by rintro ⟨⟩⟩
  · exact ⟨h.alac, hlength, .inl rfl, fun _ => hvacant, by rintro ⟨⟩⟩

/-- The slot of the next turn is still taken. -/
theorem insert_muted (h : Mirrors buf alac true) (payload : List UInt8) :
    buf.insert env buf.firstSeqnum payload = (buf, 0) := by
  obtain ⟨entry, hentry, havailable, hseqnum⟩ := h.taken rfl
  have hold : buf.entries.getD (slot buf.firstSeqnum) ⟨false, 0, []⟩ = entry := by
    rw [List.getD_eq_getElem?_getD, hentry, Option.getD_some]
  simp only [RaopBuffer.insert, hold]
  exact if_pos ⟨havailable, hseqnum⟩

theorem vacant_set {entries : List BufferEntry} {entry : BufferEntry}
    (vacant : ∀ entry ∈ entries, entry.available = false) (free : entry.available = false) (i : ℕ) :
    ∀ other ∈ entries.set i entry, other.available = false := by
  intro other hmem
  obtain hold | rfl := List.mem_or_eq_of_mem_set hmem
  · exact vacant other hold
  · exact free

theorem fresh (h : Mirrors buf alac false) :
    (buf.entries.getD (slot buf.firstSeqnum) ⟨false, 0, []⟩).available = false :=
  h.vacant rfl _ (List.mem_of_getElem? (getElem?_slot h.length buf.firstSeqnum))

/-- A frame that cannot be decoded takes the slot of the next turn. -/
theorem insert_failed (h : Mirrors buf alac false) {payload : List UInt8} {after : δ}
    (failed : env.decodeFrame alac (packetBuf env payload) = ([], after)) :
    Mirrors (buf.insert env buf.firstSeqnum payload).1 after true := by
  have hfound := getElem?_slot h.length buf.firstSeqnum
  have hfree := h.fresh
  rw [← h.alac] at failed
  simp only [RaopBuffer.insert, failed]
  generalize buf.entries.getD (slot buf.firstSeqnum) ⟨false, 0, []⟩ = old at hfound hfree ⊢
  rw [if_neg (fun hboth => by rw [hfree] at hboth; cases hboth.1), if_pos List.isEmpty_nil]
  refine ⟨rfl, by rw [← h.length]; exact List.length_set, h.played, by rintro ⟨⟩, fun _ => ?_⟩
  refine ⟨{ old with available := true, seqnum := buf.firstSeqnum }, ?_, rfl, rfl⟩
  exact List.getElem?_set_self (List.getElem?_eq_some_iff.mp hfound).1

/-- The buffer behind a frame that is decoded. -/
theorem insert_decoded (h : Mirrors buf alac false) {payload : List UInt8} {samples : List Sample}
    {after : δ} (decoded : env.decodeFrame alac (packetBuf env payload) = (samples, after))
    (full : samples ≠ []) :
    ∃ entry start accepted, entry.available = true ∧ entry.samples = samples ∧
      (buf.insert env buf.firstSeqnum payload).1 = { buf with
        alac := after
        isEmpty := false
        lastSeqnum := buf.firstSeqnum
        start := start
        entries := buf.entries.set (slot buf.firstSeqnum) entry
        accepted := accepted } := by
  have hfree := h.fresh
  rw [← h.alac] at decoded
  simp only [RaopBuffer.insert, decoded]
  generalize buf.entries.getD (slot buf.firstSeqnum) ⟨false, 0, []⟩ = old at hfree ⊢
  rw [if_neg (fun hboth => by rw [hfree] at hboth; cases hboth.1),
    if_neg (mt List.isEmpty_iff.mp full)]
  obtain hempty | hopen := Bool.eq_false_or_eq_true buf.isEmpty
  · simp only [hempty, if_true, seqnumCmp_self, lt_irrefl, if_false]
    exact ⟨_, _, _, rfl, rfl, rfl⟩
  · have hlast := h.played.resolve_left (by rw [hopen]; decide)
    simp only [hopen, Bool.false_eq_true, if_false, seqnumCmp_after hlast, Int.zero_lt_one, if_true]
    exact ⟨_, _, _, rfl, rfl, rfl⟩

/-- A frame that is decoded is played at once. -/
theorem dequeue_decoded (h : Mirrors buf alac false) {payload : List UInt8}
    {samples : List Sample} {after : δ}
    (decoded : env.decodeFrame alac (packetBuf env payload) = (samples, after))
    (full : samples ≠ []) :
    ∃ rest, (buf.insert env buf.firstSeqnum payload).1.dequeue env true = (rest, some samples) ∧
      Mirrors rest after false := by
  obtain ⟨entry, start, accepted, havailable, hsamples, hinsert⟩ := h.insert_decoded decoded full
  have hlt : slot buf.firstSeqnum < buf.entries.length :=
    (List.getElem?_eq_some_iff.mp (getElem?_slot h.length buf.firstSeqnum)).1
  have hentry : (buf.entries.set (slot buf.firstSeqnum) entry).getD (slot buf.firstSeqnum)
      ⟨false, 0, []⟩ = entry := by
    rw [List.getD_eq_getElem?_getD, List.getElem?_set_self hlt, Option.getD_some]
  rw [hinsert, RaopBuffer.dequeue]
  dsimp only
  rw [hentry, if_neg, if_neg]
  · simp only [if_pos havailable, hsamples]
    refine ⟨_, rfl, ?_⟩
    refine ⟨rfl, ?_, .inr rfl, fun _ => ?_, by rintro ⟨⟩⟩
    · rw [List.length_set, List.length_set, h.length]
    · rw [List.set_set]
      exact vacant_set (h.vacant rfl) rfl _
  · rintro ⟨hwait, -⟩
    cases hwait
  · rintro (hempty | hshort)
    · cases hempty
    · rw [buflen, seqnumCmp_self] at hshort
      exact absurd hshort (by decide)

end Mirrors

end Buffer

/-! ### The receiver -/

variable {env : InterleavedEnv δ ρ} {resampler : Option (StreamResampler ρ)}

namespace InterleavedReceiver

variable {st after : InterleavedReceiver δ ρ} {through : PassThrough δ ρ}

theorem play_none (st : InterleavedReceiver δ ρ) {data : List UInt8} {buffer : RaopBuffer δ}
    (dequeued : (st.buffer.queue env.toPacketEnv data false).1.dequeue env.toPacketEnv true =
      (buffer, none)) :
    st.play env data = { st.record (.frame data) with buffer := buffer } := by
  rw [play, dequeued]

theorem play_some (st : InterleavedReceiver δ ρ) {data : List UInt8} {buffer : RaopBuffer δ}
    {samples : List Sample}
    (dequeued : (st.buffer.queue env.toPacketEnv data false).1.dequeue env.toPacketEnv true =
      (buffer, some samples)) :
    st.play env data = { st.record (.frame data) with
      buffer := buffer
      resampler := (env.resample st.resampler samples).2
      calls := st.calls ++
        [SessionCall.audioProcessTimed (env.resample st.resampler samples).1] } := by
  rw [play, dequeued]

/-- The stream without its buffer did what the receiver has done. -/
structure Follows (st : InterleavedReceiver δ ρ) (through : PassThrough δ ρ) : Prop where
  mirrors : Mirrors st.buffer through.alac through.muted
  calls : st.calls = through.calls
  resampler : st.resampler = through.resampler
  pending : through.pending = decide (st.state ≠ NO_FLUSH)

namespace Follows

/-- The frame is not heard. -/
theorem play_unheard (h : Follows st through) {data : List UInt8} {buffer : RaopBuffer δ}
    {alac : δ} {muted : Bool} (mirrors : Mirrors buffer alac muted)
    (queued : (st.buffer.queue env.toPacketEnv data false).1 = buffer) :
    Follows (st.play env data) { through with alac := alac, muted := muted } := by
  have hdequeue := dequeue_played env.toPacketEnv mirrors.played true
  rw [← queued] at hdequeue mirrors
  rw [st.play_none hdequeue]
  exact ⟨mirrors, h.calls, h.resampler, h.pending⟩

variable (env) in
theorem play (h : Follows st through) {data : List UInt8} (fits : data.length ≤ RAOP_PACKET_LEN) :
    Follows (st.play env data) (through.play env data) := by
  by_cases hshort : data.length < 12
  · have hqueue : st.buffer.queue env.toPacketEnv data false = (st.buffer, -1) :=
      if_pos (.inl hshort)
    rw [show through.play env data = through from if_pos (.inr hshort)]
    exact h.play_unheard h.mirrors (congrArg Prod.fst hqueue)
  · have hqueue := queue_next env.toPacketEnv st.buffer hshort fits
    have hmirrors := h.mirrors
    cases hmuted : through.muted with
    | true =>
      rw [hmuted] at hmirrors
      rw [hmirrors.insert_muted] at hqueue
      rw [PassThrough.play_muted env hmuted]
      exact h.play_unheard h.mirrors (congrArg Prod.fst hqueue)
    | false =>
      rw [hmuted] at hmirrors
      have hactive : ¬(through.muted = true ∨ data.length < 12) := by
        rw [hmuted]
        rintro (hmuted | hless)
        · cases hmuted
        · exact hshort hless
      cases hdecode : env.decodeFrame through.alac
        (RaopBuffer.packetBuf env.toPacketEnv (data.drop 12)) with
      | mk samples after =>
        simp only [PassThrough.play, if_neg hactive, hdecode]
        cases samples with
        | nil => exact h.play_unheard (hmirrors.insert_failed hdecode) (congrArg Prod.fst hqueue)
        | cons sample samples =>
          obtain ⟨rest, hrest, hafter⟩ := hmirrors.dequeue_decoded hdecode
            (List.cons_ne_nil sample samples)
          rw [← hqueue] at hrest
          rw [st.play_some hrest, h.calls, h.resampler]
          refine ⟨?_, rfl, rfl, h.pending⟩
          rw [← hmuted] at hafter
          exact hafter

theorem applyPendingFlush (h : Follows st through) :
    Follows st.applyPendingFlush through.flush := by
  have hpending := h.pending
  rw [InterleavedReceiver.applyPendingFlush, PassThrough.flush]
  split
  · case isTrue idle =>
    rw [hpending, idle, if_neg (by decide)]
    exact h
  · case isFalse stored =>
    rw [hpending, if_pos (decide_eq_true stored)]
    exact ⟨h.mirrors.flush st.state, congrArg (· ++ _) h.calls, h.resampler, rfl⟩

end Follows

section Frames

variable (data : List UInt8)

@[simp] theorem applyPendingFlush_packetBuf : st.applyPendingFlush.packetBuf = st.packetBuf := by
  rw [applyPendingFlush]
  split <;> rfl

@[simp] theorem applyPendingFlush_phase : st.applyPendingFlush.phase = st.phase := by
  rw [applyPendingFlush]
  split <;> rfl

@[simp] theorem applyPendingFlush_received : st.applyPendingFlush.received = st.received := by
  rw [applyPendingFlush]
  split <;> rfl

@[simp] theorem applyPendingFlush_log : st.applyPendingFlush.log = st.log := by
  rw [applyPendingFlush]
  split <;> rfl

@[simp] theorem play_phase : (st.play env data).phase = st.phase := by
  rw [play]
  split <;> rfl

@[simp] theorem play_state : (st.play env data).state = st.state := by
  rw [play]
  split <;> rfl

@[simp] theorem play_received : (st.play env data).received = st.received := by
  rw [play]
  split <;> rfl

@[simp] theorem play_log : (st.play env data).log = st.log ++ [.frame data] := by
  rw [play]
  split <;> rfl

end Frames

variable (env) in
/-- One round of the loop follows the verdict on the bytes. -/
theorem frame_cases (st : InterleavedReceiver δ ρ) :
    (nextFrame () st.packetBuf = .more ∧ st.frame env = { st with phase := .selecting }) ∨
    (nextFrame () st.packetBuf = .output none 1 () ∧
      st.frame env = { st with packetBuf := st.packetBuf.drop 1 }) ∨
    (nextFrame () st.packetBuf = .malformed ∧
      st.frame env = { st with packetBuf := [], phase := .closed }) ∨
    ∃ data used, nextFrame () st.packetBuf = .output (some data) used () ∧
      data.length ≤ RAOP_PACKET_LEN ∧
      st.frame env = { (st.applyPendingFlush.play env data) with
        packetBuf := st.packetBuf.drop used } := by
  rw [nextFrame, InterleavedReceiver.frame]
  by_cases hshort : st.packetBuf.length < 4
  · exact .inl ⟨if_pos hshort, if_pos hshort⟩
  · rw [if_neg hshort, if_neg hshort]
    by_cases hgarbage : st.packetBuf.getD 0 0 ≠ DOLLAR ∨ st.packetBuf.getD 1 0 ≠ 0
    · exact .inr (.inl ⟨if_pos hgarbage, if_pos hgarbage⟩)
    · rw [if_neg hgarbage, if_neg hgarbage]
      by_cases hlarge : RAOP_PACKET_LEN < rtpLen st.packetBuf
      · exact .inr (.inr (.inl ⟨if_pos hlarge, if_pos hlarge⟩))
      · rw [if_neg hlarge, if_neg hlarge]
        by_cases hpart : st.packetBuf.length < 4 + rtpLen st.packetBuf
        · exact .inl ⟨if_pos hpart, if_pos hpart⟩
        · have hfits := Nat.le_trans (List.length_take_le (rtpLen st.packetBuf)
            (st.packetBuf.drop 4)) (Nat.not_lt.mp hlarge)
          exact .inr (.inr (.inr ⟨_, _, if_neg hpart, hfits, if_neg hpart⟩))

/-- What the session heard is what the log gives without the buffer, and the frames of the log are
those of the stream. `rest` is what no frame has used yet. -/
structure Passes (env : InterleavedEnv δ ρ) (alac : δ) (resampler : Option (StreamResampler ρ))
    (st : InterleavedReceiver δ ρ) (outputs : List (Option (List UInt8)))
    (rest : List UInt8) : Prop where
  follows : Follows st (PassThrough.run env alac resampler st.log)
  reads : Reads nextFrame () st.received outputs () rest
  frames : st.log.filterMap StreamOp.data = outputs.reduceOption
  rest : st.phase ≠ .closed → rest = st.packetBuf
  more : st.phase = .selecting → nextFrame () st.packetBuf = .more
  length : st.packetBuf.length < 4 + RAOP_PACKET_LEN + READ_BUF_LEN

def PassesThrough (env : InterleavedEnv δ ρ) (alac : δ) (resampler : Option (StreamResampler ρ))
    (st : InterleavedReceiver δ ρ) : Prop :=
  ∃ outputs rest, Passes env alac resampler st outputs rest

namespace Passes

variable {outputs : List (Option (List UInt8))} {rest : List UInt8}

theorem storeFlush (h : Passes env alac resampler st outputs rest) (nextSeq : Int) :
    Passes env alac resampler (st.storeFlush nextSeq) outputs rest where
  follows := by
    change Follows _ (PassThrough.run env alac resampler (st.log ++ [.stored nextSeq]))
    rw [PassThrough.run_snoc]
    exact ⟨h.follows.mirrors, h.follows.calls, h.follows.resampler, rfl⟩
  reads := h.reads
  frames := by
    change (st.log ++ [StreamOp.stored nextSeq]).filterMap StreamOp.data = _
    rw [List.filterMap_append, h.frames]
    exact List.append_nil _
  rest := h.rest
  more := h.more
  length := h.length

theorem flushWake (h : Passes env alac resampler st outputs rest) :
    Passes env alac resampler st.flushWake outputs rest := by
  have hflushed : Follows (st.record .wake).applyPendingFlush
      (PassThrough.run env alac resampler (st.log ++ [.wake])) := by
    rw [PassThrough.run_snoc]
    exact Follows.applyPendingFlush ⟨h.follows.mirrors, h.follows.calls, h.follows.resampler,
      h.follows.pending⟩
  constructor
  · rw [InterleavedReceiver.flushWake, applyPendingFlush_log]
    exact hflushed
  · rw [InterleavedReceiver.flushWake, applyPendingFlush_received]
    exact h.reads
  · rw [InterleavedReceiver.flushWake, applyPendingFlush_log]
    change (st.log ++ [StreamOp.wake]).filterMap StreamOp.data = _
    rw [List.filterMap_append, h.frames]
    exact List.append_nil _
  · rw [InterleavedReceiver.flushWake, applyPendingFlush_phase, applyPendingFlush_packetBuf]
    exact h.rest
  · rw [InterleavedReceiver.flushWake, applyPendingFlush_phase, applyPendingFlush_packetBuf]
    exact h.more
  · rw [InterleavedReceiver.flushWake, applyPendingFlush_packetBuf]
    exact h.length

theorem output (h : Passes env alac resampler st outputs rest) (phase : st.phase = .framing)
    {value : Option (List UInt8)} {used : ℕ}
    (next : nextFrame () st.packetBuf = .output value used ()) :
    Reads nextFrame () st.received (outputs ++ [value]) () (st.packetBuf.drop used) := by
  have hrest := h.rest (by rw [phase]; rintro ⟨⟩)
  rw [← hrest] at next ⊢
  exact h.reads.trans (.output next (.stop () _))

theorem wait (h : Passes env alac resampler st outputs rest) (phase : st.phase = .framing)
    (next : nextFrame () st.packetBuf = .more) :
    Passes env alac resampler { st with phase := .selecting } outputs rest :=
  ⟨⟨h.follows.mirrors, h.follows.calls, h.follows.resampler, h.follows.pending⟩, h.reads, h.frames,
    fun _ => h.rest (by rw [phase]; rintro ⟨⟩), fun _ => next, h.length⟩

/-- One round of the loop reads one output. -/
theorem frame (h : Passes env alac resampler st outputs rest) (phase : st.phase = .framing) :
    PassesThrough env alac resampler (st.frame env) := by
  have hdrop (used : ℕ) :
      (st.packetBuf.drop used).length < 4 + RAOP_PACKET_LEN + READ_BUF_LEN :=
    Nat.lt_of_le_of_lt (List.drop_suffix used _).length_le h.length
  have hframing : st.phase ≠ .selecting := by
    rw [phase]
    rintro ⟨⟩
  have hsame : Follows { st with packetBuf := [] } (PassThrough.run env alac resampler st.log) :=
    ⟨h.follows.mirrors, h.follows.calls, h.follows.resampler, h.follows.pending⟩
  obtain ⟨hnext, heq⟩ | ⟨hnext, heq⟩ | ⟨-, heq⟩ | ⟨data, used, hnext, hfits, heq⟩ :=
    st.frame_cases env
  · rw [heq]
    exact ⟨_, _, h.wait phase hnext⟩
  · rw [heq]
    refine ⟨_, _, { hsame with }, h.output phase hnext, ?_, fun _ => rfl,
      fun hselecting => absurd hselecting hframing, hdrop 1⟩
    rw [List.reduceOption_append, ← h.frames]
    exact (List.append_nil _).symm
  · rw [heq]
    exact ⟨outputs, rest, { hsame with }, h.reads, h.frames, fun hopen => absurd rfl hopen,
      by rintro ⟨⟩, Nat.zero_lt_of_lt h.length⟩
  · rw [heq]
    have hplay := h.follows.applyPendingFlush.play env hfits
    have hreads := h.output phase hnext
    refine ⟨_, _, ⟨?_, by simpa using hreads, ?_, fun _ => rfl, fun hselecting => ?_, hdrop used⟩⟩
    · change Follows _ (PassThrough.run env alac resampler (st.applyPendingFlush.play env data).log)
      rw [play_log, applyPendingFlush_log, PassThrough.run_snoc]
      exact ⟨hplay.mirrors, hplay.calls, hplay.resampler, hplay.pending⟩
    · change (st.applyPendingFlush.play env data).log.filterMap StreamOp.data = _
      rw [play_log, applyPendingFlush_log, List.filterMap_append, h.frames,
        List.reduceOption_append]
      rfl
    · rw [play_phase, applyPendingFlush_phase] at hselecting
      exact absurd hselecting hframing

/-- What arrives goes behind what is left. -/
theorem receive (h : Passes env alac resampler st outputs rest) (phase : st.phase = .selecting)
    {data : List UInt8} (fits : data.length ≤ READ_BUF_LEN) :
    Passes env alac resampler (st.receive data) outputs (rest ++ data) := by
  have hrest := h.rest (by rw [phase]; rintro ⟨⟩)
  have hlength := length_of_more (h.more phase)
  have hlonger : (st.packetBuf ++ data).length < 4 + RAOP_PACKET_LEN + READ_BUF_LEN := by
    rw [List.length_append]
    omega
  have hopen : ¬RAOP_PACKET_LEN * 4 < (st.packetBuf ++ data).length := by
    simp only [RAOP_PACKET_LEN, READ_BUF_LEN] at hlonger ⊢
    omega
  refine ⟨⟨h.follows.mirrors, h.follows.calls, h.follows.resampler, h.follows.pending⟩,
    h.reads.extend nextFrame_stable data, h.frames, fun _ => ?_, fun hselecting => ?_, hlonger⟩
  · rw [hrest]
    rfl
  · rw [InterleavedReceiver.receive, if_neg hopen] at hselecting
    cases hselecting

theorem close (h : Passes env alac resampler st outputs rest) :
    Passes env alac resampler { st with phase := .closed } outputs rest :=
  ⟨⟨h.follows.mirrors, h.follows.calls, h.follows.resampler, h.follows.pending⟩, h.reads, h.frames,
    fun hopen => absurd rfl hopen, by rintro ⟨⟩, h.length⟩

end Passes

variable (env) in
/-- What a step of the receiver can do. -/
inductive ReceiverStep (st : InterleavedReceiver δ ρ) :
    ReceiverLabel → InterleavedReceiver δ ρ → Prop
  | read {data : List UInt8} (phase : st.phase = .selecting) (fits : data.length ≤ READ_BUF_LEN) :
      ReceiverStep st (.read data) (st.receive data)
  | frame (phase : st.phase = .framing) : ReceiverStep st .frame (st.frame env)
  | storeFlush (nextSeq : Int) : ReceiverStep st (.storeFlush nextSeq) (st.storeFlush nextSeq)
  | flushWake (phase : st.phase = .selecting) : ReceiverStep st .flushWake st.flushWake
  | close (phase : st.phase = .selecting) : ReceiverStep st .close { st with phase := .closed }

theorem step_cases {label : ReceiverLabel}
    (taken : (interleavedReceiver env alac resampler).step st label = some after) :
    ReceiverStep env st label after := by
  cases label with
  | read data =>
    obtain ⟨⟨hphase, -, hfits⟩, heq⟩ := Option.ite_none_right_eq_some.mp taken
    cases heq
    exact .read hphase hfits
  | frame =>
    obtain ⟨hphase, heq⟩ := Option.ite_none_right_eq_some.mp taken
    cases heq
    exact .frame hphase
  | storeFlush nextSeq =>
    cases taken
    exact .storeFlush nextSeq
  | flushWake =>
    obtain ⟨hphase, heq⟩ := Option.ite_none_right_eq_some.mp taken
    cases heq
    exact .flushWake hphase
  | close =>
    obtain ⟨hphase, heq⟩ := Option.ite_none_right_eq_some.mp taken
    cases heq
    exact .close hphase

theorem PassesThrough.step {label : ReceiverLabel} (h : PassesThrough env alac resampler st)
    (taken : ReceiverStep env st label after) : PassesThrough env alac resampler after := by
  obtain ⟨outputs, rest, hpasses⟩ := h
  cases taken with
  | read phase fits => exact ⟨_, _, hpasses.receive phase fits⟩
  | frame phase => exact hpasses.frame phase
  | storeFlush nextSeq => exact ⟨_, _, hpasses.storeFlush nextSeq⟩
  | flushWake phase => exact ⟨_, _, hpasses.flushWake⟩
  | close phase => exact ⟨_, _, hpasses.close⟩

theorem of_reachable (h : (interleavedReceiver env alac resampler).Reachable st) :
    PassesThrough env alac resampler st := by
  refine h.invariant (I := PassesThrough env alac resampler) ?_ fun _ _ _ passes taken =>
    passes.step (step_cases taken)
  exact ⟨[], [], ⟨.new alac, rfl, rfl, rfl⟩, .stop () [], rfl, fun _ => rfl,
    fun _ => nextFrame_nil (), Nat.zero_lt_succ _⟩

/-! ### After a frame that was not decoded -/

/-- The slot of the next turn is taken, and no flush is stored. -/
def Silent (st : InterleavedReceiver δ ρ) (calls : List SessionCall) : Prop :=
  ∃ through : PassThrough δ ρ, Follows st through ∧ through.pending = false ∧
    through.muted = true ∧ through.calls = calls

namespace Silent

variable {calls : List SessionCall}

theorem play (h : Silent st calls) {data : List UInt8} (fits : data.length ≤ RAOP_PACKET_LEN) :
    Silent (st.play env data) calls := by
  obtain ⟨through, hfollows, hpending, hmuted, hcalls⟩ := h
  have hplay := hfollows.play env fits
  rw [PassThrough.play_muted env hmuted data] at hplay
  exact ⟨through, hplay, hpending, hmuted, hcalls⟩

theorem applyPendingFlush (h : Silent st calls) : st.applyPendingFlush = st := by
  obtain ⟨through, hfollows, hpending, -⟩ := h
  rw [hfollows.pending] at hpending
  exact if_pos (not_not.mp (of_decide_eq_false hpending))

/-- Only the buffer, the session and what is stored count. -/
theorem congr (h : Silent st calls) (buffer : after.buffer = st.buffer)
    (heard : after.calls = st.calls) (resampler : after.resampler = st.resampler)
    (state : after.state = st.state) : Silent after calls := by
  obtain ⟨through, hfollows, hrest⟩ := h
  exact ⟨through, ⟨buffer ▸ hfollows.mirrors, heard.trans hfollows.calls,
    resampler.trans hfollows.resampler, state ▸ hfollows.pending⟩, hrest⟩

theorem frame (h : Silent st calls) : Silent (st.frame env) calls := by
  obtain ⟨-, heq⟩ | ⟨-, heq⟩ | ⟨-, heq⟩ | ⟨data, used, -, hfits, heq⟩ := st.frame_cases env
  · rw [heq]
    exact h.congr rfl rfl rfl rfl
  · rw [heq]
    exact h.congr rfl rfl rfl rfl
  · rw [heq]
    exact h.congr rfl rfl rfl rfl
  · rw [heq, h.applyPendingFlush]
    exact (h.play hfits).congr rfl rfl rfl rfl

theorem step (h : Silent st calls) {label : ReceiverLabel}
    (unflushed : ∀ nextSeq, label ≠ .storeFlush nextSeq) (taken : ReceiverStep env st label after) :
    Silent after calls := by
  cases taken with
  | read phase fits => exact h.congr rfl rfl rfl rfl
  | frame phase => exact h.frame
  | storeFlush nextSeq => exact absurd rfl (unflushed nextSeq)
  | flushWake phase =>
    have hwoken : Silent (st.record .wake) calls := h.congr rfl rfl rfl rfl
    rw [InterleavedReceiver.flushWake, hwoken.applyPendingFlush]
    exact hwoken
  | close phase => exact h.congr rfl rfl rfl rfl

theorem run (h : Silent st calls) {labels : List ReceiverLabel}
    (unflushed : ∀ nextSeq, .storeFlush nextSeq ∉ labels)
    (run : (interleavedReceiver env alac resampler).run st labels = some after) :
    Silent after calls := by
  induction labels generalizing st with
  | nil =>
    cases run
    exact h
  | cons label labels ih =>
    obtain ⟨next, hnext, hlater⟩ := Option.bind_eq_some_iff.mp run
    refine ih (h.step ?_ (step_cases hnext)) ?_ hlater
    · rintro nextSeq rfl
      exact unflushed nextSeq List.mem_cons_self
    · intro nextSeq hmem
      exact unflushed nextSeq (List.mem_cons_of_mem label hmem)

end Silent

/-- The frame that is not decoded leaves the receiver silent. -/
theorem silent_of_failed (h : Follows st through) (idle : st.state = NO_FLUSH) {data : List UInt8}
    (long : 12 ≤ data.length) (fits : data.length ≤ RAOP_PACKET_LEN)
    (failed : (env.decodeFrame st.buffer.alac
      (RaopBuffer.packetBuf env.toPacketEnv (data.drop 12))).1 = []) :
    Silent (st.play env data) st.calls := by
  have hplay := h.play env fits
  have hpending : through.pending = false := by
    rw [h.pending, idle]
    decide
  rw [h.mirrors.alac] at failed
  cases hmuted : through.muted with
  | true =>
    rw [PassThrough.play_muted env hmuted data] at hplay
    exact ⟨through, hplay, hpending, hmuted, h.calls.symm⟩
  | false =>
    have hactive : ¬(through.muted = true ∨ data.length < 12) := by
      rw [hmuted]
      rintro (hmuted | hless)
      · cases hmuted
      · omega
    simp only [PassThrough.play, if_neg hactive, failed, List.isEmpty_nil, if_true] at hplay
    exact ⟨_, hplay, hpending, rfl, h.calls.symm⟩

end InterleavedReceiver

open InterleavedReceiver in
/-- However the bytes of the stream are cut, the session hears what the frames and the stored
flushes give one after another, with no buffer in between. The frames are those of the stream, and
the receiver never reaches its own limit. -/
theorem interleaved_passes_through {st : InterleavedReceiver δ ρ}
    (h : (interleavedReceiver env alac resampler).Reachable st) :
    st.calls = (PassThrough.run env alac resampler st.log).calls ∧
      st.log.filterMap StreamOp.data <+: streamFrames st.received ∧
      (st.phase = .selecting → st.log.filterMap StreamOp.data = streamFrames st.received) ∧
      st.packetBuf.length < 4 + RAOP_PACKET_LEN + READ_BUF_LEN := by
  obtain ⟨outputs, rest, hpasses⟩ := of_reachable h
  refine ⟨hpasses.follows.calls, ?_, fun hphase => ?_, hpasses.length⟩
  · have hprefix := hpasses.reads.prefix_drain nextFrame_stable nextFrame_nil []
    rw [List.append_nil] at hprefix
    rw [hpasses.frames]
    exact hprefix.reduceOption
  · have hrest := hpasses.rest (by rw [hphase]; rintro ⟨⟩)
    have hsettled : Settled nextFrame () rest := by
      rw [hrest]
      exact settled_of_more (hpasses.more hphase)
    rw [hpasses.frames, streamFrames,
      hpasses.reads.outputs_eq_drain nextFrame_stable nextFrame_nil hsettled]

namespace Interleaving

/-- The chunks leave the resampler as they are. -/
def receiverEnv : InterleavedEnv Unit Unit where
  toPacketEnv := Reordered.env
  processIntoBuffer _ chunk := (chunk, ())

def mono : StreamResampler Unit :=
  ⟨(), 1, []⟩

def frame (payload : List UInt8) : List UInt8 :=
  DOLLAR :: 0 :: 0 :: UInt8.ofNat (12 + payload.length) :: (List.replicate 12 0 ++ payload)

/-- A stray byte, a frame in two pieces, a frame with nothing in it and one behind it. -/
def stream : List UInt8 :=
  7 :: (frame (List.replicate 100 1) ++ frame [] ++ frame [3, 4])

def broken : List ReceiverLabel :=
  [.read (stream.take 10), .frame, .frame, .read (stream.drop 10), .frame]

/-- The frame after the flush fills the chunk that the first one has begun. -/
def restored : List ReceiverLabel :=
  [.frame, .frame, .frame, .storeFlush 5, .flushWake, .read (frame (List.replicate 30 5)), .frame,
    .frame]

end Interleaving

theorem interleaved_passes_through_on_stream :
    ∃ st, (interleavedReceiver Interleaving.receiverEnv () (some Interleaving.mono)).run
        (.new () (some Interleaving.mono)) (Interleaving.broken ++ Interleaving.restored) = some st ∧
      st.phase = .selecting ∧
      st.log = [.frame (List.replicate 12 0 ++ List.replicate 100 1), .frame (List.replicate 12 0),
        .frame (List.replicate 12 0 ++ [3, 4]), .stored 5, .wake,
        .frame (List.replicate 12 0 ++ List.replicate 30 5)] ∧
      st.calls = [.audioProcessTimed [], .audioFlush,
        .audioProcessTimed (List.replicate 100 1 ++ List.replicate 28 5)] ∧
      st.calls = (PassThrough.run Interleaving.receiverEnv () (some Interleaving.mono) st.log).calls ∧
      st.log.filterMap StreamOp.data <+: streamFrames st.received ∧
      (st.phase = .selecting → st.log.filterMap StreamOp.data = streamFrames st.received) ∧
      st.packetBuf.length < 4 + RAOP_PACKET_LEN + READ_BUF_LEN := by
  have hruns : ((interleavedReceiver Interleaving.receiverEnv () (some Interleaving.mono)).run
      (.new () (some Interleaving.mono)) (Interleaving.broken ++ Interleaving.restored)).map
        (fun st => (st.phase, st.log, st.calls)) =
      some (.selecting, [.frame (List.replicate 12 0 ++ List.replicate 100 1),
        .frame (List.replicate 12 0), .frame (List.replicate 12 0 ++ [3, 4]), .stored 5, .wake,
        .frame (List.replicate 12 0 ++ List.replicate 30 5)], [.audioProcessTimed [], .audioFlush,
        .audioProcessTimed (List.replicate 100 1 ++ List.replicate 28 5)]) := by
    decide +kernel
  obtain ⟨st, hrun, hobserved⟩ := Option.map_eq_some_iff.mp hruns
  simp only [Prod.mk.injEq] at hobserved
  exact ⟨st, hrun, hobserved.1, hobserved.2.1, hobserved.2.2,
    interleaved_passes_through (.of_run .init hrun)⟩

open InterleavedReceiver in
/-- From a frame that cannot be decoded on, the session hears nothing until a flush is stored,
whatever arrives. -/
theorem undecodable_frame_mutes {st after : InterleavedReceiver δ ρ} {labels : List ReceiverLabel}
    {data : List UInt8} {used : ℕ} (h : (interleavedReceiver env alac resampler).Reachable st)
    (idle : st.state = NO_FLUSH) (framing : st.phase = .framing)
    (next : nextFrame () st.packetBuf = .output (some data) used ()) (long : 12 ≤ data.length)
    (failed : (env.decodeFrame st.buffer.alac
      (RaopBuffer.packetBuf env.toPacketEnv (data.drop 12))).1 = [])
    (run : (interleavedReceiver env alac resampler).run st labels = some after)
    (unflushed : ∀ nextSeq, .storeFlush nextSeq ∉ labels) : after.calls = st.calls := by
  obtain ⟨outputs, rest, hpasses⟩ := of_reachable h
  cases labels with
  | nil =>
    cases run
    rfl
  | cons label labels =>
    obtain ⟨failing, hfirst, hlater⟩ := Option.bind_eq_some_iff.mp run
    have hframe : failing = st.frame env := by
      cases step_cases hfirst with
      | read phase fits => cases framing.symm.trans phase
      | frame phase => rfl
      | storeFlush nextSeq => exact absurd List.mem_cons_self (unflushed nextSeq)
      | flushWake phase => cases framing.symm.trans phase
      | close phase => cases framing.symm.trans phase
    have hsilent : InterleavedReceiver.Silent (st.frame env) st.calls := by
      obtain ⟨hnext, -⟩ | ⟨hnext, -⟩ | ⟨hnext, -⟩ | ⟨_, _, hnext, hfits, heq⟩ := st.frame_cases env
      · rw [next] at hnext
        cases hnext
      · rw [next] at hnext
        cases hnext
      · rw [next] at hnext
        cases hnext
      · rw [next] at hnext
        cases hnext
        have hidle : st.applyPendingFlush = st := if_pos idle
        rw [heq, hidle]
        exact (silent_of_failed hpasses.follows idle long hfits failed).congr rfl rfl rfl rfl
    rw [hframe] at hlater
    have hafter := hsilent.run (fun nextSeq hmem =>
      unflushed nextSeq (List.mem_cons_of_mem label hmem)) hlater
    obtain ⟨through, hfollows, -, -, hcalls⟩ := hafter
    exact hfollows.calls.trans hcalls

theorem undecodable_frame_mutes_on_stream :
    ∃ st after, (interleavedReceiver Interleaving.receiverEnv () (some Interleaving.mono)).run
        (.new () (some Interleaving.mono)) Interleaving.broken = some st ∧
      (interleavedReceiver Interleaving.receiverEnv () (some Interleaving.mono)).run st
        [.frame, .frame, .frame] = some after ∧
      st.packetBuf = Interleaving.frame [] ++ Interleaving.frame [3, 4] ∧ after.packetBuf = [] ∧
      after.calls = st.calls := by
  have hruns : ((interleavedReceiver Interleaving.receiverEnv () (some Interleaving.mono)).run
      (.new () (some Interleaving.mono)) Interleaving.broken).bind
      (fun st => ((interleavedReceiver Interleaving.receiverEnv () (some Interleaving.mono)).run st
        [.frame, .frame, .frame]).map
          fun after => (st.state, st.phase, st.packetBuf, after.packetBuf)) =
      some (NO_FLUSH, .framing, Interleaving.frame [] ++ Interleaving.frame [3, 4], []) := by
    decide +kernel
  obtain ⟨st, hrun, hlater⟩ := Option.bind_eq_some_iff.mp hruns
  obtain ⟨after, hafter, hobserved⟩ := Option.map_eq_some_iff.mp hlater
  simp only [Prod.mk.injEq] at hobserved
  obtain ⟨hstate, hphase, hbuf, hdone⟩ := hobserved
  have hnext : nextFrame () st.packetBuf = .output (some (List.replicate 12 0)) 16 () := by
    rw [hbuf, nextFrame]
    refine (if_neg ?_).trans ((if_neg ?_).trans ((if_neg ?_).trans (if_neg ?_))) <;> decide
  have hunflushed (nextSeq : Int) :
      .storeFlush nextSeq ∉ [ReceiverLabel.frame, .frame, .frame] := by
    simp
  exact ⟨st, after, hrun, hafter, hbuf, hdone, undecodable_frame_mutes (.of_run .init hrun) hstate
    hphase hnext (by decide) rfl hafter hunflushed⟩

end AirSonos.Raop
