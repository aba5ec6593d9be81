import AirSonos.Airplay.Buffered
import Mathlib.Algebra.BigOperators.Ring.List
import Mathlib.Algebra.Order.Field.Rat

/-!
# Packets are admitted once

The pieces of a packet follow each other without gap, each with the time of its first frame.
A call made with all credits free takes a piece, unless the queue cannot take one: the sample
limit is rounded down, and a piece cut there need not be whole frames.
-/

namespace AirSonos

/-- The formats the configuration lets pass. -/
structure BufferedEnv.Valid (env : BufferedEnv) : Prop where
  rate_ge : 8000 ≤ env.format.sampleRate
  rate_le : env.format.sampleRate ≤ 192000
  channels_ge : 1 ≤ env.format.channels
  channels_le : env.format.channels ≤ 2
  entry_le : env.entrySize ≤ 1024

variable {env : BufferedEnv} {packet : Packet}

theorem BufferedEnv.maxSamples_eq (valid : env.Valid) :
    env.queue.maxSamples = env.format.sampleRate * env.format.channels * 250 / 1000 := by
  have hrate := valid.rate_le
  have hproduct : env.format.sampleRate * env.format.channels ≤ 192000 * 2 :=
    Nat.mul_le_mul hrate valid.channels_le
  have hmillis : Duration.asMillis (Duration.fromMillis 250) = 250 := by decide
  simp only [queue, PcmQueue.new, hmillis]
  apply Nat.min_eq_left
  have husize : 192000 * 2 ≤ USIZE_MAX := by decide
  omega

theorem BufferedEnv.maxSamples_pos (valid : env.Valid) : 0 < env.queue.maxSamples := by
  have hproduct : 8000 * 1 ≤ env.format.sampleRate * env.format.channels :=
    Nat.mul_le_mul valid.rate_ge valid.channels_ge
  rw [maxSamples_eq valid]
  omega

theorem BufferedEnv.maxSamples_le (valid : env.Valid) : env.queue.maxSamples * 4 ≤ ISIZE_MAX := by
  have hproduct : env.format.sampleRate * env.format.channels ≤ 192000 * 2 :=
    Nat.mul_le_mul valid.rate_le valid.channels_le
  have hisize : 192000 * 2 * 4 ≤ ISIZE_MAX := by decide
  rw [maxSamples_eq valid]
  omega

/-! ### The pieces -/

/-- The frames in front of the piece `k`. -/
def frameOffset (env : BufferedEnv) (pieces : List PcmFrame) (k : Nat) : Nat :=
  ((pieces.take k).map fun piece => piece.samples.length / env.format.channels).sum

/-- The pieces are whole frames, they are the packet up to `progress`, and each has the time of
its first frame. -/
structure Pieces (env : BufferedEnv) (packet : Packet) (progress : Nat) (pieces : List PcmFrame) :
    Prop where
  samples : (pieces.map PcmFrame.samples).flatten = packet.samples.take progress
  whole : ∀ piece ∈ pieces, env.format.channels ∣ piece.samples.length
  time : ∀ k piece, pieces[k]? = some piece →
    piece.presentationTime = packet.presentationTime.map fun at_ =>
      at_ + env.fromSecs (frameOffset env pieces k / env.format.sampleRate)

theorem Pieces.nil : Pieces env packet 0 [] where
  samples := rfl
  whole := List.forall_mem_nil _
  time := by simp

/-- The frames of the pieces are the frames of the packet up to `progress`. -/
theorem Pieces.frames_eq {progress : Nat} {pieces : List PcmFrame}
    (h : Pieces env packet progress pieces) (hle : progress ≤ packet.samples.length) :
    frameOffset env pieces pieces.length * env.format.channels = progress := by
  have hlength := congrArg List.length h.samples
  rw [List.length_flatten, List.length_take_of_le hle, List.map_map] at hlength
  rw [frameOffset, List.take_length, ← hlength, ← List.sum_map_mul_right]
  apply congrArg List.sum
  apply List.map_congr_left
  intro piece hpiece
  exact Nat.div_mul_cancel (h.whole piece hpiece)

theorem Pieces.pieceTime_eq (valid : env.Valid) {progress : Nat} {pieces : List PcmFrame}
    (h : Pieces env packet progress pieces) (hle : progress ≤ packet.samples.length) :
    env.pieceTime packet progress = packet.presentationTime.map fun at_ =>
      at_ + env.fromSecs (frameOffset env pieces pieces.length / env.format.sampleRate) := by
  have hchannels : (env.format.channels : ℚ) ≠ 0 :=
    Nat.cast_ne_zero.mpr (Nat.one_le_iff_ne_zero.mp valid.channels_ge)
  have hoffset : (progress : ℚ) / (env.format.sampleRate * env.format.channels) =
      frameOffset env pieces pieces.length / env.format.sampleRate := by
    rw [← h.frames_eq hle, Nat.cast_mul]
    exact mul_div_mul_right _ _ hchannels
  rw [BufferedEnv.pieceTime, hoffset]

/-- The next piece starts where the last one ended. -/
theorem Pieces.snoc (valid : env.Valid) {st : BufferedSession} {pieces : List PcmFrame}
    (h : Pieces env packet st.progress pieces) {stop : Nat} (hstop : st.progress ≤ stop)
    (hle : stop ≤ packet.samples.length) {permit : PcmPermit}
    (hwhole : env.format.channels ∣ (st.piece env packet stop permit).samples.length) :
    Pieces env packet stop (pieces ++ [st.piece env packet stop permit]) where
  samples := by
    have hfront : packet.samples.take st.progress =
        (packet.samples.take stop).take st.progress := by
      rw [List.take_take, Nat.min_eq_left hstop]
    rw [List.map_append, List.flatten_append, h.samples, hfront]
    simp [BufferedSession.piece, BufferedEnv.frame]
  whole := by
    intro piece hpiece
    obtain hpiece | hpiece := List.mem_append.mp hpiece
    · exact h.whole piece hpiece
    · cases List.mem_singleton.mp hpiece
      exact hwhole
  time := by
    intro k piece hpiece
    by_cases hk : k < pieces.length
    · rw [List.getElem?_append_left hk] at hpiece
      rw [frameOffset, List.take_append_of_le_length hk.le]
      exact h.time k piece hpiece
    · have hlast : k = pieces.length := by
        have hlength := (List.getElem?_eq_some_iff.mp hpiece).1
        simp only [List.length_append, List.length_singleton] at hlength
        omega
      subst hlast
      rw [List.getElem?_append_right (Nat.le_refl _), Nat.sub_self] at hpiece
      cases hpiece
      have htime := h.pieceTime_eq valid (hstop.trans hle)
      rw [frameOffset, List.take_append_of_le_length (Nat.le_refl _)]
      exact htime

/-! ### The invariant -/

/-- The progress that the last call for the packet started from. -/
def Call.start (progress : Nat) : Call → Nat
  | returned => progress
  | reserving _ start => start
  | pushing _ start _ _ => start

namespace BufferedSession

/-- The permits with queued and popped frames. -/
def downstream (st : BufferedSession) : List PcmPermit :=
  PcmQueue.permits st.pcm.frames ++ st.held

/-- What a call has done since the receiver made it: it has taken no piece, or one of full
length unless the packet ended. While it has taken none, no credits come into use. -/
structure Since (env : BufferedEnv) (packet : Packet) (st : BufferedSession) (free : Bool)
    (start : Nat) : Prop where
  start_le : start ≤ st.progress
  advanced : st.progress < packet.samples.length →
    st.progress = start ∨ start + env.queue.maxSamples ≤ st.progress
  unused : free = true → st.progress = start → st.downstream = []

def Stands (env : BufferedEnv) (packet : Packet) (st : BufferedSession) : Call → Prop
  | .returned => True
  | .reserving free start => Since env packet st free start
  | .pushing free start stop _ =>
    Since env packet st free start ∧ st.progress < packet.samples.length ∧
      stop = min (st.progress + env.queue.maxSamples) packet.samples.length

structure Advancing (env : BufferedEnv) (packet : Packet) (st : BufferedSession) : Prop where
  progress_le : st.progress ≤ packet.samples.length
  full : st.progress < packet.samples.length → env.queue.maxSamples ∣ st.progress
  pieces : Pieces env packet st.progress st.pushed
  stands : Stands env packet st st.call

/-- The packet is whole frames, and so is every piece of it. -/
def CutsWhole (env : BufferedEnv) (packet : Packet) : Prop :=
  env.format.channels ∣ packet.samples.length ∧
    (packet.samples.length ≤ env.queue.maxSamples ∨
      env.format.channels ∣ env.queue.maxSamples)

structure Sound (env : BufferedEnv) (st : BufferedSession) : Prop extends Funded env st where
  idle : st.offered = none → st.call = .returned ∧ st.progress = 0 ∧ st.pushed = [] ∧ st.refusals = 0
  advancing : ∀ packet, st.offered = some packet → Advancing env packet st
  counted : ∀ packet, st.offered = some packet → CutsWhole env packet →
    st.refusals * env.queue.maxSamples ≤ st.call.start st.progress
  admitted : ∀ entry ∈ st.admitted, Pieces env entry.1 entry.1.samples.length entry.2

variable {st after : BufferedSession}

/-! ### A call with all credits free -/

/-- The credits hold a piece when none is in use. -/
theorem tryReserve_isSome (valid : env.Valid) (h : Funded env st) (hnone : st.outstanding = [])
    {samples : Nat} (hsamples : samples ≤ env.queue.maxSamples) :
    ∃ credits permit, st.credits.tryReserve env.entrySize samples = some (credits, permit) := by
  have husedSamples := h.usedSamples
  have husedBytes := h.usedBytes
  rw [hnone, List.map_nil, List.sum_nil] at husedSamples husedBytes
  have hbytes : samples * 4 + env.entrySize ≤ env.queue.maxBytes :=
    PcmQueue.allocated_le_maxBytes valid.entry_le
      ((Nat.mul_le_mul_right 4 hsamples).trans (BufferedEnv.maxSamples_le valid)) hsamples
  have husize : env.queue.maxBytes ≤ USIZE_MAX := Nat.min_le_right _ _
  simp only [PcmCredits.tryReserve, h.maxSamples, h.maxBytes, husedSamples, husedBytes]
  rw [if_neg (by omega), if_neg (by omega)]
  exact ⟨_, _, rfl⟩

/-- The length of the next piece. -/
theorem piece_length {stop : Nat} (hle : stop ≤ packet.samples.length) (permit : PcmPermit) :
    (st.piece env packet stop permit).samples.length = stop - st.progress := by
  simp only [piece, BufferedEnv.frame, List.length_drop, List.length_take_of_le hle]

theorem admits_piece (valid : env.Valid) {stop : Nat} (hstop : st.progress < stop)
    (hle : stop ≤ packet.samples.length) (hlimit : stop ≤ st.progress + env.queue.maxSamples)
    {permit : PcmPermit} :
    env.queue.admits (st.piece env packet stop permit) = true ↔
      env.format.channels ∣ stop - st.progress := by
  have hlength : (st.piece env packet stop permit).samples.length = stop - st.progress :=
    piece_length hle permit
  have hcapacity : (st.piece env packet stop permit).capacity = stop - st.progress := hlength
  have hsome : (st.piece env packet stop permit).samples ≠ [] := by
    apply List.ne_nil_of_length_pos
    omega
  have hfits : stop - st.progress ≤ env.queue.maxSamples := by omega
  have hchannels : env.queue.channels ≠ 0 := Nat.one_le_iff_ne_zero.mp valid.channels_ge
  simp only [PcmQueue.admits, hlength, hcapacity, Bool.and_eq_true, decide_eq_true_eq]
  constructor
  · intro hadmits
    exact Nat.dvd_of_mod_eq_zero hadmits.2
  · intro hwhole
    exact ⟨⟨⟨⟨⟨⟨hsome, hfits⟩, hfits⟩, rfl⟩, rfl⟩, hchannels⟩, Nat.mod_eq_zero_of_dvd hwhole⟩

/-- A piece that passes the checks is not refused while no queued frame holds a permit. -/
theorem not_refused (h : Funded env st) (hnone : PcmQueue.permits st.pcm.frames = [])
    {stop : Nat} {permit : PcmPermit} {now : Instant}
    (hadmits : env.queue.admits (st.piece env packet stop permit) = true) :
    ¬∃ after, st.emitPcm env ((packet.samples.take stop).drop st.progress)
      (env.pieceTime packet st.progress) (some permit) now = some (after, false) := by
  rintro ⟨after, hemit⟩
  simp only [emitPcm] at hemit
  split at hemit
  · case isTrue hearly =>
    obtain hlong | hclosed := hearly
    · simp only [PcmQueue.admits, Bool.and_eq_true, decide_eq_true_eq] at hadmits
      exact absurd hadmits.1.1.1.1.1.2 (Nat.not_le_of_lt hlong)
    · rw [h.opened] at hclosed
      cases hclosed
  · obtain ⟨⟨pcm, admission⟩, hpush, heq⟩ := Option.map_eq_some_iff.mp hemit
    have hrefused : admission.accepted = false := congrArg Prod.snd heq
    cases PcmQueue.pushAt_pushed hpush with
    | closed hclosed =>
      rw [h.opened] at hclosed
      cases hclosed
    | turnedAway _ hturned =>
      have hsame : env.queue.admits (st.piece env packet stop permit) = false := hturned
      rw [hadmits] at hsame
      cases hsame
    | @refused n entry rest _ _ _ hfront hpermit =>
      have hmem : entry ∈ (env.queue.expire st.pcm now).frames.drop n := by
        rw [hfront]
        exact List.mem_cons_self
      have hexpire : PcmQueue.permits (env.queue.expire st.pcm now).frames = [] := by
        rw [PcmQueue.permits_expire, hnone]
      have hfree := List.filterMap_eq_nil_iff.mp hexpire entry (List.mem_of_mem_drop hmem)
      simp [PcmQueue.isPermitFree, hfree] at hpermit
    | accepted => cases hrefused

/-! ### The steps -/

theorem Since.of_downstream {free : Bool} {start : Nat} (h : Since env packet st free start)
    (hprogress : after.progress = st.progress)
    (hdownstream : st.downstream = [] → after.downstream = []) :
    Since env packet after free start where
  start_le := hprogress ▸ h.start_le
  advanced := hprogress ▸ h.advanced
  unused hfree hstart := hdownstream (h.unused hfree (hprogress ▸ hstart))

/-- A step of the consumer leaves the packet where it is. -/
theorem Sound.quiet (h : Sound env st) (funded : Funded env after)
    (hcall : after.call = st.call) (hprogress : after.progress = st.progress)
    (hoffered : after.offered = st.offered) (hpushed : after.pushed = st.pushed)
    (hadmitted : after.admitted = st.admitted) (hrefusals : after.refusals = st.refusals)
    (hdownstream : st.call ≠ .returned → st.downstream = [] → after.downstream = []) :
    Sound env after where
  toFunded := funded
  idle := by
    rw [hcall, hprogress, hoffered, hpushed, hrefusals]
    exact h.idle
  advancing := by
    intro packet hpacket
    obtain ⟨hle, hfull, hpieces, hstands⟩ := h.advancing packet (hoffered ▸ hpacket)
    rw [← hprogress] at hle hfull hpieces
    rw [← hpushed] at hpieces
    refine ⟨hle, hfull, hpieces, ?_⟩
    rw [hcall]
    cases hcase : st.call with
    | returned => trivial
    | reserving free start =>
      rw [hcase] at hstands hdownstream
      exact hstands.of_downstream hprogress (hdownstream (by simp))
    | pushing free start stop permit =>
      rw [hcase] at hstands hdownstream
      simp only [Stands, hprogress]
      exact ⟨hstands.1.of_downstream hprogress (hdownstream (by simp)), hstands.2⟩
  counted := by
    rw [hcall, hprogress, hoffered, hrefusals]
    exact h.counted
  admitted := hadmitted ▸ h.admitted

/-- A call that was made with all credits free has taken a piece before it is refused. -/
theorem Sound.refuse {free : Bool} {start : Nat} (h : Sound env st)
    (funded : Funded env (after.refuse free)) (hoffered : st.offered = some packet)
    (hstart : st.call.start st.progress = start) (hmore : st.progress < packet.samples.length)
    (hsince : Since env packet st free start)
    (hadvanced : CutsWhole env packet → free = true → st.progress ≠ start)
    (same : after.progress = st.progress ∧ after.offered = st.offered ∧ after.pushed = st.pushed ∧
      after.admitted = st.admitted ∧ after.refusals = st.refusals) :
    Sound env (after.refuse free) := by
  obtain ⟨hprogress, hsameOffer, hpushed, hadmitted, hrefusals⟩ := same
  have hadvancing := h.advancing packet hoffered
  refine { toFunded := funded, idle := ?_, advancing := ?_, counted := ?_, admitted := ?_ }
  · intro hnone
    have hcontra : st.offered = none := hsameOffer ▸ hnone
    rw [hoffered] at hcontra
    cases hcontra
  · intro other hother
    have hsame : some packet = some other := by
      rw [← hoffered, ← hsameOffer]
      exact hother
    cases hsame
    refine ⟨?_, ?_, ?_, trivial⟩
    · exact hprogress ▸ hadvancing.progress_le
    · exact hprogress ▸ hadvancing.full
    · have hpieces := hadvancing.pieces
      rw [← hprogress, ← hpushed] at hpieces
      exact hpieces
  · intro other hother hcuts
    have hsame : some packet = some other := by
      rw [← hoffered, ← hsameOffer]
      exact hother
    cases hsame
    have hcounted := h.counted packet hoffered hcuts
    rw [hstart] at hcounted
    have hle := hsince.start_le
    simp only [BufferedSession.refuse, Call.start, hprogress, hrefusals]
    cases free with
    | false => exact hcounted.trans hle
    | true =>
      obtain hstill | hpiece := hsince.advanced hmore
      · exact absurd hstill (hadvanced hcuts rfl)
      · rw [Bool.toNat_true, Nat.succ_mul]
        omega
  · exact hadmitted ▸ h.admitted

theorem not_refused_whole (valid : env.Valid) (h : Funded env st) {stop : Nat}
    {permit : PcmPermit} {now : Instant} (hadvancing : Advancing env packet st)
    (hmore : st.progress < packet.samples.length)
    (hstop : stop = min (st.progress + env.queue.maxSamples) packet.samples.length)
    (hnone : st.downstream = []) (hcuts : CutsWhole env packet) :
    ¬∃ after, st.emitPcm env ((packet.samples.take stop).drop st.progress)
      (env.pieceTime packet st.progress) (some permit) now = some (after, false) := by
  have hpositive := BufferedEnv.maxSamples_pos valid
  apply not_refused h (List.append_eq_nil_iff.mp hnone).1
  apply (admits_piece valid (by omega) (by omega) (by omega)).mpr
  obtain ⟨hpacket, hshort | hlimit⟩ := hcuts
  · -- the whole packet is one piece
    have hzero : st.progress = 0 := by
      obtain ⟨k, hk⟩ := hadvancing.full hmore
      cases k with
      | zero => exact hk
      | succ k =>
        have hlong : env.queue.maxSamples * 1 ≤ env.queue.maxSamples * (k + 1) :=
          Nat.mul_le_mul_left _ (Nat.succ_le_succ (Nat.zero_le k))
        omega
    have hall : stop - st.progress = packet.samples.length := by omega
    rw [hall]
    exact hpacket
  · have hprogress : env.format.channels ∣ st.progress := hlimit.trans (hadvancing.full hmore)
    apply Nat.dvd_sub _ hprogress
    rw [hstop]
    obtain hmin | hmin := Nat.le_total (st.progress + env.queue.maxSamples) packet.samples.length
    · rw [Nat.min_eq_left hmin]
      exact Nat.dvd_add hprogress hlimit
    · rw [Nat.min_eq_right hmin]
      exact hpacket

theorem Sound.offers (h : Sound env st) (funded : Funded env after) (idle : st.call = .returned)
    (again : st.offered = none ∨ st.offered = some packet)
    (taken : after =
      { st with offered := some packet, call := .reserving st.credits.allFree st.progress }) :
    Sound env after := by
  subst taken
  have hbegin : st.progress ≤ packet.samples.length ∧
      (st.progress < packet.samples.length → env.queue.maxSamples ∣ st.progress) ∧
        Pieces env packet st.progress st.pushed := by
    obtain hnone | hsome := again
    · obtain ⟨_, hprogress, hpushed, _⟩ := h.idle hnone
      rw [hprogress, hpushed]
      exact ⟨Nat.zero_le _, fun _ => Nat.dvd_zero _, .nil⟩
    · have hadvancing := h.advancing packet hsome
      exact ⟨hadvancing.progress_le, hadvancing.full, hadvancing.pieces⟩
  refine { toFunded := funded, idle := ?_, advancing := ?_, counted := ?_, admitted := h.admitted }
  · intro hnone
    cases hnone
  · intro other hother
    cases hother
    refine ⟨hbegin.1, hbegin.2.1, hbegin.2.2, Nat.le_refl _, fun _ => .inl rfl, ?_⟩
    intro hfree _
    have hnone := h.none_outstanding hfree
    rw [outstanding, idle] at hnone
    exact (List.append_eq_nil_iff.mp hnone).1
  · intro other hother hcuts
    cases hother
    obtain hnone | hsome := again
    · have hrefusals : st.refusals * env.queue.maxSamples = 0 := by
        rw [(h.idle hnone).2.2.2, Nat.zero_mul]
      exact hrefusals ▸ Nat.zero_le _
    · have hcounted := h.counted packet hsome hcuts
      rw [idle] at hcounted
      exact hcounted

/-- Credits that were all free when the call was made hold its first piece. -/
theorem Sound.starves {free : Bool} {start : Nat} (valid : env.Valid) (h : Sound env st)
    (funded : Funded env (st.refuse free)) (offered : st.offered = some packet)
    (call : st.call = .reserving free start) (more : st.progress < packet.samples.length)
    (short : st.credits.tryReserve env.entrySize
      (min (st.progress + env.queue.maxSamples) packet.samples.length - st.progress) = none) :
    Sound env (st.refuse free) := by
  have hstands := (h.advancing packet offered).stands
  rw [call] at hstands
  refine h.refuse funded offered (by rw [call]; rfl) more hstands ?_ ⟨rfl, rfl, rfl, rfl, rfl⟩
  intro _ hfree hstill
  have hnone : st.outstanding = [] := by
    rw [outstanding, call]
    exact congrArg (· ++ []) (hstands.unused hfree hstill)
  have hfits : min (st.progress + env.queue.maxSamples) packet.samples.length - st.progress ≤
      env.queue.maxSamples := by
    omega
  obtain ⟨credits, permit, hgranted⟩ := tryReserve_isSome valid h.toFunded hnone hfits
  rw [hgranted] at short
  cases short

theorem Sound.reserves {free : Bool} {start : Nat} {credits : PcmCredits} {permit : PcmPermit}
    (h : Sound env st) (funded : Funded env after) (offered : st.offered = some packet)
    (call : st.call = .reserving free start) (more : st.progress < packet.samples.length)
    (taken : after =
      { st with
        credits := credits
        call := .pushing free start
          (min (st.progress + env.queue.maxSamples) packet.samples.length) permit }) :
    Sound env after := by
  subst taken
  have hadvancing := h.advancing packet offered
  have hstands := hadvancing.stands
  rw [call] at hstands
  refine { toFunded := funded, idle := ?_, advancing := ?_, counted := ?_, admitted := h.admitted }
  · intro hnone
    rw [offered] at hnone
    cases hnone
  · intro other hother
    have hsame : some packet = some other := offered ▸ hother
    cases hsame
    refine ⟨hadvancing.progress_le, hadvancing.full, hadvancing.pieces, ?_⟩
    exact ⟨hstands.of_downstream rfl id, more, rfl⟩
  · intro other hother hcuts
    have hcounted := h.counted other hother hcuts
    rw [call] at hcounted
    exact hcounted

theorem Sound.admits (h : Sound env st) (funded : Funded env (st.admitPacket packet))
    (offered : st.offered = some packet) (done : packet.samples.length ≤ st.progress) :
    Sound env (st.admitPacket packet) := by
  have hadvancing := h.advancing packet offered
  refine { toFunded := funded, idle := ?_, advancing := ?_, counted := ?_, admitted := ?_ }
  · intro _
    exact ⟨rfl, rfl, rfl, rfl⟩
  · intro other hother
    cases hother
  · intro other hother
    cases hother
  · intro entry hentry
    obtain hold | hnew := List.mem_append.mp hentry
    · exact h.admitted entry hold
    · cases List.mem_singleton.mp hnew
      have hall : st.progress = packet.samples.length :=
        Nat.le_antisymm hadvancing.progress_le done
      exact hall ▸ hadvancing.pieces

/-- The pushed piece ends at the packet's end or is of full length. -/
theorem Advancing.pushes {free : Bool} {start stop : Nat} {permit : PcmPermit}
    {pcm : PcmQueue.State} {warned : Bool} {events : Nat} (valid : env.Valid)
    (h : Advancing env packet st) (call : st.call = .pushing free start stop permit)
    (emitted : Emitted env st.pcm (st.piece env packet stop permit) pcm true) :
    Advancing env packet { st with
      pcm := pcm
      warnedMissingTiming := warned
      events := events
      progress := stop
      call := .reserving free start
      pushed := st.pushed ++ [st.piece env packet stop permit] } := by
  have hpositive := BufferedEnv.maxSamples_pos valid
  have hstands := h.stands
  rw [call] at hstands
  obtain ⟨hsince, more, hstop⟩ := hstands
  have hstart := hsince.start_le
  have hle : stop ≤ packet.samples.length := by omega
  have hwhole : env.format.channels ∣ (st.piece env packet stop permit).samples.length := by
    rw [piece_length hle]
    exact (admits_piece valid (by omega) hle (by omega)).mp (emitted.admits rfl)
  refine ⟨hle, ?_, h.pieces.snoc valid (by omega) hle hwhole, ?_, ?_, ?_⟩
  · intro hmore
    have hfull : stop = st.progress + env.queue.maxSamples := by
      simp only at hmore
      omega
    rw [hfull]
    exact Nat.dvd_add (h.full more) (Nat.dvd_refl _)
  · simp only
    omega
  · intro hmore
    have hadvanced := hsince.advanced more
    simp only at hmore ⊢
    omega
  · intro _ hstill
    simp only at hstill
    omega

theorem Sound.step (valid : env.Valid) (h : Sound env st) {label : BufferedLabel}
    (taken : BufferedStep env st label after) : Sound env after := by
  have funded : Funded env after := h.toFunded.step (BufferedEnv.maxSamples_pos valid) taken
  cases taken with
  | offers idle again => exact h.offers funded idle again rfl
  | starves offered call more short => exact h.starves valid funded offered call more short
  | reserves offered call more _ => exact h.reserves funded offered call more rfl
  | admits offered _ done => exact h.admits funded offered done
  | @pushes packet free start stop permit now pcm warned events offered call emitted =>
    refine { toFunded := funded, idle := ?_, advancing := ?_, counted := ?_, admitted := h.admitted }
    · intro hnone
      rw [offered] at hnone
      cases hnone
    · intro other hother
      have hsame : some packet = some other := offered ▸ hother
      cases hsame
      exact (h.advancing packet offered).pushes valid call emitted
    · intro other hother hcuts
      have hcounted := h.counted other hother hcuts
      rw [call] at hcounted
      exact hcounted
  | @refuses packet free start stop permit now pcm warned events offered call emitted failed =>
    have hadvancing := h.advancing packet offered
    have hstands := hadvancing.stands
    rw [call] at hstands
    obtain ⟨hsince, more, hstop⟩ := hstands
    refine h.refuse funded offered (by rw [call]; rfl) more hsince ?_ ⟨rfl, rfl, rfl, rfl, rfl⟩
    intro hcuts hfree hstill
    exact not_refused_whole valid h.toFunded hadvancing more hstop (hsince.unused hfree hstill) hcuts
      failed
  | @passes samples presentationTime now pcm warned events accepted idle emitted =>
    apply h.quiet funded rfl rfl rfl rfl rfl rfl
    intro hcalled
    exact absurd idle hcalled
  | @pops now =>
    apply h.quiet funded rfl rfl rfl rfl rfl rfl
    intro _ hnone
    have hpermits := @PcmQueue.permits_popAt env.queue st.pcm now
    rw [downstream, hpermits] at hnone
    simp only [List.append_eq_nil_iff] at hnone
    simp only [downstream, pop, hnone.1.1, hnone.1.2, hnone.2, List.append_nil]
  | @begins now =>
    apply h.quiet funded rfl rfl rfl rfl rfl rfl
    intro _ hnone
    have hpermits : PcmQueue.permits (env.queue.expire st.pcm now).frames =
        PcmQueue.permits st.pcm.frames := PcmQueue.permits_expire st.pcm now
    simp only [downstream, PcmQueue.beginBatch, hpermits] at hnone ⊢
    exact hnone
  | takes =>
    apply h.quiet funded rfl rfl rfl rfl rfl rfl
    intro _ hnone
    exact hnone
  | @drops permit held =>
    apply h.quiet funded rfl rfl rfl rfl rfl rfl
    intro _ hnone
    rw [(List.append_eq_nil_iff.mp hnone).2] at held
    cases held

theorem sound_of_reachable (valid : env.Valid) (h : (buffered env).Reachable st) :
    Sound env st := by
  refine TransitionSystem.Reachable.invariant (I := Sound env) ?_ ?_ h
  · refine { toFunded := ?_, idle := ?_, advancing := ?_, counted := ?_, admitted := ?_ }
    · refine ⟨⟨⟨rfl, rfl⟩, Nat.zero_le _, Nat.zero_le _⟩, rfl, rfl, rfl, rfl, rfl, ?_⟩
      exact List.forall_mem_nil _
    · intro _
      exact ⟨rfl, rfl, rfl, rfl⟩
    · intro packet hpacket
      cases hpacket
    · intro packet hpacket
      cases hpacket
    · exact List.forall_mem_nil _
  · intro s label t hs taken
    exact hs.step valid (step_cases taken)

/-! ### A call returns -/

/-- The steps that a call for the packet can still take. -/
def work (packet : Packet) (st : BufferedSession) : Nat :=
  match st.call with
  | .returned => 0
  | .reserving _ _ => 2 * (packet.samples.length - st.progress) + 1
  | .pushing _ _ _ _ => 2 * (packet.samples.length - st.progress)

theorem next_isSome (valid : env.Valid) (h : Sound env st) (hoffered : st.offered = some packet)
    (hcall : st.call ≠ .returned) (now : Instant) :
    ∃ after, st.step env (.next now) = some after := by
  cases hcase : st.call with
  | returned => exact absurd hcase hcall
  | reserving free start =>
    simp only [BufferedSession.step, next, hoffered, hcase]
    exact ⟨_, rfl⟩
  | pushing free start stop permit =>
    have hstands := (h.advancing packet hoffered).stands
    rw [hcase] at hstands
    obtain ⟨_, _, hstop⟩ := hstands
    have hlength : (st.piece env packet stop permit).samples.length ≤ env.queue.maxSamples := by
      rw [piece_length (by omega)]
      omega
    have hallocated : (st.piece env packet stop permit).capacity * 4 ≤ ISIZE_MAX :=
      (Nat.mul_le_mul_right 4 hlength).trans (BufferedEnv.maxSamples_le valid)
    have hpush : (env.queue.pushAt st.pcm (st.piece env packet stop permit) now).isSome = true :=
      PcmQueue.pushAt_isSome valid.entry_le hallocated h.within.toBalanced now
    obtain ⟨pushed, hpushed⟩ := Option.isSome_iff_exists.mp hpush
    simp only [BufferedSession.step, next, hoffered, hcase, push, emitPcm]
    split
    · exact ⟨_, rfl⟩
    · simp only [piece] at hpushed
      simp only [hpushed]
      exact ⟨_, rfl⟩

/-- No step makes the rest of a call longer, and its own steps make it shorter. -/
theorem work_step (valid : env.Valid) (h : Sound env st) {label : BufferedLabel}
    (hoffered : st.offered = some packet) (hcall : st.call ≠ .returned)
    (taken : BufferedStep env st label after) :
    after.work packet ≤ st.work packet ∧
      ∀ now, label = .next now → after.work packet < st.work packet := by
  have hpositive := BufferedEnv.maxSamples_pos valid
  cases taken with
  | offers idle => exact absurd idle hcall
  | starves _ call more => simp [work, call, BufferedSession.refuse]
  | reserves _ call => simp [work, call]
  | admits _ call => simp [work, call, admitPacket]
  | @pushes other free start stop permit now pcm warned events offered call emitted =>
    have hstands := (h.advancing other offered).stands
    rw [call] at hstands
    obtain ⟨_, more, hstop⟩ := hstands
    have hsame : some packet = some other := hoffered ▸ offered
    cases hsame
    have hshorter : 2 * (packet.samples.length - stop) + 1 <
        2 * (packet.samples.length - st.progress) := by
      omega
    simp only [work, call]
    exact ⟨hshorter.le, fun _ _ => hshorter⟩
  | @refuses other free start stop permit now pcm warned events offered call emitted =>
    have hstands := (h.advancing other offered).stands
    rw [call] at hstands
    have hsame : some packet = some other := hoffered ▸ offered
    cases hsame
    have hmore := hstands.2.1
    simp only [work, call, BufferedSession.refuse]
    exact ⟨Nat.zero_le _, fun _ _ => by omega⟩
  | passes idle => exact absurd idle hcall
  | pops => exact ⟨Nat.le_refl _, fun now hnow => by cases hnow⟩
  | begins => exact ⟨Nat.le_refl _, fun now hnow => by cases hnow⟩
  | takes => exact ⟨Nat.le_refl _, fun now hnow => by cases hnow⟩
  | drops => exact ⟨Nat.le_refl _, fun now hnow => by cases hnow⟩

/-! ### A piece that is not whole frames -/

/-- All credits are free, and the call that is made next starts from nothing. -/
structure Stuck (env : BufferedEnv) (packet : Packet) (n : Nat) (st : BufferedSession) : Prop where
  reachable : (buffered env).Reachable st
  call : st.call = .returned
  offered : st.offered = none ∨ st.offered = some packet
  progress : st.progress = 0
  free : st.credits.allFree = true
  refusals : st.refusals = n

/-- The queue refuses the first piece, and the next offer finds everything as it was. -/
theorem Stuck.next (valid : env.Valid) {n : Nat} (h : Stuck env packet n st)
    (hlong : env.queue.maxSamples < packet.samples.length)
    (hodd : ¬env.format.channels ∣ env.queue.maxSamples) :
    ∃ after, Stuck env packet (n + 1) after ∧ after.offered = some packet := by
  have hpositive := BufferedEnv.maxSamples_pos valid
  have hsound := sound_of_reachable valid h.reachable
  have hnone := hsound.none_outstanding h.free
  obtain ⟨credits, permit, hgranted⟩ :=
    tryReserve_isSome valid hsound.toFunded hnone (Nat.le_refl env.queue.maxSamples)
  have hrelease : credits.release permit = st.credits := by
    simp only [PcmCredits.tryReserve] at hgranted
    split at hgranted
    · cases hgranted
    · split at hgranted
      · cases hgranted
      · cases hgranted
        simp only [PcmCredits.release, Nat.add_sub_cancel]
  have hstop : min (st.progress + env.queue.maxSamples) packet.samples.length =
      env.queue.maxSamples := by
    rw [h.progress, Nat.zero_add]
    exact Nat.min_eq_left hlong.le
  have hturned : env.queue.admits (st.piece env packet env.queue.maxSamples permit) = false := by
    rw [Bool.eq_false_iff]
    intro hadmits
    apply hodd
    have hwhole := (admits_piece valid (by omega) hlong.le (by omega)).mp hadmits
    rw [h.progress, Nat.sub_zero] at hwhole
    exact hwhole
  have hlength : ((packet.samples.take env.queue.maxSamples).drop st.progress).length =
      env.queue.maxSamples := by
    rw [List.length_drop, List.length_take_of_le hlong.le, h.progress, Nat.sub_zero]
  have hpush : env.queue.pushAt st.pcm (env.frame
      ((packet.samples.take env.queue.maxSamples).drop st.progress)
        (env.pieceTime packet st.progress) (some permit)) 0 =
      some ({ st.pcm with dropped := st.pcm.dropped + 1 }, ⟨false, false⟩) := by
    simp only [piece] at hturned
    simp [PcmQueue.pushAt, hsound.opened, hturned]
  have hoffer : (buffered env).step st (.offer packet) =
      some { st with offered := some packet, call := .reserving true st.progress } := by
    simp only [buffered, BufferedSession.step, offer, h.call, h.offered, h.free, and_self, if_true]
  have hreserve : (buffered env).step
      { st with offered := some packet, call := .reserving true st.progress } (.next 0) =
        some { st with
          offered := some packet
          credits := credits
          call := .pushing true st.progress env.queue.maxSamples permit } := by
    have hmore : st.progress < packet.samples.length := by omega
    have hcount : env.queue.maxSamples - st.progress = env.queue.maxSamples := by omega
    simp only [buffered, BufferedSession.step, BufferedSession.next, reserve, hmore, hstop, hcount,
      hgranted, if_true]
  obtain ⟨after, hrefuse⟩ : ∃ after : BufferedSession, (buffered env).step
      { st with
        offered := some packet
        credits := credits
        call := .pushing true st.progress env.queue.maxSamples permit } (.next 0) =
          some (after.refuse true) ∧ after.offered = some packet ∧ after.progress = 0 ∧
            after.credits = st.credits ∧ after.refusals = n := by
    have hopen : ¬(env.queue.maxSamples < env.queue.maxSamples ∨ st.pcm.closed = true) := by
      simp [hsound.opened]
    simp only [buffered, BufferedSession.step, BufferedSession.next, push, emitPcm, hlength, hopen,
      if_false, hpush, Option.map_some, Bool.false_eq_true]
    exact ⟨_, rfl, rfl, h.progress, hrelease, h.refusals⟩
  obtain ⟨hrefuse, hoffered, hprogress, hcredits, hrefusals⟩ := hrefuse
  refine ⟨after.refuse true, ⟨?_, rfl, .inr hoffered, hprogress, ?_, ?_⟩, hoffered⟩
  · exact ((h.reachable.next hoffer).next hreserve).next hrefuse
  · exact hcredits ▸ h.free
  · exact congrArg (· + 1) hrefusals

theorem stuck_forever (valid : env.Valid) (hlong : env.queue.maxSamples < packet.samples.length)
    (hodd : ¬env.format.channels ∣ env.queue.maxSamples) (n : Nat) :
    ∃ st, Stuck env packet (n + 1) st ∧ st.offered = some packet := by
  induction n with
  | zero =>
    have hstart : Stuck env packet 0 (new env) := ⟨.init, rfl, .inl rfl, rfl, rfl, rfl⟩
    exact hstart.next valid hlong hodd
  | succ n ih =>
    obtain ⟨st, hstuck, _⟩ := ih
    exact hstuck.next valid hlong hodd

end BufferedSession

/-! ### Every packet -/

/-- A packet that the receiver offers until it is admitted is cut into pieces in order, every
call for it returns, and all but finitely many calls made with all credits free return true. -/
structure AdmittedOnce (env : BufferedEnv) (packet : Packet) : Prop where
  offered : ∀ st, (buffered env).Reachable st → st.offered = some packet →
    Pieces env packet st.progress st.pushed
  admitted : ∀ st pieces, (buffered env).Reachable st → (packet, pieces) ∈ st.admitted →
    Pieces env packet packet.samples.length pieces
  returns : ∀ st, (buffered env).Reachable st → st.offered = some packet → st.call ≠ .returned →
    (∀ now, ∃ after, st.step env (.next now) = some after) ∧
      ∀ label after, st.step env label = some after → after.work packet ≤ st.work packet ∧
        ∀ now, label = .next now → after.work packet < st.work packet
  finite : ∃ n, ∀ st, (buffered env).Reachable st → st.offered = some packet → st.refusals ≤ n

/-- A packet of whole frames is admitted once if it is a single piece or if the sample limit is
whole frames, and else never. -/
theorem admittedOnce_iff (valid : env.Valid)
    (whole : env.format.channels ∣ packet.samples.length) :
    AdmittedOnce env packet ↔
      packet.samples.length ≤ env.queue.maxSamples ∨
        env.format.channels ∣ env.queue.maxSamples := by
  constructor
  · intro h
    by_contra hcut
    simp only [not_or, Nat.not_le] at hcut
    obtain ⟨n, hfinite⟩ := h.finite
    obtain ⟨st, hstuck, hoffered⟩ := BufferedSession.stuck_forever valid hcut.1 hcut.2 n
    have hbound := hfinite st hstuck.reachable hoffered
    rw [hstuck.refusals] at hbound
    omega
  · intro hcut
    constructor
    · intro st hst hoffered
      exact ((BufferedSession.sound_of_reachable valid hst).advancing packet hoffered).pieces
    · intro st pieces hst hadmitted
      exact (BufferedSession.sound_of_reachable valid hst).admitted _ hadmitted
    · intro st hst hoffered hcall
      have hsound := BufferedSession.sound_of_reachable valid hst
      constructor
      · exact BufferedSession.next_isSome valid hsound hoffered hcall
      · intro label after taken
        exact BufferedSession.work_step valid hsound hoffered hcall
          (BufferedSession.step_cases taken)
    · refine ⟨packet.samples.length, ?_⟩
      intro st hst hoffered
      have hsound := BufferedSession.sound_of_reachable valid hst
      have hcounted := hsound.counted packet hoffered ⟨whole, hcut⟩
      have hpositive := BufferedEnv.maxSamples_pos valid
      have hstart : st.call.start st.progress ≤ packet.samples.length := by
        have hadvancing := hsound.advancing packet hoffered
        have hle := hadvancing.progress_le
        have hstands := hadvancing.stands
        cases hcase : st.call with
        | returned => exact hle
        | reserving free start =>
          rw [hcase] at hstands
          exact hstands.start_le.trans hle
        | pushing free start stop permit =>
          rw [hcase] at hstands
          exact hstands.1.start_le.trans hle
      exact (Nat.le_mul_of_pos_right _ hpositive).trans (hcounted.trans hstart)

/-- Seconds to the nearest nanosecond. -/
def roundSecs (secs : ℚ) : Duration :=
  (secs * 1000000000 + 1 / 2).floor.toNat

def sessionAt (sampleRate channels : Nat) : BufferedEnv where
  entrySize := 128
  format := ⟨sampleRate, channels, 32⟩
  playbackEpoch := 0
  fromSecs := roundSecs

def silence (samples : Nat) : Packet where
  samples := List.replicate samples 0
  presentationTime := some 0

/-- Two seconds at 44.1 kHz take eight pieces. -/
theorem admittedOnce_cd : AdmittedOnce (sessionAt 44100 2) (silence 176400) := by
  have hvalid : (sessionAt 44100 2).Valid := by constructor <;> decide
  have hwhole : (sessionAt 44100 2).format.channels ∣ (silence 176400).samples.length := by
    rw [silence, List.length_replicate]
    decide
  apply (admittedOnce_iff hvalid hwhole).mpr
  right
  rw [BufferedEnv.maxSamples_eq hvalid]
  decide

/-- At 22.05 kHz the sample limit is 11025, which is not a number of stereo frames. -/
theorem packet_stuck : ¬AdmittedOnce (sessionAt 22050 2) (silence 11026) := by
  intro h
  have hvalid : (sessionAt 22050 2).Valid := by constructor <;> decide
  have hlimit : (sessionAt 22050 2).queue.maxSamples = 11025 := by
    rw [BufferedEnv.maxSamples_eq hvalid]
    rfl
  have hlong : (sessionAt 22050 2).queue.maxSamples < (silence 11026).samples.length := by
    rw [hlimit, silence, List.length_replicate]
    decide
  have hodd : ¬(sessionAt 22050 2).format.channels ∣ (sessionAt 22050 2).queue.maxSamples := by
    rw [hlimit]
    decide
  obtain ⟨n, hfinite⟩ := h.finite
  obtain ⟨st, hstuck, hoffered⟩ := BufferedSession.stuck_forever hvalid hlong hodd n
  have hbound := hfinite st hstuck.reachable hoffered
  rw [hstuck.refusals] at hbound
  omega

end AirSonos
