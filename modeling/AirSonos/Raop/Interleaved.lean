import AirSonos.Lib.Incremental
import AirSonos.Lib.TransitionSystem
import AirSonos.Raop.PacketBuffer

/-!
# A legacy stream over TCP

The frames of the stream are not numbered for the buffer: every frame gets the next turn and is
played at once. So the 32 slots only pass the decoded frames through, until a frame cannot be
decoded. Its slot stays taken, and the frames behind it count as duplicates up to the next flush.
What is decoded goes through the resampler, if the session wants another rate. It works on whole
chunks and is not reset by a flush.
-/

namespace AirSonos.Raop

open Incremental

def NO_FLUSH : Int := -42
def DOLLAR : UInt8 := 36
def READ_BUF_LEN : ℕ := 4096
def CHUNK_SIZE : ℕ := 128

/-! ### The resampler -/

/-- `processIntoBuffer` is the sinc resampler with its state, on one chunk. -/
structure InterleavedEnv (δ ρ : Type*) extends PacketEnv δ where
  processIntoBuffer : ρ → List Sample → List Sample × ρ

structure StreamResampler (ρ : Type*) where
  resampler : ρ
  channels : ℕ
  pending : List Sample

section Resampler

variable {δ ρ : Type*} (env : InterleavedEnv δ ρ)

namespace StreamResampler

def nextChunk (channels : ℕ) (resampler : ρ) (pending : List Sample) : Verdict ρ (List Sample) :=
  let samplesPerChunk := CHUNK_SIZE * channels
  if pending.length < samplesPerChunk then .more
  else
    let (output, resampler) := env.processIntoBuffer resampler (pending.take samplesPerChunk)
    .output output samplesPerChunk resampler

/-- The whole chunks are resampled, and the rest waits. -/
def process (rs : StreamResampler ρ) (interleaved : List Sample) :
    List Sample × StreamResampler ρ :=
  let pending := rs.pending ++ interleaved
  let chunks := drain (nextChunk env rs.channels) pending.length rs.resampler pending
  (chunks.outputs.flatten, { rs with resampler := chunks.state, pending := chunks.rest })

end StreamResampler

/-- A session that takes the rate of the stream has no resampler. -/
def InterleavedEnv.resample (resampler : Option (StreamResampler ρ)) (samples : List Sample) :
    List Sample × Option (StreamResampler ρ) :=
  match resampler with
  | none => (samples, none)
  | some rs =>
    let (resampled, rs) := rs.process env samples
    (resampled, some rs)

end Resampler

/-! ### The receive task -/

/-- The calls that a session receives. -/
inductive SessionCall
  | audioProcessTimed (samples : List Sample)
  | audioFlush
deriving DecidableEq

inductive ReceiverPhase
  | selecting
  | framing
  | closed
deriving DecidableEq

/-- A flush is stored, the task wakes up for one, or a whole frame has arrived. -/
inductive StreamOp
  | stored (nextSeq : Int)
  | wake
  | frame (data : List UInt8)
deriving DecidableEq

def StreamOp.data : StreamOp → Option (List UInt8)
  | .frame data => some data
  | _ => none

/-- `state` is the flush that was stored last. `received` records the bytes of the stream, and
`log` what has happened. -/
structure InterleavedReceiver (δ ρ : Type*) where
  buffer : RaopBuffer δ
  state : Int
  resampler : Option (StreamResampler ρ)
  packetBuf : List UInt8
  phase : ReceiverPhase
  calls : List SessionCall
  received : List UInt8
  log : List StreamOp

namespace InterleavedReceiver

variable {δ ρ : Type*} (env : InterleavedEnv δ ρ)

def new (alac : δ) (resampler : Option (StreamResampler ρ)) : InterleavedReceiver δ ρ where
  buffer := .new alac
  state := NO_FLUSH
  resampler := resampler
  packetBuf := []
  phase := .selecting
  calls := []
  received := []
  log := []

def record (st : InterleavedReceiver δ ρ) (op : StreamOp) : InterleavedReceiver δ ρ :=
  { st with log := st.log ++ [op] }

/-- `RaopRtp::flush` -/
def storeFlush (st : InterleavedReceiver δ ρ) (nextSeq : Int) : InterleavedReceiver δ ρ :=
  { st.record (.stored nextSeq) with state := nextSeq }

def applyPendingFlush (st : InterleavedReceiver δ ρ) : InterleavedReceiver δ ρ :=
  if st.state = NO_FLUSH then st
  else { st with
    state := NO_FLUSH, buffer := st.buffer.flush st.state, calls := st.calls ++ [.audioFlush] }

def flushWake (st : InterleavedReceiver δ ρ) : InterleavedReceiver δ ρ :=
  (st.record .wake).applyPendingFlush

/-- A frame is queued in the next turn, and the turn is played. -/
def play (st : InterleavedReceiver δ ρ) (data : List UInt8) : InterleavedReceiver δ ρ :=
  match (st.buffer.queue env.toPacketEnv data false).1.dequeue env.toPacketEnv true with
  | (buffer, some samples) =>
    let (resampled, resampler) := env.resample st.resampler samples
    { st.record (.frame data) with
      buffer := buffer
      resampler := resampler
      calls := st.calls ++ [SessionCall.audioProcessTimed resampled] }
  | (buffer, none) => { st.record (.frame data) with buffer := buffer }

def rtpLen (packetBuf : List UInt8) : ℕ :=
  (packetBuf.getD 2 0).toNat * 256 + (packetBuf.getD 3 0).toNat

def receive (st : InterleavedReceiver δ ρ) (data : List UInt8) : InterleavedReceiver δ ρ :=
  let packetBuf := st.packetBuf ++ data
  { st with
    packetBuf := packetBuf
    received := st.received ++ data
    phase := if RAOP_PACKET_LEN * 4 < packetBuf.length then .closed else .framing }

/-- One round of the loop over the bytes that have arrived. -/
def frame (st : InterleavedReceiver δ ρ) : InterleavedReceiver δ ρ :=
  if st.packetBuf.length < 4 then { st with phase := .selecting }
  else if st.packetBuf.getD 0 0 ≠ DOLLAR ∨ st.packetBuf.getD 1 0 ≠ 0 then
    { st with packetBuf := st.packetBuf.drop 1 }
  else if RAOP_PACKET_LEN < rtpLen st.packetBuf then { st with packetBuf := [], phase := .closed }
  else if st.packetBuf.length < 4 + rtpLen st.packetBuf then { st with phase := .selecting }
  else
    { (st.applyPendingFlush.play env ((st.packetBuf.drop 4).take (rtpLen st.packetBuf))) with
      packetBuf := st.packetBuf.drop (4 + rtpLen st.packetBuf) }

end InterleavedReceiver

/-- `read` is what the socket returned, at most one buffer of it. `close` is the end of the stream,
a socket error or the shutdown. -/
inductive ReceiverLabel
  | read (data : List UInt8)
  | frame
  | storeFlush (nextSeq : Int)
  | flushWake
  | close

def interleavedReceiver {δ ρ : Type*} (env : InterleavedEnv δ ρ) (alac : δ)
    (resampler : Option (StreamResampler ρ)) :
    TransitionSystem (InterleavedReceiver δ ρ) ReceiverLabel where
  init := .new alac resampler
  step st
    | .read data =>
      if st.phase = .selecting ∧ 0 < data.length ∧ data.length ≤ READ_BUF_LEN then
        some (st.receive data)
      else none
    | .frame => if st.phase = .framing then some (st.frame env) else none
    | .storeFlush nextSeq => some (st.storeFlush nextSeq)
    | .flushWake => if st.phase = .selecting then some st.flushWake else none
    | .close => if st.phase = .selecting then some { st with phase := .closed } else none

/-! ### The frames of a stream -/

/-- A frame, or one byte that begins none. -/
def nextFrame (_ : Unit) (stream : List UInt8) : Verdict Unit (Option (List UInt8)) :=
  if stream.length < 4 then .more
  else if stream.getD 0 0 ≠ DOLLAR ∨ stream.getD 1 0 ≠ 0 then .output none 1 ()
  else if RAOP_PACKET_LEN < InterleavedReceiver.rtpLen stream then .malformed
  else if stream.length < 4 + InterleavedReceiver.rtpLen stream then .more
  else
    .output (some ((stream.drop 4).take (InterleavedReceiver.rtpLen stream)))
      (4 + InterleavedReceiver.rtpLen stream) ()

def streamFrames (stream : List UInt8) : List (List UInt8) :=
  (drain nextFrame stream.length () stream).outputs.reduceOption

theorem getD_append {i : ℕ} {input : List UInt8} (h : i < input.length) (more : List UInt8) :
    (input ++ more).getD i 0 = input.getD i 0 := by
  rw [List.getD_eq_getElem?_getD, List.getD_eq_getElem?_getD, List.getElem?_append_left h]

theorem nextFrame_nil (s : Unit) : nextFrame s [] = .more :=
  if_pos (by decide)

theorem nextFrame_stable : Stable nextFrame where
  used_pos {_ stream _ _ _} h := by
    simp only [nextFrame] at h
    split at h
    · cases h
    · split at h
      · cases h
        exact Nat.one_pos
      · split at h
        · cases h
        · split at h
          · cases h
          · cases h
            omega
  used_le {_ stream _ _ _} h := by
    simp only [nextFrame] at h
    split at h
    · cases h
    · rename_i hlength
      split at h
      · cases h
        omega
      · split at h
        · cases h
        · split at h
          · cases h
          · rename_i hwhole
            cases h
            exact Nat.not_lt.mp hwhole
  extend {_ stream _ _ _} more h := by
    simp only [nextFrame] at h
    split at h
    · cases h
    · rename_i hlength
      have hlonger : ¬(stream ++ more).length < 4 := by
        rw [List.length_append]
        omega
      have hlen : InterleavedReceiver.rtpLen (stream ++ more) =
          InterleavedReceiver.rtpLen stream := by
        rw [InterleavedReceiver.rtpLen, getD_append (by omega), getD_append (by omega)]
        rfl
      rw [nextFrame, if_neg hlonger, getD_append (by omega), getD_append (by omega), hlen]
      split at h
      · rename_i hgarbage
        rw [if_pos hgarbage]
        exact h
      · rename_i hmarked
        rw [if_neg hmarked]
        split at h
        · cases h
        · rename_i hsmall
          rw [if_neg hsmall]
          split at h
          · cases h
          · rename_i hwhole
            have hdrop : 4 ≤ stream.length := Nat.not_lt.mp hlength
            rw [if_neg (by rw [List.length_append]; omega),
              List.drop_append_of_le_length hdrop, List.take_append_of_le_length]
            · exact h
            · rw [List.length_drop]
              omega

/-- A stream that waits for the end of a frame is short. -/
theorem length_of_more {stream : List UInt8} (h : nextFrame () stream = .more) :
    stream.length < 4 + RAOP_PACKET_LEN := by
  simp only [nextFrame] at h
  split at h
  · rename_i hshort
    exact Nat.lt_of_lt_of_le hshort (Nat.le_add_right _ _)
  · split at h
    · cases h
    · split at h
      · cases h
      · rename_i hsmall
        split at h
        · rename_i hpart
          omega
        · cases h

/-! ### The stream without its buffer -/

/-- `pending` while a flush is stored, and `muted` after a frame that was not decoded. -/
structure PassThrough (δ ρ : Type*) where
  alac : δ
  resampler : Option (StreamResampler ρ)
  pending : Bool
  muted : Bool
  calls : List SessionCall

namespace PassThrough

variable {δ ρ : Type*} (env : InterleavedEnv δ ρ)

def flush (through : PassThrough δ ρ) : PassThrough δ ρ :=
  if through.pending then
    { through with pending := false, muted := false, calls := through.calls ++ [.audioFlush] }
  else through

def play (through : PassThrough δ ρ) (data : List UInt8) : PassThrough δ ρ :=
  if through.muted ∨ data.length < 12 then through
  else
    let (samples, alac) :=
      env.decodeFrame through.alac (RaopBuffer.packetBuf env.toPacketEnv (data.drop 12))
    if samples.isEmpty then { through with alac := alac, muted := true }
    else
      let (resampled, resampler) := env.resample through.resampler samples
      { through with
        alac := alac
        resampler := resampler
        calls := through.calls ++ [.audioProcessTimed resampled] }

/-- A flush that was stored is heard before the next frame. -/
def step (through : PassThrough δ ρ) : StreamOp → PassThrough δ ρ
  | .stored nextSeq => { through with pending := decide (nextSeq ≠ NO_FLUSH) }
  | .wake => through.flush
  | .frame data => through.flush.play env data

def run (alac : δ) (resampler : Option (StreamResampler ρ)) (ops : List StreamOp) :
    PassThrough δ ρ :=
  ops.foldl (step env) ⟨alac, resampler, false, false, []⟩

theorem run_snoc (alac : δ) (resampler : Option (StreamResampler ρ)) (ops : List StreamOp)
    (op : StreamOp) :
    run env alac resampler (ops ++ [op]) = (run env alac resampler ops).step env op := by
  rw [run, List.foldl_append, List.foldl_cons, List.foldl_nil]
  rfl

theorem play_muted {through : PassThrough δ ρ} (muted : through.muted = true)
    (data : List UInt8) : through.play env data = through :=
  if_pos (.inl muted)

end PassThrough

end AirSonos.Raop
