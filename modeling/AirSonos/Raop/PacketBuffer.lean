import AirSonos.Raop.Playout

/-!
# The packet buffer of a legacy stream

Packets wait in 32 slots, each in the slot of its sequence number, until it is their turn. A
packet whose turn comes while it is missing is replaced by silence.
-/

namespace AirSonos.Raop

/-- `decryptBlocks` is AES-CBC over whole blocks of 16 bytes. `decodeFrame` is the ALAC decoder with
its state; no samples mean that it failed. -/
structure PacketEnv (δ : Type*) where
  decryptBlocks : List UInt8 → List UInt8
  decodeFrame : δ → List UInt8 → List Sample × δ
  audioBufferSize : ℕ

def RAOP_PACKET_LEN : ℕ := 32768
def RAOP_BUFFER_LENGTH : ℕ := 32

def seqnumCmp (s1 s2 : UInt16) : Int :=
  asI16 (s1 - s2)

/-- `samples` is the valid part of the audio buffer. -/
structure BufferEntry where
  available : Bool
  seqnum : UInt16
  samples : List Sample
deriving DecidableEq

namespace BufferEntry

def vacant (entry : BufferEntry) : BufferEntry :=
  { entry with available := false, samples := [] }

/-- The decoded packet that waits in the slot. -/
def packet (entry : BufferEntry) : Option (UInt16 × List Sample) :=
  if entry.available ∧ entry.samples ≠ [] then some (entry.seqnum, entry.samples) else none

end BufferEntry

/-- What a turn played: the packet, silence, or nothing for a slot whose packet was not decoded.
`forced` says that the buffer would not wait for the packet. -/
inductive Turn
  | packet (samples : List Sample)
  | silence (forced : Bool)
  | blank
deriving DecidableEq

/-- What the session hears in a turn. -/
def Turn.heard {δ : Type*} (env : PacketEnv δ) : Turn → List Sample
  | packet samples => samples
  | silence _ => List.replicate env.audioBufferSize 0
  | blank => []

/-- The last three fields record, since the buffer was last emptied, the packets that were
accepted, the first turn and all turns. -/
structure RaopBuffer (δ : Type*) where
  alac : δ
  isEmpty : Bool
  firstSeqnum : UInt16
  lastSeqnum : UInt16
  entries : List BufferEntry
  accepted : List (UInt16 × List Sample)
  start : UInt16
  turns : List Turn

namespace RaopBuffer

variable {δ : Type*} (env : PacketEnv δ)

def new (alac : δ) : RaopBuffer δ where
  alac := alac
  isEmpty := true
  firstSeqnum := 0
  lastSeqnum := 0
  entries := List.replicate RAOP_BUFFER_LENGTH ⟨false, 0, []⟩
  accepted := []
  start := 0
  turns := []

def slot (seqnum : UInt16) : ℕ :=
  seqnum.toNat % RAOP_BUFFER_LENGTH

def clear (buf : RaopBuffer δ) : RaopBuffer δ :=
  { buf with entries := buf.entries.map BufferEntry.vacant, accepted := [], turns := [] }

def flush (buf : RaopBuffer δ) (nextSeq : Int) : RaopBuffer δ :=
  if 0 ≤ nextSeq ∧ nextSeq ≤ 0xffff then
    let next := UInt16.ofNat nextSeq.toNat
    { buf.clear with firstSeqnum := next, lastSeqnum := next - 1, start := next }
  else { buf.clear with isEmpty := true }

def sequenceOf (data : List UInt8) : UInt16 :=
  (data.getD 2 0).toUInt16 <<< 8 ||| (data.getD 3 0).toUInt16

/-- The decrypted payload; its last bytes, less than a block, are sent in the clear. -/
def packetBuf (payload : List UInt8) : List UInt8 :=
  let encryptedLen := payload.length / 16 * 16
  env.decryptBlocks (payload.take encryptedLen) ++ payload.drop encryptedLen

/-- The packet goes into its slot. -/
def insert (buf : RaopBuffer δ) (seqnum : UInt16) (payload : List UInt8) : RaopBuffer δ × Int :=
  let old := buf.entries.getD (slot seqnum) ⟨false, 0, []⟩
  if old.available ∧ old.seqnum = seqnum then (buf, 0)
  else
    let (samples, alac) := env.decodeFrame buf.alac (packetBuf env payload)
    let marked := { old with available := true, seqnum := seqnum }
    if samples.isEmpty then
      ({ buf with alac := alac, entries := buf.entries.set (slot seqnum) marked }, 0)
    else
      let stored := { buf with
        alac := alac
        entries := buf.entries.set (slot seqnum) { marked with samples := samples }
        accepted := buf.accepted ++ [(seqnum, samples)] }
      let opened :=
        if buf.isEmpty then
          { stored with
            firstSeqnum := seqnum, lastSeqnum := seqnum, isEmpty := false, start := seqnum }
        else stored
      (if 0 < seqnumCmp seqnum opened.lastSeqnum then { opened with lastSeqnum := seqnum }
        else opened, 1)

def queue (buf : RaopBuffer δ) (data : List UInt8) (useSeqnum : Bool) : RaopBuffer δ × Int :=
  if data.length < 12 ∨ RAOP_PACKET_LEN < data.length then (buf, -1)
  else
    let seqnum := if useSeqnum then sequenceOf data else buf.firstSeqnum
    if buf.isEmpty = false ∧ seqnumCmp seqnum buf.firstSeqnum < 0 then (buf, 0)
    else if 0 ≤ seqnumCmp seqnum (buf.firstSeqnum + 32) then
      (buf.flush seqnum.toNat).insert env seqnum (data.drop 12)
    else buf.insert env seqnum (data.drop 12)

def buflen (buf : RaopBuffer δ) : Int :=
  seqnumCmp buf.lastSeqnum buf.firstSeqnum + 1

def dequeue (buf : RaopBuffer δ) (noResend : Bool) : RaopBuffer δ × Option (List Sample) :=
  if buf.isEmpty ∨ buf.buflen ≤ 0 then (buf, none)
  else
    let idx := slot buf.firstSeqnum
    let entry := buf.entries.getD idx ⟨false, 0, []⟩
    if noResend = false ∧ entry.available = false ∧ buf.buflen < RAOP_BUFFER_LENGTH then (buf, none)
    else
      let samples :=
        if entry.available then entry.samples else List.replicate env.audioBufferSize 0
      let turn : Turn :=
        if entry.available then if entry.samples.isEmpty then .blank else .packet entry.samples
        else .silence (noResend || RAOP_BUFFER_LENGTH ≤ buf.buflen)
      ({ buf with
        firstSeqnum := buf.firstSeqnum + 1
        entries := buf.entries.set idx entry.vacant
        turns := buf.turns ++ [turn] }, some samples)

/-- The packets that wait. -/
def waiting (buf : RaopBuffer δ) : List (UInt16 × List Sample) :=
  buf.entries.filterMap BufferEntry.packet

/-- The packets that were played, each with the sequence number of its turn. -/
def played (start : UInt16) : List Turn → List (UInt16 × List Sample)
  | [] => []
  | .packet samples :: turns => (start, samples) :: played (start + 1) turns
  | _ :: turns => played (start + 1) turns

variable {buf : RaopBuffer δ}

theorem getElem?_slot (length : buf.entries.length = RAOP_BUFFER_LENGTH) (seqnum : UInt16) :
    buf.entries[slot seqnum]? = some (buf.entries.getD (slot seqnum) ⟨false, 0, []⟩) := by
  have hlt : slot seqnum < buf.entries.length := by
    rw [length]
    exact Nat.mod_lt _ (by decide)
  rw [List.getD_eq_getElem?_getD, List.getElem?_eq_getElem hlt, Option.getD_some]

@[simp] theorem length_clear : buf.clear.entries.length = buf.entries.length :=
  List.length_map _

theorem vacant_of_mem_clear {entry : BufferEntry} (h : entry ∈ buf.clear.entries) :
    entry.available = false ∧ entry.samples = [] := by
  obtain ⟨old, -, rfl⟩ := List.mem_map.mp h
  exact ⟨rfl, rfl⟩

end RaopBuffer

inductive BufferLabel
  | queue (data : List UInt8) (useSeqnum : Bool)
  | dequeue (noResend : Bool)
  | flush (nextSeq : Int)

def packetBuffer {δ : Type*} (env : PacketEnv δ) (alac : δ) :
    TransitionSystem (RaopBuffer δ) BufferLabel where
  init := .new alac
  step buf
    | .queue data useSeqnum => some (buf.queue env data useSeqnum).1
    | .dequeue noResend => some (buf.dequeue env noResend).1
    | .flush nextSeq => some (buf.flush nextSeq)

end AirSonos.Raop
