import AirSonos.Raop.PacketBuffer
import Mathlib.Data.List.Perm.Basic

/-!
# Packets are played in their turn

Between two flushes every packet that is accepted is either waiting in its slot or was played,
once, and in the turn of its sequence number.
-/

namespace AirSonos.Raop

/-! ### Sequence numbers in a window -/

theorem asI16_eq (n : UInt16) :
    asI16 n = if n.toNat < 32768 then (n.toNat : Int) else (n.toNat : Int) - 65536 := by
  have h := BitVec.toInt_eq_toNat_cond n.toBitVec
  rw [asI16, h]
  have hnat : n.toBitVec.toNat = n.toNat := rfl
  rw [hnat]
  split <;> split <;> omega

theorem toNat_sub (a b : UInt16) : (a - b).toNat = (65536 - b.toNat + a.toNat) % 65536 :=
  UInt16.toNat_sub a b

theorem toNat_add_one (a : UInt16) : (a + 1).toNat = (a.toNat + 1) % 65536 :=
  UInt16.toNat_add a 1

/-- A slot belongs to one sequence number of the window. -/
theorem eq_of_slot {first s t : UInt16} (hs : (s - first).toNat < RAOP_BUFFER_LENGTH)
    (ht : (t - first).toNat < RAOP_BUFFER_LENGTH) (h : RaopBuffer.slot s = RaopBuffer.slot t) :
    s = t := by
  have hs' := s.toNat_lt
  have ht' := t.toNat_lt
  have hf := first.toNat_lt
  rw [toNat_sub] at hs ht
  simp only [RaopBuffer.slot, RAOP_BUFFER_LENGTH] at hs ht h
  apply UInt16.toNat_inj.mp
  omega

theorem window_of_cmp {first s : UInt16} (notStale : ¬seqnumCmp s first < 0)
    (notAhead : ¬0 ≤ seqnumCmp s (first + 32)) : (s - first).toNat < RAOP_BUFFER_LENGTH := by
  have hs := s.toNat_lt
  have hf := first.toNat_lt
  have hadd : (first + 32).toNat = (first.toNat + 32) % 65536 := UInt16.toNat_add first 32
  simp only [seqnumCmp, asI16_eq, toNat_sub, hadd] at notStale notAhead
  simp only [toNat_sub, RAOP_BUFFER_LENGTH]
  split at notStale <;> split at notAhead <;> omega

theorem window_succ {first s : UInt16} (h : (s - first).toNat < RAOP_BUFFER_LENGTH)
    (other : s ≠ first) : (s - (first + 1)).toNat < RAOP_BUFFER_LENGTH := by
  have hs := s.toNat_lt
  have hf := first.toNat_lt
  have hne : s.toNat ≠ first.toNat := fun heq => other (UInt16.toNat_inj.mp heq)
  rw [toNat_sub] at h
  rw [toNat_sub, toNat_add_one]
  simp only [RAOP_BUFFER_LENGTH] at h ⊢
  omega

theorem window_self (first : UInt16) : (first - first).toNat < RAOP_BUFFER_LENGTH := by
  rw [UInt16.sub_self]
  decide

/-! ### A list with one element replaced -/

theorem filterMap_cons_toList {α β : Type*} (f : α → Option β) (head : α) (tail : List α) :
    (head :: tail).filterMap f = (f head).toList ++ tail.filterMap f := by
  cases h : f head with
  | none => rw [List.filterMap_cons_none h, Option.toList_none, List.nil_append]
  | some b => rw [List.filterMap_cons_some h, Option.toList_some, List.singleton_append]

theorem filterMap_set_perm {α β : Type*} (f : α → Option β) {l : List α} {i : ℕ} {old : α}
    (h : l[i]? = some old) (new : α) :
    ((l.set i new).filterMap f ++ (f old).toList).Perm (l.filterMap f ++ (f new).toList) := by
  induction l generalizing i with
  | nil => cases h
  | cons head tail ih =>
    cases i with
    | zero =>
      cases h
      rw [List.set_cons_zero, filterMap_cons_toList, filterMap_cons_toList]
      calc ((f new).toList ++ tail.filterMap f ++ (f old).toList).Perm
            ((f old).toList ++ ((f new).toList ++ tail.filterMap f)) := List.perm_append_comm
        _ = (f old).toList ++ ((f new).toList ++ tail.filterMap f) := rfl
        List.Perm _ ((f old).toList ++ (tail.filterMap f ++ (f new).toList)) :=
          List.perm_append_comm.append_left _
        _ = (f old).toList ++ tail.filterMap f ++ (f new).toList := (List.append_assoc _ _ _).symm
    | succ i =>
      rw [List.set_cons_succ, filterMap_cons_toList, filterMap_cons_toList, List.append_assoc,
        List.append_assoc]
      exact (ih h).append_left _

/-! ### The invariant -/

namespace RaopBuffer

variable {δ : Type*} {env : PacketEnv δ} {buf after : RaopBuffer δ}

theorem played_append (start : UInt16) (turns : List Turn) (turn : Turn) :
    played start (turns ++ [turn]) =
      played start turns ++ played (start + UInt16.ofNat turns.length) [turn] := by
  induction turns generalizing start with
  | nil => simp [played]
  | cons first turns ih =>
    have hnext : start + 1 + UInt16.ofNat turns.length =
        start + UInt16.ofNat (first :: turns).length := by
      rw [List.length_cons, UInt16.ofNat_add, UInt16.add_assoc, UInt16.add_comm 1]
      rfl
    cases first <;> simp only [List.cons_append, played, ih, hnext]

structure Consistent (buf : RaopBuffer δ) : Prop where
  length : buf.entries.length = RAOP_BUFFER_LENGTH
  vacant : ∀ entry ∈ buf.entries, entry.available = false → entry.samples = []
  window : ∀ i entry, buf.entries[i]? = some entry → entry.packet.isSome = true →
    slot entry.seqnum = i ∧ (entry.seqnum - buf.firstSeqnum).toNat < RAOP_BUFFER_LENGTH
  empty : buf.isEmpty = true → buf.waiting = [] ∧ buf.accepted = [] ∧ buf.turns = []
  next : buf.isEmpty = false → buf.firstSeqnum = buf.start + UInt16.ofNat buf.turns.length
  ledger : buf.accepted.Perm (played buf.start buf.turns ++ buf.waiting)
  forced : ∀ forced, .silence forced ∈ buf.turns → forced = true

theorem packet_vacant (entry : BufferEntry) : entry.vacant.packet = none := by
  simp [BufferEntry.packet, BufferEntry.vacant]

namespace Consistent

theorem new (alac : δ) : Consistent (.new alac) := by
  have hentry {entry : BufferEntry} (h : entry ∈ List.replicate RAOP_BUFFER_LENGTH ⟨false, 0, []⟩) :
      entry = ⟨false, 0, []⟩ := List.eq_of_mem_replicate h
  have hwaiting : (RaopBuffer.new alac).waiting = [] := by
    simp [waiting, RaopBuffer.new, BufferEntry.packet]
  refine ⟨rfl, fun entry hmem _ => ?_, fun i entry hentry' hpacket => ?_,
    fun _ => ⟨hwaiting, rfl, rfl⟩, by rintro ⟨⟩, ?_, by rintro _ ⟨⟩⟩
  · rw [hentry hmem]
  · rw [hentry (List.mem_of_getElem? hentry')] at hpacket
    cases hpacket
  · rw [hwaiting]
    rfl

theorem packet_none_of_mem_clear {entry : BufferEntry} (h : entry ∈ buf.clear.entries) :
    entry.packet = none :=
  if_neg fun hboth => hboth.2 (vacant_of_mem_clear h).2

theorem flush (h : Consistent buf) (nextSeq : Int) : Consistent (buf.flush nextSeq) := by
  have hlength : buf.clear.entries.length = RAOP_BUFFER_LENGTH := by rw [length_clear, h.length]
  have hvacant : ∀ entry ∈ buf.clear.entries, entry.available = false → entry.samples = [] :=
    fun entry hmem _ => (vacant_of_mem_clear hmem).2
  have hnone (i : ℕ) (entry : BufferEntry) (hentry : buf.clear.entries[i]? = some entry)
      (hpacket : entry.packet.isSome = true) : False := by
    rw [packet_none_of_mem_clear (List.mem_of_getElem? hentry)] at hpacket
    cases hpacket
  have hwaiting : buf.clear.waiting = [] :=
    List.filterMap_eq_nil_iff.mpr fun entry hmem => packet_none_of_mem_clear hmem
  rw [RaopBuffer.flush]
  split
  · refine ⟨hlength, hvacant, fun i entry hentry hpacket => (hnone i entry hentry hpacket).elim,
      fun _ => ⟨hwaiting, rfl, rfl⟩, fun _ => (UInt16.add_zero _).symm, ?_, by rintro _ ⟨⟩⟩
    exact List.Perm.of_eq hwaiting.symm
  · refine ⟨hlength, hvacant, fun i entry hentry hpacket => (hnone i entry hentry hpacket).elim,
      fun _ => ⟨hwaiting, rfl, rfl⟩, by rintro ⟨⟩, ?_, by rintro _ ⟨⟩⟩
    exact List.Perm.of_eq hwaiting.symm

/-- Another packet of the window would be in another slot. -/
theorem packet_none (h : Consistent buf) {seqnum : UInt16} {old : BufferEntry}
    (found : buf.entries[slot seqnum]? = some old)
    (inside : buf.isEmpty = false → (seqnum - buf.firstSeqnum).toNat < RAOP_BUFFER_LENGTH)
    (fresh : ¬(old.available = true ∧ old.seqnum = seqnum)) : old.packet = none := by
  cases hpacket : old.packet with
  | none => rfl
  | some waiting =>
    have hsome : old.packet.isSome = true := by rw [hpacket]; rfl
    have havailable : old.available = true := by
      by_contra hno
      rw [BufferEntry.packet, if_neg fun hboth => hno hboth.1] at hpacket
      cases hpacket
    cases hempty : buf.isEmpty with
    | true =>
      have hmem : waiting ∈ buf.waiting :=
        List.mem_filterMap.mpr ⟨old, List.mem_of_getElem? found, hpacket⟩
      rw [(h.empty hempty).1] at hmem
      cases hmem
    | false =>
      obtain ⟨hslot, hwindow⟩ := h.window _ old found hsome
      exact absurd ⟨havailable, eq_of_slot hwindow (inside hempty) hslot⟩ fresh

theorem samples_nil (h : Consistent buf) {i : ℕ} {old : BufferEntry}
    (found : buf.entries[i]? = some old) (idle : old.packet = none) : old.samples = [] := by
  cases havailable : old.available with
  | false => exact h.vacant old (List.mem_of_getElem? found) havailable
  | true =>
    by_contra hsamples
    rw [BufferEntry.packet, if_pos ⟨havailable, hsamples⟩] at idle
    cases idle

/-- A slot gets a new entry that is not a packet to play. -/
theorem setBlank (h : Consistent buf) (alac : δ) {i : ℕ} {old entry : BufferEntry}
    (found : buf.entries[i]? = some old) (idle : old.packet = none)
    (blank : entry.samples = []) :
    Consistent { buf with alac := alac, entries := buf.entries.set i entry } := by
  have hblank : entry.packet = none := if_neg fun hboth => hboth.2 blank
  have hperm := filterMap_set_perm BufferEntry.packet found entry
  rw [idle, hblank, Option.toList_none, List.append_nil, List.append_nil] at hperm
  have hcases {j : ℕ} {other : BufferEntry} (hother : (buf.entries.set i entry)[j]? = some other) :
      other = entry ∨ buf.entries[j]? = some other := by
    rw [List.getElem?_set] at hother
    split at hother
    · split at hother
      · exact .inl (Option.some.inj hother).symm
      · cases hother
    · exact .inr hother
  refine ⟨by rw [List.length_set, h.length], fun other hmem hvacant => ?_,
    fun j other hother hpacket => ?_, fun hempty => ?_, h.next, ?_, h.forced⟩
  · obtain ⟨j, hj⟩ := List.mem_iff_getElem?.mp hmem
    obtain rfl | hold := hcases hj
    · exact blank
    · exact h.vacant other (List.mem_of_getElem? hold) hvacant
  · obtain rfl | hold := hcases hother
    · rw [hblank] at hpacket
      cases hpacket
    · exact h.window j other hold hpacket
  · obtain ⟨hwaiting, hrest⟩ := h.empty hempty
    refine ⟨?_, hrest⟩
    have hnil : buf.entries.filterMap BufferEntry.packet = [] := hwaiting
    rw [hnil] at hperm
    exact hperm.eq_nil
  · exact h.ledger.trans (hperm.symm.append_left _)

/-- A decoded packet of the window goes into its slot. -/
theorem setPacket (h : Consistent buf) (alac : δ) {seqnum : UInt16} {old : BufferEntry}
    {samples : List Sample} (found : buf.entries[slot seqnum]? = some old)
    (idle : old.packet = none) (decoded : samples ≠ []) {isEmpty : Bool}
    (full : isEmpty = false) {first start : UInt16} (last : UInt16)
    (inside : buf.isEmpty = false → first = buf.firstSeqnum ∧ start = buf.start ∧
      (seqnum - buf.firstSeqnum).toNat < RAOP_BUFFER_LENGTH)
    (opens : buf.isEmpty = true → first = seqnum ∧ start = seqnum) :
    Consistent { buf with
      alac := alac
      isEmpty := isEmpty
      firstSeqnum := first
      lastSeqnum := last
      start := start
      entries := buf.entries.set (slot seqnum) { old with
        available := true, seqnum := seqnum, samples := samples }
      accepted := buf.accepted ++ [(seqnum, samples)] } := by
  have hpacket : BufferEntry.packet { old with
      available := true, seqnum := seqnum, samples := samples } = some (seqnum, samples) :=
    if_pos ⟨rfl, decoded⟩
  have hperm := filterMap_set_perm BufferEntry.packet found
    { old with available := true, seqnum := seqnum, samples := samples }
  rw [idle, hpacket, Option.toList_none, List.append_nil, Option.toList_some] at hperm
  have hplayed : played start buf.turns = played buf.start buf.turns := by
    cases hempty : buf.isEmpty with
    | true =>
      rw [(h.empty hempty).2.2]
      rfl
    | false => rw [(inside hempty).2.1]
  refine ⟨by rw [List.length_set, h.length], fun other hmem hvacant => ?_,
    fun j other hother hsome => ?_, fun hempty => ?_, fun _ => ?_, ?_, h.forced⟩
  · obtain ⟨j, hj⟩ := List.mem_iff_getElem?.mp hmem
    rw [List.getElem?_set] at hj
    split at hj
    · split at hj
      · rw [← Option.some.inj hj] at hvacant
        cases hvacant
      · cases hj
    · exact h.vacant other (List.mem_of_getElem? hj) hvacant
  · rw [List.getElem?_set] at hother
    split at hother
    · rename_i hj
      split at hother
      · rw [← Option.some.inj hother]
        refine ⟨hj, ?_⟩
        cases hempty : buf.isEmpty with
        | true =>
          rw [(opens hempty).1]
          exact window_self seqnum
        | false =>
          rw [(inside hempty).1]
          exact (inside hempty).2.2
      · cases hother
    · obtain ⟨hslot, hwindow⟩ := h.window j other hother hsome
      refine ⟨hslot, ?_⟩
      cases hempty : buf.isEmpty with
      | true =>
        obtain ⟨waiting, hwaiting⟩ := Option.isSome_iff_exists.mp hsome
        have hmem : waiting ∈ buf.waiting :=
          List.mem_filterMap.mpr ⟨other, List.mem_of_getElem? hother, hwaiting⟩
        rw [(h.empty hempty).1] at hmem
        cases hmem
      | false =>
        rw [(inside hempty).1]
        exact hwindow
  · exact absurd (full.symm.trans hempty) (by decide)
  · cases hempty : buf.isEmpty with
    | true =>
      rw [(opens hempty).1, (opens hempty).2, (h.empty hempty).2.2]
      exact (UInt16.add_zero _).symm
    | false =>
      rw [(inside hempty).1, (inside hempty).2.1]
      exact h.next hempty
  · change (buf.accepted ++ [(seqnum, samples)]).Perm
      (played start buf.turns ++ (buf.entries.set (slot seqnum) _).filterMap BufferEntry.packet)
    rw [hplayed]
    calc (buf.accepted ++ [(seqnum, samples)]).Perm
          (played buf.start buf.turns ++ buf.waiting ++ [(seqnum, samples)]) :=
          h.ledger.append_right _
      _ = played buf.start buf.turns ++ (buf.waiting ++ [(seqnum, samples)]) :=
          List.append_assoc _ _ _
      List.Perm _ _ := hperm.symm.append_left _

theorem setLast (h : Consistent buf) (last : UInt16) :
    Consistent { buf with lastSeqnum := last } :=
  { h with }

theorem insert (h : Consistent buf) {seqnum : UInt16} (payload : List UInt8)
    (inside : buf.isEmpty = false → (seqnum - buf.firstSeqnum).toNat < RAOP_BUFFER_LENGTH) :
    Consistent (buf.insert env seqnum payload).1 := by
  have hfound := getElem?_slot h.length seqnum
  simp only [RaopBuffer.insert]
  generalize buf.entries.getD (slot seqnum) ⟨false, 0, []⟩ = old at hfound ⊢
  split
  · exact h
  · rename_i hfresh
    have hidle := h.packet_none hfound inside hfresh
    split
    · have hnil : old.samples = [] := h.samples_nil hfound hidle
      exact h.setBlank _ hfound hidle hnil
    · rename_i hdecoded
      have hsamples := mt List.isEmpty_iff.mpr hdecoded
      obtain hempty | hfull := Bool.eq_false_or_eq_true buf.isEmpty
      · have hset := h.setPacket (env.decodeFrame buf.alac (packetBuf env payload)).2 hfound hidle
          hsamples rfl seqnum (fun hfull => by rw [hempty] at hfull; cases hfull)
          fun _ => ⟨rfl, rfl⟩
        simp only [if_pos hempty]
        split
        · exact hset.setLast seqnum
        · exact hset
      · have hset := h.setPacket (env.decodeFrame buf.alac (packetBuf env payload)).2 hfound hidle
          hsamples hfull buf.lastSeqnum (fun hfull => ⟨rfl, rfl, inside hfull⟩)
          fun hempty => by rw [hfull] at hempty; cases hempty
        simp only [hfull, Bool.false_eq_true, if_false] at hset ⊢
        split
        · exact hset.setLast seqnum
        · exact hset

theorem queue (h : Consistent buf) (data : List UInt8) (useSeqnum : Bool) :
    Consistent (buf.queue env data useSeqnum).1 := by
  rw [RaopBuffer.queue]
  split
  · exact h
  · generalize (if useSeqnum = true then sequenceOf data else buf.firstSeqnum) = seqnum
    dsimp only
    split
    · exact h
    · rename_i hstale
      split
      · refine (h.flush _).insert _ fun _ => ?_
        have hrange : (0 : Int) ≤ seqnum.toNat ∧ (seqnum.toNat : Int) ≤ 0xffff := by
          have hlt := seqnum.toNat_lt
          omega
        rw [RaopBuffer.flush, if_pos hrange, Int.toNat_natCast, UInt16.ofNat_toNat]
        exact window_self seqnum
      · rename_i hahead
        refine h.insert _ fun hfull => window_of_cmp (fun hless => hstale ⟨hfull, hless⟩) hahead

/-- The slot of the next turn is vacated and its packet, if it has one, is played. -/
theorem takeTurn (h : Consistent buf) (full : buf.isEmpty = false) {entry : BufferEntry}
    (found : buf.entries[slot buf.firstSeqnum]? = some entry) {turn : Turn}
    (plays : played buf.firstSeqnum [turn] = entry.packet.toList)
    (forced : ∀ forced, turn = .silence forced → forced = true) :
    Consistent { buf with
      firstSeqnum := buf.firstSeqnum + 1
      entries := buf.entries.set (slot buf.firstSeqnum) entry.vacant
      turns := buf.turns ++ [turn] } := by
  have hnext := h.next full
  have hperm := filterMap_set_perm BufferEntry.packet found entry.vacant
  rw [packet_vacant, Option.toList_none, List.append_nil] at hperm
  have hplayed : played buf.start (buf.turns ++ [turn]) =
      played buf.start buf.turns ++ entry.packet.toList := by
    rw [played_append, ← hnext, plays]
  refine ⟨by rw [List.length_set, h.length], fun other hmem hvacant => ?_,
    fun j other hother hsome => ?_, fun hempty => ?_, fun _ => ?_, ?_, fun silent hsilent => ?_⟩
  · obtain ⟨j, hj⟩ := List.mem_iff_getElem?.mp hmem
    rw [List.getElem?_set] at hj
    split at hj
    · split at hj
      · rw [← Option.some.inj hj]
        rfl
      · cases hj
    · exact h.vacant other (List.mem_of_getElem? hj) hvacant
  · rw [List.getElem?_set] at hother
    split at hother
    · split at hother
      · rw [← Option.some.inj hother, packet_vacant] at hsome
        cases hsome
      · cases hother
    · rename_i hj
      obtain ⟨hslot, hwindow⟩ := h.window j other hother hsome
      refine ⟨hslot, window_succ hwindow ?_⟩
      intro heq
      rw [heq] at hslot
      exact hj hslot
  · exact absurd (full.symm.trans hempty) (by decide)
  · change buf.firstSeqnum + 1 = buf.start + UInt16.ofNat (buf.turns ++ [turn]).length
    rw [hnext, List.length_append, List.length_singleton, UInt16.ofNat_add, UInt16.add_assoc]
    rfl
  · change buf.accepted.Perm (played buf.start (buf.turns ++ [turn]) ++
      (buf.entries.set (slot buf.firstSeqnum) entry.vacant).filterMap BufferEntry.packet)
    rw [hplayed, List.append_assoc]
    have hwaiting : buf.waiting.Perm (entry.packet.toList ++
        (buf.entries.set (slot buf.firstSeqnum) entry.vacant).filterMap BufferEntry.packet) :=
      hperm.symm.trans List.perm_append_comm
    exact h.ledger.trans (hwaiting.append_left _)
  · obtain hold | hnew := List.mem_append.mp hsilent
    · exact h.forced silent hold
    · exact forced silent (List.mem_singleton.mp hnew).symm

theorem dequeue (h : Consistent buf) (noResend : Bool) :
    Consistent (buf.dequeue env noResend).1 := by
  have hfound := getElem?_slot h.length buf.firstSeqnum
  simp only [RaopBuffer.dequeue]
  generalize buf.entries.getD (slot buf.firstSeqnum) ⟨false, 0, []⟩ = entry at hfound ⊢
  split
  · exact h
  · rename_i hopen
    split
    · exact h
    · rename_i hturn
      have hfull : buf.isEmpty = false := by
        apply Bool.eq_false_of_not_eq_true
        intro hempty
        exact hopen (.inl hempty)
      refine h.takeTurn hfull hfound ?_ ?_
      · obtain havailable | hmissing := Bool.eq_false_or_eq_true entry.available
        · cases hsamples : entry.samples with
          | nil => simp [BufferEntry.packet, havailable, hsamples, played]
          | cons sample samples =>
            have hpacket : entry.packet = some (entry.seqnum, sample :: samples) := by
              rw [BufferEntry.packet, hsamples]
              exact if_pos ⟨havailable, List.cons_ne_nil sample samples⟩
            -- The packet in the slot of the next turn is the packet of that turn.
            obtain ⟨hslot, hwindow⟩ := h.window _ entry hfound (by rw [hpacket]; rfl)
            have hseqnum : entry.seqnum = buf.firstSeqnum :=
              eq_of_slot hwindow (window_self buf.firstSeqnum) hslot
            rw [hpacket, hseqnum]
            simp [havailable, played]
        · simp [BufferEntry.packet, hmissing, played]
      · intro forced hforced
        obtain havailable | hmissing := Bool.eq_false_or_eq_true entry.available
        · rw [if_pos havailable] at hforced
          split at hforced <;> cases hforced
        · rw [if_neg (by rw [hmissing]; decide)] at hforced
          injection hforced with hforced
          rw [← hforced, Bool.or_eq_true]
          by_cases hwait : noResend = true
          · exact .inl hwait
          · refine .inr (decide_eq_true ?_)
            by_contra hshort
            exact hturn ⟨Bool.eq_false_of_not_eq_true hwait, hmissing, Int.not_le.mp hshort⟩

end Consistent

variable (env) in
/-- A dequeue gives what is heard in one turn, and the turn is recorded. -/
theorem dequeue_turn (buf : RaopBuffer δ) (noResend : Bool) :
    buf.dequeue env noResend = (buf, none) ∨
      ∃ turn, (buf.dequeue env noResend).1.turns = buf.turns ++ [turn] ∧
        (buf.dequeue env noResend).2 = some (turn.heard env) := by
  simp only [RaopBuffer.dequeue]
  generalize buf.entries.getD (slot buf.firstSeqnum) ⟨false, 0, []⟩ = entry
  split
  · exact .inl rfl
  · split
    · exact .inl rfl
    · refine .inr ⟨_, rfl, ?_⟩
      cases entry.available with
      | false => rfl
      | true => cases hsamples : entry.samples <;> rfl

/-- One step of the buffer keeps the invariant. -/
theorem step_consistent {alac : δ} {label : BufferLabel} (h : Consistent buf)
    (step : (packetBuffer env alac).step buf label = some after) : Consistent after := by
  cases label with
  | queue data useSeqnum =>
    cases step
    exact h.queue data useSeqnum
  | dequeue noResend =>
    cases step
    exact h.dequeue noResend
  | flush nextSeq =>
    cases step
    exact h.flush nextSeq

theorem of_reachable {alac : δ} (h : (packetBuffer env alac).Reachable buf) : Consistent buf :=
  h.invariant (I := Consistent) (.new alac) fun _ _ _ consistent step =>
    step_consistent consistent step

end RaopBuffer

/-- Since the buffer was last emptied, the packets that were accepted are those that were played,
each in the turn of its sequence number, and those that wait for one of the next 32 turns. Only a
packet that the buffer could not wait for was replaced by silence. The next dequeue gives what is
heard in the next turn, if it gives anything. -/
theorem packets_in_turn {δ : Type*} {env : PacketEnv δ} {alac : δ} {buf : RaopBuffer δ}
    (h : (packetBuffer env alac).Reachable buf) :
    buf.accepted.Perm (RaopBuffer.played buf.start buf.turns ++ buf.waiting) ∧
      (buf.isEmpty = false → buf.firstSeqnum = buf.start + UInt16.ofNat buf.turns.length) ∧
      (∀ packet ∈ buf.waiting, (packet.1 - buf.firstSeqnum).toNat < RAOP_BUFFER_LENGTH) ∧
      .silence false ∉ buf.turns ∧
      ∀ noResend, buf.dequeue env noResend = (buf, none) ∨
        ∃ turn, (buf.dequeue env noResend).1.turns = buf.turns ++ [turn] ∧
          (buf.dequeue env noResend).2 = some (turn.heard env) := by
  have hconsistent := RaopBuffer.of_reachable h
  refine ⟨hconsistent.ledger, hconsistent.next, fun packet hmem => ?_, fun hsilent => ?_,
    RaopBuffer.dequeue_turn env buf⟩
  · obtain ⟨entry, hentry, hpacket⟩ := List.mem_filterMap.mp hmem
    obtain ⟨i, hi⟩ := List.mem_iff_getElem?.mp hentry
    have hwindow := (hconsistent.window i entry hi (by rw [hpacket]; rfl)).2
    rw [BufferEntry.packet] at hpacket
    split at hpacket
    · cases hpacket
      exact hwindow
    · cases hpacket
  · cases hconsistent.forced false hsilent

namespace Reordered

def env : PacketEnv Unit where
  decryptBlocks block := block
  decodeFrame _ frame := (frame.map UInt8.toUInt32, ())
  audioBufferSize := 2

def packet (seqnum : UInt16) (payload : List UInt8) : BufferLabel :=
  .queue (0x80 :: 0x60 :: (seqnum >>> 8).toUInt8 :: seqnum.toUInt8 ::
    (List.replicate 8 0 ++ payload)) true

/-- The sequence numbers wrap, a packet overtakes another, one comes twice and one is lost. -/
def run : List BufferLabel :=
  [packet 65534 [1, 2], .dequeue true, packet 0 [5, 6], packet 65535 [3, 4], packet 0 [5, 6],
    .dequeue true, .dequeue true, packet 2 [9, 10], packet 65535 [3, 4], .dequeue true]

end Reordered

theorem packets_in_turn_on_reordered :
    ∃ buf, (packetBuffer Reordered.env ()).run (.new ()) Reordered.run = some buf ∧
      buf.turns = [.packet [1, 2], .packet [3, 4], .packet [5, 6], .silence true] ∧
      buf.accepted.Perm (RaopBuffer.played buf.start buf.turns ++ buf.waiting) ∧
      (buf.isEmpty = false → buf.firstSeqnum = buf.start + UInt16.ofNat buf.turns.length) ∧
      (∀ packet ∈ buf.waiting, (packet.1 - buf.firstSeqnum).toNat < RAOP_BUFFER_LENGTH) ∧
      .silence false ∉ buf.turns ∧
      ∀ noResend, buf.dequeue Reordered.env noResend = (buf, none) ∨
        ∃ turn, (buf.dequeue Reordered.env noResend).1.turns = buf.turns ++ [turn] ∧
          (buf.dequeue Reordered.env noResend).2 = some (turn.heard Reordered.env) := by
  have hruns : ((packetBuffer Reordered.env ()).run (.new ()) Reordered.run).map
      (fun buf => buf.turns) =
        some [.packet [1, 2], .packet [3, 4], .packet [5, 6], .silence true] := by
    decide +kernel
  obtain ⟨buf, hrun, hturns⟩ := Option.map_eq_some_iff.mp hruns
  exact ⟨buf, hrun, hturns, packets_in_turn (.of_run .init hrun)⟩

end AirSonos.Raop
