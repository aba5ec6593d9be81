import AirSonos.Raop.Steps

/-!
# What a flush keeps from the session

A flush drops the buffered frames of its range, and the epoch tells a packet or a frame that was
under way. So once the session has been told of a flush, it is offered no frame that the flush
covers. Packets of the range that come later are skipped until the sender has advanced past it.
-/

namespace AirSonos.Raop

variable {env : BufferedAudioEnv} {start : LocalTime} {st after : BufferedAudio}

/-! ### A stream with one flush -/

namespace Tone

def audioEnv : BufferedAudioEnv where
  clock := ⟨0, 1000000000000⟩
  config := ⟨none, none⟩
  decrypt _ _ ciphertext := some ciphertext

def packet (sequence timestamp : UInt8) : List UInt8 :=
  [0x80, 96, 0, sequence, 0, 0, timestamp, 0, 0x17, 0, 0, 0, 1] ++ List.replicate 8 sequence

/-- A packet goes from the stream into the buffer. -/
def arrives (sequence timestamp : UInt8) (now : LocalTime) : List BufferedAudioLabel :=
  [.gate, .read (packet sequence timestamp), .check, .detect now,
    .decode (some [sequence.toUInt32, sequence.toUInt32]), .admission]

/-- The earliest frame is due and the session takes it. -/
def plays (now : LocalTime) : List BufferedAudioLabel :=
  [.deliver now, .offer true]

def flushes (first last : UInt32) (now : LocalTime) : List BufferedAudioLabel :=
  [.command (.flush first last) none now, .deliver now, .flush]

/-- Two packets are flushed, the first of which has been played. A third one comes after. -/
def run : List BufferedAudioLabel :=
  [.accept true] ++ arrives 7 4 0 ++ [.command (.setRate 1024 0 0 1) none 0] ++ plays 100000000 ++
    arrives 8 5 100000000 ++ flushes 7 8 100000000 ++ arrives 9 6 100000000 ++ plays 200000000

def frame (sequence : UInt16) (timestamp : UInt32) (number flushes : Nat) : BufferedFrame :=
  ⟨sequence, [sequence.toUInt32, sequence.toUInt32], timestamp, number, flushes⟩

def callbacks : List Callback :=
  [.process (frame 9 1536 2 1) (some 110666666) 1 true, .flush 1,
    .process (frame 7 1024 0 0) (some 100000000) 0 true, .init 48000 2]

/-- After the third packet comes one whose number was flushed. -/
def rewound : List BufferedAudioLabel :=
  run ++ arrives 8 7 200000000

end Tone

/-! ### The order of the check -/

/-- After `flushes` flushes a packet passed the check that was past the end of the range. -/
def Advanced (passed : List (UInt16 × Nat)) (flushes : Nat) (range : UInt16 × UInt16) : Prop :=
  ∃ sequence, (sequence, flushes) ∈ passed ∧ 0 < asI16 (sequence - range.2)

theorem Advanced.cons {passed : List (UInt16 × Nat)} {flushes : Nat} {range : UInt16 × UInt16}
    (h : Advanced passed flushes range) (entry : UInt16 × Nat) :
    Advanced (entry :: passed) flushes range := by
  obtain ⟨sequence, hmem, hpast⟩ := h
  exact ⟨sequence, List.mem_cons_of_mem _ hmem, hpast⟩

/-- What passed the check, and when. -/
structure Checked (st : BufferedAudio) : Prop where
  epoch : st.playout.epoch = st.flushes.length % 2 ^ 64
  receiver : ∀ packet epoch, st.receiver.packet? = some packet →
    st.receiver.epoch? = some epoch →
    ∃ flushes, st.passed.head? = some (packet.sequence, flushes) ∧ epoch = flushes % 2 ^ 64
  passed_le : ∀ sequence flushes, (sequence, flushes) ∈ st.passed → flushes ≤ st.flushes.length
  latest : ∀ range, st.flushes.getLast? = some range →
    st.playout.flushRange = some range ∨ Advanced st.passed st.flushes.length range
  held : ∀ newer sequence flush older, st.passed = newer ++ (sequence, flush + 1) :: older →
    ∀ range, st.flushes[flush]? = some range →
      sequenceInRange sequence range.1 range.2 = true → Advanced older (flush + 1) range
  admitted : ∀ frame ∈ st.admitted, (frame.sequence, frame.flushes) ∈ st.passed

theorem Receiver.Follows.packet {before receiver : Receiver} (h : before.Follows receiver)
    {packet : AudioPacket} {epoch : Nat} (hpacket : receiver.packet? = some packet)
    (hepoch : receiver.epoch? = some epoch) :
    before.packet? = some packet ∧ before.epoch? = some epoch := by
  obtain ⟨hnone, -⟩ | ⟨hsame, hpackets⟩ := h
  · rw [hnone] at hepoch
    cases hepoch
  · exact ⟨hpackets ▸ hpacket, hsame ▸ hepoch⟩

namespace Checked

theorem new : Checked (.new env start) where
  epoch := rfl
  receiver := nofun
  passed_le := nofun
  latest := nofun
  held := by
    intro newer sequence flush older h
    cases newer <;> cases h
  admitted := nofun

/-- Only the playout state and the receiver change, and both go on as they were. -/
theorem frame (h : Checked st) (epoch : after.playout.epoch = st.playout.epoch)
    (flushRange : after.playout.flushRange = st.playout.flushRange)
    (follows : st.receiver.Follows after.receiver) (flushes : after.flushes = st.flushes)
    (passed : after.passed = st.passed) (admitted : after.admitted = st.admitted) :
    Checked after where
  epoch := by rw [epoch, flushes, h.epoch]
  receiver := by
    intro packet epoch' hpacket hepoch
    obtain ⟨hpacket, hepoch⟩ := follows.packet hpacket hepoch
    rw [passed]
    exact h.receiver packet epoch' hpacket hepoch
  passed_le := by
    rw [passed, flushes]
    exact h.passed_le
  latest := by
    rw [passed, flushes, flushRange]
    exact h.latest
  held := by
    rw [passed, flushes]
    exact h.held
  admitted := by
    rw [passed, admitted]
    exact h.admitted

/-- A packet that passes is in the range of the last flush only if the sender has advanced. -/
theorem pass (h : Checked st) {packet : AudioPacket}
    (unflushed : st.playout.flushed packet.sequence = false) : Checked (st.pass packet) where
  epoch := (st.playout.forgetFlush_epoch packet.sequence).trans h.epoch
  receiver := by
    intro packet' epoch hpacket hepoch
    cases hpacket
    cases hepoch
    exact ⟨st.flushes.length, rfl, h.epoch⟩
  passed_le := by
    intro sequence flushes hmem
    obtain heq | hold := List.mem_cons.mp hmem
    · cases heq
      exact le_rfl
    · exact h.passed_le sequence flushes hold
  latest := by
    intro range hlast
    obtain hrange | hadvanced := h.latest range hlast
    · change (st.playout.forgetFlush packet.sequence).flushRange = some range ∨ _
      unfold PlayoutState.forgetFlush
      split
      · case isTrue past =>
        rw [hrange, Option.any_some, decide_eq_true_eq] at past
        exact .inr ⟨packet.sequence, List.mem_cons_self, past⟩
      · exact .inl hrange
    · exact .inr (hadvanced.cons _)
  held := by
    intro newer sequence flush older hsplit range hrange hin
    cases newer with
    | nil =>
      obtain ⟨heq, rfl⟩ := List.cons.inj hsplit
      obtain ⟨rfl, hflush⟩ := Prod.mk.inj heq
      have hlast : st.flushes.getLast? = some range := by
        rw [List.getLast?_eq_getElem?, hflush]
        exact hrange
      obtain hcurrent | hadvanced := h.latest range hlast
      · rw [PlayoutState.flushed, hcurrent, Option.any_some, hin] at unflushed
        cases unflushed
      · exact hflush ▸ hadvanced
    | cons entry newer =>
      obtain ⟨-, hrest⟩ := List.cons.inj hsplit
      exact h.held newer sequence flush older hrest range hrange hin
  admitted := fun frame hframe => List.mem_cons_of_mem _ (h.admitted frame hframe)

theorem insert (h : Checked st) {packet : AudioPacket} {epoch : Nat} {samples : List Sample}
    (receiver : st.receiver = .admitting packet epoch samples) :
    Checked ((st.insert packet samples).goto .gating) where
  epoch := h.epoch
  receiver := nofun
  passed_le := h.passed_le
  latest := h.latest
  held := h.held
  admitted := by
    intro frame hframe
    obtain rfl | hold := List.mem_cons.mp hframe
    · obtain ⟨flushes, hhead, -⟩ := h.receiver packet epoch (by rw [receiver]; rfl)
        (by rw [receiver]; rfl)
      change (packet.sequence, (st.passed.head?.map Prod.snd).getD 0) ∈ st.passed
      rw [hhead]
      exact List.mem_of_mem_head? hhead
    · exact h.admitted frame hold

theorem flush (h : Checked st) (first last : UInt16) : Checked (st.flushRange first last) where
  epoch := by
    change (st.playout.epoch + 1) % 2 ^ 64 = (st.flushes ++ [(first, last)]).length % 2 ^ 64
    rw [h.epoch, List.length_append, List.length_singleton, Nat.mod_add_mod]
  receiver := h.receiver
  passed_le := by
    intro sequence flushes hmem
    change flushes ≤ (st.flushes ++ [(first, last)]).length
    rw [List.length_append]
    exact (h.passed_le sequence flushes hmem).trans (Nat.le_add_right _ _)
  latest := by
    intro range hlast
    have hrange : (st.flushes ++ [(first, last)]).getLast? = some range := hlast
    rw [List.getLast?_concat] at hrange
    exact .inl hrange
  held := by
    intro newer sequence flush older hsplit range hrange hin
    have hpassed : (sequence, flush + 1) ∈ st.passed := by
      rw [show st.passed = newer ++ (sequence, flush + 1) :: older from hsplit]
      exact List.mem_append_right _ List.mem_cons_self
    have hold : (st.flushes ++ [(first, last)])[flush]? = some range := hrange
    rw [List.getElem?_append_left (h.passed_le sequence _ hpassed)] at hold
    exact h.held newer sequence flush older hsplit range hold hin
  admitted := h.admitted

theorem step (h : Checked st) (step : BufferedStep env st after) : Checked after := by
  cases step with
  | idles _ _ keeps follows => exact h.frame keeps.epoch keeps.flushRange follows rfl rfl rfl
  | passes _ unflushed => exact h.pass unflushed
  | inserts receiver => exact h.insert receiver
  | stops _ stops follows => exact h.frame stops.epoch stops.flushRange follows rfl rfl rfl
  | starts _ starts => exact h.frame starts.epoch starts.flushRange (.inr ⟨rfl, rfl⟩) rfl rfl rfl
  | flushes first last => exact h.flush first last
  | opens =>
    unfold BufferedAudio.openSession
    split
    · exact { h with }
    · exact h
  | takes =>
    unfold BufferedAudio.openSession
    split <;> exact { h with }
  | _ => exact { h with }

theorem of_reachable (h : (bufferedAudio env start).Reachable st) : Checked st :=
  h.invariant (I := Checked) new fun _ _ _ checked taken =>
    checked.step (BufferedAudio.step_cases taken)

end Checked

/-- A packet of the range of the last flush is only admitted once the sender had advanced past
that range. -/
theorem flushed_held_back (h : (bufferedAudio env start).Reachable st) {frame : BufferedFrame}
    (admitted : frame ∈ st.admitted) {flush : Nat} {range : UInt16 × UInt16}
    (last : frame.flushes = flush + 1) (flushed : st.flushes[flush]? = some range)
    (covered : sequenceInRange frame.sequence range.1 range.2 = true) :
    ∃ newer older, st.passed = newer ++ (frame.sequence, flush + 1) :: older ∧
      Advanced older (flush + 1) range := by
  have hchecked := Checked.of_reachable h
  have hmem := hchecked.admitted frame admitted
  rw [last] at hmem
  obtain ⟨newer, older, hsplit⟩ := List.append_of_mem hmem
  exact ⟨newer, older, hsplit, hchecked.held newer _ flush older hsplit range flushed covered⟩

theorem flushed_held_back_on_tone :
    ∃ st, (bufferedAudio Tone.audioEnv 0).run (.new Tone.audioEnv 0) Tone.rewound = some st ∧
      ∃ newer older, st.passed = newer ++ (8, 1) :: older ∧ Advanced older 1 (7, 8) := by
  have hruns : ((bufferedAudio Tone.audioEnv 0).run (.new Tone.audioEnv 0) Tone.rewound).map
      (fun st => (st.admitted.head?, st.flushes)) =
      some (some (Tone.frame 8 1792 3 1), [(7, 8)]) := by
    decide +kernel
  obtain ⟨st, hrun, heq⟩ := Option.map_eq_some_iff.mp hruns
  obtain ⟨hadmitted, hflushes⟩ := Prod.mk.inj heq
  exact ⟨st, hrun, flushed_held_back (.of_run .init hrun) (List.mem_of_mem_head? hadmitted) rfl
    (by rw [hflushes]; rfl) (by decide)⟩

/-! ### The order of the callbacks -/

/-- The epoch that the session was in. -/
def Callback.epoch? : Callback → Option Nat
  | process _ _ epoch _ => some epoch
  | flush epoch => some epoch
  | _ => none

/-- The epoch that the session heard of last. -/
def heard (callbacks : List Callback) : Option Nat :=
  callbacks.findSome? Callback.epoch?

/-- The delivery thread is about to call the session. -/
def Delivery.calling : Delivery → Bool
  | flushing => true
  | offering _ _ _ => true
  | _ => false

/-- No flush from the packet's check up to flush `upTo` covers the frame. -/
def Spared (flushes : List (UInt16 × UInt16)) (frame : BufferedFrame) (upTo : Nat) : Prop :=
  frame.flushes ≤ upTo ∧ ∀ flush range, frame.flushes ≤ flush → flush < upTo →
    flushes[flush]? = some range → sequenceInRange frame.sequence range.1 range.2 = false

theorem Spared.append {flushes : List (UInt16 × UInt16)} {frame : BufferedFrame} {upTo : Nat}
    (h : Spared flushes frame upTo) (known : upTo ≤ flushes.length) (range : UInt16 × UInt16) :
    Spared (flushes ++ [range]) frame upTo := by
  refine ⟨h.1, fun flush range' hsince hbefore hrange => ?_⟩
  rw [List.getElem?_append_left (hbefore.trans_le known)] at hrange
  exact h.2 flush range' hsince hbefore hrange

theorem Spared.succ {flushes : List (UInt16 × UInt16)} {frame : BufferedFrame}
    (h : Spared flushes frame flushes.length) {range : UInt16 × UInt16}
    (outside : sequenceInRange frame.sequence range.1 range.2 = false) :
    Spared (flushes ++ [range]) frame (flushes ++ [range]).length := by
  rw [List.length_append, List.length_singleton]
  refine ⟨h.1.trans (Nat.le_succ _), fun flush range' hsince hbefore hrange => ?_⟩
  obtain hearlier | rfl := Nat.lt_succ_iff_lt_or_eq.mp hbefore
  · exact (h.append le_rfl range).2 flush range' hsince hearlier hrange
  · rw [List.getElem?_concat_length] at hrange
    cases hrange
    exact outside

/-- A frame that no flush covers is in the buffer, under way, or in a callback. -/
structure Fenced (st : BufferedAudio) : Prop where
  delivered : st.deliveredEpoch ≤ st.flushes.length
  buffered : ∀ timestamp frame, st.playout.buffer.lookup timestamp = some frame →
    Spared st.flushes frame st.flushes.length
  offered : ∀ timestamp frame presentationTime,
    st.delivery = .offering timestamp frame presentationTime →
    Spared st.flushes frame st.deliveredEpoch
  called : ∀ frame presentationTime epoch accepted,
    .process frame presentationTime epoch accepted ∈ st.callbacks →
    Spared st.flushes frame epoch
  bounded : ∀ callback ∈ st.callbacks, ∀ epoch, callback.epoch? = some epoch →
    epoch ≤ st.deliveredEpoch
  silent : st.session = false →
    st.delivery = .ended ∨ st.callbacks = [] ∧ st.delivery.calling = false
  current : st.delivery ≠ .flushing → ∀ epoch, heard st.callbacks = some epoch →
    epoch = st.deliveredEpoch
  order : ∀ newer frame presentationTime epoch accepted older,
    st.callbacks = newer ++ .process frame presentationTime epoch accepted :: older →
    (∀ earlier ∈ older, ∀ epoch', earlier.epoch? = some epoch' → epoch' ≤ epoch) ∧
      (heard older = none ∨ heard older = some epoch)

namespace Fenced

theorem new : Fenced (.new env start) where
  delivered := le_rfl
  buffered := nofun
  offered := nofun
  called := nofun
  bounded := nofun
  silent _ := .inr ⟨rfl, rfl⟩
  current := nofun
  order := by
    intro newer frame presentationTime epoch accepted older h
    cases newer <;> cases h

/-- The delivery thread stands still, and the buffer only loses frames. -/
theorem shrink (h : Fenced st) (delivery : after.delivery = st.delivery)
    (deliveredEpoch : after.deliveredEpoch = st.deliveredEpoch)
    (session : after.session = st.session) (callbacks : after.callbacks = st.callbacks)
    (flushes : after.flushes = st.flushes)
    (buffer : ∀ timestamp frame, after.playout.buffer.lookup timestamp = some frame →
      st.playout.buffer.lookup timestamp = some frame) : Fenced after where
  delivered := by
    rw [deliveredEpoch, flushes]
    exact h.delivered
  buffered := by
    intro timestamp frame found
    rw [flushes]
    exact h.buffered timestamp frame (buffer timestamp frame found)
  offered := by
    rw [delivery, flushes, deliveredEpoch]
    exact h.offered
  called := by
    rw [callbacks, flushes]
    exact h.called
  bounded := by
    rw [callbacks, deliveredEpoch]
    exact h.bounded
  silent := by
    rw [session, delivery, callbacks]
    exact h.silent
  current := by
    rw [delivery, callbacks, deliveredEpoch]
    exact h.current
  order := by
    rw [callbacks]
    exact h.order

theorem insert (h : Fenced st) {packet : AudioPacket} {samples : List Sample}
    (current : (st.frame packet samples).flushes = st.flushes.length) :
    Fenced ((st.insert packet samples).goto .gating) :=
  { h with
    buffered := by
      intro timestamp frame found
      change (st.playout.buffer.insert packet.timestamp (st.frame packet samples)).lookup
        timestamp = some frame at found
      rw [AssocMap.lookup_insert_ite] at found
      split at found
      · cases found
        refine ⟨current.le, fun flush range hsince hbefore => ?_⟩
        rw [current] at hsince
        exact absurd hbefore (Nat.not_lt.mpr hsince)
      · exact h.buffered timestamp frame found }

/-- Who is about to call a session has one. -/
theorem session (h : Fenced st) (calling : st.delivery.calling = true) : st.session = true := by
  refine Bool.eq_true_of_not_eq_false fun hnone => ?_
  obtain hended | ⟨-, hidle⟩ := h.silent hnone
  · rw [hended] at calling
    cases calling
  · rw [hidle] at calling
    cases calling

theorem flush (h : Fenced st) (first last : UInt16) : Fenced (st.flushRange first last) where
  delivered := by
    change st.deliveredEpoch ≤ (st.flushes ++ [(first, last)]).length
    rw [List.length_append]
    exact h.delivered.trans (Nat.le_add_right _ _)
  buffered := by
    intro timestamp frame found
    obtain ⟨hfound, houtside⟩ := (AssocMap.lookup_retain_eq_some _ _).mp found
    exact (h.buffered timestamp frame hfound).succ (by simpa using houtside)
  offered := fun timestamp frame presentationTime hoffering =>
    (h.offered timestamp frame presentationTime hoffering).append h.delivered _
  called := fun frame presentationTime epoch accepted hcalled =>
    (h.called frame presentationTime epoch accepted hcalled).append
      ((h.bounded _ hcalled epoch rfl).trans h.delivered) _
  bounded := h.bounded
  silent := h.silent
  current := h.current
  order := h.order

theorem catchUp (h : Fenced st) (epoch : st.playout.epoch = st.flushes.length)
    (waiting : st.delivery = .waiting) :
    Fenced { st with
      deliveredEpoch := st.playout.epoch
      delivery := if st.session then .flushing else .waiting } where
  delivered := epoch.le
  buffered := h.buffered
  offered := by
    intro timestamp frame presentationTime hoffering
    dsimp only at hoffering
    split at hoffering <;> cases hoffering
  called := h.called
  bounded := fun callback hcallback epoch' hepoch =>
    (h.bounded callback hcallback epoch' hepoch).trans (h.delivered.trans epoch.ge)
  silent := by
    intro hnone
    obtain hended | ⟨hempty, -⟩ := h.silent hnone
    · rw [waiting] at hended
      cases hended
    · refine .inr ⟨hempty, ?_⟩
      change (if st.session then Delivery.flushing else .waiting).calling = false
      rw [show st.session = false from hnone]
      rfl
  current := by
    intro hdelivery epoch' hheard
    dsimp only at hdelivery hheard
    split at hdelivery
    · exact absurd rfl hdelivery
    · case isFalse hnone =>
      obtain hended | ⟨hempty, -⟩ := h.silent (Bool.eq_false_iff.mpr hnone)
      · rw [waiting] at hended
        cases hended
      · rw [hempty] at hheard
        cases hheard
  order := h.order

/-- A callback that says nothing of an epoch. -/
theorem announce (h : Fenced st) (callback : Callback) (session : Bool) (delivery : Delivery)
    (quiet : callback.epoch? = none) (flushing : st.delivery ≠ .flushing)
    (idle : ∀ timestamp frame presentationTime,
      delivery ≠ .offering timestamp frame presentationTime)
    (silent : session = false → delivery = .ended) :
    Fenced { st with
      session := session
      delivery := delivery
      callbacks := callback :: st.callbacks } where
  delivered := h.delivered
  buffered := h.buffered
  offered := fun timestamp frame presentationTime hoffering =>
    absurd hoffering (idle timestamp frame presentationTime)
  called := by
    intro frame presentationTime epoch accepted hcalled
    obtain rfl | hold := List.mem_cons.mp hcalled
    · cases quiet
    · exact h.called frame presentationTime epoch accepted hold
  bounded := by
    intro callback' hcalled epoch hepoch
    obtain rfl | hold := List.mem_cons.mp hcalled
    · rw [quiet] at hepoch
      cases hepoch
    · exact h.bounded callback' hold epoch hepoch
  silent := fun hnone => .inl (silent hnone)
  current := by
    intro _ epoch hheard
    refine h.current flushing epoch ?_
    rwa [heard, List.findSome?_cons, quiet] at hheard
  order := by
    intro newer frame presentationTime epoch accepted older hsplit
    cases newer with
    | nil =>
      obtain ⟨rfl, -⟩ := List.cons.inj hsplit
      cases quiet
    | cons newest newer =>
      exact h.order newer frame presentationTime epoch accepted older (List.cons.inj hsplit).2

theorem openSession (h : Fenced st) (waiting : st.delivery = .waiting) :
    Fenced st.openSession := by
  have hflushing : st.delivery ≠ .flushing := by
    rw [waiting]
    nofun
  unfold BufferedAudio.openSession
  split
  · have hopened := h.announce (.init st.playout.sampleRate st.playout.channels) true .waiting rfl
      hflushing nofun nofun
    exact { hopened with
      offered := by
        rw [waiting]
        nofun
      silent := nofun
      current := fun _ => hopened.current nofun }
  · exact h

/-- The session has answered for the frame that it was offered. -/
theorem process (h : Fenced st) {timestamp : UInt32} {frame : BufferedFrame}
    {presentationTime : Option LocalTime}
    (offering : st.delivery = .offering timestamp frame presentationTime) (accepted : Bool) :
    Fenced { st with
      delivery := .waiting
      callbacks := .process frame presentationTime st.deliveredEpoch accepted :: st.callbacks }
    where
  delivered := h.delivered
  buffered := h.buffered
  offered := nofun
  called := by
    intro frame' presentationTime' epoch accepted' hcalled
    obtain heq | hold := List.mem_cons.mp hcalled
    · cases heq
      exact h.offered timestamp frame presentationTime offering
    · exact h.called frame' presentationTime' epoch accepted' hold
  bounded := by
    intro callback hcalled epoch hepoch
    obtain rfl | hold := List.mem_cons.mp hcalled
    · cases hepoch
      exact le_rfl
    · exact h.bounded callback hold epoch hepoch
  silent := by
    intro hnone
    have hsession := h.session (by rw [offering]; rfl)
    rw [show st.session = false from hnone] at hsession
    cases hsession
  current := by
    intro _ epoch hheard
    cases hheard
    rfl
  order := by
    intro newer frame' presentationTime' epoch accepted' older hsplit
    cases newer with
    | nil =>
      obtain ⟨heq, rfl⟩ := List.cons.inj hsplit
      cases heq
      refine ⟨h.bounded, ?_⟩
      cases hheard : heard st.callbacks with
      | none => exact .inl rfl
      | some epoch => exact .inr (congrArg some (h.current (by rw [offering]; nofun) epoch hheard))
    | cons newest newer =>
      exact h.order newer frame' presentationTime' epoch accepted' older (List.cons.inj hsplit).2

theorem notify (h : Fenced st) (flushing : st.delivery = .flushing) :
    Fenced { st with
      delivery := .waiting
      callbacks := .flush st.deliveredEpoch :: st.callbacks } where
  delivered := h.delivered
  buffered := h.buffered
  offered := nofun
  called := by
    intro frame presentationTime epoch accepted hcalled
    obtain heq | hold := List.mem_cons.mp hcalled
    · cases heq
    · exact h.called frame presentationTime epoch accepted hold
  bounded := by
    intro callback hcalled epoch hepoch
    obtain rfl | hold := List.mem_cons.mp hcalled
    · cases hepoch
      exact le_rfl
    · exact h.bounded callback hold epoch hepoch
  silent := by
    intro hnone
    have hsession := h.session (by rw [flushing]; rfl)
    rw [show st.session = false from hnone] at hsession
    cases hsession
  current := by
    intro _ epoch hheard
    cases hheard
    rfl
  order := by
    intro newer frame presentationTime epoch accepted older hsplit
    cases newer with
    | nil => cases (List.cons.inj hsplit).1
    | cons newest newer =>
      exact h.order newer frame presentationTime epoch accepted older (List.cons.inj hsplit).2

/-- A frame of the buffer is about to be offered. -/
theorem take (h : Fenced st) (session : st.session = true)
    (flushing : st.delivery ≠ .flushing) {playout : PlayoutState} {timestamp : UInt32}
    {frame : BufferedFrame} (presentationTime : Option LocalTime)
    {taken : List (BufferedFrame × Nat)}
    (buffer : ∀ timestamp frame, playout.buffer.lookup timestamp = some frame →
      st.playout.buffer.lookup timestamp = some frame)
    (spared : Spared st.flushes frame st.deliveredEpoch) :
    Fenced { st with
      playout := playout
      delivery := .offering timestamp frame presentationTime
      taken := taken } where
  delivered := h.delivered
  buffered := fun timestamp frame found => h.buffered timestamp frame (buffer timestamp frame found)
  offered := by
    intro timestamp' frame' presentationTime' hoffering
    cases hoffering
    exact spared
  called := h.called
  bounded := h.bounded
  silent := by
    intro hnone
    rw [show st.session = false from hnone] at session
    cases session
  current := fun _ => h.current flushing
  order := h.order

/-- A frame that was offered goes back into the buffer. -/
theorem restore (h : Fenced st) {timestamp : UInt32} {frame : BufferedFrame}
    (spared : Spared st.flushes frame st.flushes.length) (inFlightSamples : Nat) :
    Fenced { st with
      playout := { st.playout with
        inFlightSamples := inFlightSamples
        buffer := st.playout.buffer.insert timestamp frame } } :=
  { h with
    buffered := by
      intro timestamp' frame' found
      change (st.playout.buffer.insert timestamp frame).lookup timestamp' = some frame' at found
      rw [AssocMap.lookup_insert_ite] at found
      split at found
      · cases found
        exact spared
      · exact h.buffered timestamp' frame' found }

theorem finish (h : Fenced st) {reason : AudioStopReason}
    (stopping : st.delivery = .stopping reason) :
    Fenced { st with
      delivery := .ended
      session := false
      callbacks := if st.session then .stopped reason :: st.callbacks else st.callbacks } := by
  have hflushing : st.delivery ≠ .flushing := by
    rw [stopping]
    nofun
  cases hsession : st.session with
  | true => exact h.announce (.stopped reason) false .ended rfl hflushing nofun fun _ => rfl
  | false =>
    exact { h with
      offered := nofun
      silent := fun _ => .inl rfl
      current := fun _ => h.current hflushing }

theorem step (h : Fenced st) (checked : Checked st) (few : st.flushes.length < 2 ^ 64)
    (step : BufferedStep env st after) : Fenced after := by
  have hepoch : st.playout.epoch = st.flushes.length :=
    checked.epoch.trans (Nat.mod_eq_of_lt few)
  cases step with
  | idles _ _ keeps =>
    exact h.shrink rfl rfl rfl rfl rfl fun timestamp frame found => keeps.buffer ▸ found
  | passes =>
    refine h.shrink rfl rfl rfl rfl rfl fun timestamp frame found => ?_
    change (st.playout.forgetFlush _).buffer.lookup timestamp = some frame at found
    rwa [PlayoutState.forgetFlush_buffer] at found
  | @inserts packet epoch samples receiver _ current =>
    refine h.insert ?_
    obtain ⟨flushes, hhead, hflushes⟩ := checked.receiver packet epoch (by rw [receiver]; rfl)
      (by rw [receiver]; rfl)
    have hle := checked.passed_le _ _ (List.mem_of_mem_head? hhead)
    change (st.passed.head?.map Prod.snd).getD 0 = st.flushes.length
    rw [hhead]
    change flushes = st.flushes.length
    rw [Nat.mod_eq_of_lt (hle.trans_lt few)] at hflushes
    rw [← hflushes, ← current, hepoch]
  | @stops playout _ _ stops =>
    refine h.shrink rfl rfl rfl rfl rfl fun timestamp frame found => ?_
    change playout.buffer.lookup timestamp = some frame at found
    rw [stops.buffer] at found
    cases found
  | @starts playout _ starts =>
    refine h.shrink rfl rfl rfl rfl rfl fun timestamp frame found => ?_
    change playout.buffer.lookup timestamp = some frame at found
    rw [starts.buffer] at found
    exact ((AssocMap.lookup_retain_eq_some _ _).mp found).1
  | flushes first last => exact h.flush first last
  | winds reason waiting =>
    exact { h with
      offered := nofun
      silent := fun hnone => .inr ⟨((h.silent hnone).resolve_left (by rw [waiting]; nofun)).1, rfl⟩
      current := fun _ => h.current (by rw [waiting]; nofun) }
  | catchesUp waiting => exact h.catchUp hepoch waiting
  | opens waiting => exact h.openSession waiting
  | @takes timestamp frame presentationTime waiting _ current found =>
    have hbuffered := h.buffered timestamp frame found
    rw [← hepoch, current] at hbuffered
    refine (h.openSession waiting).take st.openSession_session ?_ presentationTime ?_ ?_
    · rw [st.openSession_delivery, waiting]
      nofun
    · intro other frame' found'
      rw [st.openSession_buffer]
      exact AssocMap.lookup_of_erase found'
    · rw [st.openSession_flushes, st.openSession_deliveredEpoch]
      exact hbuffered
  | notifies flushing => exact h.notify flushing
  | processes offering => exact { h.process offering true with }
  | loses offering => exact { h.process offering false with }
  | returns offering _ current =>
    have hoffered := h.offered _ _ _ offering
    rw [← current, hepoch] at hoffered
    exact (h.process offering false).restore hoffered 0
  | ends stopping => exact h.finish stopping

end Fenced

theorem BufferedStep.flushes_le (step : BufferedStep env st after) :
    st.flushes.length ≤ after.flushes.length := by
  cases step with
  | flushes first last =>
    change st.flushes.length ≤ (st.flushes ++ [(first, last)]).length
    rw [List.length_append]
    exact Nat.le_add_right _ _
  | opens => rw [st.openSession_flushes]
  | takes =>
    change st.flushes.length ≤ st.openSession.flushes.length
    rw [st.openSession_flushes]
  | _ => exact le_rfl

theorem Fenced.of_reachable (h : (bufferedAudio env start).Reachable st)
    (few : st.flushes.length < 2 ^ 64) : Fenced st := by
  refine h.invariant_with (I := fun st => st.flushes.length < 2 ^ 64 → Fenced st)
    (fun _ => Checked.of_reachable) (fun _ => .new)
    (fun st _ after checked fenced taken few => ?_) few
  have hstep := BufferedAudio.step_cases taken
  have hfew : st.flushes.length < 2 ^ 64 := hstep.flushes_le.trans_lt few
  exact (fenced hfew).step checked hfew hstep

/-- A frame that a flush covers is only offered in an epoch before the flush, and the session is
told of every new epoch by a flush before the first frame of that epoch. -/
theorem flush_precedes_new_pcm (h : (bufferedAudio env start).Reachable st)
    (few : st.flushes.length < 2 ^ 64) {newer older : List Callback} {frame : BufferedFrame}
    {presentationTime : Option LocalTime} {epoch : Nat} {accepted : Bool}
    (called : st.callbacks = newer ++ .process frame presentationTime epoch accepted :: older) :
    (∀ flush range, st.flushes[flush]? = some range → frame.flushes ≤ flush →
      sequenceInRange frame.sequence range.1 range.2 = true → epoch ≤ flush) ∧
    (∀ earlier ∈ older, ∀ epoch', earlier.epoch? = some epoch' → epoch' ≤ epoch) ∧
      (heard older = none ∨ heard older = some epoch) := by
  have hfenced := Fenced.of_reachable h few
  refine ⟨fun flush range hrange hsince hin => ?_,
    hfenced.order newer frame presentationTime epoch accepted older called⟩
  have hspared := hfenced.called frame presentationTime epoch accepted (by simp [called])
  by_contra hlate
  have houtside := hspared.2 flush range hsince (Nat.not_le.mp hlate) hrange
  rw [hin] at houtside
  cases houtside

theorem flush_precedes_new_pcm_on_tone :
    ∃ st, (bufferedAudio Tone.audioEnv 0).run (.new Tone.audioEnv 0) Tone.run = some st ∧
      st.callbacks = Tone.callbacks ∧
      (∀ flush range, st.flushes[flush]? = some range → 1 ≤ flush →
        sequenceInRange 9 range.1 range.2 = true → 1 ≤ flush) ∧
      (∀ earlier ∈ Tone.callbacks.drop 1, ∀ epoch, earlier.epoch? = some epoch → epoch ≤ 1) ∧
        (heard (Tone.callbacks.drop 1) = none ∨ heard (Tone.callbacks.drop 1) = some 1) := by
  have hruns : ((bufferedAudio Tone.audioEnv 0).run (.new Tone.audioEnv 0) Tone.run).map
      (fun st => (st.callbacks, st.flushes)) = some (Tone.callbacks, [(7, 8)]) := by
    decide +kernel
  obtain ⟨st, hrun, heq⟩ := Option.map_eq_some_iff.mp hruns
  obtain ⟨hcallbacks, hflushes⟩ := Prod.mk.inj heq
  have hcalled : st.callbacks = [] ++
      .process (Tone.frame 9 1536 2 1) (some 110666666) 1 true :: Tone.callbacks.drop 1 :=
    hcallbacks
  exact ⟨st, hrun, hcallbacks,
    flush_precedes_new_pcm (.of_run .init hrun) (by rw [hflushes]; decide) hcalled⟩

end AirSonos.Raop
