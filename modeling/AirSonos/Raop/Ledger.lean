import AirSonos.Raop.Fence

/-!
# The ledger of buffered frames

Every admitted frame is in one place: in the buffer, under way to the session, played, or lost
for a reason that can be checked. The samples of the first two places are what the budget
counts, and they never exceed 8 MiB.
-/

namespace AirSonos.Raop

variable {env : BufferedAudioEnv} {start : LocalTime} {st after : BufferedAudio}

/-! ### The places of a frame -/

/-- The frame that the session is offered. -/
def Delivery.frames : Delivery → List BufferedFrame
  | offering _ frame _ => [frame]
  | _ => []

def Callback.played : Callback → List BufferedFrame
  | process frame _ _ true => [frame]
  | _ => []

namespace BufferedAudio

def played (st : BufferedAudio) : List BufferedFrame :=
  st.callbacks.flatMap Callback.played

def placed (st : BufferedAudio) : List BufferedFrame :=
  AssocMap.values st.playout.buffer ++ st.delivery.frames ++ st.played ++ st.lost.map Prod.fst

/-- The reason why the frame was lost holds: a flush after its check covers it, it was due when
playout started, a later frame has its timestamp, a flush came after it was last taken and before
it was lost, or the stream has stopped. -/
def Justified (st : BufferedAudio) (frame : BufferedFrame) : Loss → Prop
  | .flushed flush => frame.flushes ≤ flush ∧ ∃ range, st.flushes[flush]? = some range ∧
      sequenceInRange frame.sequence range.1 range.2 = true
  | .stale due => ∃ start ∈ st.starts, start.playout.targetRtp start.now = due ∧
      frame.number < start.admitted ∧ asI32 (frame.timestamp - due) < 0
  | .replaced => ∃ other ∈ st.admitted, other.timestamp = frame.timestamp ∧
      frame.number < other.number
  | .interrupted taken lost =>
    st.taken.lookup frame = some taken ∧ taken < lost ∧ lost ≤ st.flushes.length
  | .stopped => st.playout.stopped = true

/-- What has happened stays known, and a frame that is lost is not taken again. -/
structure Remembers (st after : BufferedAudio) : Prop where
  flushes : st.flushes <+: after.flushes
  admitted : st.admitted ⊆ after.admitted
  taken : ∀ frame loss, (frame, loss) ∈ st.lost →
    after.taken.lookup frame = st.taken.lookup frame
  starts : st.starts ⊆ after.starts
  stopped : st.playout.stopped = true → after.playout.stopped = true

/-- Nothing new has happened. -/
theorem Remembers.same (flushes : after.flushes = st.flushes)
    (admitted : after.admitted = st.admitted) (taken : after.taken = st.taken)
    (starts : after.starts = st.starts)
    (stopped : st.playout.stopped = true → after.playout.stopped = true) : st.Remembers after where
  flushes := flushes ▸ List.prefix_refl _
  admitted := admitted ▸ List.Subset.refl _
  taken := fun frame _ _ => congrArg (List.lookup frame) taken
  starts := starts ▸ List.Subset.refl _
  stopped := stopped

theorem Justified.mono {frame : BufferedFrame} {loss : Loss} (h : st.Justified frame loss)
    (lost : (frame, loss) ∈ st.lost) (remembers : st.Remembers after) :
    after.Justified frame loss := by
  cases loss with
  | flushed flush =>
    obtain ⟨hsince, range, hrange, hin⟩ := h
    obtain ⟨hflush, heq⟩ := List.getElem?_eq_some_iff.mp hrange
    refine ⟨hsince, range, ?_, hin⟩
    rw [List.prefix_iff_getElem?.mp remembers.flushes flush hflush, heq]
  | stale due =>
    obtain ⟨start, hstart, hdue⟩ := h
    exact ⟨start, remembers.starts hstart, hdue⟩
  | replaced =>
    obtain ⟨other, hother, hreplaces⟩ := h
    exact ⟨other, remembers.admitted hother, hreplaces⟩
  | interrupted =>
    obtain ⟨htaken, hbefore, hlost⟩ := h
    exact ⟨(remembers.taken frame _ lost).trans htaken, hbefore,
      hlost.trans remembers.flushes.length_le⟩
  | stopped => exact remembers.stopped h

end BufferedAudio

/-! ### Frames that leave the buffer -/

theorem gone_retain (keep : UInt32 → BufferedFrame → Bool) (buffer : PlayoutBuffer) :
    BufferedAudio.gone buffer (AssocMap.retain keep buffer) =
      AssocMap.values (AssocMap.retain (fun timestamp frame => !keep timestamp frame) buffer) := by
  refine congrArg AssocMap.values (AssocMap.retain_congr fun timestamp frame found => ?_)
  have hkept := AssocMap.lookup_retain_eq_some keep buffer (a := timestamp) (b := frame)
  cases hkeep : keep timestamp frame with
  | true => rw [hkept.mpr ⟨found, hkeep⟩]; rfl
  | false =>
    cases hlookup : (AssocMap.retain keep buffer).lookup timestamp with
    | none => rfl
    | some other =>
      obtain ⟨hother, hkeeps⟩ := (AssocMap.lookup_retain_eq_some _ _).mp hlookup
      rw [found] at hother
      cases hother
      rw [hkeep] at hkeeps
      cases hkeeps

theorem gone_empty (buffer : PlayoutBuffer) :
    BufferedAudio.gone buffer ∅ = AssocMap.values buffer := by
  have hall : AssocMap.retain (fun _ _ => true) buffer = buffer :=
    AList.ext (List.filter_true _)
  calc
    BufferedAudio.gone buffer ∅ = AssocMap.values (AssocMap.retain (fun _ _ => true) buffer) :=
      congrArg AssocMap.values (AssocMap.retain_congr fun _ _ _ => rfl)
    _ = AssocMap.values buffer := by rw [hall]

theorem gone_perm_retain (keep : UInt32 → BufferedFrame → Bool) (buffer : PlayoutBuffer) :
    (AssocMap.values (AssocMap.retain keep buffer) ++
      BufferedAudio.gone buffer (AssocMap.retain keep buffer)).Perm (AssocMap.values buffer) := by
  rw [gone_retain]
  exact AssocMap.values_retain_perm keep buffer

/-! ### The ledger -/

structure Ledger (st : BufferedAudio) : Prop where
  balance : st.admitted.Perm st.placed
  numbers : ∀ frame ∈ st.admitted, frame.number < st.admitted.length
  distinct : (st.admitted.map BufferedFrame.number).Nodup
  keyed : ∀ timestamp frame, st.playout.buffer.lookup timestamp = some frame →
    frame.timestamp = timestamp
  offered : ∀ timestamp frame presentationTime,
    st.delivery = .offering timestamp frame presentationTime →
    frame.timestamp = timestamp ∧
      (∀ other, st.playout.buffer.lookup timestamp = some other → frame.number < other.number) ∧
      ∃ taken ≤ st.flushes.length, st.taken.head? = some (frame, taken) ∧
        st.deliveredEpoch = taken % 2 ^ 64
  justified : ∀ frame loss, (frame, loss) ∈ st.lost → st.Justified frame loss

namespace Ledger

theorem new : Ledger (.new env start) where
  balance := .nil
  numbers := nofun
  distinct := .nil
  keyed := nofun
  offered := nofun
  justified := nofun

theorem admitted_of_found (h : Ledger st) {timestamp : UInt32} {frame : BufferedFrame}
    (found : st.playout.buffer.lookup timestamp = some frame) : frame ∈ st.admitted := by
  rw [h.balance.mem_iff, BufferedAudio.placed, List.append_assoc, List.append_assoc]
  exact List.mem_append_left _ (AssocMap.mem_values_iff.mpr ⟨timestamp, found⟩)

theorem nodup_placed (h : Ledger st) : st.placed.Nodup :=
  h.balance.nodup_iff.mp h.distinct.of_map

/-- A frame of the buffer is not lost. -/
theorem not_lost_of_found (h : Ledger st) {timestamp : UInt32} {frame : BufferedFrame}
    {loss : Loss} (found : st.playout.buffer.lookup timestamp = some frame) :
    (frame, loss) ∉ st.lost := by
  intro hlost
  have hplaced := h.nodup_placed
  rw [BufferedAudio.placed, List.append_assoc, List.append_assoc] at hplaced
  refine List.disjoint_of_nodup_append hplaced
    (AssocMap.mem_values_iff.mpr ⟨timestamp, found⟩) ?_
  exact List.mem_append_right _ (List.mem_append_right _ (List.mem_map_of_mem hlost))

/-- Frames leave the buffer, each for the same reason. -/
theorem edit (h : Ledger st) (playout : PlayoutState) (loss : Loss)
    (remembers : st.Remembers after) (admitted : after.admitted = st.admitted)
    (taken : after.taken = st.taken)
    (deliveredEpoch : after.deliveredEpoch = st.deliveredEpoch)
    (delivery : after.delivery = st.delivery) (callbacks : after.callbacks = st.callbacks)
    (lost : after.lost = (st.edit playout loss).lost)
    (buffer : after.playout.buffer = playout.buffer)
    (perm : (AssocMap.values playout.buffer ++
      BufferedAudio.gone st.playout.buffer playout.buffer).Perm (AssocMap.values st.playout.buffer))
    (kept : ∀ timestamp frame, playout.buffer.lookup timestamp = some frame →
      st.playout.buffer.lookup timestamp = some frame)
    (reason : ∀ timestamp frame, st.playout.buffer.lookup timestamp = some frame →
      playout.buffer.lookup timestamp = none → after.Justified frame loss) : Ledger after where
  balance := by
    have hplaced : after.placed = AssocMap.values playout.buffer ++ st.delivery.frames ++
        st.played ++ (BufferedAudio.gone st.playout.buffer playout.buffer ++
          st.lost.map Prod.fst) := by
      simp only [BufferedAudio.placed, BufferedAudio.played, buffer, delivery, callbacks, lost,
        BufferedAudio.edit, List.map_append, List.map_map]
      rw [show (Prod.fst ∘ fun frame : BufferedFrame => (frame, loss)) = id from rfl, List.map_id]
    rw [admitted, hplaced, List.perm_iff_count]
    intro frame
    have hbalance := h.balance.count_eq frame
    have hperm := perm.count_eq frame
    simp only [BufferedAudio.placed, List.count_append] at hbalance hperm ⊢
    omega
  numbers := by
    rw [admitted]
    exact h.numbers
  distinct := by
    rw [admitted]
    exact h.distinct
  keyed := by
    intro timestamp frame found
    rw [buffer] at found
    exact h.keyed timestamp frame (kept timestamp frame found)
  offered := by
    intro timestamp frame presentationTime hoffering
    rw [delivery] at hoffering
    obtain ⟨htimestamp, hnewer, known, hknown, hrest⟩ :=
      h.offered timestamp frame presentationTime hoffering
    rw [buffer, deliveredEpoch, taken]
    exact ⟨htimestamp, fun other found => hnewer other (kept timestamp other found),
      known, hknown.trans remembers.flushes.length_le, hrest⟩
  justified := by
    intro frame loss' hlost
    rw [lost] at hlost
    obtain hgone | hold := List.mem_append.mp hlost
    · obtain ⟨frame, hframe, heq⟩ := List.mem_map.mp hgone
      cases heq
      obtain ⟨timestamp, hfound⟩ := AssocMap.mem_values_iff.mp hframe
      obtain ⟨hfound, hnone⟩ := (AssocMap.lookup_retain_eq_some _ _).mp hfound
      exact reason timestamp frame hfound (Option.isNone_iff_eq_none.mp hnone)
    · exact (h.justified frame loss' hold).mono hold remembers

/-- No frame changes its place. -/
theorem frame (h : Ledger st) (buffer : after.playout.buffer = st.playout.buffer)
    (frames : after.delivery.frames = st.delivery.frames)
    (offered : ∀ timestamp frame presentationTime,
      after.delivery = .offering timestamp frame presentationTime →
      st.delivery = .offering timestamp frame presentationTime ∧
        after.deliveredEpoch = st.deliveredEpoch)
    (played : after.played = st.played) (flushes : after.flushes = st.flushes)
    (admitted : after.admitted = st.admitted) (taken : after.taken = st.taken)
    (starts : after.starts = st.starts) (lost : after.lost = st.lost)
    (stopped : st.playout.stopped = true → after.playout.stopped = true) : Ledger after where
  balance := by
    rw [admitted, BufferedAudio.placed, buffer, frames, played, lost]
    exact h.balance
  numbers := by
    rw [admitted]
    exact h.numbers
  distinct := by
    rw [admitted]
    exact h.distinct
  keyed := by
    rw [buffer]
    exact h.keyed
  offered := by
    intro timestamp frame presentationTime hoffering
    obtain ⟨hold, hepoch⟩ := offered timestamp frame presentationTime hoffering
    rw [buffer, flushes, taken, hepoch]
    exact h.offered timestamp frame presentationTime hold
  justified := by
    intro frame loss hlost
    rw [lost] at hlost
    exact (h.justified frame loss hlost).mono hlost (.same flushes admitted taken starts stopped)

theorem insert (h : Ledger st) (packet : AudioPacket) (samples : List Sample) :
    Ledger ((st.insert packet samples).goto .gating) where
  balance := by
    have hreplaced : (AssocMap.values st.playout.buffer).Perm
        ((st.playout.buffer.lookup packet.timestamp).toList ++
          AssocMap.values (st.playout.buffer.erase packet.timestamp)) := by
      cases hlookup : st.playout.buffer.lookup packet.timestamp with
      | none => rw [AssocMap.erase_of_lookup_none hlookup]; rfl
      | some old => exact AssocMap.values_perm_erase hlookup
    have hplaced : ((st.insert packet samples).goto .gating).placed =
        st.frame packet samples :: AssocMap.values (st.playout.buffer.erase packet.timestamp) ++
          st.delivery.frames ++ st.played ++
            ((st.playout.buffer.lookup packet.timestamp).toList ++ st.lost.map Prod.fst) := by
      simp only [BufferedAudio.placed, BufferedAudio.goto, BufferedAudio.insert,
        AssocMap.values_insert, BufferedAudio.played, List.map_append, List.map_map]
      rw [show (Prod.fst ∘ fun old : BufferedFrame => (old, Loss.replaced)) = id from rfl,
        List.map_id]
    rw [hplaced]
    change (st.frame packet samples :: st.admitted).Perm _
    rw [List.perm_iff_count]
    intro frame
    have hbalance := h.balance.count_eq frame
    have hperm := hreplaced.count_eq frame
    simp only [BufferedAudio.placed, List.count_append, List.count_cons] at hbalance hperm ⊢
    omega
  numbers := by
    intro frame hframe
    change frame.number < (st.frame packet samples :: st.admitted).length
    rw [List.length_cons]
    obtain rfl | hold := List.mem_cons.mp hframe
    · exact Nat.lt_succ_self _
    · exact (h.numbers frame hold).trans (Nat.lt_succ_self _)
  distinct := by
    refine List.nodup_cons.mpr ⟨fun hmem => ?_, h.distinct⟩
    obtain ⟨frame, hframe, heq⟩ := List.mem_map.mp hmem
    have hlt := h.numbers frame hframe
    rw [heq] at hlt
    exact Nat.lt_irrefl _ hlt
  keyed := by
    intro timestamp frame found
    change (st.playout.buffer.insert packet.timestamp (st.frame packet samples)).lookup
      timestamp = some frame at found
    rw [AssocMap.lookup_insert_ite] at found
    split at found
    · case isTrue heq =>
      cases found
      exact heq.symm
    · exact h.keyed timestamp frame found
  offered := by
    intro timestamp frame presentationTime hoffering
    obtain ⟨htimestamp, hnewer, hrest⟩ := h.offered timestamp frame presentationTime hoffering
    refine ⟨htimestamp, fun other found => ?_, hrest⟩
    change (st.playout.buffer.insert packet.timestamp (st.frame packet samples)).lookup
      timestamp = some other at found
    rw [AssocMap.lookup_insert_ite] at found
    split at found
    · cases found
      refine h.numbers frame (h.balance.mem_iff.mpr ?_)
      have hdelivery : st.delivery = .offering timestamp frame presentationTime := hoffering
      simp [BufferedAudio.placed, hdelivery, Delivery.frames]
    · exact hnewer other found
  justified := by
    intro frame loss hlost
    obtain hreplaced | hold := List.mem_append.mp hlost
    · obtain ⟨old, hold, heq⟩ := List.mem_map.mp hreplaced
      cases heq
      have hfound : st.playout.buffer.lookup packet.timestamp = some frame :=
        Option.mem_toList.mp hold
      refine ⟨st.frame packet samples, List.mem_cons_self, ?_, h.numbers frame ?_⟩
      · exact (h.keyed packet.timestamp frame hfound).symm
      · exact h.admitted_of_found hfound
    · exact (h.justified frame loss hold).mono hold ⟨List.prefix_refl _,
        List.subset_cons_self _ _, fun _ _ _ => rfl, List.Subset.refl _, id⟩

theorem openSession (h : Ledger st) : Ledger st.openSession := by
  unfold BufferedAudio.openSession
  split
  · exact h.frame rfl rfl (fun _ _ _ hoffering => ⟨hoffering, rfl⟩) rfl rfl rfl rfl rfl rfl id
  · exact h

/-- A frame goes from the buffer to the delivery thread. -/
theorem take (h : Ledger st) (idle : st.delivery.frames = []) {playout : PlayoutState}
    {timestamp : UInt32} {frame : BufferedFrame} (presentationTime : Option LocalTime)
    (found : st.playout.buffer.lookup timestamp = some frame)
    (buffer : playout.buffer = st.playout.buffer.erase timestamp)
    (stopped : st.playout.stopped = true → playout.stopped = true)
    (epoch : st.deliveredEpoch = st.flushes.length % 2 ^ 64) :
    Ledger { st with
      playout := playout
      delivery := .offering timestamp frame presentationTime
      taken := (frame, st.flushes.length) :: st.taken } where
  balance := by
    rw [List.perm_iff_count]
    intro other
    have hbalance := h.balance.count_eq other
    have hperm := (AssocMap.values_perm_erase found).count_eq other
    rw [BufferedAudio.placed, idle] at hbalance
    simp only [BufferedAudio.placed, BufferedAudio.played, buffer, Delivery.frames,
      List.count_append, List.count_cons, List.count_nil] at hbalance hperm ⊢
    omega
  numbers := h.numbers
  distinct := h.distinct
  keyed := by
    intro other frame' found'
    change playout.buffer.lookup other = some frame' at found'
    rw [buffer] at found'
    exact h.keyed other frame' (AssocMap.lookup_of_erase found')
  offered := by
    intro timestamp' frame' presentationTime' hoffering
    cases hoffering
    refine ⟨h.keyed timestamp frame found, fun other found' => ?_, _, le_rfl, rfl, epoch⟩
    change playout.buffer.lookup timestamp = some other at found'
    rw [buffer, AssocMap.lookup_erase_ite, if_pos rfl] at found'
    cases found'
  justified := by
    intro other loss hlost
    refine (h.justified other loss hlost).mono hlost ⟨List.prefix_refl _, List.Subset.refl _,
      fun other loss hold => ?_, List.Subset.refl _, stopped⟩
    have hne : other ≠ frame := by
      rintro rfl
      exact h.not_lost_of_found found hold
    change List.lookup other ((frame, st.flushes.length) :: st.taken) = _
    rw [List.lookup_cons, beq_false_of_ne hne]

section Settled

variable {timestamp : UInt32} {frame : BufferedFrame} {presentationTime : Option LocalTime}

/-- The session has taken the frame. -/
theorem play (h : Ledger st) (offering : st.delivery = .offering timestamp frame presentationTime) :
    Ledger (st.offer timestamp frame presentationTime true) where
  balance := by
    rw [List.perm_iff_count]
    intro other
    have hbalance := h.balance.count_eq other
    simp only [BufferedAudio.offer, if_true, BufferedAudio.placed, BufferedAudio.played, offering,
      Delivery.frames, List.flatMap_cons, Callback.played, List.count_append, List.count_cons,
      List.count_nil] at hbalance ⊢
    omega
  numbers := h.numbers
  distinct := h.distinct
  keyed := h.keyed
  offered := nofun
  justified := h.justified

/-- The frame that was offered is lost. -/
theorem lose (h : Ledger st) (offering : st.delivery = .offering timestamp frame presentationTime)
    {loss : Loss} (justified : st.Justified frame loss) (inFlightSamples : Nat) :
    Ledger { st with
      playout := { st.playout with inFlightSamples := inFlightSamples }
      delivery := .waiting
      callbacks := .process frame presentationTime st.deliveredEpoch false :: st.callbacks
      lost := (frame, loss) :: st.lost } where
  balance := by
    rw [List.perm_iff_count]
    intro other
    have hbalance := h.balance.count_eq other
    simp only [BufferedAudio.placed, BufferedAudio.played, offering, Delivery.frames,
      List.flatMap_cons, Callback.played, List.map_cons, List.count_append, List.count_cons,
      List.count_nil] at hbalance ⊢
    omega
  numbers := h.numbers
  distinct := h.distinct
  keyed := h.keyed
  offered := nofun
  justified := by
    intro other loss' hlost
    obtain heq | hold := List.mem_cons.mp hlost
    · cases heq
      exact justified
    · exact (h.justified other loss' hold).mono hold (.same rfl rfl rfl rfl id)

/-- The frame that was offered goes back into the buffer. -/
theorem restore (h : Ledger st)
    (offering : st.delivery = .offering timestamp frame presentationTime)
    (free : st.playout.buffer.lookup timestamp = none) (inFlightSamples : Nat) :
    Ledger { st with
      playout := { st.playout with
        inFlightSamples := inFlightSamples
        buffer := st.playout.buffer.insert timestamp frame }
      delivery := .waiting
      callbacks := .process frame presentationTime st.deliveredEpoch false :: st.callbacks } where
  balance := by
    rw [List.perm_iff_count]
    intro other
    have hbalance := h.balance.count_eq other
    simp only [BufferedAudio.placed, BufferedAudio.played, offering, Delivery.frames,
      AssocMap.values_insert, AssocMap.erase_of_lookup_none free, List.flatMap_cons,
      Callback.played, List.count_append, List.count_cons, List.count_nil] at hbalance ⊢
    omega
  numbers := h.numbers
  distinct := h.distinct
  keyed := by
    intro other frame' found
    change (st.playout.buffer.insert timestamp frame).lookup other = some frame' at found
    rw [AssocMap.lookup_insert_ite] at found
    split at found
    · case isTrue heq =>
      cases found
      rw [heq]
      exact (h.offered timestamp frame presentationTime offering).1
    · exact h.keyed other frame' found
  offered := nofun
  justified := fun other loss hlost =>
    (h.justified other loss hlost).mono hlost (.same rfl rfl rfl rfl id)

end Settled

/-- Playout drops the frames that were due before it started. -/
theorem starts (h : Ledger st) {playout : PlayoutState} (now : LocalTime)
    (starts : st.playout.Starts playout (playout.targetRtp now)) :
    Ledger { st.edit playout (.stale (playout.targetRtp now)) with
      starts := ⟨playout, now, st.admitted.length⟩ :: st.starts } := by
  refine h.edit playout (.stale (playout.targetRtp now)) ⟨List.prefix_refl _, List.Subset.refl _,
    fun _ _ _ => rfl, List.subset_cons_self _ _, fun hstopped => starts.stopped.trans hstopped⟩
    rfl rfl rfl rfl rfl rfl rfl ?_ ?_ ?_
  · rw [starts.buffer]
    exact gone_perm_retain _ _
  · intro timestamp frame found
    rw [starts.buffer] at found
    exact ((AssocMap.lookup_retain_eq_some _ _).mp found).1
  · intro timestamp frame found hnone
    rw [starts.buffer] at hnone
    refine ⟨_, List.mem_cons_self, rfl, h.numbers frame (h.admitted_of_found found), ?_⟩
    rw [h.keyed timestamp frame found]
    by_contra hdue
    have hkept := (AssocMap.lookup_retain_eq_some
      (fun timestamp _ => decide (0 ≤ asI32 (timestamp - playout.targetRtp now)))
        st.playout.buffer).mpr ⟨found, decide_eq_true (not_lt.mp hdue)⟩
    rw [hkept] at hnone
    cases hnone

/-- A flush drops the frames that it covers. -/
theorem flushRange (h : Ledger st)
    (known : ∀ frame ∈ st.admitted, frame.flushes ≤ st.flushes.length) (first last : UInt16) :
    Ledger (st.flushRange first last) := by
  refine h.edit (st.playout.flush first last) (.flushed st.flushes.length)
    ⟨List.prefix_append _ _, List.Subset.refl _, fun _ _ _ => rfl, List.Subset.refl _, id⟩
    rfl rfl rfl rfl rfl rfl rfl (gone_perm_retain _ _) ?_ ?_
  · intro timestamp frame found
    exact ((AssocMap.lookup_retain_eq_some _ _).mp found).1
  · intro timestamp frame found hnone
    refine ⟨known frame (h.admitted_of_found found), (first, last), List.getElem?_concat_length, ?_⟩
    by_contra houtside
    have hkept := (AssocMap.lookup_retain_eq_some
      (fun _ frame => !sequenceInRange frame.sequence first last) st.playout.buffer).mpr
        ⟨found, by simpa using houtside⟩
    exact Option.some_ne_none frame (hkept.symm.trans hnone)

/-- A frame that is refused and does not go back is lost for a reason. -/
theorem refused (h : Ledger st) (checked : Checked st) {timestamp : UInt32}
    {frame : BufferedFrame} {presentationTime : Option LocalTime} {loss : Loss}
    (offering : st.delivery = .offering timestamp frame presentationTime)
    (lost : st.playout.stopped = true ∧ loss = .stopped ∨
      st.playout.epoch ≠ st.deliveredEpoch ∧
        loss = .interrupted st.takenAfter st.flushes.length ∨
      (st.playout.buffer.lookup timestamp).isSome = true ∧ loss = .replaced) :
    st.Justified frame loss := by
  obtain ⟨htimestamp, hnewer, taken, hbefore, htaken, hepoch⟩ := h.offered _ _ _ offering
  obtain ⟨hstopped, rfl⟩ | ⟨hinterrupted, rfl⟩ | ⟨hreplaced, rfl⟩ := lost
  · exact hstopped
  · have hafter : st.takenAfter = taken := by
      rw [BufferedAudio.takenAfter, htaken]
      rfl
    obtain ⟨older, holder⟩ := List.head?_eq_some_iff.mp htaken
    rw [hafter]
    refine ⟨by rw [holder, List.lookup_cons_self], lt_of_le_of_ne hbefore ?_, le_rfl⟩
    rintro rfl
    exact hinterrupted (checked.epoch.trans hepoch.symm)
  · obtain ⟨other, hother⟩ := Option.isSome_iff_exists.mp hreplaced
    exact ⟨other, h.admitted_of_found hother, (h.keyed _ other hother).trans htimestamp.symm,
      hnewer other hother⟩

theorem step (h : Ledger st) (checked : Checked st) (step : BufferedStep env st after) :
    Ledger after := by
  cases step with
  | idles _ _ keeps =>
    exact h.frame keeps.buffer rfl (fun _ _ _ hoffering => ⟨hoffering, rfl⟩) rfl rfl rfl rfl rfl rfl
      (fun hstopped => keeps.stopped.trans hstopped)
  | passes =>
    exact h.frame (st.playout.forgetFlush_buffer _) rfl (fun _ _ _ hoffering => ⟨hoffering, rfl⟩)
      rfl rfl rfl rfl rfl rfl (st.playout.forgetFlush_stopped _).trans
  | inserts => exact h.insert _ _
  | @stops playout _ _ stops =>
    refine h.edit playout .stopped (.same rfl rfl rfl rfl fun _ => stops.stopped) rfl rfl rfl rfl
      rfl rfl rfl ?_ ?_ (fun _ _ _ _ => stops.stopped)
    · rw [stops.buffer, gone_empty]
      rfl
    · intro timestamp frame found
      rw [stops.buffer] at found
      cases found
  | starts now starts => exact h.starts now starts
  | flushes first last =>
    exact h.flushRange
      (fun frame hframe => checked.passed_le _ _ (checked.admitted frame hframe)) first last
  | winds _ waiting => exact h.frame rfl (by rw [waiting]; rfl) nofun rfl rfl rfl rfl rfl rfl id
  | catchesUp waiting =>
    refine h.frame rfl ?_ ?_ rfl rfl rfl rfl rfl rfl id
    · rw [waiting]
      cases st.session <;> rfl
    · intro timestamp frame presentationTime hoffering
      dsimp only at hoffering
      split at hoffering <;> cases hoffering
  | opens => exact h.openSession
  | takes presentationTime waiting _ current found =>
    refine h.openSession.take ?_ presentationTime ?_ ?_ id ?_
    · rw [st.openSession_delivery, waiting]
      rfl
    · rw [st.openSession_buffer]
      exact found
    · rw [st.openSession_buffer]
    · rw [st.openSession_flushes, st.openSession_deliveredEpoch, ← current, checked.epoch]
  | notifies flushing =>
    exact h.frame rfl (by rw [flushing]; rfl) nofun rfl rfl rfl rfl rfl rfl id
  | processes offering => exact h.play offering
  | loses offering lost => exact h.lose offering (h.refused checked offering lost) 0
  | returns offering _ _ free => exact h.restore offering free 0
  | ends stopping =>
    refine h.frame rfl (by rw [stopping]; rfl) nofun ?_ rfl rfl rfl rfl rfl id
    cases hsession : st.session <;> simp [BufferedAudio.played, Callback.played]

theorem of_reachable (h : (bufferedAudio env start).Reachable st) : Ledger st :=
  h.invariant_with (I := Ledger) (fun _ => Checked.of_reachable) new
    fun _ _ _ checked ledger taken => ledger.step checked (BufferedAudio.step_cases taken)

end Ledger

/-- Every admitted frame is in one place, and one that is lost was lost for a reason that holds. -/
theorem admitted_accounted (h : (bufferedAudio env start).Reachable st) :
    st.admitted.Perm st.placed ∧ st.placed.Nodup ∧
      ∀ frame loss, (frame, loss) ∈ st.lost → st.Justified frame loss := by
  have hledger := Ledger.of_reachable h
  exact ⟨hledger.balance, hledger.nodup_placed, hledger.justified⟩

/-- One frame is lost for each reason: the second packet has the timestamp of the first and is due
before playout starts, a flush comes while the third is offered, another flush covers the fourth,
and the fifth is in the buffer when the stream stops. -/
def Tone.losses : List BufferedAudioLabel :=
  [.accept true] ++ arrives 7 4 0 ++ arrives 8 4 0 ++
    [.command (.setRate 2048 1 5 1) (some ⟨1, 100000000⟩) 110000000] ++ arrives 9 10 110000000 ++
    [.deliver 120000000, .command (.flush 20 21) none 120000000, .offer false,
      .deliver 120000000, .flush] ++
    arrives 10 11 120000000 ++ [.command (.flush 10 10) none 120000000] ++
    arrives 11 12 120000000 ++ [.command .stop none 120000000]

theorem admitted_accounted_on_tone :
    ∃ st, (bufferedAudio Tone.audioEnv 0).run (.new Tone.audioEnv 0) Tone.losses = some st ∧
      st.lost = [(Tone.frame 11 3072 4 2, .stopped), (Tone.frame 10 2816 3 1, .flushed 1),
        (Tone.frame 9 2560 2 0, .interrupted 0 1), (Tone.frame 8 1024 1 0, .stale 2528),
        (Tone.frame 7 1024 0 0, .replaced)] ∧
      st.admitted.Perm st.placed ∧ st.placed.Nodup ∧
        ∀ frame loss, (frame, loss) ∈ st.lost → st.Justified frame loss := by
  have hruns : ((bufferedAudio Tone.audioEnv 0).run (.new Tone.audioEnv 0) Tone.losses).map
      BufferedAudio.lost = some [(Tone.frame 11 3072 4 2, .stopped),
        (Tone.frame 10 2816 3 1, .flushed 1), (Tone.frame 9 2560 2 0, .interrupted 0 1),
        (Tone.frame 8 1024 1 0, .stale 2528), (Tone.frame 7 1024 0 0, .replaced)] := by
    decide +kernel
  obtain ⟨st, hrun, hlost⟩ := Option.map_eq_some_iff.mp hruns
  exact ⟨st, hrun, hlost, admitted_accounted (.of_run .init hrun)⟩

/-! ### The budget -/

def maxBudget : Nat := 8 * 1024 * 1024 / 4

/-- The samples in flight are those of the frame that is offered. -/
structure Budgeted (st : BufferedAudio) : Prop where
  inFlight : st.playout.inFlightSamples =
    (st.delivery.frames.map fun frame => frame.samples.length).sum
  queued_le : st.playout.queued ≤ maxBudget

theorem PlayoutBuffer.samples_le_of_sublist {before buffer : PlayoutBuffer}
    (h : (AssocMap.values buffer).Sublist (AssocMap.values before)) :
    buffer.samples ≤ before.samples :=
  (h.map fun frame : BufferedFrame => frame.samples.length).sum_le_sum fun _ _ => Nat.zero_le _

namespace Budgeted

theorem new : Budgeted (.new env start) where
  inFlight := rfl
  queued_le := Nat.zero_le _

/-- The buffer takes up no more room, and the same frame is offered. -/
theorem shrink (h : Budgeted st) (buffer : after.playout.buffer.samples ≤ st.playout.buffer.samples)
    (inFlight : after.playout.inFlightSamples = st.playout.inFlightSamples)
    (frames : after.delivery.frames = st.delivery.frames) : Budgeted after where
  inFlight := by
    rw [inFlight, frames]
    exact h.inFlight
  queued_le := by
    refine (Nat.add_le_add buffer inFlight.le).trans h.queued_le

theorem openSession (h : Budgeted st) : Budgeted st.openSession :=
  h.shrink (by rw [st.openSession_buffer]) st.openSession_inFlightSamples
    (by rw [st.openSession_delivery])

theorem insert (h : Budgeted st) (packet : AudioPacket) (samples : List Sample)
    (room : st.playout.queued + samples.length ≤ st.playout.budget) :
    Budgeted ((st.insert packet samples).goto .gating) where
  inFlight := h.inFlight
  queued_le := by
    have hinsert : PlayoutBuffer.samples (st.playout.buffer.insert packet.timestamp
        (st.frame packet samples)) ≤ st.playout.buffer.samples + samples.length := by
      have herase := PlayoutBuffer.samples_le_of_sublist
        (AssocMap.values_erase_sublist packet.timestamp st.playout.buffer)
      rw [PlayoutBuffer.samples, AssocMap.total_insert, Nat.add_comm]
      exact Nat.add_le_add_right herase _
    have hbudget : st.playout.budget ≤ maxBudget := Nat.min_le_right _ _
    change PlayoutBuffer.samples (st.playout.buffer.insert packet.timestamp
      (st.frame packet samples)) + st.playout.inFlightSamples ≤ maxBudget
    rw [PlayoutState.queued] at room
    omega

/-- The samples of a frame count in the buffer or in flight. -/
theorem take (h : Budgeted st) (idle : st.delivery.frames = []) {playout : PlayoutState}
    {timestamp : UInt32} {frame : BufferedFrame} (presentationTime : Option LocalTime)
    {taken : List (BufferedFrame × Nat)}
    (found : st.playout.buffer.lookup timestamp = some frame)
    (buffer : playout.buffer = st.playout.buffer.erase timestamp)
    (inFlight : playout.inFlightSamples = frame.samples.length) :
    Budgeted { st with
      playout := playout
      delivery := .offering timestamp frame presentationTime
      taken := taken } where
  inFlight := by
    rw [Delivery.frames, List.map_singleton, List.sum_singleton]
    exact inFlight
  queued_le := by
    have hqueued := h.queued_le
    have hnone := h.inFlight
    have hsamples := AssocMap.total_of_lookup (fun frame => frame.samples.length) found
    rw [idle, List.map_nil, List.sum_nil] at hnone
    rw [PlayoutState.queued, PlayoutBuffer.samples, hsamples, hnone] at hqueued
    rw [PlayoutState.queued, inFlight, buffer, PlayoutBuffer.samples]
    omega

/-- The session has answered, and the frame does not go back. -/
theorem settle (h : Budgeted st) (buffer : after.playout.buffer = st.playout.buffer)
    (inFlight : after.playout.inFlightSamples = 0) (idle : after.delivery.frames = []) :
    Budgeted after where
  inFlight := by
    rw [inFlight, idle]
    rfl
  queued_le := by
    have hqueued := h.queued_le
    rw [PlayoutState.queued] at hqueued ⊢
    rw [buffer, inFlight]
    omega

theorem restore (h : Budgeted st) {timestamp : UInt32} {frame : BufferedFrame}
    {presentationTime : Option LocalTime}
    (offering : st.delivery = .offering timestamp frame presentationTime)
    (free : st.playout.buffer.lookup timestamp = none)
    (buffer : after.playout.buffer = st.playout.buffer.insert timestamp frame)
    (inFlight : after.playout.inFlightSamples = 0) (idle : after.delivery.frames = []) :
    Budgeted after where
  inFlight := by
    rw [inFlight, idle]
    rfl
  queued_le := by
    have hqueued := h.queued_le
    have hframe := h.inFlight
    rw [offering, Delivery.frames, List.map_singleton, List.sum_singleton] at hframe
    rw [PlayoutState.queued, hframe, PlayoutBuffer.samples] at hqueued
    rw [PlayoutState.queued, buffer, inFlight, PlayoutBuffer.samples,
      AssocMap.total_insert_of_none _ free]
    omega

theorem step (h : Budgeted st) (step : BufferedStep env st after) : Budgeted after := by
  cases step with
  | idles _ _ keeps => exact h.shrink (by rw [keeps.buffer]) keeps.inFlightSamples rfl
  | passes =>
    exact h.shrink (congrArg _ (st.playout.forgetFlush_buffer _)).le
      (st.playout.forgetFlush_inFlightSamples _) rfl
  | inserts _ _ _ room => exact h.insert _ _ room
  | @stops playout _ _ stops =>
    have hbuffer : playout.buffer.samples ≤ st.playout.buffer.samples := by
      rw [stops.buffer]
      exact Nat.zero_le _
    exact h.shrink hbuffer stops.inFlightSamples rfl
  | @starts playout _ starts =>
    have hbuffer : playout.buffer.samples ≤ st.playout.buffer.samples := by
      rw [starts.buffer]
      exact PlayoutBuffer.samples_le_of_sublist (AssocMap.values_retain_sublist _ _)
    exact h.shrink hbuffer starts.inFlightSamples rfl
  | flushes =>
    exact h.shrink (PlayoutBuffer.samples_le_of_sublist (AssocMap.values_retain_sublist _ _))
      rfl rfl
  | winds _ waiting => exact h.shrink le_rfl rfl (by rw [waiting]; rfl)
  | catchesUp waiting =>
    refine h.shrink le_rfl rfl ?_
    rw [waiting]
    cases st.session <;> rfl
  | opens => exact h.openSession
  | takes presentationTime waiting _ _ found =>
    refine h.openSession.take ?_ presentationTime ?_ ?_ rfl
    · rw [st.openSession_delivery, waiting]
      rfl
    · rw [st.openSession_buffer]
      exact found
    · rw [st.openSession_buffer]
  | notifies flushing => exact h.shrink le_rfl rfl (by rw [flushing]; rfl)
  | processes => exact h.settle rfl rfl rfl
  | loses => exact h.settle rfl rfl rfl
  | returns offering _ _ free => exact h.restore offering free rfl rfl rfl
  | ends stopping => exact h.shrink le_rfl rfl (by rw [stopping]; rfl)

end Budgeted

/-- What the budget counts is the PCM in the buffer and the frame that the session is offered,
and that never exceeds 8 MiB. -/
theorem queued_within_budget (h : (bufferedAudio env start).Reachable st) :
    st.playout.queued =
        ((AssocMap.values st.playout.buffer ++ st.delivery.frames).map
          fun frame => frame.samples.length).sum ∧
      st.playout.queued ≤ maxBudget := by
  have hbudgeted : Budgeted st :=
    h.invariant (I := Budgeted) .new fun _ _ _ budgeted taken =>
      budgeted.step (BufferedAudio.step_cases taken)
  refine ⟨?_, hbudgeted.queued_le⟩
  rw [List.map_append, List.sum_append, ← hbudgeted.inFlight]
  rfl

theorem queued_within_budget_on_tone :
    ∃ st, (bufferedAudio Tone.audioEnv 0).run (.new Tone.audioEnv 0) (Tone.run.take 9) = some st ∧
      st.playout.inFlightSamples = 2 ∧
      st.playout.queued =
        ((AssocMap.values st.playout.buffer ++ st.delivery.frames).map
          fun frame => frame.samples.length).sum ∧
      st.playout.queued ≤ maxBudget := by
  have hruns : ((bufferedAudio Tone.audioEnv 0).run (.new Tone.audioEnv 0)
      (Tone.run.take 9)).map (fun st => st.playout.inFlightSamples) = some 2 := by
    decide +kernel
  obtain ⟨st, hrun, hinFlight⟩ := Option.map_eq_some_iff.mp hruns
  exact ⟨st, hrun, hinFlight, queued_within_budget (.of_run .init hrun)⟩

end AirSonos.Raop
