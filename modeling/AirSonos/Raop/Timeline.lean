import AirSonos.Lib.Rounding
import AirSonos.Raop.Steps

/-!
# Sessions that share a timeline

All sessions of one sender map its network time to the local clock through one origin. The
first session that needs it picks it, and it ends with the last session that holds it. Playout
then presents a frame at the local time of its network time, less what rounding to whole frames
costs.
-/

namespace AirSonos.Raop

/-- What the sessions of the server have in common, and the cipher of each. -/
structure ReceiversEnv where
  clock : Clock
  config : OutputConfig
  decrypt : Nat → List UInt8 → List UInt8 → List UInt8 → Option (List UInt8)

def ReceiversEnv.session (env : ReceiversEnv) (session : Nat) : BufferedAudioEnv where
  clock := env.clock
  config := env.config
  decrypt := env.decrypt session

/-- `TIMELINES` does not keep an origin alive. -/
structure Receivers where
  sessions : AssocMap Nat BufferedAudio
  timelines : AssocMap UInt64 TimelineOrigin

inductive ReceiversLabel
  | start (session : Nat) (now : LocalTime)
  | takes (session : Nat) (label : BufferedAudioLabel)
  | drops (session : Nat)

/-- The timeline whose shared origin the session asks for. -/
def BufferedAudio.asksFor (st : BufferedAudio) : BufferedAudioLabel → Option UInt64
  | .command (.setRate _ anchorTimeNs timelineId rate) _ _ =>
    if rate ≠ 0 ∧ anchorTimeNs ≠ 0 ∧ timelineId ≠ 0 ∧
        st.playout.timeline.map Prod.fst ≠ some timelineId then some timelineId
    else none
  | _ => none

/-- The shared origin that the label claims for its timeline. -/
def BufferedAudioLabel.shared : BufferedAudioLabel → Option TimelineOrigin
  | command _ shared _ => shared
  | _ => none

namespace Receivers

variable (env : ReceiversEnv)

/-- Some session holds the origin. -/
def alive (st : Receivers) (timelineId : UInt64) (origin : TimelineOrigin) : Bool :=
  (AssocMap.values st.sessions).any fun session =>
    decide (session.playout.timeline = some (timelineId, origin))

def live (st : Receivers) : AssocMap UInt64 TimelineOrigin :=
  AssocMap.retain st.alive st.timelines

/-- The origin that `shared_origin` finds. -/
def found (st : Receivers) (session : BufferedAudio) (label : BufferedAudioLabel) :
    Option TimelineOrigin :=
  (session.asksFor label).bind fun timelineId => st.live.lookup timelineId

/-- The session that asked now holds the origin that it found or proposed. -/
def register (st : Receivers) (session next : BufferedAudio) (label : BufferedAudioLabel) :
    AssocMap UInt64 TimelineOrigin :=
  match session.asksFor label with
  | none => st.timelines
  | some _ => next.playout.timeline.elim st.live fun held => st.live.insert held.1 held.2

def step (st : Receivers) : ReceiversLabel → Option Receivers
  | .start session now =>
    if (st.sessions.lookup session).isSome then none
    else some { st with sessions := st.sessions.insert session (.new (env.session session) now) }
  | .takes id label =>
    (st.sessions.lookup id).bind fun session =>
      if label.shared = st.found session label then
        (session.step (env.session id) label).map fun next =>
          { sessions := st.sessions.insert id next
            timelines := st.register session next label }
      else none
  | .drops session => some { st with sessions := st.sessions.erase session }

end Receivers

def receivers (env : ReceiversEnv) : TransitionSystem Receivers ReceiversLabel where
  init := ⟨∅, ∅⟩
  step := Receivers.step env

/-! ### Casts -/

theorem asI32_add_ofNat {timestamp : UInt32} {frames : Nat}
    (small : asI32 timestamp + frames < 2 ^ 31) :
    asI32 (timestamp + UInt32.ofNat frames) = asI32 timestamp + frames := by
  have hlow : -2 ^ 31 ≤ asI32 timestamp := timestamp.toBitVec.le_toInt
  have hofNat : (UInt32.ofNat frames).toBitVec.toInt = (frames : Int).bmod (2 ^ 32) :=
    BitVec.toInt_ofNat' frames
  rw [asI32, UInt32.toBitVec_add, BitVec.toInt_add, hofNat, Int.add_bmod_bmod]
  exact Int.bmod_eq_of_le (by rw [asI32] at hlow; omega) (by rw [asI32] at small; omega)

theorem Clock.offsetInstant_eq_some {clock : Clock} {at_ time : LocalTime} {nanos : Int}
    (h : clock.offsetInstant at_ nanos = some time) : at_ + nanos = time := by
  unfold offsetInstant at h
  split at h
  · exact Option.some.inj h
  · cases h

/-! ### Playout on a timeline -/

namespace PlayoutState

variable {clock : Clock} {s t : PlayoutState} {origin : TimelineOrigin} {anchor : UInt32 × UInt64}

/-- The local time of the anchor on the timeline, where the clock has it. -/
def anchorTime (origin : TimelineOrigin) (anchor : UInt32 × UInt64) : LocalTime :=
  origin.localAt + asI64 (anchor.2 - origin.networkNs)

/-- The frame's network time, as a local time on the timeline. -/
def senderTime (s : PlayoutState) (origin : TimelineOrigin) (anchor : UInt32 × UInt64)
    (timestamp : UInt32) : LocalTime :=
  anchorTime origin anchor + framesToNanos (asI32 (timestamp - anchor.1)) s.sourceSampleRate

/-- Playout runs from at or before the anchor. -/
structure Follows (s : PlayoutState) (origin : TimelineOrigin) (anchor : UInt32 × UInt64) :
    Prop where
  early : s.anchorLocal ≤ anchorTime origin anchor
  anchorRtp : s.anchorRtp = anchor.1 -
    sourceFrames (anchorTime origin anchor - s.anchorLocal).toNat s.sourceSampleRate

/-- Six hours, and as many frames: no cast cuts anything off. -/
structure Near (s : PlayoutState) (origin : TimelineOrigin) (anchor : UInt32 × UInt64)
    (timestamp : UInt32) : Prop where
  lead : anchorTime origin anchor - s.anchorLocal ≤ 21600000000000
  frames : asI32 (timestamp - anchor.1) < 2 ^ 30

/-- The source has one of the rates of the AirPlay formats. -/
def KnownRate (s : PlayoutState) : Prop :=
  (s.sourceSampleRate : Nat) = 44100 ∨ (s.sourceSampleRate : Nat) = 48000

theorem presentationTime_near (follows : s.Follows origin anchor) (known : s.KnownRate)
    {timestamp : UInt32} (near : s.Near origin anchor timestamp) {time : LocalTime}
    (presented : s.presentationTime clock timestamp = some time) :
    time - s.senderTime origin anchor timestamp ≤ 1 ∧
      -22677 ≤ time - s.senderTime origin anchor timestamp := by
  obtain ⟨hearly, hanchor⟩ := follows
  obtain ⟨hlead, hframes⟩ := near
  obtain ⟨lead, hahead⟩ := Int.eq_ofNat_of_zero_le (Int.sub_nonneg_of_le hearly)
  have hshort : (lead : Int) ≤ 21600000000000 := hahead ▸ hlead
  have hrate : (0 : Int) < (s.sourceSampleRate : Nat) := by exact_mod_cast s.sourceSampleRate.pos
  obtain ⟨ticks, hticks⟩ : ∃ ticks, ticks = lead * s.sourceSampleRate / 1000000000 := ⟨_, rfl⟩
  have hfew : ticks < 2 ^ 30 := by
    obtain hknown | hknown := known <;> rw [hticks, hknown] <;> omega
  have hoffset : timestamp - s.anchorRtp = timestamp - anchor.1 + UInt32.ofNat ticks := by
    rw [hanchor, hahead, hticks]
    change timestamp - (anchor.1 - UInt32.ofNat (lead * s.sourceSampleRate / 1000000000)) = _
    grind
  have htime : time = s.anchorLocal +
      framesToNanos (asI32 (timestamp - anchor.1) + ticks) s.sourceSampleRate := by
    rw [← asI32_add_ofNat (by omega), ← hoffset]
    exact (Clock.offsetInstant_eq_some presented).symm
  have hbelow : (ticks : Int) * 1000000000 ≤ lead * (s.sourceSampleRate : Nat) := by
    rw [hticks]
    exact_mod_cast Nat.div_mul_le_self _ _
  have habove : (lead : Int) * (s.sourceSampleRate : Nat) < (ticks + 1) * 1000000000 := by
    rw [hticks]
    exact_mod_cast Nat.lt_mul_of_div_lt (Nat.lt_succ_self _) (by norm_num)
  obtain ⟨hlate, hsoon⟩ :=
    Rounding.tdiv_add_sub_le hrate (asI32 (timestamp - anchor.1)) hbelow habove
  have hslack : (1000000000 : Int) / (s.sourceSampleRate : Nat) ≤ 22675 := by
    obtain hknown | hknown := known <;> rw [hknown] <;> decide
  have herror : time - s.senderTime origin anchor timestamp =
      framesToNanos (asI32 (timestamp - anchor.1) + ticks) s.sourceSampleRate -
        framesToNanos (asI32 (timestamp - anchor.1)) s.sourceSampleRate - lead := by
    rw [htime, senderTime, eq_add_of_sub_eq hahead]
    ring
  rw [herror, framesToNanos, framesToNanos]
  have hslack : (-22677 : Int) ≤ -(1000000000 / (s.sourceSampleRate : Nat) + 2) := by omega
  exact ⟨hlate, hslack.trans hsoon⟩

/-- What an anchor says stays. -/
structure KeepsTime (before after : PlayoutState) : Prop where
  anchorRtp : after.anchorRtp = before.anchorRtp
  anchorLocal : after.anchorLocal = before.anchorLocal
  timeline : after.timeline = before.timeline
  mapped : after.mapped = before.mapped
  sourceSampleRate : after.sourceSampleRate = before.sourceSampleRate

theorem Follows.anchorAt (s : PlayoutState) (origin : TimelineOrigin) (anchor : UInt32 × UInt64)
    {localAt : LocalTime} (mapped : origin.localTime clock anchor.2 = some localAt)
    (now : LocalTime) (anchorRtp : t.anchorRtp = (s.anchorAt anchor.1 localAt now).1)
    (anchorLocal : t.anchorLocal = (s.anchorAt anchor.1 localAt now).2)
    (rate : t.sourceSampleRate = s.sourceSampleRate) : t.Follows origin anchor := by
  have htime : anchorTime origin anchor = localAt := Clock.offsetInstant_eq_some mapped
  rw [PlayoutState.anchorAt] at anchorRtp anchorLocal
  split at anchorRtp
  · case isTrue ahead =>
    rw [if_pos ahead] at anchorLocal
    refine ⟨?_, ?_⟩
    · rw [anchorLocal, htime]
      exact ahead
    · rw [anchorRtp, anchorLocal, htime, rate]
  · case isFalse behind =>
    rw [if_neg behind] at anchorLocal
    refine ⟨?_, ?_⟩
    · rw [anchorLocal, htime]
    · rw [anchorRtp, anchorLocal, htime, sub_self]
      change anchor.1 = anchor.1 - sourceFrames 0 _
      rw [sourceFrames, Nat.zero_mul, Nat.zero_div]
      exact (UInt32.sub_zero anchor.1).symm

/-- A mapped anchor is on the timeline of the session. -/
structure Timed (s : PlayoutState) : Prop where
  known : s.KnownRate
  follows : ∀ anchor, s.mapped = some anchor →
    ∃ timelineId origin, s.timeline = some (timelineId, origin) ∧ s.Follows origin anchor

namespace Timed

theorem new (config : OutputConfig) (now : LocalTime) : Timed (.new config now) where
  known := .inl rfl
  follows := nofun

theorem keep (h : s.Timed) (keeps : s.KeepsTime t) : t.Timed where
  known := by
    rw [KnownRate, keeps.sourceSampleRate]
    exact h.known
  follows := by
    intro anchor hmapped
    rw [keeps.mapped] at hmapped
    obtain ⟨timelineId, origin, htimeline, hearly, hanchor⟩ := h.follows anchor hmapped
    refine ⟨timelineId, origin, keeps.timeline.trans htimeline, ?_, ?_⟩
    · rw [keeps.anchorLocal]
      exact hearly
    · rw [keeps.anchorRtp, keeps.anchorLocal, keeps.sourceSampleRate]
      exact hanchor

theorem unmapped (known : s.KnownRate) (none : s.mapped = none) : s.Timed where
  known := known
  follows := by
    intro anchor hmapped
    rw [none] at hmapped
    cases hmapped

theorem anchorToTimeline (known : s.KnownRate) (unmapped : s.mapped = none)
    (shared : Option TimelineOrigin) (anchorRtp : UInt32) (networkNs timelineId : UInt64)
    (first : Option UInt32) (now : LocalTime) :
    (s.anchorToTimeline clock shared anchorRtp networkNs timelineId first now).Timed := by
  unfold PlayoutState.anchorToTimeline
  dsimp only
  split
  · exact .unmapped known unmapped
  · case h_2 localAt hlocal =>
    split
    · refine ⟨known, fun anchor hmapped => ?_⟩
      cases hmapped
      exact ⟨timelineId, _, rfl, .anchorAt s _ (anchorRtp, networkNs) hlocal now rfl rfl rfl⟩
    · exact .unmapped known unmapped

theorem startPlayout (h : s.Timed) (shared : Option TimelineOrigin) (anchorRtp : UInt32)
    (networkNs timelineId : UInt64) (now : LocalTime) :
    (s.startPlayout clock shared anchorRtp networkNs timelineId now).Timed := by
  have hknown : (s.anchorLocally anchorRtp now).KnownRate := h.known
  unfold PlayoutState.startPlayout
  dsimp only
  split
  · exact (anchorToTimeline hknown rfl shared anchorRtp networkNs timelineId
      (s.buffer.first anchorRtp) now).keep ⟨rfl, rfl, rfl, rfl, rfl⟩
  · exact .unmapped hknown rfl

theorem changeFormat (h : s.Timed) (config : OutputConfig) (ssrc : AudioSsrc) (switched : Bool)
    (now : LocalTime) : (s.changeFormat config ssrc switched now).Timed := by
  have hknown : (s.changeFormat config ssrc switched now).KnownRate := by
    change ((ssrc.sampleRate : ℕ+) : Nat) = 44100 ∨ ((ssrc.sampleRate : ℕ+) : Nat) = 48000
    cases ssrc <;> simp [AudioSsrc.sampleRate]
  by_cases hsame : switched = true ∨ ssrc.sampleRate ≠ s.sourceSampleRate
  · exact .unmapped hknown (if_pos hsame)
  · obtain ⟨hswitched, hrate⟩ := not_or.mp hsame
    have hadvanced : ¬(switched = true ∧ s.rate ≠ 0) := fun h => hswitched h.1
    refine h.keep ⟨?_, ?_, ?_, if_neg hsame, not_not.mp hrate⟩ <;>
    · unfold PlayoutState.changeFormat
      rw [if_neg hadvanced]

end Timed

end PlayoutState

/-! ### Steps -/

section Steps

variable {env : BufferedAudioEnv} {st after : BufferedAudio} {label : BufferedAudioLabel}

/-- Which labels move the anchor. -/
def BufferedAudioLabel.retimes : BufferedAudioLabel → Bool
  | detect _ => true
  | command (.setRate _ _ _ _) _ _ => true
  | _ => false

theorem PlayoutState.KeepsTime.refl (s : PlayoutState) : s.KeepsTime s :=
  ⟨rfl, rfl, rfl, rfl, rfl⟩

theorem PlayoutState.KeepsTime.trans {s t u : PlayoutState} (first : s.KeepsTime t)
    (second : t.KeepsTime u) : s.KeepsTime u where
  anchorRtp := second.anchorRtp.trans first.anchorRtp
  anchorLocal := second.anchorLocal.trans first.anchorLocal
  timeline := second.timeline.trans first.timeline
  mapped := second.mapped.trans first.mapped
  sourceSampleRate := second.sourceSampleRate.trans first.sourceSampleRate

theorem BufferedAudio.deliver_keepsTime (st : BufferedAudio) (now : LocalTime) :
    st.playout.KeepsTime (st.deliver env now).playout := by
  have hopen : st.playout.KeepsTime st.openSession.playout := by
    unfold openSession
    split <;> exact ⟨rfl, rfl, rfl, rfl, rfl⟩
  unfold deliver
  split
  · exact .refl _
  · split
    · exact .refl _
    · unfold take
      split
      · exact hopen
      · exact hopen.trans ⟨rfl, rfl, rfl, rfl, rfl⟩

theorem BufferedAudio.step_keepsTime (taken : st.step env label = some after)
    (keeps : label.retimes = false) : st.playout.KeepsTime after.playout := by
  cases label with
  | accept connected =>
    simp only [step] at taken
    split at taken <;> cases taken
    exact .refl _
  | gate =>
    simp only [step] at taken
    split at taken <;> cases taken
    unfold gate
    split
    · exact .refl _
    · split <;> exact .refl _
  | close =>
    simp only [step, close] at taken
    split at taken <;> cases taken <;> exact .refl _
  | read packet =>
    simp only [step] at taken
    split at taken <;> cases taken
    unfold read
    split <;> exact .refl _
  | check =>
    simp only [step] at taken
    split at taken <;> cases taken
    unfold check
    split
    · exact .refl _
    · split
      · exact .refl _
      · change PlayoutState.KeepsTime _ (st.playout.forgetFlush _)
        unfold PlayoutState.forgetFlush
        split <;> exact ⟨rfl, rfl, rfl, rfl, rfl⟩
  | detect => cases keeps
  | decode samples =>
    simp only [step] at taken
    split at taken <;> cases taken
    unfold decode
    split <;> exact .refl _
  | admission =>
    simp only [step] at taken
    split at taken <;> cases taken
    unfold admission
    split
    · exact .refl _
    · split
      · exact .refl _
      · split
        · exact .refl _
        · split
          · exact ⟨rfl, rfl, rfl, rfl, rfl⟩
          · exact .refl _
  | leave =>
    simp only [step] at taken
    split at taken <;> cases taken
    exact ⟨rfl, rfl, rfl, rfl, rfl⟩
  | command command =>
    simp only [step] at taken
    split at taken <;> cases taken
    cases command with
    | setRate => cases keeps
    | flush => exact ⟨rfl, rfl, rfl, rfl, rfl⟩
    | stop => exact ⟨rfl, rfl, rfl, rfl, rfl⟩
  | cleanUp =>
    simp only [step] at taken
    split at taken <;> cases taken
    exact ⟨rfl, rfl, rfl, rfl, rfl⟩
  | abort =>
    simp only [step] at taken
    split at taken <;> cases taken
    exact .refl _
  | deliver now =>
    simp only [step] at taken
    split at taken
    · split at taken <;> cases taken
      exact st.deliver_keepsTime now
    · cases taken
  | flush =>
    simp only [step] at taken
    split at taken <;> cases taken
    exact .refl _
  | offer accepted =>
    simp only [step] at taken
    split at taken <;> cases taken
    unfold offer
    split
    · exact ⟨rfl, rfl, rfl, rfl, rfl⟩
    · split
      · exact ⟨rfl, rfl, rfl, rfl, rfl⟩
      · split
        · exact ⟨rfl, rfl, rfl, rfl, rfl⟩
        · split <;> exact ⟨rfl, rfl, rfl, rfl, rfl⟩
  | stop =>
    simp only [step] at taken
    split at taken <;> cases taken
    exact .refl _

theorem BufferedAudio.step_timed (h : st.playout.Timed) (taken : st.step env label = some after) :
    after.playout.Timed := by
  cases hlabel : label.retimes with
  | false => exact h.keep (step_keepsTime taken hlabel)
  | true =>
    cases label with
    | detect now =>
      simp only [step] at taken
      split at taken <;> cases taken
      unfold detect
      split
      · exact h.changeFormat _ _ _ _
      · exact h
    | command command shared now =>
      simp only [step] at taken
      split at taken <;> cases taken
      cases command with
      | setRate anchorRtp anchorTimeNs timelineId rate =>
        change (st.setRate env anchorRtp anchorTimeNs timelineId rate shared now).playout.Timed
        unfold setRate
        split
        · exact .unmapped h.known rfl
        · have hrate : PlayoutState.Timed { st.playout with rate := rate } :=
            h.keep ⟨rfl, rfl, rfl, rfl, rfl⟩
          change (PlayoutState.startPlayout env.clock { st.playout with rate := rate } shared
            anchorRtp anchorTimeNs timelineId now).Timed
          exact hrate.startPlayout _ _ _ _ _
      | flush => cases hlabel
      | stop => cases hlabel
    | _ => cases hlabel

theorem PlayoutState.startPlayout_timeline {clock : Clock} (s : PlayoutState)
    (shared : Option TimelineOrigin) (anchorRtp : UInt32) (networkNs timelineId : UInt64)
    (now : LocalTime) :
    (s.startPlayout clock shared anchorRtp networkNs timelineId now).timeline =
      if networkNs ≠ 0 ∧ timelineId ≠ 0 then
        some (timelineId, (s.anchorLocally anchorRtp now).originOf shared anchorRtp networkNs
          timelineId now)
      else none := by
  unfold startPlayout
  dsimp only
  split
  · change (PlayoutState.anchorToTimeline _ _ _ _ _ _ _ _).timeline = _
    unfold anchorToTimeline
    dsimp only
    split
    · rfl
    · split <;> rfl
  · rfl

theorem PlayoutState.originOf_of_ne {s : PlayoutState} {timelineId : UInt64}
    (other : s.timeline.map Prod.fst ≠ some timelineId) (shared : Option TimelineOrigin)
    (anchorRtp : UInt32) (networkNs : UInt64) (now : LocalTime) :
    s.originOf shared anchorRtp networkNs timelineId now =
      shared.getD (s.proposedOrigin anchorRtp networkNs now) := by
  unfold originOf
  split
  · case h_1 id origin htimeline =>
    rw [htimeline, Option.map_some] at other
    rw [if_neg fun heq => other (congrArg some heq)]
  · rfl

theorem PlayoutState.originOf_of_eq {s : PlayoutState} {timelineId : UInt64}
    {origin : TimelineOrigin} (held : s.timeline = some (timelineId, origin))
    (shared : Option TimelineOrigin) (anchorRtp : UInt32) (networkNs : UInt64)
    (now : LocalTime) : s.originOf shared anchorRtp networkNs timelineId now = origin := by
  rw [originOf, held]
  exact if_pos rfl

theorem BufferedAudio.setRate_timeline (env : BufferedAudioEnv) (st : BufferedAudio)
    (anchorRtp : UInt32) (anchorTimeNs timelineId : UInt64) {rate : Nat} (hrate : rate ≠ 0)
    (shared : Option TimelineOrigin) (now : LocalTime) :
    ∃ anchored : PlayoutState, anchored.timeline = st.playout.timeline ∧
      (st.setRate env anchorRtp anchorTimeNs timelineId rate shared now).playout.timeline =
        if anchorTimeNs ≠ 0 ∧ timelineId ≠ 0 then
          some (timelineId, anchored.originOf shared anchorRtp anchorTimeNs timelineId now)
        else none := by
  obtain ⟨s, hs, htimeline⟩ : ∃ s : PlayoutState, s = { st.playout with rate := rate } ∧
      s.timeline = st.playout.timeline := ⟨_, rfl, rfl⟩
  refine ⟨s.anchorLocally anchorRtp now, htimeline, ?_⟩
  rw [setRate, if_neg hrate, ← hs]
  exact s.startPlayout_timeline shared anchorRtp anchorTimeNs timelineId now

/-- Whoever asks for a shared origin holds it afterwards, or the one that it proposed. -/
theorem BufferedAudio.step_asks (taken : st.step env label = some after) {timelineId : UInt64}
    (asks : st.asksFor label = some timelineId) : ∃ proposed,
      after.playout.timeline = some (timelineId, label.shared.getD proposed) := by
  unfold asksFor at asks
  split at asks
  · case h_1 anchorRtp anchorTimeNs timelineId rate shared now =>
    split at asks
    · case isTrue hasks =>
      cases asks
      obtain ⟨hrate, hnetwork, htimeline, hother⟩ := hasks
      simp only [step] at taken
      split at taken <;> cases taken
      obtain ⟨anchored, hheld, heq⟩ := st.setRate_timeline env anchorRtp anchorTimeNs timelineId
        hrate shared now
      rw [if_pos ⟨hnetwork, htimeline⟩, PlayoutState.originOf_of_ne (by rw [hheld]; exact hother)]
        at heq
      exact ⟨_, heq⟩
    · cases asks
  · cases asks

theorem BufferedAudio.step_quiet (taken : st.step env label = some after)
    (asks : st.asksFor label = none) :
    after.playout.timeline = st.playout.timeline ∨ after.playout.timeline = none := by
  cases hlabel : label.retimes with
  | false => exact .inl (step_keepsTime taken hlabel).timeline
  | true =>
    cases label with
    | detect now =>
      simp only [step] at taken
      split at taken <;> cases taken
      unfold detect
      split
      · refine .inl ?_
        change (PlayoutState.changeFormat _ _ _ _ _).timeline = _
        unfold PlayoutState.changeFormat
        dsimp only
        split <;> rfl
      · exact .inl rfl
    | command command shared now =>
      cases command with
      | setRate anchorRtp anchorTimeNs timelineId rate =>
        simp only [step] at taken
        split at taken <;> cases taken
        change (st.setRate env anchorRtp anchorTimeNs timelineId rate shared
          now).playout.timeline = _ ∨ (st.setRate env anchorRtp anchorTimeNs timelineId rate shared
            now).playout.timeline = none
        by_cases hrate : rate = 0
        · rw [setRate, if_pos hrate]
          exact .inl rfl
        · obtain ⟨anchored, hheld, heq⟩ := st.setRate_timeline env anchorRtp anchorTimeNs timelineId
            hrate shared now
          rw [heq]
          split
          · case isTrue hnonzero =>
            have hsome : st.playout.timeline.map Prod.fst = some timelineId := by
              by_contra hother
              rw [asksFor, if_pos ⟨hrate, hnonzero.1, hnonzero.2, hother⟩] at asks
              cases asks
            obtain ⟨⟨id, origin⟩, htimeline, rfl⟩ := Option.map_eq_some_iff.mp hsome
            rw [PlayoutState.originOf_of_eq (hheld.trans htimeline), htimeline]
            exact .inl rfl
          · exact .inr rfl
      | flush => cases hlabel
      | stop => cases hlabel
    | _ => cases hlabel

end Steps

/-! ### Two speakers of one sender -/

namespace Duo

def clock : Clock := ⟨0, 1000000000000⟩

def receiversEnv : ReceiversEnv where
  clock := clock
  config := ⟨none, none⟩
  decrypt _ _ _ ciphertext := some ciphertext

def origin : TimelineOrigin := ⟨50000000000, 1000000000⟩

/-- The second speaker is told 40 ms later of an anchor that is 100 ms later. -/
def run : List ReceiversLabel :=
  [.start 0 0, .start 1 0,
    .takes 0 (.command (.setRate 44100 50000000000 7 1) none 1000000000),
    .takes 1 (.command (.setRate 90000 50100000007 7 1) (some origin) 1040000000)]

/-- What a session knows, and when it presents one frame. -/
structure Speaker where
  timeline : Option (UInt64 × TimelineOrigin)
  mapped : Option (UInt32 × UInt64)
  anchorLocal : LocalTime
  presented : Option LocalTime
deriving DecidableEq

def speaker (timestamp : UInt32) (session : BufferedAudio) : Speaker where
  timeline := session.playout.timeline
  mapped := session.playout.mapped
  anchorLocal := session.playout.anchorLocal
  presented := session.playout.presentationTime clock timestamp

def speakers (st : Receivers) : Option Speaker × Option Speaker :=
  ((st.sessions.lookup 0).map (speaker 88200), (st.sessions.lookup 1).map (speaker 94410))

def expected : Option Speaker × Option Speaker :=
  (some ⟨some (7, origin), some (44100, 50000000000), 1000000000, some 2000000000⟩,
    some ⟨some (7, origin), some (90000, 50100000007), 1040000000, some 1200000000⟩)

end Duo

/-! ### Agreement -/

section Agreement

variable {env : ReceiversEnv} {st after : Receivers} {label : ReceiversLabel}

/-- Every session that holds an origin holds the one that is registered for its timeline. -/
structure Agreed (st : Receivers) : Prop where
  timed : ∀ id session, st.sessions.lookup id = some session → session.playout.Timed
  registered : ∀ id session timelineId origin, st.sessions.lookup id = some session →
    session.playout.timeline = some (timelineId, origin) →
    st.timelines.lookup timelineId = some origin

namespace Agreed

theorem live (h : Agreed st) {id : Nat} {session : BufferedAudio} {timelineId : UInt64}
    {origin : TimelineOrigin} (found : st.sessions.lookup id = some session)
    (holds : session.playout.timeline = some (timelineId, origin)) :
    st.live.lookup timelineId = some origin := by
  refine (AssocMap.lookup_retain_eq_some _ _).mpr
    ⟨h.registered id session timelineId origin found holds, ?_⟩
  exact List.any_eq_true.mpr ⟨session, AssocMap.mem_values_iff.mpr ⟨id, found⟩,
    decide_eq_true holds⟩

/-- The sessions that did not move still hold what is registered. -/
theorem register (h : Agreed st) {id : Nat} {session next : BufferedAudio}
    {label : BufferedAudioLabel} (found : st.sessions.lookup id = some session)
    (taken : session.step (env.session id) label = some next)
    (shared : label.shared = st.found session label) :
    (∀ other held timelineId origin, st.sessions.lookup other = some held →
      held.playout.timeline = some (timelineId, origin) →
      (st.register session next label).lookup timelineId = some origin) ∧
    ∀ timelineId origin, next.playout.timeline = some (timelineId, origin) →
      (st.register session next label).lookup timelineId = some origin := by
  unfold Receivers.register
  cases asks : session.asksFor label with
  | none =>
    refine ⟨h.registered, fun timelineId origin hnext => ?_⟩
    obtain hsame | hnone := session.step_quiet taken asks
    · exact h.registered id session timelineId origin found (hsame ▸ hnext)
    · rw [hnone] at hnext
      cases hnext
  | some asked =>
    obtain ⟨proposed, htimeline⟩ := session.step_asks taken asks
    rw [shared, Receivers.found, asks, Option.bind_some] at htimeline
    dsimp only
    rw [htimeline, Option.elim_some]
    refine ⟨fun other held timelineId origin hheld hholds => ?_, fun timelineId origin hnext => ?_⟩
    · have hlive := h.live hheld hholds
      rw [AssocMap.lookup_insert_ite]
      split
      · case isTrue heq =>
        have hsame : timelineId = asked := heq
        rw [← hsame, hlive]
        rfl
      · exact hlive
    · cases hnext
      exact AList.lookup_insert _

theorem step (h : Agreed st) (taken : st.step env label = some after) : Agreed after := by
  cases label with
  | start id now =>
    simp only [Receivers.step] at taken
    split at taken <;> cases taken
    constructor
    · intro other session found
      rw [AssocMap.lookup_insert_ite] at found
      split at found
      · cases found
        exact .new _ _
      · exact h.timed other session found
    · intro other session timelineId origin found holds
      rw [AssocMap.lookup_insert_ite] at found
      split at found
      · cases found
        cases holds
      · exact h.registered other session timelineId origin found holds
  | takes id label =>
    obtain ⟨session, found, taken⟩ := Option.bind_eq_some_iff.mp taken
    split at taken
    · case isTrue shared =>
      obtain ⟨next, hnext, rfl⟩ := Option.map_eq_some_iff.mp taken
      obtain ⟨hothers, hself⟩ := h.register found hnext shared
      constructor
      · intro other held hheld
        rw [AssocMap.lookup_insert_ite] at hheld
        split at hheld
        · cases hheld
          exact session.step_timed (h.timed id session found) hnext
        · exact h.timed other held hheld
      · intro other held timelineId origin hheld holds
        rw [AssocMap.lookup_insert_ite] at hheld
        split at hheld
        · cases hheld
          exact hself timelineId origin holds
        · exact hothers other held timelineId origin hheld holds
    · cases taken
  | drops id =>
    cases taken
    constructor
    · intro other session found
      exact h.timed other session (AssocMap.lookup_of_erase found)
    · intro other session timelineId origin found holds
      exact h.registered other session timelineId origin (AssocMap.lookup_of_erase found) holds

theorem new : Agreed ⟨∅, ∅⟩ where
  timed := by
    intro id session found
    rw [AList.lookup_empty] at found
    cases found
  registered := by
    intro id session timelineId origin found
    rw [AList.lookup_empty] at found
    cases found

theorem of_reachable (h : (receivers env).Reachable st) : Agreed st :=
  h.invariant (I := Agreed) new fun _ _ _ agreed taken => agreed.step taken

end Agreed

/-- Two sessions on one timeline present their frames as far apart as the sender's network times
are, to within 23 microseconds. -/
theorem sessions_share_presentation_times (h : (receivers env).Reachable st) {a b : Nat}
    {first second : BufferedAudio} (foundFirst : st.sessions.lookup a = some first)
    (foundSecond : st.sessions.lookup b = some second) {timelineId : UInt64}
    {origin origin' : TimelineOrigin}
    (onFirst : first.playout.timeline = some (timelineId, origin))
    (onSecond : second.playout.timeline = some (timelineId, origin')) :
    origin = origin' ∧ ∀ anchor anchor' timestamp timestamp' time time',
      first.playout.mapped = some anchor → second.playout.mapped = some anchor' →
      first.playout.Near origin anchor timestamp → second.playout.Near origin anchor' timestamp' →
      first.playout.presentationTime env.clock timestamp = some time →
      second.playout.presentationTime env.clock timestamp' = some time' →
      |time - time' - (first.playout.senderTime origin anchor timestamp -
        second.playout.senderTime origin anchor' timestamp')| ≤ 22678 := by
  have hagreed := Agreed.of_reachable h
  have horigin : origin = origin' := by
    have hfirst := hagreed.registered a first timelineId origin foundFirst onFirst
    have hsecond := hagreed.registered b second timelineId origin' foundSecond onSecond
    exact Option.some.inj (hfirst.symm.trans hsecond)
  subst origin'
  refine ⟨rfl, fun anchor anchor' timestamp timestamp' time time' mapped mapped' near near' shown
    shown' => ?_⟩
  have hfirst := hagreed.timed a first foundFirst
  have hsecond := hagreed.timed b second foundSecond
  obtain ⟨id, held, hheld, hfollows⟩ := hfirst.follows anchor mapped
  obtain ⟨id', held', hheld', hfollows'⟩ := hsecond.follows anchor' mapped'
  rw [onFirst] at hheld
  rw [onSecond] at hheld'
  cases hheld
  cases hheld'
  obtain ⟨hlate, hearly⟩ := PlayoutState.presentationTime_near hfollows hfirst.known near shown
  obtain ⟨hlate', hearly'⟩ :=
    PlayoutState.presentationTime_near hfollows' hsecond.known near' shown'
  rw [abs_le]
  constructor <;> linarith

theorem sessions_share_presentation_times_in_duo :
    ∃ st first second, (receivers Duo.receiversEnv).run ⟨∅, ∅⟩ Duo.run = some st ∧
      st.sessions.lookup 0 = some first ∧ st.sessions.lookup 1 = some second ∧
      first.playout.presentationTime Duo.clock 88200 = some 2000000000 ∧
      second.playout.presentationTime Duo.clock 94410 = some 1200000000 ∧
      |2000000000 - 1200000000 -
        (first.playout.senderTime Duo.origin (44100, 50000000000) 88200 -
          second.playout.senderTime Duo.origin (90000, 50100000007) 94410)| ≤ 22678 := by
  have hruns : ((receivers Duo.receiversEnv).run ⟨∅, ∅⟩ Duo.run).map Duo.speakers =
      some Duo.expected := by
    decide +kernel
  obtain ⟨st, hrun, hspeakers⟩ := Option.map_eq_some_iff.mp hruns
  obtain ⟨hfirst, hsecond⟩ := Prod.mk.inj hspeakers
  obtain ⟨first, foundFirst, heq⟩ := Option.map_eq_some_iff.mp hfirst
  obtain ⟨second, foundSecond, heq'⟩ := Option.map_eq_some_iff.mp hsecond
  have hlocal : first.playout.anchorLocal = 1000000000 := congrArg Duo.Speaker.anchorLocal heq
  have hlocal' : second.playout.anchorLocal = 1040000000 := congrArg Duo.Speaker.anchorLocal heq'
  have hnear : first.playout.Near Duo.origin (44100, 50000000000) 88200 :=
    ⟨by rw [hlocal]; decide, by decide⟩
  have hnear' : second.playout.Near Duo.origin (90000, 50100000007) 94410 :=
    ⟨by rw [hlocal']; decide, by decide⟩
  have hshown : first.playout.presentationTime Duo.clock 88200 = some 2000000000 :=
    congrArg Duo.Speaker.presented heq
  have hshown' : second.playout.presentationTime Duo.clock 94410 = some 1200000000 :=
    congrArg Duo.Speaker.presented heq'
  exact ⟨st, first, second, hrun, foundFirst, foundSecond, hshown, hshown',
    (sessions_share_presentation_times (.of_run .init hrun) foundFirst foundSecond
      (congrArg Duo.Speaker.timeline heq) (congrArg Duo.Speaker.timeline heq')).2 _ _ _ _ _ _
        (congrArg Duo.Speaker.mapped heq) (congrArg Duo.Speaker.mapped heq') hnear hnear'
          hshown hshown'⟩

end Agreement

end AirSonos.Raop
