import AirSonos.Bridge.Grace

/-!
# The AirPlay adapter in front of the runtime

The handler of a zone makes audio sessions and remembers the last one, to which it addresses
its playback-rate callbacks. Handlers and sessions send their events into one channel, and the
runtime reads it in order. What a handler does after it has released the lock on the remembered
session is a step of its own.
-/

namespace AirSonos

inductive AudioStopReason
  | teardown
  | streamEndedWhilePaused
  | streamEnded

/-- A session is `announced` once `audio_init` has sent its event and handed the session out. -/
structure BridgeAudioSession where
  zoneId : ZoneId
  format : PcmFormat
  sender : Option IpAddr
  playbackEpoch : Nat
  stopNotified : Bool
  announced : Bool
  dropped : Bool

/-- A callback that has read the remembered session and not yet sent its event. -/
structure PlaybackRateCallback where
  sessionId : SessionId
  zoneId : ZoneId
  playing : Bool
deriving DecidableEq

/-- `sent` holds all events ever sent, the newest first. -/
structure AirPlay where
  activeSession : ZoneId → Option SessionId
  sessions : SessionId → Option BridgeAudioSession
  callbacks : List PlaybackRateCallback
  events : List AirPlayEvent
  sent : List AirPlayEvent
  runtime : BridgeRuntime

inductive AirPlayLabel
  | audioInit (sessionId : SessionId) (zoneId : ZoneId) (format : PcmFormat)
      (sender : Option IpAddr)
  | announce (sessionId : SessionId)
  | onPlaybackRate (zoneId : ZoneId) (playing : Bool)
  | sendPlaybackState (callback : PlaybackRateCallback)
  | onVolume (zoneId : ZoneId) (volumePercent : Nat)
  | audioProcess (sessionId : SessionId) (frames : List BridgeFrame)
  | audioFlush (sessionId : SessionId)
  | audioStopped (sessionId : SessionId) (reason : AudioStopReason)
  | drop (sessionId : SessionId)
  | deliver
  | runtime (label : BridgeLabel)

namespace AirPlay

def new : AirPlay where
  activeSession := fun _ => none
  sessions := fun _ => none
  callbacks := []
  events := []
  sent := []
  runtime := .new

def send (st : AirPlay) (event : AirPlayEvent) : AirPlay :=
  { st with events := st.events ++ [event], sent := event :: st.sent }

def setSession (st : AirPlay) (id : SessionId) (session : BridgeAudioSession) : AirPlay :=
  { st with sessions := Function.update st.sessions id (some session) }

/-- The handler of the zone forgets the session if it is the one remembered. -/
def forget (st : AirPlay) (id : SessionId) (zoneId : ZoneId) : AirPlay :=
  if st.activeSession zoneId = some id then
    { st with activeSession := Function.update st.activeSession zoneId none }
  else st

/-- The session that its owner still holds. -/
def held (st : AirPlay) (id : SessionId) : Option BridgeAudioSession :=
  (st.sessions id).filter fun session => session.announced && !session.dropped

def audioInit (st : AirPlay) (id : SessionId) (zoneId : ZoneId) (format : PcmFormat)
    (sender : Option IpAddr) : AirPlay :=
  { st with activeSession := Function.update st.activeSession zoneId (some id) }.setSession id
    ⟨zoneId, format, sender, 0, false, false, false⟩

def announce (st : AirPlay) (id : SessionId) (session : BridgeAudioSession) : AirPlay :=
  (st.setSession id { session with announced := true }).send
    (.sessionStarted id session.zoneId session.format session.sender)

def onPlaybackRate (st : AirPlay) (zoneId : ZoneId) (playing : Bool) : AirPlay :=
  match st.activeSession zoneId with
  | some id => { st with callbacks := st.callbacks ++ [⟨id, zoneId, playing⟩] }
  | none => st

def sendPlaybackState (st : AirPlay) (callback : PlaybackRateCallback) : AirPlay :=
  { st with callbacks := st.callbacks.erase callback }.send
    (.playbackState callback.sessionId callback.zoneId callback.playing)

def audioFlush (st : AirPlay) (id : SessionId) (session : BridgeAudioSession) : AirPlay :=
  (st.setSession id
    { session with playbackEpoch := min (session.playbackEpoch + 1) (2 ^ 64 - 1) }).send
      (.flushed id (min (session.playbackEpoch + 1) (2 ^ 64 - 1)) session.zoneId)

def audioStopped (st : AirPlay) (id : SessionId) (session : BridgeAudioSession)
    (reason : AudioStopReason) : AirPlay :=
  if session.stopNotified then st
  else
    match reason with
    | .streamEndedWhilePaused =>
      (st.setSession id { session with stopNotified := true }).send
        (.streamEndedWhilePaused id session.zoneId)
    | .teardown | .streamEnded =>
      ((st.setSession id { session with stopNotified := true }).forget id session.zoneId).send
        (.sessionStopped id session.zoneId)

def drop (st : AirPlay) (id : SessionId) (session : BridgeAudioSession) : AirPlay :=
  if session.stopNotified then st.setSession id { session with dropped := true }
  else
    ((st.setSession id { session with dropped := true }).forget id session.zoneId).send
      (.sessionStopped id session.zoneId)

def step (env : Env) (st : AirPlay) : AirPlayLabel → Option AirPlay
  | .audioInit id zoneId format sender =>
    if (st.sessions id).isNone ∧ zoneId = env.zoneOf id then
      some (st.audioInit id zoneId format sender)
    else none
  | .announce id =>
    ((st.sessions id).filter fun session => !session.announced).map (st.announce id)
  | .onPlaybackRate zoneId playing => some (st.onPlaybackRate zoneId playing)
  | .sendPlaybackState callback =>
    if callback ∈ st.callbacks then some (st.sendPlaybackState callback) else none
  | .onVolume zoneId volumePercent => some (st.send (.volume zoneId volumePercent))
  | .audioProcess id frames =>
    (st.held id).map fun session => st.send (.pcm id session.zoneId frames)
  | .audioFlush id => (st.held id).map (st.audioFlush id)
  | .audioStopped id reason => (st.held id).map fun session => st.audioStopped id session reason
  | .drop id => (st.held id).map (st.drop id)
  | .deliver =>
    match st.events with
    | [] => none
    | event :: rest =>
      (st.runtime.step env (.event event)).map fun runtime =>
        { st with events := rest, runtime := runtime }
  | .runtime (.event _) => none
  | .runtime label => (st.runtime.step env label).map fun runtime => { st with runtime := runtime }

end AirPlay

def airPlay (env : Env) : TransitionSystem AirPlay AirPlayLabel where
  init := .new
  step := AirPlay.step env

/-! ### What the events say about a session -/

def AirPlayEvent.Starts (id : SessionId) : AirPlayEvent → Prop
  | .sessionStarted other _ _ _ => other = id
  | _ => False

def AirPlayEvent.Stops (id : SessionId) : AirPlayEvent → Prop
  | .sessionStopped other _ => other = id
  | _ => False

def AirPlayEvent.EndsPaused (id : SessionId) : AirPlayEvent → Prop
  | .streamEndedWhilePaused other _ => other = id
  | _ => False

/-- The last word on the playback of the session is a pause. The newest event comes first. -/
def pausedBy (id : SessionId) : List AirPlayEvent → Bool
  | [] => false
  | .playbackState other _ playing :: older =>
    if other = id then !playing else pausedBy id older
  | .sessionStarted other _ _ _ :: older => if other = id then false else pausedBy id older
  | _ :: older => pausedBy id older

/-- The stream of the session ended while the session was paused, and the session has not
resumed since. -/
def endedPaused (id : SessionId) : List AirPlayEvent → Bool
  | [] => false
  | .streamEndedWhilePaused other _ :: older =>
    if other = id then pausedBy id older || endedPaused id older else endedPaused id older
  | .playbackState other _ playing :: older =>
    if other = id then !playing && endedPaused id older else endedPaused id older
  | .sessionStarted other _ _ _ :: older => if other = id then false else endedPaused id older
  | _ :: older => endedPaused id older

/-- What the events that were handled say about the lifetimes. -/
structure Lifetimes.Follows (s : Lifetimes) (log : List AirPlayEvent) : Prop where
  paused {id} : pausedBy id log = true → s.Paused id
  ended {id} : endedPaused id log = true → s.Paused id ∧ ∃ deadline, s.Ends id deadline
  stopped {id} : (∃ event ∈ log, event.Stops id) → s.demand id = none

namespace Lifetimes

variable {env : Env} {s : Lifetimes} {log : List AirPlayEvent} {id : SessionId}

theorem not_wakes {label : BridgeLabel} (quiet : ∀ event, label ≠ .event event) :
    ¬label.Wakes env id := by
  cases label with
  | event event => exact absurd rfl (quiet event)
  | _ => exact fun h => h

theorem not_renews {label : BridgeLabel} (quiet : ∀ event, label ≠ .event event) :
    ¬label.Renews env id := by
  cases label with
  | event event => exact absurd rfl (quiet event)
  | _ => exact fun h => h

theorem Follows.step (h : s.Follows log) {label : BridgeLabel}
    (quiet : ∀ event, label ≠ .event event) : (s.step env label).Follows log where
  paused hlog := (h.paused hlog).step (not_wakes quiet)
  ended hlog := by
    obtain ⟨hpaused, deadline, hends⟩ := h.ended hlog
    exact ⟨hpaused.step (not_wakes quiet), deadline, hends.step (not_renews quiet)⟩
  stopped hlog := absent_step (h.stopped hlog) fun _ _ _ => quiet _

variable (env) in
theorem Follows.paused_event (h : s.Follows log) (event : AirPlayEvent)
    (hlog : pausedBy id (event :: log) = true) : (s.handleEvent env event).Paused id := by
  have hquiet (hlog : pausedBy id log = true)
      (quiet : ¬(BridgeLabel.event event).Wakes env id) : (s.handleEvent env event).Paused id :=
    (h.paused hlog).step quiet
  cases event with
  | playbackState other zoneId playing =>
    simp only [pausedBy] at hlog
    split at hlog
    · case isTrue heq =>
      subst heq
      rw [Bool.not_eq_true'] at hlog
      subst hlog
      intro demand live
      simp only [handleEvent, modify, if_true] at live
      obtain ⟨old, -, rfl⟩ := Option.map_eq_some_iff.mp live
      rfl
    · case isFalse hne =>
      refine hquiet hlog ?_
      cases playing with
      | true => exact hne
      | false => exact fun h => h
  | sessionStarted other zoneId format sender =>
    simp only [pausedBy] at hlog
    split at hlog
    · cases hlog
    · case isFalse hne => exact hquiet hlog fun wakes => hne wakes.1
  | _ => exact hquiet hlog fun h => h

variable (env) in
theorem Follows.ended_event (h : s.Follows log) (event : AirPlayEvent)
    (hlog : endedPaused id (event :: log) = true) :
    (s.handleEvent env event).Paused id ∧
      ∃ deadline, (s.handleEvent env event).Ends id deadline := by
  have hquiet (hlog : endedPaused id log = true)
      (quiet : ¬(BridgeLabel.event event).Renews env id) :
      (s.handleEvent env event).Paused id ∧
        ∃ deadline, (s.handleEvent env event).Ends id deadline := by
    obtain ⟨hpaused, deadline, hends⟩ := h.ended hlog
    have hpaused' : (s.step env (.event event)).Paused id :=
      hpaused.step fun wakes => quiet wakes.renews
    have hends' : (s.step env (.event event)).Ends id deadline := hends.step quiet
    exact ⟨hpaused', deadline, hends'⟩
  cases event with
  | streamEndedWhilePaused other zoneId =>
    simp only [endedPaused] at hlog
    split at hlog
    · case isTrue heq =>
      subst heq
      have hpaused : s.Paused other := by
        rw [Bool.or_eq_true] at hlog
        obtain hlog | hlog := hlog
        · exact h.paused hlog
        · exact (h.ended hlog).1
      have hpaused' : (s.step env (.event (.streamEndedWhilePaused other zoneId))).Paused other :=
        hpaused.step fun h => h
      refine ⟨hpaused', s.now + Duration.fromSecs PAUSED_SESSION_GRACE_SECS,
        fun demand live => ?_⟩
      simp only [handleEvent, modify, if_true] at live
      obtain ⟨old, hold, rfl⟩ := Option.map_eq_some_iff.mp live
      rw [Demand.endStream, if_neg (by rw [hpaused old hold]; exact Bool.false_ne_true)]
    · case isFalse hne => exact hquiet hlog hne
  | playbackState other zoneId playing =>
    simp only [endedPaused] at hlog
    split at hlog
    · case isTrue heq =>
      simp only [Bool.and_eq_true, Bool.not_eq_true'] at hlog
      obtain ⟨rfl, hlog⟩ := hlog
      exact hquiet hlog fun h => h
    · case isFalse hne =>
      refine hquiet hlog ?_
      cases playing with
      | true => exact hne
      | false => exact fun h => h
  | sessionStarted other zoneId format sender =>
    simp only [endedPaused] at hlog
    split at hlog
    · cases hlog
    · case isFalse hne => exact hquiet hlog fun wakes => hne wakes.1
  | _ => exact hquiet hlog fun h => h

variable (env) in
theorem Follows.event (h : s.Follows log) (event : AirPlayEvent)
    (fresh : ∀ id, event.Starts id → ¬∃ older ∈ log, older.Stops id) :
    (s.handleEvent env event).Follows (event :: log) where
  paused hlog := h.paused_event env event hlog
  ended hlog := h.ended_event env event hlog
  stopped := by
    rintro id ⟨stop, hmem, hstop⟩
    obtain rfl | hold := List.mem_cons.mp hmem
    · cases stop with
      | sessionStopped other zoneId =>
        subst hstop
        exact if_pos rfl
      | _ => cases hstop
    · have hgone : (s.step env (.event event)).demand id = none := by
        refine absent_step (h.stopped ⟨stop, hold, hstop⟩) fun zoneId format sender heq => ?_
        cases heq
        exact fresh id rfl ⟨stop, hold, hstop⟩
      exact hgone

end Lifetimes

namespace AirPlay

/-- What the events that were sent say about the audio sessions. -/
structure Reported (st : AirPlay) : Prop where
  reported {id session} : st.sessions id = some session →
    session.stopNotified = true ∨ session.dropped = true →
      ∃ event ∈ st.sent, event.Stops id ∨ event.EndsPaused id
  stopped {id event} : event ∈ st.sent → event.Stops id →
    ∃ session, st.sessions id = some session ∧ session.announced = true
  ordered : st.sent.Pairwise fun newer older => ∀ id, newer.Starts id → ¬older.Stops id

namespace Reported

variable {st : AirPlay} {id : SessionId}

theorem send (h : st.Reported) (event : AirPlayEvent)
    (stops : ∀ id, event.Stops id → ∃ session, st.sessions id = some session ∧
      session.announced = true)
    (starts : ∀ id, event.Starts id → ¬∃ older ∈ st.sent, older.Stops id) :
    (st.send event).Reported where
  reported live hover := by
    obtain ⟨report, hmem, hreport⟩ := h.reported live hover
    exact ⟨report, List.mem_cons_of_mem _ hmem, hreport⟩
  stopped hmem hstop := by
    obtain rfl | hold := List.mem_cons.mp hmem
    · exact stops _ hstop
    · exact h.stopped hold hstop
  ordered := List.pairwise_cons.mpr
    ⟨fun older hmem id hstart hstop => starts id hstart ⟨older, hmem, hstop⟩, h.ordered⟩

/-- The end of a session is reported together with the event that tells of it. -/
theorem sendEnd (h : st.Reported) {session' : BridgeAudioSession} (event : AirPlayEvent)
    (kept : session'.announced = true) (tells : event.Stops id ∨ event.EndsPaused id)
    (only : ∀ other, event.Stops other → other = id) :
    ((st.setSession id session').send event).Reported where
  reported {other found} hfound hover := by
    simp only [AirPlay.send, AirPlay.setSession] at hfound
    by_cases hid : other = id
    · subst hid
      exact ⟨event, List.mem_cons_self, tells⟩
    · rw [Function.update_of_ne hid] at hfound
      obtain ⟨report, hmem, hreport⟩ := h.reported hfound hover
      exact ⟨report, List.mem_cons_of_mem _ hmem, hreport⟩
  stopped {other stop} hmem hstop := by
    simp only [AirPlay.send, AirPlay.setSession]
    by_cases hid : other = id
    · subst hid
      exact ⟨session', Function.update_self .., kept⟩
    · rw [Function.update_of_ne hid]
      obtain rfl | hold := List.mem_cons.mp hmem
      · exact absurd (only other hstop) hid
      · exact h.stopped hold hstop
  ordered := by
    refine List.pairwise_cons.mpr ⟨fun older hmem other hstart hstop => ?_, h.ordered⟩
    cases event with
    | sessionStarted => obtain htells | htells := tells <;> cases htells
    | _ => cases hstart

/-- A change to an audio session that neither ends nor announces it. -/
theorem setSession (h : st.Reported) {session session' : BridgeAudioSession}
    (live : st.sessions id = some session) (announced : session.announced → session'.announced)
    (finished : session'.stopNotified = true ∨ session'.dropped = true →
      session.stopNotified = true ∨ session.dropped = true) :
    (st.setSession id session').Reported where
  reported {other found} hfound hover := by
    simp only [AirPlay.setSession] at hfound
    by_cases hid : other = id
    · subst hid
      rw [Function.update_self] at hfound
      cases hfound
      exact h.reported live (finished hover)
    · rw [Function.update_of_ne hid] at hfound
      exact h.reported hfound hover
  stopped {other stop} hmem hstop := by
    simp only [AirPlay.setSession]
    obtain ⟨found, hfound, hannounced⟩ := h.stopped hmem hstop
    by_cases hid : other = id
    · subst hid
      rw [live] at hfound
      cases hfound
      exact ⟨session', Function.update_self .., announced hannounced⟩
    · exact ⟨found, by rw [Function.update_of_ne hid]; exact hfound, hannounced⟩
  ordered := h.ordered

theorem of_same {st' : AirPlay} (h : st.Reported) (sessions : st'.sessions = st.sessions)
    (sent : st'.sent = st.sent) : st'.Reported where
  reported live hover := by
    rw [sessions] at live
    rw [sent]
    exact h.reported live hover
  stopped hmem hstop := by
    rw [sent] at hmem
    rw [sessions]
    exact h.stopped hmem hstop
  ordered := by
    rw [sent]
    exact h.ordered

theorem forget_sessions (st : AirPlay) (id : SessionId) (zoneId : ZoneId) :
    (st.forget id zoneId).sessions = st.sessions := by
  unfold AirPlay.forget
  split <;> rfl

theorem forget_sent (st : AirPlay) (id : SessionId) (zoneId : ZoneId) :
    (st.forget id zoneId).sent = st.sent := by
  unfold AirPlay.forget
  split <;> rfl

/-- A stopped session is forgotten by its handler before the event is sent. -/
theorem sendStop (h : st.Reported) {session' : BridgeAudioSession} (zoneId : ZoneId)
    (kept : session'.announced = true) :
    (((st.setSession id session').forget id zoneId).send (.sessionStopped id zoneId)).Reported := by
  refine (h.sendEnd (.sessionStopped id zoneId) kept (.inl rfl)
    fun other heq => heq.symm).of_same (forget_sessions _ id zoneId) ?_
  exact congrArg (AirPlayEvent.sessionStopped id zoneId :: ·) (forget_sent _ id zoneId)

theorem held_spec {session : BridgeAudioSession} (h : st.held id = some session) :
    st.sessions id = some session ∧ session.announced = true ∧ session.dropped = false := by
  obtain ⟨live, hheld⟩ := Option.filter_eq_some_iff.mp h
  rw [Bool.and_eq_true, Bool.not_eq_true'] at hheld
  exact ⟨live, hheld⟩

theorem step {env : Env} {st' : AirPlay} {label : AirPlayLabel} (h : st.Reported)
    (taken : st.step env label = some st') : st'.Reported := by
  cases label with
  | audioInit id zoneId format sender =>
    simp only [AirPlay.step] at taken
    split at taken
    · case isTrue hfresh =>
      cases taken
      have hnone := Option.isNone_iff_eq_none.mp hfresh.1
      constructor
      · intro other found hfound hover
        simp only [AirPlay.audioInit, AirPlay.setSession] at hfound
        by_cases hid : other = id
        · subst hid
          rw [Function.update_self] at hfound
          cases hfound
          obtain hover | hover := hover <;> cases hover
        · rw [Function.update_of_ne hid] at hfound
          exact h.reported hfound hover
      · intro other stop hmem hstop
        obtain ⟨found, hfound, hannounced⟩ := h.stopped hmem hstop
        have hid : other ≠ id := by
          rintro rfl
          rw [hnone] at hfound
          cases hfound
        refine ⟨found, ?_, hannounced⟩
        simp only [AirPlay.audioInit, AirPlay.setSession, Function.update_of_ne hid]
        exact hfound
      · exact h.ordered
    · cases taken
  | announce id =>
    obtain ⟨session, hfound, rfl⟩ := Option.map_eq_some_iff.mp taken
    obtain ⟨live, hsilent⟩ := Option.filter_eq_some_iff.mp hfound
    rw [Bool.not_eq_true'] at hsilent
    have hset : (st.setSession id { session with announced := true }).Reported :=
      h.setSession live (fun _ => rfl) fun hover => hover
    refine hset.send _ (fun other hstop => by cases hstop) ?_
    rintro other rfl ⟨older, hmem, hstop⟩
    obtain ⟨found, hfound, hannounced⟩ := h.stopped hmem hstop
    rw [live] at hfound
    cases hfound
    rw [hsilent] at hannounced
    cases hannounced
  | onPlaybackRate zoneId playing =>
    cases taken
    unfold AirPlay.onPlaybackRate
    split
    · exact { h with }
    · exact h
  | sendPlaybackState callback =>
    simp only [AirPlay.step] at taken
    split at taken
    · cases taken
      have herased : ({ st with callbacks := st.callbacks.erase callback } : AirPlay).Reported :=
        { h with }
      exact herased.send _ (fun _ hstop => by cases hstop) fun _ hstart => by cases hstart
    · cases taken
  | onVolume zoneId volumePercent =>
    cases taken
    exact h.send _ (fun _ hstop => by cases hstop) fun _ hstart => by cases hstart
  | audioProcess id frames =>
    obtain ⟨session, -, rfl⟩ := Option.map_eq_some_iff.mp taken
    exact h.send _ (fun _ hstop => by cases hstop) fun _ hstart => by cases hstart
  | audioFlush id =>
    obtain ⟨session, hheld, rfl⟩ := Option.map_eq_some_iff.mp taken
    obtain ⟨live, -, -⟩ := held_spec hheld
    have hset : (st.setSession id { session with
        playbackEpoch := min (session.playbackEpoch + 1) (2 ^ 64 - 1) }).Reported :=
      h.setSession live (fun announced => announced) fun hover => hover
    exact hset.send _ (fun _ hstop => by cases hstop) fun _ hstart => by cases hstart
  | audioStopped id reason =>
    obtain ⟨session, hheld, rfl⟩ := Option.map_eq_some_iff.mp taken
    obtain ⟨-, announced, -⟩ := held_spec hheld
    unfold AirPlay.audioStopped
    split
    · exact h
    · split
      · exact h.sendEnd _ announced (.inr rfl) fun _ hstop => by cases hstop
      · exact h.sendStop _ announced
      · exact h.sendStop _ announced
  | drop id =>
    obtain ⟨session, hheld, rfl⟩ := Option.map_eq_some_iff.mp taken
    obtain ⟨live, announced, -⟩ := held_spec hheld
    unfold AirPlay.drop
    split
    · case isTrue notified => exact h.setSession live (fun _ => announced) fun _ => .inl notified
    · exact h.sendStop _ announced
  | deliver =>
    simp only [AirPlay.step] at taken
    split at taken
    · cases taken
    · obtain ⟨runtime, -, rfl⟩ := Option.map_eq_some_iff.mp taken
      exact { h with }
  | runtime label =>
    have hrest (taken : (st.runtime.step env label).map
        (fun runtime => { st with runtime := runtime }) = some st') : st'.Reported := by
      obtain ⟨runtime, -, rfl⟩ := Option.map_eq_some_iff.mp taken
      exact { h with }
    cases label with
    | event => cases taken
    | _ => exact hrest taken

end Reported

variable {env : Env} {st : AirPlay}

theorem reported_of_reachable (h : (airPlay env).Reachable st) : st.Reported := by
  refine h.invariant (I := Reported) ?_ fun _ _ _ reported taken => reported.step taken
  constructor
  · intro id session live
    cases live
  · intro id event hmem
    cases hmem
  · exact .nil

/-- The runtime has handled the events that were sent and are not in the channel any more. -/
def Handled (st : AirPlay) : Prop :=
  ∃ handled, st.sent = st.events.reverse ++ handled ∧ st.runtime.lifetimes.Follows handled

theorem Handled.send (h : st.Handled) (event : AirPlayEvent) : (st.send event).Handled := by
  obtain ⟨handled, hsent, hfollows⟩ := h
  refine ⟨handled, ?_, hfollows⟩
  simp [AirPlay.send, hsent]

theorem Handled.forget (h : st.Handled) (id : SessionId) (zoneId : ZoneId) :
    (st.forget id zoneId).Handled := by
  unfold AirPlay.forget
  split <;> exact h

theorem Handled.runtime {runtime : BridgeRuntime} {label : BridgeLabel} (h : st.Handled)
    (quiet : ∀ event, label ≠ .event event) (taken : st.runtime.step env label = some runtime) :
    ({ st with runtime := runtime } : AirPlay).Handled := by
  obtain ⟨handled, hsent, hfollows⟩ := h
  refine ⟨handled, hsent, ?_⟩
  rw [BridgeRuntime.lifetimes_step taken]
  exact hfollows.step quiet

theorem Handled.deliver {event : AirPlayEvent} {rest : List AirPlayEvent}
    {runtime : BridgeRuntime} (h : st.Handled) (reported : st.Reported)
    (first : st.events = event :: rest)
    (taken : st.runtime.step env (.event event) = some runtime) :
    ({ st with events := rest, runtime := runtime } : AirPlay).Handled := by
  obtain ⟨handled, hsent, hfollows⟩ := h
  have hsplit : st.sent = rest.reverse ++ event :: handled := by
    rw [hsent, first, List.reverse_cons, List.append_assoc, List.singleton_append]
  refine ⟨event :: handled, hsplit, ?_⟩
  rw [BridgeRuntime.lifetimes_step taken]
  refine hfollows.event env event ?_
  rintro id hstart ⟨older, hmem, hstop⟩
  have hordered := reported.ordered
  rw [hsplit] at hordered
  exact (List.pairwise_cons.mp (List.pairwise_append.mp hordered).2.1).1 older hmem id hstart hstop

theorem Handled.step {st' : AirPlay} {label : AirPlayLabel} (h : st.Handled)
    (reported : st.Reported) (taken : st.step env label = some st') : st'.Handled := by
  cases label with
  | audioInit id zoneId format sender =>
    simp only [AirPlay.step] at taken
    split at taken
    · cases taken
      exact h
    · cases taken
  | announce id =>
    obtain ⟨session, -, rfl⟩ := Option.map_eq_some_iff.mp taken
    have hset : (st.setSession id { session with announced := true }).Handled := h
    exact hset.send _
  | onPlaybackRate zoneId playing =>
    cases taken
    unfold AirPlay.onPlaybackRate
    split <;> exact h
  | sendPlaybackState callback =>
    simp only [AirPlay.step] at taken
    split at taken
    · cases taken
      have herased : ({ st with callbacks := st.callbacks.erase callback } : AirPlay).Handled := h
      exact herased.send _
    · cases taken
  | onVolume zoneId volumePercent =>
    cases taken
    exact h.send _
  | audioProcess id frames =>
    obtain ⟨session, -, rfl⟩ := Option.map_eq_some_iff.mp taken
    exact h.send _
  | audioFlush id =>
    obtain ⟨session, -, rfl⟩ := Option.map_eq_some_iff.mp taken
    have hset : (st.setSession id { session with
        playbackEpoch := min (session.playbackEpoch + 1) (2 ^ 64 - 1) }).Handled := h
    exact hset.send _
  | audioStopped id reason =>
    obtain ⟨session, -, rfl⟩ := Option.map_eq_some_iff.mp taken
    have hset : (st.setSession id { session with stopNotified := true }).Handled := h
    unfold AirPlay.audioStopped
    split
    · exact h
    · split
      · exact hset.send _
      · exact (hset.forget id session.zoneId).send _
      · exact (hset.forget id session.zoneId).send _
  | drop id =>
    obtain ⟨session, -, rfl⟩ := Option.map_eq_some_iff.mp taken
    have hset : (st.setSession id { session with dropped := true }).Handled := h
    unfold AirPlay.drop
    split
    · exact hset
    · exact (hset.forget id session.zoneId).send _
  | deliver =>
    simp only [AirPlay.step] at taken
    split at taken
    · cases taken
    · next event rest first =>
      obtain ⟨runtime, hruntime, rfl⟩ := Option.map_eq_some_iff.mp taken
      exact h.deliver reported first hruntime
  | runtime label =>
    have hrest (quiet : ∀ event, label ≠ .event event)
        (taken : (st.runtime.step env label).map
          (fun runtime => { st with runtime := runtime }) = some st') : st'.Handled := by
      obtain ⟨runtime, hruntime, rfl⟩ := Option.map_eq_some_iff.mp taken
      exact h.runtime quiet hruntime
    cases label with
    | event => cases taken
    | _ => exact hrest (fun _ heq => by cases heq) taken

theorem handled_of_reachable (h : (airPlay env).Reachable st) : st.Handled := by
  refine h.invariant_with (fun _ reachable => reported_of_reachable reachable) ?_
    fun _ _ _ reported handled taken => handled.step reported taken
  refine ⟨[], rfl, ⟨fun hlog => ?_, fun hlog => ?_, ?_⟩⟩
  · cases hlog
  · cases hlog
  · rintro id ⟨event, hmem, -⟩
    cases hmem

end AirPlay

/-- Once all events are handled, a dropped audio session is unknown to the runtime or awaits
its cleanup, unless its stream ended while the session was not paused, or the session resumed
after that. -/
theorem no_orphan (env : Env) (st : AirPlay) (h : (airPlay env).Reachable st)
    (drained : st.events = []) (id : SessionId) (session : BridgeAudioSession)
    (found : st.sessions id = some session) (dropped : session.dropped = true) :
    st.runtime.session id = none ∨
      (∃ runtime, st.runtime.session id = some runtime ∧
        runtime.cleanupDeadline.isSome = true) ∨
      (∃ event ∈ st.sent, event.EndsPaused id) ∧ endedPaused id st.sent = false := by
  obtain ⟨handled, hsent, hfollows⟩ := AirPlay.handled_of_reachable h
  rw [drained] at hsent
  have hsent : st.sent = handled := hsent
  obtain ⟨event, hmem, hstop | hend⟩ :=
    (AirPlay.reported_of_reachable h).reported found (.inr dropped)
  · rw [hsent] at hmem
    exact .inl (session_eq_none_of_demand (hfollows.stopped ⟨event, hmem, hstop⟩))
  · cases hended : endedPaused id st.sent with
    | false => exact .inr (.inr ⟨⟨event, hmem, hend⟩, rfl⟩)
    | true =>
      rw [hsent] at hended
      obtain ⟨-, deadline, hends⟩ := hfollows.ended hended
      cases hlive : st.runtime.session id with
      | none => exact .inl rfl
      | some runtime =>
        refine .inr (.inl ⟨runtime, rfl, ?_⟩)
        have hdeadline : runtime.cleanupDeadline = some deadline :=
          hends runtime.demand (BridgeRuntime.lifetimes_demand_of_some hlive)
        rw [hdeadline]
        rfl

namespace Household

/-- Session 0 is made for the Kitchen. -/
def inits : List AirPlayLabel :=
  [.audioInit ⟨0⟩ (room 0) ⟨44100, 2, 16⟩ none, .announce ⟨0⟩, .deliver]

def rates (playing : Bool) : List AirPlayLabel :=
  [.onPlaybackRate (room 0) playing, .sendPlaybackState ⟨⟨0⟩, room 0, playing⟩, .deliver]

/-- Its stream ends as one that ends while paused, and the session is dropped. -/
def ends : List AirPlayLabel :=
  [.audioStopped ⟨0⟩ .streamEndedWhilePaused, .drop ⟨0⟩, .deliver]

end Household

/-- The Kitchen pauses and its stream ends. -/
theorem no_orphan_in_kitchen :
    ∃ st runtime, (airPlay Household.env).run .new
        (Household.inits ++ Household.rates false ++ Household.ends) = some st ∧
      st.runtime.session ⟨0⟩ = some runtime ∧ runtime.cleanupDeadline.isSome = true := by
  have hruns : ((airPlay Household.env).run .new
      (Household.inits ++ Household.rates false ++ Household.ends)).any (fun st =>
        st.events.isEmpty && (st.runtime.session ⟨0⟩).isSome && endedPaused ⟨0⟩ st.sent &&
          (st.sessions ⟨0⟩).any BridgeAudioSession.dropped) = true := by
    decide +kernel
  obtain ⟨st, hrun, hst⟩ := (Option.any_eq_true _ _).mp hruns
  simp only [Bool.and_eq_true] at hst
  obtain ⟨⟨⟨drained, live⟩, hended⟩, hdropped⟩ := hst
  obtain ⟨session, found, dropped⟩ := (Option.any_eq_true _ _).mp hdropped
  obtain hgone | hdeadline | ⟨-, hunended⟩ := no_orphan Household.env st (.of_run .init hrun)
    (List.isEmpty_iff.mp drained) ⟨0⟩ session found dropped
  · rw [hgone] at live
    cases live
  · obtain ⟨runtime, hlive, hdeadline⟩ := hdeadline
    exact ⟨st, runtime, hrun, hlive, hdeadline⟩
  · rw [hended] at hunended
    cases hunended

/-- The run ends with all events handled and a dropped session that the runtime goes on to play,
without a cleanup to come. -/
def Household.Orphans (labels : List AirPlayLabel) : Prop :=
  ∃ st session runtime, (airPlay Household.env).run .new labels = some st ∧
    st.events = [] ∧ st.sessions ⟨0⟩ = some session ∧ session.dropped = true ∧
      st.runtime.session ⟨0⟩ = some runtime ∧ runtime.desiredPlayback = true ∧
        runtime.cleanupDeadline = none

theorem Household.orphans_of_run {labels : List AirPlayLabel}
    (runs : ((airPlay Household.env).run .new labels).any (fun st => st.events.isEmpty &&
      (st.sessions ⟨0⟩).any BridgeAudioSession.dropped &&
        (st.runtime.session ⟨0⟩).any fun runtime =>
          runtime.desiredPlayback && runtime.cleanupDeadline.isNone) = true) :
    Orphans labels := by
  obtain ⟨st, hrun, hst⟩ := (Option.any_eq_true _ _).mp runs
  simp only [Bool.and_eq_true] at hst
  obtain ⟨⟨drained, hdropped⟩, horphan⟩ := hst
  obtain ⟨session, found, dropped⟩ := (Option.any_eq_true _ _).mp hdropped
  obtain ⟨runtime, hlive, hwanted⟩ := (Option.any_eq_true _ _).mp horphan
  obtain ⟨wanted, hnone⟩ := Bool.and_eq_true_iff.mp hwanted
  exact ⟨st, session, runtime, hrun, List.isEmpty_iff.mp drained, found, dropped, hlive, wanted,
    Option.isNone_iff_eq_none.mp hnone⟩

/-- A resume after the end of the stream cancels the cleanup, and an end of a stream that was
not paused is ignored. Either leaves a dropped session in the runtime for good. -/
theorem orphan_after_resume :
    Household.Orphans (Household.inits ++ Household.rates false ++ Household.ends ++
      Household.rates true) ∧ Household.Orphans (Household.inits ++ Household.ends) := by
  constructor
  · apply Household.orphans_of_run
    decide +kernel
  · apply Household.orphans_of_run
    decide +kernel

end AirSonos
