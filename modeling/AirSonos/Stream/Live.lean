import AirSonos.Core.Types
import AirSonos.Lib.AssocMap
import AirSonos.Lib.Broadcast
import AirSonos.Lib.TransitionSystem

/-!
# The output of a live stream

One encoder publishes bytes, the bodies of HTTP responses receive them, and the stream can be
closed at any moment. The encoder gives way to the others between the checks and the sends of
a publication. The lock around the prelude is held while the prelude is published, while a body
subscribes, and while one leaves. How durations are rounded to frames is a parameter.
-/

namespace AirSonos.Live

abbrev Bytes := List UInt8

/-- The part of `Duration` that computes in floating point. -/
structure FloatTime where
  fromFrames : (frames sampleRate : Nat) → Duration
  ceilFrames : (skipped : Duration) → (sampleRate : Nat) → Nat

/-- The durations as they are without an error of rounding. -/
def FloatTime.exact : FloatTime where
  fromFrames frames sampleRate := Duration.fromSecs frames / sampleRate
  ceilFrames skipped sampleRate :=
    (skipped * sampleRate + Duration.fromSecs 1 - 1) / Duration.fromSecs 1

def MAX_PUBLICATION : Nat := 1024 * 1024
def CHUNK_BYTES : Nat := 16 * 1024
def BACKLOG : Nat := 64
def MAX_CHUNK_AGE : Duration := Duration.fromSecs 2

inductive PlaybackAnchorState
  | unset
  | atInstant (anchor : Instant)
  | nextTimedPcm
deriving DecidableEq

structure TimedPcm where
  presentationTime : Option Instant
  sampleRate : Nat
  channels : Nat
deriving DecidableEq

inductive Payload
  | prelude
  | encoded
  | timed (pcm : TimedPcm)
deriving DecidableEq

def Payload.isPrelude : Payload → Bool
  | prelude => true
  | _ => false

/-- A chunk remembers which publication it is part of, and whether that was the prelude. -/
structure EncodedChunk where
  bytes : Bytes
  queuedAt : Instant
  isPrelude : Bool
  publication : Nat
deriving DecidableEq

/-- Where the encoder stands in the publication it makes. -/
inductive Publisher
  | idle
  | locking (bytes : Bytes)
  | publishing (bytes : Bytes) (payload : Payload)
  | anchoring (bytes : Bytes) (pcm : TimedPcm)
  | sending (isPrelude : Bool) (rest : List EncodedChunk)
deriving DecidableEq

/-- The encoder holds the lock around the prelude. -/
def Publisher.holdsLock : Publisher → Bool
  | publishing _ payload => payload.isPrelude
  | sending isPrelude _ => isPrelude
  | _ => false

/-- The body of a response: where it subscribed, the prelude it found then, what is left of
that, where it reads, and what it has yielded. -/
structure Body where
  start : Nat
  found : Option Bytes
  pending : Option Bytes
  position : Nat
  ended : Bool
  yielded : Bytes
deriving DecidableEq

/-- Who holds the lock around the prelude. -/
inductive Holder
  | encoder
  | attaching (i : Nat) (body : Body)
  | detaching (last : Bool)
deriving DecidableEq

/-- `sent` is everything that was broadcast. `publications` numbers the broadcasts, `begun`
tells that the encoder was called with something other than a prelude, and `gone` holds the
bodies that were dropped. -/
structure LiveStream where
  now : Instant
  sent : List EncodedChunk
  prelude : Option Bytes
  encodedBytes : Nat
  consumed : Nat
  dropped : Nat
  skipped : Nat
  chunksDropped : Nat
  subscriberConnected : Bool
  subscriberCount : Nat
  closed : Bool
  playbackAnchor : PlaybackAnchorState
  lock : Option Holder
  publisher : Publisher
  publications : Nat
  begun : Bool
  bodies : AssocMap Nat Body
  gone : List Body

inductive LiveLabel
  | tick (elapsed : Duration)
  | publish (bytes : Bytes)
  | publishTimedPcm (bytes : Bytes) (pcm : TimedPcm)
  | publishPrelude (bytes : Bytes)
  | publishNext
  | attach (i : Nat)
  | attached
  | detach (i : Nat)
  | detached
  | poll (i : Nat)
  | close
  | setPlaybackAnchor (anchor : PlaybackAnchorState)

namespace LiveStream

def new : LiveStream where
  now := 0
  sent := []
  prelude := none
  encodedBytes := 0
  consumed := 0
  dropped := 0
  skipped := 0
  chunksDropped := 0
  subscriberConnected := false
  subscriberCount := 0
  closed := false
  playbackAnchor := .unset
  lock := none
  publisher := .idle
  publications := 0
  begun := false
  bodies := ∅
  gone := []

def close (st : LiveStream) : LiveStream :=
  { st with closed := true }

/-! ### Publishing -/

/-- The call returns, and gives the lock back if it holds it. -/
def finish (st : LiveStream) : LiveStream :=
  { st with
    publisher := .idle
    lock := if st.publisher.holdsLock then none else st.lock }

/-- The first check of `publish` and `publish_timed_pcm`. -/
def beginPublish (st : LiveStream) (bytes : Bytes) (payload : Payload) : LiveStream :=
  if bytes.isEmpty || st.closed then st
  else
    { st with
      encodedBytes := st.encodedBytes + bytes.length
      publisher := .publishing bytes payload }

def drop (st : LiveStream) (bytes : Bytes) : LiveStream :=
  { st with dropped := st.dropped + bytes.length, chunksDropped := st.chunksDropped + 1 }.finish

def broadcast (st : LiveStream) (isPrelude : Bool) (bytes : Bytes) : LiveStream :=
  { st with
    publisher :=
      .sending isPrelude <| (Broadcast.pieces CHUNK_BYTES bytes).map fun piece =>
        ⟨piece, st.now, isPrelude, st.publications⟩
    publications := st.publications + 1 }

def sendServed (st : LiveStream) (isPrelude : Bool) (bytes : Bytes) : LiveStream :=
  if MAX_PUBLICATION < bytes.length then
    { st with dropped := st.dropped + bytes.length }.close.finish
  else st.broadcast isPrelude bytes

/-- The bytes of a timed buffer that come before the anchor. -/
def skipBytes (float : FloatTime) (anchor presentationTime : Instant) (bytes : Bytes)
    (pcm : TimedPcm) : Nat :=
  let frameBytes := pcm.channels * 2
  if frameBytes = 0 ∨ pcm.sampleRate = 0 then 0
  else
    let frameCount := bytes.length / frameBytes
    if presentationTime + float.fromFrames frameCount pcm.sampleRate ≤ anchor then bytes.length
    else if presentationTime < anchor then
      min (float.ceilFrames (anchor - presentationTime) pcm.sampleRate) frameCount * frameBytes
    else 0

def skip (st : LiveStream) (bytes : Bytes) (skipped : Nat) : LiveStream :=
  let st := { st with skipped := st.skipped + skipped }
  if bytes.length ≤ skipped then { st with chunksDropped := st.chunksDropped + 1 }.finish
  else st.sendServed false (bytes.drop skipped)

/-- The rest of `publish_timed_pcm`, once a subscriber is known to be there. -/
def anchorTimedPcm (float : FloatTime) (st : LiveStream) (bytes : Bytes) (pcm : TimedPcm) :
    LiveStream :=
  match st.playbackAnchor with
  | .unset => st.skip bytes bytes.length
  | .atInstant anchor => serve st anchor
  | .nextTimedPcm =>
    let anchor := pcm.presentationTime.getD st.now
    serve { st with playbackAnchor := .atInstant anchor } anchor
where
  serve (st : LiveStream) (anchor : Instant) : LiveStream :=
    match pcm.presentationTime with
    | none => st.sendServed false bytes
    | some presentationTime => st.skip bytes (skipBytes float anchor presentationTime bytes pcm)

/-- `publish_prelude` has the lock. The first prelude is kept and published. -/
def storePrelude (st : LiveStream) (bytes : Bytes) : LiveStream :=
  match st.prelude with
  | some _ => st.finish
  | none =>
    if bytes.isEmpty || st.closed then { st with prelude := some bytes }.finish
    else
      { st with prelude := some bytes, lock := some .encoder }.beginPublish bytes .prelude

/-- What the encoder does next. It waits for the lock before it stores a prelude. -/
def publishNext (float : FloatTime) (st : LiveStream) : Option LiveStream :=
  match st.publisher with
  | .idle => none
  | .locking bytes => if st.lock.isNone then some (st.storePrelude bytes) else none
  | .publishing bytes payload =>
    if !st.subscriberConnected then some (st.drop bytes)
    else
      match payload with
      | .prelude => some (st.sendServed true bytes)
      | .encoded => some (st.sendServed false bytes)
      | .timed pcm => some { st with publisher := .anchoring bytes pcm }
  | .anchoring bytes pcm => some (st.anchorTimedPcm float bytes pcm)
  | .sending _ [] => some st.finish
  | .sending isPrelude (chunk :: rest) =>
    some { st with sent := st.sent ++ [chunk], publisher := .sending isPrelude rest }

def startPrelude (st : LiveStream) (bytes : Bytes) : LiveStream :=
  if bytes.isEmpty || st.closed then st else { st with publisher := .locking bytes }

/-! ### Subscribers -/

/-- The body subscribes and finds the prelude, if there is one yet. -/
def attach (st : LiveStream) (i : Nat) : Option LiveStream :=
  if st.lock.isSome || (st.bodies.lookup i).isSome then none
  else
    some { st with
      subscriberCount := st.subscriberCount + 1
      lock := some (.attaching i
        ⟨st.sent.length, st.prelude, st.prelude, st.sent.length, false, []⟩) }

def attached (st : LiveStream) : Option LiveStream :=
  match st.lock with
  | some (.attaching i body) =>
    some { st with
      subscriberConnected := true
      bodies := st.bodies.insert i body
      lock := none }
  | _ => none

def detach (st : LiveStream) (i : Nat) : Option LiveStream :=
  match st.bodies.lookup i with
  | none => none
  | some body =>
    if st.lock.isSome then none
    else
      some { st with
        subscriberCount := st.subscriberCount - 1
        bodies := st.bodies.erase i
        gone := body :: st.gone
        lock := some (.detaching (st.subscriberCount = 1)) }

def detached (st : LiveStream) : Option LiveStream :=
  match st.lock with
  | some (.detaching last) =>
    some { st with
      subscriberConnected := if last then false else st.subscriberConnected
      lock := none }
  | _ => none

/-- One poll of a body: the prelude first, then the chunks as they come. -/
def pollBody (st : LiveStream) (body : Body) : Body × Bytes :=
  if body.ended then (body, [])
  else if st.closed then ({ body with ended := true }, [])
  else
    match body.pending with
    | some bytes => ({ body with pending := none, yielded := body.yielded ++ bytes }, bytes)
    | none =>
      match Broadcast.receive BACKLOG st.sent body.position with
      | .empty => (body, [])
      | .lagged => ({ body with ended := true }, [])
      | .message chunk =>
        if st.now - chunk.queuedAt ≤ MAX_CHUNK_AGE then
          ({ body with
            position := body.position + 1, yielded := body.yielded ++ chunk.bytes }, chunk.bytes)
        else ({ body with ended := true }, [])

def poll (st : LiveStream) (i : Nat) : Option LiveStream :=
  match st.bodies.lookup i with
  | none => none
  | some body =>
    some { st with
      bodies := st.bodies.insert i (st.pollBody body).1
      consumed := st.consumed + (st.pollBody body).2.length }

/-! ### Steps -/

def call (st : LiveStream) (next : LiveStream) : Option LiveStream :=
  if st.publisher = .idle then some next else none

def step (float : FloatTime) (st : LiveStream) : LiveLabel → Option LiveStream
  | .tick elapsed => some { st with now := st.now + elapsed }
  | .publish bytes => st.call ({ st with begun := true }.beginPublish bytes .encoded)
  | .publishTimedPcm bytes pcm =>
    st.call ({ st with begun := true }.beginPublish bytes (.timed pcm))
  | .publishPrelude bytes => st.call (st.startPrelude bytes)
  | .publishNext => st.publishNext float
  | .attach i => st.attach i
  | .attached => st.attached
  | .detach i => st.detach i
  | .detached => st.detached
  | .poll i => st.poll i
  | .close => some st.close
  | .setPlaybackAnchor anchor => some { st with playbackAnchor := anchor }

end LiveStream

def live (float : FloatTime) : TransitionSystem LiveStream LiveLabel where
  init := .new
  step := LiveStream.step float

/-! ### What a step does -/

open Live.LiveStream

/-- The encoder calls the stream. -/
def LiveLabel.calls : LiveLabel → Bool
  | publish _ | publishTimedPcm _ _ | publishPrelude _ => true
  | _ => false

/-- Every step, up to the counters of bytes that were not sent. -/
inductive LiveStep (st : LiveStream) : LiveLabel → LiveStream → Prop
  | ticked {elapsed : Duration} : LiveStep st (.tick elapsed) { st with now := st.now + elapsed }
  | anchorSet {playbackAnchor : PlaybackAnchorState} :
      LiveStep st (.setPlaybackAnchor playbackAnchor) { st with playbackAnchor }
  | closes : LiveStep st .close st.close
  | ignored {label : LiveLabel} {begun : Bool} (calls : label.calls = true)
      (idle : st.publisher = .idle) (still : st.begun = true → begun = true) :
      LiveStep st label { st with begun }
  | begins {label : LiveLabel} {bytes : Bytes} {payload : Payload} {encodedBytes : Nat}
      (calls : label.calls = true) (idle : st.publisher = .idle) (opened : st.closed = false)
      (data : payload.isPrelude = false) :
      LiveStep st label
        { st with begun := true, encodedBytes, publisher := .publishing bytes payload }
  | waits {bytes : Bytes} (idle : st.publisher = .idle) (opened : st.closed = false)
      (nonempty : bytes ≠ []) :
      LiveStep st (.publishPrelude bytes) { st with publisher := .locking bytes }
  | found {bytes prelude : Bytes} (locking : st.publisher = .locking bytes)
      (set : st.prelude = some prelude) :
      LiveStep st .publishNext { st with publisher := .idle }
  | stored {bytes : Bytes} {encodedBytes : Nat} (locking : st.publisher = .locking bytes)
      (free : st.lock = none) (unset : st.prelude = none) :
      LiveStep st .publishNext
        { st with
          prelude := some bytes, lock := some .encoder, encodedBytes
          publisher := .publishing bytes .prelude }
  | storedLate {bytes : Bytes} (locking : st.publisher = .locking bytes)
      (unset : st.prelude = none) (late : bytes = [] ∨ st.closed = true) :
      LiveStep st .publishNext { st with prelude := some bytes, publisher := .idle }
  | finished {dropped skipped chunksDropped : Nat} {playbackAnchor : PlaybackAnchorState}
      (unheard : ∀ bytes, st.publisher = .publishing bytes .prelude →
        st.subscriberConnected = false)
      (done : ∀ isPrelude rest, st.publisher = .sending isPrelude rest → rest = []) :
      LiveStep st .publishNext
        { st with dropped, skipped, chunksDropped, playbackAnchor }.finish
  | oversized {dropped skipped : Nat} {playbackAnchor : PlaybackAnchorState}
      (checked : ∀ isPrelude rest, st.publisher ≠ .sending isPrelude rest) :
      LiveStep st .publishNext { st with dropped, skipped, playbackAnchor }.close.finish
  | anchors {bytes : Bytes} {pcm : TimedPcm}
      (publishing : st.publisher = .publishing bytes (.timed pcm)) :
      LiveStep st .publishNext { st with publisher := .anchoring bytes pcm }
  | serves {isPrelude : Bool} {bytes : Bytes} {skipped : Nat}
      {playbackAnchor : PlaybackAnchorState}
      (checked : if isPrelude then st.publisher = .publishing bytes .prelude
        else st.publisher.holdsLock = false ∧ st.publisher ≠ .idle ∧
          ∀ bytes, st.publisher ≠ .locking bytes)
      (bounded : bytes.length ≤ MAX_PUBLICATION) :
      LiveStep st .publishNext
        ({ st with skipped, playbackAnchor }.broadcast isPrelude bytes)
  | sends {isPrelude : Bool} {chunk : EncodedChunk} {rest : List EncodedChunk}
      (sending : st.publisher = .sending isPrelude (chunk :: rest)) :
      LiveStep st .publishNext
        { st with sent := st.sent ++ [chunk], publisher := .sending isPrelude rest }
  | subscribes {i : Nat} (free : st.lock = none) (fresh : st.bodies.lookup i = none) :
      LiveStep st (.attach i)
        { st with
          subscriberCount := st.subscriberCount + 1
          lock := some (.attaching i
            ⟨st.sent.length, st.prelude, st.prelude, st.sent.length, false, []⟩) }
  | attaches {i : Nat} {body : Body} (attaching : st.lock = some (.attaching i body)) :
      LiveStep st .attached
        { st with
          subscriberConnected := true, bodies := st.bodies.insert i body, lock := none }
  | leaves {i : Nat} {body : Body} (live : st.bodies.lookup i = some body)
      (free : st.lock = none) :
      LiveStep st (.detach i)
        { st with
          subscriberCount := st.subscriberCount - 1, bodies := st.bodies.erase i
          gone := body :: st.gone, lock := some (.detaching (st.subscriberCount = 1)) }
  | detaches {last : Bool} (detaching : st.lock = some (.detaching last)) :
      LiveStep st .detached
        { st with
          subscriberConnected := if last then false else st.subscriberConnected, lock := none }
  | polls {i : Nat} {body : Body} (live : st.bodies.lookup i = some body) :
      LiveStep st (.poll i)
        { st with
          bodies := st.bodies.insert i (st.pollBody body).1
          consumed := st.consumed + (st.pollBody body).2.length }

namespace LiveStream

variable {float : FloatTime} {st st' : LiveStream}

theorem sendServed_cases (st : LiveStream) (isPrelude : Bool) (bytes : Bytes) :
    (∃ dropped, st.sendServed isPrelude bytes = { st with dropped }.close.finish) ∨
      bytes.length ≤ MAX_PUBLICATION ∧ st.sendServed isPrelude bytes = st.broadcast isPrelude bytes := by
  unfold sendServed
  split
  · exact .inl ⟨_, rfl⟩
  · case isFalse bounded => exact .inr ⟨Nat.le_of_not_lt bounded, rfl⟩

theorem anchorTimedPcm_cases (float : FloatTime) (st : LiveStream) (bytes : Bytes)
    (pcm : TimedPcm) :
    ∃ skipped playbackAnchor,
      (∃ chunksDropped, st.anchorTimedPcm float bytes pcm =
        { st with skipped, chunksDropped, playbackAnchor }.finish) ∨
      ∃ tail, st.anchorTimedPcm float bytes pcm =
        { st with skipped, playbackAnchor }.sendServed false tail := by
  have skips : ∀ playbackAnchor n, ∃ skipped playbackAnchor',
      (∃ chunksDropped, { st with playbackAnchor }.skip bytes n =
        { st with skipped, chunksDropped, playbackAnchor := playbackAnchor' }.finish) ∨
      ∃ tail, { st with playbackAnchor }.skip bytes n =
        { st with skipped, playbackAnchor := playbackAnchor' }.sendServed false tail := by
    intro playbackAnchor n
    refine ⟨st.skipped + n, playbackAnchor, ?_⟩
    unfold skip
    split
    · exact .inl ⟨_, rfl⟩
    · exact .inr ⟨_, rfl⟩
  have serves : ∀ playbackAnchor anchor, ∃ skipped playbackAnchor',
      (∃ chunksDropped, anchorTimedPcm.serve float bytes pcm { st with playbackAnchor } anchor =
        { st with skipped, chunksDropped, playbackAnchor := playbackAnchor' }.finish) ∨
      ∃ tail, anchorTimedPcm.serve float bytes pcm { st with playbackAnchor } anchor =
        { st with skipped, playbackAnchor := playbackAnchor' }.sendServed false tail := by
    intro playbackAnchor anchor
    unfold anchorTimedPcm.serve
    split
    · exact ⟨st.skipped, playbackAnchor, .inr ⟨bytes, rfl⟩⟩
    · exact skips playbackAnchor _
  unfold anchorTimedPcm
  split
  · exact skips st.playbackAnchor _
  · exact serves st.playbackAnchor _
  · exact serves _ _

theorem served_cases {isPrelude : Bool} {bytes : Bytes} {skipped : Nat}
    {playbackAnchor : PlaybackAnchorState}
    (checked : if isPrelude then st.publisher = .publishing bytes .prelude
      else st.publisher.holdsLock = false ∧ st.publisher ≠ .idle ∧
        ∀ bytes, st.publisher ≠ .locking bytes)
    (unsent : ∀ isPrelude rest, st.publisher ≠ .sending isPrelude rest) :
    LiveStep st .publishNext ({ st with skipped, playbackAnchor }.sendServed isPrelude bytes) := by
  obtain ⟨dropped, oversized⟩ | ⟨bounded, served⟩ :=
    { st with skipped, playbackAnchor }.sendServed_cases isPrelude bytes
  · rw [oversized]
    exact .oversized unsent
  · rw [served]
    exact .serves checked bounded

theorem publishNext_cases (h : st.publishNext float = some st') :
    LiveStep st .publishNext st' := by
  unfold publishNext at h
  split at h
  · cases h
  · case h_2 bytes locking =>
    split at h
    · case isTrue free =>
      cases h
      unfold storePrelude
      split
      · case h_1 prelude set =>
        have same : st.finish = { st with publisher := .idle } := by
          simp [finish, locking, Publisher.holdsLock]
        rw [same]
        exact .found locking set
      · case h_2 unset =>
        split
        · case isTrue late =>
          have same : { st with prelude := some bytes }.finish =
              { st with prelude := some bytes, publisher := .idle } := by
            simp [finish, locking, Publisher.holdsLock]
          rw [same]
          refine .storedLate locking unset ?_
          simpa using late
        · case isFalse early =>
          rw [beginPublish, if_neg early]
          exact .stored locking (Option.isNone_iff_eq_none.mp free) unset
    · cases h
  · case h_3 bytes payload publishing =>
    split at h
    · case isTrue unheard =>
      cases h
      refine .finished (fun _ _ => by simpa using unheard) fun isPrelude rest sending => ?_
      rw [publishing] at sending
      cases sending
    · have unsent : ∀ isPrelude rest, st.publisher ≠ .sending isPrelude rest := by
        rw [publishing]
        exact nofun
      cases payload with
      | prelude =>
        cases h
        exact served_cases (by rw [if_pos rfl]; exact publishing) unsent
      | encoded =>
        cases h
        refine served_cases ?_ unsent
        rw [publishing]
        exact ⟨rfl, nofun, nofun⟩
      | timed pcm =>
        cases h
        exact .anchors publishing
  · case h_4 bytes pcm anchoring =>
    cases h
    have unsent : ∀ isPrelude rest, st.publisher ≠ .sending isPrelude rest := by
      rw [anchoring]
      exact nofun
    obtain ⟨skipped, playbackAnchor, ⟨chunksDropped, heq⟩ | ⟨tail, heq⟩⟩ :=
      anchorTimedPcm_cases float st bytes pcm
    · rw [heq]
      refine .finished (fun bytes publishing => ?_) fun isPrelude rest sending => ?_
      · rw [anchoring] at publishing
        cases publishing
      · exact absurd sending (unsent isPrelude rest)
    · rw [heq]
      refine served_cases ?_ unsent
      rw [anchoring]
      exact ⟨rfl, nofun, nofun⟩
  · case h_5 isPrelude sending =>
    cases h
    refine .finished (fun bytes publishing => ?_) fun isPrelude rest sending' => ?_
    · rw [sending] at publishing
      cases publishing
    · rw [sending] at sending'
      cases sending'
      rfl
  · case h_6 sending =>
    cases h
    exact .sends sending

theorem beginPublish_cases {label : LiveLabel} {bytes : Bytes} {payload : Payload}
    (calls : label.calls = true) (idle : st.publisher = .idle)
    (data : payload.isPrelude = false) :
    LiveStep st label ({ st with begun := true }.beginPublish bytes payload) := by
  unfold beginPublish
  split
  · exact .ignored calls idle fun _ => rfl
  · case isFalse early =>
    simp only [Bool.or_eq_true, not_or, Bool.not_eq_true] at early
    exact .begins calls idle early.2 data

theorem call_some {next : LiveStream} (h : st.call next = some st') :
    st.publisher = .idle ∧ st' = next := by
  unfold call at h
  split at h
  · case isTrue idle =>
    cases h
    exact ⟨idle, rfl⟩
  · cases h

theorem step_cases {label : LiveLabel} (h : st.step float label = some st') :
    LiveStep st label st' := by
  cases label with
  | tick elapsed =>
    cases h
    exact .ticked
  | publish bytes =>
    obtain ⟨idle, rfl⟩ := call_some h
    exact beginPublish_cases rfl idle rfl
  | publishTimedPcm bytes pcm =>
    obtain ⟨idle, rfl⟩ := call_some h
    exact beginPublish_cases rfl idle rfl
  | publishPrelude bytes =>
    obtain ⟨idle, rfl⟩ := call_some h
    unfold startPrelude
    split
    · exact .ignored rfl idle fun begun => begun
    · case isFalse early =>
      simp only [Bool.or_eq_true, not_or, Bool.not_eq_true, List.isEmpty_eq_false_iff] at early
      exact .waits idle early.2 early.1
  | publishNext => exact publishNext_cases h
  | attach i =>
    simp only [step, attach] at h
    split at h
    · cases h
    · case isFalse free =>
      cases h
      simp only [Bool.or_eq_true, not_or, Bool.not_eq_true, Option.isSome_eq_false_iff,
        Option.isNone_iff_eq_none] at free
      exact .subscribes free.1 free.2
  | attached =>
    simp only [step, attached] at h
    split at h
    · case h_1 attaching =>
      cases h
      exact .attaches attaching
    · cases h
  | detach i =>
    simp only [step, detach] at h
    split at h
    · cases h
    · case h_2 live =>
      split at h
      · cases h
      · case isFalse free =>
        cases h
        exact .leaves live (by simpa using free)
  | detached =>
    simp only [step, detached] at h
    split at h
    · case h_1 detaching =>
      cases h
      exact .detaches detaching
    · cases h
  | poll i =>
    simp only [step, poll] at h
    split at h
    · cases h
    · case h_2 live =>
      cases h
      exact .polls live
  | close =>
    cases h
    exact .closes
  | setPlaybackAnchor anchor =>
    cases h
    exact .anchorSet

end LiveStream

end AirSonos.Live
