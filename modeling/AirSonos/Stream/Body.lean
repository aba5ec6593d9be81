import AirSonos.Stream.Live

/-!
# What the body of a response yields

A body yields the prelude once and then the bytes that are broadcast after it subscribed. The
prelude reaches it as the snapshot it finds when it subscribes, or through the channel when it
was there first; the lock makes it one of the two. A body that falls behind ends.
-/

namespace AirSonos.Live

def allBytes (chunks : List EncodedChunk) : Bytes :=
  chunks.flatMap EncodedChunk.bytes

/-- The bytes that are not part of the prelude. -/
def dataBytes (chunks : List EncodedChunk) : Bytes :=
  allBytes (chunks.filter fun chunk => !chunk.isPrelude)

theorem allBytes_append (before after : List EncodedChunk) :
    allBytes (before ++ after) = allBytes before ++ allBytes after :=
  List.flatMap_append

theorem allBytes_initial {before after : List EncodedChunk} (h : before <+: after) :
    allBytes before <+: allBytes after := by
  obtain ⟨rest, rfl⟩ := h
  rw [allBytes_append]
  exact List.prefix_append _ _

theorem dataBytes_append (before after : List EncodedChunk) :
    dataBytes (before ++ after) = dataBytes before ++ dataBytes after := by
  rw [dataBytes, List.filter_append, allBytes_append]
  rfl

theorem dataBytes_of_data {chunks : List EncodedChunk}
    (h : ∀ chunk ∈ chunks, chunk.isPrelude = false) : dataBytes chunks = allBytes chunks := by
  rw [dataBytes, List.filter_eq_self.mpr]
  intro chunk hmem
  rw [h chunk hmem]
  rfl

theorem dataBytes_of_prelude {chunks : List EncodedChunk}
    (h : ∀ chunk ∈ chunks, chunk.isPrelude = true) : dataBytes chunks = [] := by
  rw [dataBytes, List.filter_eq_nil_iff.mpr]
  · rfl
  · intro chunk hmem
    rw [h chunk hmem]
    decide

theorem Publisher.holdsLock_cases {publisher : Publisher} (h : publisher.holdsLock = true) :
    (∃ bytes, publisher = .publishing bytes .prelude) ∨
      ∃ rest, publisher = .sending true rest := by
  cases publisher with
  | publishing bytes payload =>
    cases payload with
    | prelude => exact .inl ⟨bytes, rfl⟩
    | encoded => cases h
    | timed pcm => cases h
  | sending isPrelude rest =>
    cases isPrelude with
    | true => exact .inr ⟨rest, rfl⟩
    | false => cases h
  | _ => cases h

namespace LiveStream

/-- The encoder publishes its prelude, if any, before anything else. -/
def PreludeFirst (st : LiveStream) : LiveLabel → Prop
  | .publishPrelude _ => st.begun = false
  | _ => True

instance (st : LiveStream) : (label : LiveLabel) → Decidable (PreludeFirst st label)
  | .publishPrelude _ => inferInstanceAs (Decidable (_ = _))
  | .tick _ | .publish _ | .publishTimedPcm _ _ | .publishNext | .attach _ | .attached
  | .detach _ | .detached | .poll _ | .close | .setPlaybackAnchor _ => .isTrue trivial

/-! ### Who is attached -/

/-- The count and the flag agree with the bodies that are attached. Between the two halves of
an attachment or a detachment the count is ahead of the flag. -/
def Tallied (bodies : AssocMap Nat Body) (count : Nat) (connected : Bool) :
    Option Holder → Prop
  | some (.attaching i _) =>
    bodies.lookup i = none ∧ count = AssocMap.size bodies + 1 ∧
      (connected = true ↔ AssocMap.size bodies ≠ 0)
  | some (.detaching last) =>
    count = AssocMap.size bodies ∧ connected = true ∧
      (last = true ↔ AssocMap.size bodies = 0)
  | _ => count = AssocMap.size bodies ∧ (connected = true ↔ AssocMap.size bodies ≠ 0)

structure Counted (st : LiveStream) : Prop where
  held : st.lock = some .encoder ↔ st.publisher.holdsLock = true
  tallied : Tallied st.bodies st.subscriberCount st.subscriberConnected st.lock

theorem Counted.connected_iff {st : LiveStream} (h : st.Counted)
    (staying : ∀ last, st.lock ≠ some (.detaching last)) :
    st.subscriberConnected = true ↔ AssocMap.size st.bodies ≠ 0 := by
  have tallied := h.tallied
  cases lock_eq : st.lock with
  | none =>
    rw [lock_eq] at tallied
    exact tallied.2
  | some holder =>
    rw [lock_eq] at tallied
    cases holder with
    | encoder => exact tallied.2
    | attaching => exact tallied.2.2
    | detaching last => exact absurd lock_eq (staying last)

theorem Counted.not_held {st : LiveStream} (h : st.Counted) {holder : Option Holder}
    (lock_eq : st.lock = holder) (other : holder ≠ some .encoder) :
    st.publisher.holdsLock = false := by
  rw [← Bool.not_eq_true, ← h.held, lock_eq]
  exact other

theorem Counted.finish {st : LiveStream} (h : st.Counted) : st.finish.Counted := by
  obtain ⟨held, tallied⟩ := h
  cases holds : st.publisher.holdsLock with
  | true =>
    have lock_eq := held.mpr holds
    have same : st.finish = { st with publisher := .idle, lock := none } := by
      simp [LiveStream.finish, holds]
    rw [lock_eq] at tallied
    rw [same]
    refine ⟨?_, tallied⟩
    constructor
    · intro locked
      cases locked
    · intro idle
      cases idle
  | false =>
    have same : st.finish = { st with publisher := .idle } := by
      simp [LiveStream.finish, holds]
    rw [same]
    refine ⟨?_, tallied⟩
    constructor
    · intro locked
      rw [held.mp locked] at holds
      cases holds
    · intro idle
      cases idle

/-- The encoder moves on and keeps or leaves the lock as it was. -/
theorem Counted.held_of_same {st : LiveStream} (h : st.Counted) {publisher : Publisher}
    (same : st.publisher.holdsLock = publisher.holdsLock) :
    st.lock = some .encoder ↔ publisher.holdsLock = true := by
  rw [h.held, same]

theorem Counted.step {st st' : LiveStream} {label : LiveLabel} (h : st.Counted)
    (taken : LiveStep st label st') : st'.Counted := by
  cases taken with
  | ticked => exact ⟨h.held, h.tallied⟩
  | anchorSet => exact ⟨h.held, h.tallied⟩
  | closes => exact ⟨h.held, h.tallied⟩
  | ignored => exact ⟨h.held, h.tallied⟩
  | begins calls idle opened data =>
    exact ⟨h.held_of_same (by rw [idle]; exact data.symm), h.tallied⟩
  | waits idle => exact ⟨h.held_of_same (by rw [idle]; rfl), h.tallied⟩
  | found locking => exact ⟨h.held_of_same (by rw [locking]; rfl), h.tallied⟩
  | stored locking free =>
    refine ⟨⟨fun _ => rfl, fun _ => rfl⟩, ?_⟩
    have tallied := h.tallied
    rw [free] at tallied
    exact tallied
  | storedLate locking => exact ⟨h.held_of_same (by rw [locking]; rfl), h.tallied⟩
  | finished => exact Counted.finish ⟨h.held, h.tallied⟩
  | oversized => exact Counted.finish ⟨h.held, h.tallied⟩
  | anchors publishing => exact ⟨h.held_of_same (by rw [publishing]; rfl), h.tallied⟩
  | @serves isPrelude bytes skipped playbackAnchor checked =>
    refine ⟨?_, h.tallied⟩
    cases isPrelude with
    | true =>
      rw [if_pos rfl] at checked
      exact ⟨fun _ => rfl, fun _ => h.held.mpr (by rw [checked]; rfl)⟩
    | false =>
      simp only [Bool.false_eq_true, if_false] at checked
      refine ⟨fun lock_eq => ?_, nofun⟩
      rw [h.held.mp lock_eq] at checked
      cases checked.1
  | sends sending => exact ⟨h.held_of_same (by rw [sending]; rfl), h.tallied⟩
  | @subscribes i free fresh =>
    have tallied := h.tallied
    rw [free] at tallied
    refine ⟨⟨nofun, fun holds => ?_⟩, fresh, congrArg (· + 1) tallied.1, tallied.2⟩
    rw [h.not_held free nofun] at holds
    cases holds
  | @attaches i body attaching =>
    have tallied := h.tallied
    rw [attaching] at tallied
    obtain ⟨fresh, count, -⟩ := tallied
    have size_eq := AssocMap.size_insert_of_none fresh body
    refine ⟨⟨nofun, fun holds => ?_⟩, count.trans size_eq.symm, fun _ => ?_, fun _ => rfl⟩
    · rw [h.not_held attaching nofun] at holds
      cases holds
    · rw [size_eq]
      exact Nat.succ_ne_zero _
  | @leaves i body live free =>
    have tallied := h.tallied
    rw [free] at tallied
    obtain ⟨count, connected⟩ := tallied
    have size_eq := AssocMap.size_of_lookup live
    refine ⟨⟨nofun, fun holds => ?_⟩, ?_, ?_, ?_⟩
    · rw [h.not_held free nofun] at holds
      cases holds
    · show st.subscriberCount - 1 = AssocMap.size (st.bodies.erase i)
      omega
    · exact connected.mpr (by omega)
    · rw [decide_eq_true_iff]
      show st.subscriberCount = 1 ↔ AssocMap.size (st.bodies.erase i) = 0
      omega
  | @detaches last detaching =>
    have tallied := h.tallied
    rw [detaching] at tallied
    obtain ⟨count, connected, last_iff⟩ := tallied
    refine ⟨⟨nofun, fun holds => ?_⟩, count, ?_⟩
    · rw [h.not_held detaching nofun] at holds
      cases holds
    · cases last with
      | true =>
        have empty := last_iff.mp rfl
        simp [empty]
      | false =>
        have nonempty : AssocMap.size st.bodies ≠ 0 := fun empty => by
          cases last_iff.mpr empty
        simp [connected, nonempty]
  | @polls i body live =>
    refine ⟨h.held, ?_⟩
    have tallied := h.tallied
    have size_eq := AssocMap.size_insert_of_some live (st.pollBody body).1
    revert tallied
    cases lock_eq : st.lock with
    | none => exact fun tallied => by simpa [Tallied, size_eq] using tallied
    | some holder =>
      cases holder with
      | encoder => exact fun tallied => by simpa [Tallied, size_eq] using tallied
      | detaching last => exact fun tallied => by simpa [Tallied, size_eq] using tallied
      | attaching j other =>
        intro tallied
        refine ⟨?_, by rw [size_eq]; exact tallied.2.1, by rw [size_eq]; exact tallied.2.2⟩
        rw [AssocMap.lookup_insert_ite, if_neg]
        · exact tallied.1
        · rintro rfl
          rw [tallied.1] at live
          cases live

/-! ### The prelude comes first -/

/-- What the encoder is about to send fits what it has sent. -/
def InOrder (st : LiveStream) : Publisher → Prop
  | .idle => True
  | .locking bytes => bytes ≠ [] ∧ st.begun = false
  | .publishing bytes payload =>
    if payload.isPrelude then st.begun = false ∧ st.prelude = some bytes ∧ st.sent = []
    else st.begun = true
  | .anchoring _ _ => st.begun = true
  | .sending true rest =>
    st.begun = false ∧ st.prelude = some (allBytes (st.sent ++ rest)) ∧
      ∀ chunk ∈ rest, chunk.isPrelude = true
  | .sending false rest => st.begun = true ∧ ∀ chunk ∈ rest, chunk.isPrelude = false

structure Ordered (st : LiveStream) : Prop where
  fresh : st.begun = false → ∀ chunk ∈ st.sent, chunk.isPrelude = true
  unset : st.prelude = none → ∀ chunk ∈ st.sent, chunk.isPrelude = false
  inOrder : st.InOrder st.publisher

theorem Ordered.nothing_sent {st : LiveStream} (h : st.Ordered) (begun : st.begun = false)
    (unset : st.prelude = none) : st.sent = [] := by
  refine List.eq_nil_iff_forall_not_mem.mpr fun chunk hmem => ?_
  have := (h.fresh begun chunk hmem).symm.trans (h.unset unset chunk hmem)
  cases this

theorem Ordered.not_begun {st : LiveStream} (h : st.Ordered)
    (holds : st.publisher.holdsLock = true) : st.begun = false := by
  have inOrder := h.inOrder
  obtain ⟨bytes, publishing⟩ | ⟨rest, sending⟩ := Publisher.holdsLock_cases holds
  · rw [publishing] at inOrder
    exact inOrder.1
  · rw [sending] at inOrder
    exact inOrder.1

theorem Ordered.begun {st : LiveStream} (h : st.Ordered)
    (busy : st.publisher.holdsLock = false ∧ st.publisher ≠ .idle ∧
      ∀ bytes, st.publisher ≠ .locking bytes) : st.begun = true := by
  have inOrder := h.inOrder
  obtain ⟨free, not_idle, not_locking⟩ := busy
  cases publisher_eq : st.publisher with
  | idle => exact absurd publisher_eq not_idle
  | locking bytes => exact absurd publisher_eq (not_locking bytes)
  | publishing bytes payload =>
    rw [publisher_eq] at inOrder free
    have data : ¬ payload.isPrelude = true := Bool.not_eq_true _ ▸ free
    rw [InOrder, if_neg data] at inOrder
    exact inOrder
  | anchoring bytes pcm =>
    rw [publisher_eq] at inOrder
    exact inOrder
  | sending isPrelude rest =>
    rw [publisher_eq] at inOrder free
    cases isPrelude with
    | true => cases free
    | false => exact inOrder.1

/-- What is cut into chunks is what was to be published. -/
theorem allBytes_chunks (bytes : Bytes) (queuedAt : Instant) (isPrelude : Bool)
    (publication : Nat) :
    allBytes ((Broadcast.pieces CHUNK_BYTES bytes).map fun piece =>
      ⟨piece, queuedAt, isPrelude, publication⟩) = bytes := by
  rw [allBytes, List.flatMap_map]
  show (Broadcast.pieces CHUNK_BYTES bytes).flatMap id = bytes
  rw [List.flatMap_id, Broadcast.flatten_pieces (by decide)]

theorem Ordered.step {st st' : LiveStream} {label : LiveLabel} (h : st.Ordered)
    (first : PreludeFirst st label) (taken : LiveStep st label st') : st'.Ordered := by
  have inOrder := h.inOrder
  cases taken with
  | ticked => exact ⟨h.fresh, h.unset, inOrder⟩
  | anchorSet => exact ⟨h.fresh, h.unset, inOrder⟩
  | closes => exact ⟨h.fresh, h.unset, inOrder⟩
  | ignored calls idle still =>
    refine ⟨fun begun => h.fresh ?_, h.unset, ?_⟩
    · by_contra already
      rw [Bool.not_eq_false] at already
      rw [still already] at begun
      cases begun
    · show InOrder _ st.publisher
      rw [idle]
      trivial
  | begins calls idle opened data =>
    refine ⟨nofun, h.unset, ?_⟩
    show InOrder _ (.publishing _ _)
    rw [InOrder, if_neg (by rw [data]; exact Bool.false_ne_true)]
  | waits idle opened nonempty => exact ⟨h.fresh, h.unset, nonempty, first⟩
  | found locking => exact ⟨h.fresh, h.unset, trivial⟩
  | stored locking free unset =>
    rw [locking] at inOrder
    have nothing := h.nothing_sent inOrder.2 unset
    refine ⟨h.fresh, nofun, inOrder.2, rfl, nothing⟩
  | storedLate => exact ⟨h.fresh, nofun, trivial⟩
  | finished unheard done => exact ⟨h.fresh, h.unset, trivial⟩
  | oversized checked => exact ⟨h.fresh, h.unset, trivial⟩
  | anchors publishing =>
    rw [publishing] at inOrder
    exact ⟨h.fresh, h.unset, inOrder⟩
  | @serves isPrelude bytes skipped playbackAnchor checked =>
    refine ⟨h.fresh, h.unset, ?_⟩
    cases isPrelude with
    | true =>
      rw [if_pos rfl] at checked
      rw [checked] at inOrder
      obtain ⟨begun, set, nothing⟩ := inOrder
      refine ⟨begun, ?_, fun chunk hmem => ?_⟩
      · show st.prelude = some (allBytes (st.sent ++ _))
        rw [nothing, List.nil_append, allBytes_chunks, set]
      · obtain ⟨piece, -, rfl⟩ := List.mem_map.mp hmem
        rfl
    | false =>
      refine ⟨h.begun checked, fun chunk hmem => ?_⟩
      obtain ⟨piece, -, rfl⟩ := List.mem_map.mp hmem
      rfl
  | @sends isPrelude chunk rest sending =>
    rw [sending] at inOrder
    cases isPrelude with
    | true =>
      obtain ⟨begun, set, preludes⟩ := inOrder
      refine ⟨fun _ other hmem => ?_, fun unset => ?_, begun, ?_, fun other hmem => ?_⟩
      · obtain hold | hnew := List.mem_append.mp hmem
        · exact h.fresh begun other hold
        · rw [List.mem_singleton.mp hnew]
          exact preludes chunk (.head _)
      · rw [set] at unset
        cases unset
      · show st.prelude = some (allBytes (st.sent ++ [chunk] ++ rest))
        rw [set, List.append_assoc, List.singleton_append]
      · exact preludes other (.tail _ hmem)
    | false =>
      obtain ⟨begun, data⟩ := inOrder
      refine ⟨fun fresh => ?_, fun unset other hmem => ?_, begun, fun other hmem => ?_⟩
      · exact absurd (begun.symm.trans fresh) nofun
      · obtain hold | hnew := List.mem_append.mp hmem
        · exact h.unset unset other hold
        · rw [List.mem_singleton.mp hnew]
          exact data chunk (.head _)
      · exact data other (.tail _ hmem)
  | subscribes => exact ⟨h.fresh, h.unset, inOrder⟩
  | attaches => exact ⟨h.fresh, h.unset, inOrder⟩
  | leaves => exact ⟨h.fresh, h.unset, inOrder⟩
  | detaches => exact ⟨h.fresh, h.unset, inOrder⟩
  | polls => exact ⟨h.fresh, h.unset, inOrder⟩

/-! ### What one body has read -/

/-- A body stands between where it subscribed and the end, and has yielded what lies between,
after the prelude it found. -/
structure Reads (sent : List EncodedChunk) (body : Body) : Prop where
  start_le : body.start ≤ body.position
  position_le : body.position ≤ sent.length
  pending : body.pending.isSome → body.pending = body.found ∧ body.position = body.start
  yielded : body.yielded =
    (if body.pending.isSome then [] else body.found.getD []) ++
      allBytes (Broadcast.slice sent body.start body.position)

/-- A body that found the prelude gets no part of it through the channel. One that did not was
there before anything was sent, if there is a prelude at all. -/
structure Sourced (st : LiveStream) (body : Body) : Prop where
  snapshot : ∀ prelude, body.found = some prelude →
    st.prelude = some prelude ∧ st.publisher.holdsLock = false ∧
      ∀ chunk ∈ st.sent.drop body.start, chunk.isPrelude = false
  channel : body.found = none → ∀ prelude, st.prelude = some prelude →
    body.start = 0 ∧
      (st.publisher.holdsLock = true ∨ allBytes st.sent = prelude ++ dataBytes st.sent ∨
        st.closed = true ∧ st.publisher = .idle ∧ st.sent = [])

structure Fed (st : LiveStream) (body : Body) : Prop where
  reads : Reads st.sent body
  sourced : Sourced st body

theorem Reads.append {sent : List EncodedChunk} {body : Body} (h : Reads sent body)
    (more : List EncodedChunk) : Reads (sent ++ more) body where
  start_le := h.start_le
  position_le := h.position_le.trans (by simp)
  pending := h.pending
  yielded := by rw [Broadcast.slice_append h.position_le, h.yielded]

theorem Sourced.drained {st : LiveStream} {body : Body} (h : Sourced st body)
    (idle : st.publisher.holdsLock = false) (opened : st.publisher = .idle → st.closed = false)
    (unfound : body.found = none) {prelude : Bytes} (set : st.prelude = some prelude) :
    body.start = 0 ∧ allBytes st.sent = prelude ++ dataBytes st.sent := by
  obtain ⟨start_eq, holds | all_eq | ⟨closed, publisher_eq, -⟩⟩ := h.channel unfound prelude set
  · rw [idle] at holds
    cases holds
  · exact ⟨start_eq, all_eq⟩
  · rw [opened publisher_eq] at closed
    cases closed

section Sourced

variable {st st' : LiveStream} {body : Body}

/-- A step between two states without the prelude lock that neither stores nor sends. -/
theorem Sourced.keeps (h : Sourced st body) (free : st.publisher.holdsLock = false)
    (opened : st.publisher = .idle → st.closed = false) (stays : st'.publisher.holdsLock = false)
    (same_prelude : st'.prelude = st.prelude) (same_sent : st'.sent = st.sent) :
    Sourced st' body := by
  refine ⟨fun prelude found => ?_, fun unfound prelude set => ?_⟩
  · obtain ⟨set, -, rest⟩ := h.snapshot prelude found
    rw [same_prelude, same_sent]
    exact ⟨set, stays, rest⟩
  · rw [same_prelude] at set
    obtain ⟨start_eq, all_eq⟩ := h.drained free opened unfound set
    rw [same_sent]
    exact ⟨start_eq, .inr (.inl all_eq)⟩

/-- While the prelude lock is held, no body has found the prelude. -/
theorem Sourced.locked (h : Sourced st body) (holds : st.publisher.holdsLock = true)
    (stays : st'.publisher.holdsLock = true) (same_prelude : st'.prelude = st.prelude) :
    Sourced st' body := by
  refine ⟨fun prelude found => ?_, fun unfound prelude set => ?_⟩
  · cases holds.symm.trans (h.snapshot prelude found).2.1
  · rw [same_prelude] at set
    exact ⟨(h.channel unfound prelude set).1, .inl stays⟩

/-- The prelude is stored before anything was sent, so every body stands at the start. -/
theorem Sourced.stores (h : Sourced st body) (start_le : body.start ≤ st.sent.length)
    (unset : st.prelude = none) (nothing : st.sent = [])
    (settles : st'.publisher.holdsLock = true ∨
      st'.closed = true ∧ st'.publisher = .idle ∧ st'.sent = []) : Sourced st' body := by
  refine ⟨fun prelude found => ?_, fun unfound prelude set => ⟨?_, ?_⟩⟩
  · cases unset.symm.trans (h.snapshot prelude found).1
  · rw [nothing] at start_le
    exact Nat.le_zero.mp start_le
  · obtain holds | late := settles
    · exact .inl holds
    · exact .inr (.inr late)

theorem Sourced.closes (h : Sourced st body) : Sourced st.close body := by
  refine ⟨h.snapshot, fun unfound prelude set => ?_⟩
  obtain ⟨start_eq, holds | all_eq | ⟨-, rest⟩⟩ := h.channel unfound prelude set
  · exact ⟨start_eq, .inl holds⟩
  · exact ⟨start_eq, .inr (.inl all_eq)⟩
  · exact ⟨start_eq, .inr (.inr ⟨rfl, rest⟩)⟩

/-- The last chunk of the prelude is out. A prelude that nobody hears is not sent, but the lock
is held only while somebody hears it. -/
theorem Ordered.prelude_out (ordered : st.Ordered)
    (heard : st.publisher.holdsLock = true → st.subscriberConnected = true)
    (unheard : ∀ bytes, st.publisher = .publishing bytes .prelude →
      st.subscriberConnected = false)
    (done : ∀ isPrelude rest, st.publisher = .sending isPrelude rest → rest = [])
    (holds : st.publisher.holdsLock = true) {prelude : Bytes} (set : st.prelude = some prelude) :
    allBytes st.sent = prelude ++ dataBytes st.sent := by
  have inOrder := ordered.inOrder
  have begun := ordered.not_begun holds
  obtain ⟨bytes, publishing⟩ | ⟨rest, sending⟩ := Publisher.holdsLock_cases holds
  · cases (unheard bytes publishing).symm.trans (heard holds)
  · rw [sending, done true rest sending] at inOrder
    have all_eq := Option.some.inj (inOrder.2.1.symm.trans set)
    rw [List.append_nil] at all_eq
    rw [dataBytes_of_prelude (ordered.fresh begun), List.append_nil]
    exact all_eq

theorem Sourced.finishes (h : Sourced st body) (stays : st'.publisher = .idle)
    (same_closed : st'.closed = st.closed) (same_prelude : st'.prelude = st.prelude)
    (same_sent : st'.sent = st.sent)
    (out : st.publisher.holdsLock = true → ∀ prelude, st.prelude = some prelude →
      allBytes st.sent = prelude ++ dataBytes st.sent) : Sourced st' body := by
  refine ⟨fun prelude found => ?_, fun unfound prelude set => ?_⟩
  · obtain ⟨set, -, rest⟩ := h.snapshot prelude found
    rw [same_prelude, same_sent, stays]
    exact ⟨set, rfl, rest⟩
  · rw [same_prelude] at set
    rw [same_sent, same_closed]
    obtain ⟨start_eq, holds | all_eq | ⟨closed, -, nothing⟩⟩ := h.channel unfound prelude set
    · exact ⟨start_eq, .inr (.inl (out holds prelude set))⟩
    · exact ⟨start_eq, .inr (.inl all_eq)⟩
    · exact ⟨start_eq, .inr (.inr ⟨closed, stays, nothing⟩)⟩

/-- An oversized prelude closes the stream before any of it was sent. -/
theorem Sourced.oversized (h : Sourced st body) (ordered : st.Ordered)
    (checked : ∀ isPrelude rest, st.publisher ≠ .sending isPrelude rest) :
    Sourced st.close.finish body := by
  refine ⟨fun prelude found => ?_, fun unfound prelude set => ?_⟩
  · obtain ⟨set, -, rest⟩ := h.snapshot prelude found
    exact ⟨set, rfl, rest⟩
  · obtain ⟨start_eq, holds | all_eq | ⟨-, -, nothing⟩⟩ := h.channel unfound prelude set
    · refine ⟨start_eq, .inr (.inr ⟨rfl, rfl, ?_⟩)⟩
      have inOrder := ordered.inOrder
      obtain ⟨bytes, publishing⟩ | ⟨rest, sending⟩ := Publisher.holdsLock_cases holds
      · rw [publishing] at inOrder
        exact inOrder.2.2
      · exact absurd sending (checked true rest)
    · exact ⟨start_eq, .inr (.inl all_eq)⟩
    · exact ⟨start_eq, .inr (.inr ⟨rfl, rfl, nothing⟩)⟩

/-- A chunk of data comes after the whole prelude. -/
theorem Sourced.sends {chunk : EncodedChunk} {rest : List EncodedChunk} (h : Sourced st body)
    (start_le : body.start ≤ st.sent.length) (sending : st.publisher = .sending false (chunk :: rest))
    (data : chunk.isPrelude = false) :
    Sourced { st with sent := st.sent ++ [chunk], publisher := .sending false rest } body := by
  have free : st.publisher.holdsLock = false := by rw [sending]; rfl
  refine ⟨fun prelude found => ?_, fun unfound prelude set => ?_⟩
  · obtain ⟨set, -, rest⟩ := h.snapshot prelude found
    refine ⟨set, rfl, fun other hmem => ?_⟩
    rw [List.drop_append_of_le_length start_le] at hmem
    obtain hold | hnew := List.mem_append.mp hmem
    · exact rest other hold
    · rw [List.mem_singleton.mp hnew]
      exact data
  · obtain ⟨start_eq, all_eq⟩ := h.drained free (by rw [sending]; nofun) unfound set
    refine ⟨start_eq, .inr (.inl ?_)⟩
    have chunk_eq : dataBytes [chunk] = allBytes [chunk] :=
      dataBytes_of_data fun other hmem => by
        rw [List.mem_singleton.mp hmem]
        exact data
    rw [allBytes_append, dataBytes_append, all_eq, List.append_assoc, chunk_eq]

theorem Sourced.step {label : LiveLabel} (h : Sourced st body) (ordered : st.Ordered)
    (start_le : body.start ≤ st.sent.length)
    (heard : st.publisher.holdsLock = true → st.subscriberConnected = true)
    (taken : LiveStep st label st') : Sourced st' body := by
  have inOrder := ordered.inOrder
  cases taken with
  | ticked => exact ⟨h.snapshot, h.channel⟩
  | anchorSet => exact ⟨h.snapshot, h.channel⟩
  | ignored => exact ⟨h.snapshot, h.channel⟩
  | subscribes => exact ⟨h.snapshot, h.channel⟩
  | attaches => exact ⟨h.snapshot, h.channel⟩
  | leaves => exact ⟨h.snapshot, h.channel⟩
  | detaches => exact ⟨h.snapshot, h.channel⟩
  | polls => exact ⟨h.snapshot, h.channel⟩
  | closes => exact h.closes
  | begins calls idle opened data =>
    exact h.keeps (by rw [idle]; rfl) (fun _ => opened) data rfl rfl
  | waits idle opened => exact h.keeps (by rw [idle]; rfl) (fun _ => opened) rfl rfl rfl
  | found locking => exact h.keeps (by rw [locking]; rfl) (by rw [locking]; nofun) rfl rfl rfl
  | stored locking free unset =>
    rw [locking] at inOrder
    exact h.stores start_le unset (ordered.nothing_sent inOrder.2 unset) (.inl rfl)
  | storedLate locking unset late =>
    rw [locking] at inOrder
    have nothing := ordered.nothing_sent inOrder.2 unset
    exact h.stores start_le unset nothing (.inr ⟨late.resolve_left inOrder.1, rfl, nothing⟩)
  | finished unheard done =>
    exact h.finishes rfl rfl rfl rfl fun holds _ set =>
      ordered.prelude_out heard unheard done holds set
  | oversized checked =>
    obtain ⟨snapshot, channel⟩ := h.oversized ordered checked
    exact ⟨snapshot, channel⟩
  | anchors publishing =>
    exact h.keeps (by rw [publishing]; rfl) (by rw [publishing]; nofun) rfl rfl rfl
  | @serves isPrelude bytes skipped playbackAnchor checked =>
    cases isPrelude with
    | true =>
      rw [if_pos rfl] at checked
      exact h.locked (by rw [checked]; rfl) rfl rfl
    | false => exact h.keeps checked.1 (fun idle => absurd idle checked.2.1) rfl rfl rfl
  | @sends isPrelude chunk rest sending =>
    rw [sending] at inOrder
    cases isPrelude with
    | true => exact h.locked (by rw [sending]; rfl) rfl rfl
    | false => exact h.sends start_le sending (inOrder.2 chunk (.head _))

end Sourced

/-! ### Polls -/

/-- The outcomes of a poll: nothing, the end, the prelude, or the next chunk. -/
inductive Polled (st : LiveStream) (body : Body) : Body × Bytes → Prop
  | nothing : Polled st body (body, [])
  | ends : Polled st body ({ body with ended := true }, [])
  | prelude {bytes : Bytes} (pending : body.pending = some bytes) :
      Polled st body ({ body with pending := none, yielded := body.yielded ++ bytes }, bytes)
  | chunk {chunk : EncodedChunk} (pending : body.pending = none)
      (unread : st.sent.drop body.position = chunk :: st.sent.drop (body.position + 1)) :
      Polled st body
        ({ body with
          position := body.position + 1, yielded := body.yielded ++ chunk.bytes }, chunk.bytes)

theorem pollBody_cases (st : LiveStream) (body : Body) : Polled st body (st.pollBody body) := by
  unfold pollBody
  split
  · exact .nothing
  · split
    · exact .ends
    · split
      · case h_1 bytes pending => exact .prelude pending
      · case h_2 pending =>
        split
        · exact .nothing
        · exact .ends
        · case h_3 chunk received =>
          split
          · exact .chunk pending (Broadcast.receive_message received)
          · exact .ends

theorem pollBody_yielded (st : LiveStream) (body : Body) :
    (st.pollBody body).1.yielded = body.yielded ++ (st.pollBody body).2 := by
  have polled := st.pollBody_cases body
  generalize st.pollBody body = result at polled ⊢
  cases polled with
  | nothing => exact (List.append_nil _).symm
  | ends => exact (List.append_nil _).symm
  | prelude => rfl
  | chunk => rfl

theorem Fed.poll {st : LiveStream} {body : Body} (h : Fed st body) :
    Fed st (st.pollBody body).1 := by
  obtain ⟨reads, sourced⟩ := h
  have polled := st.pollBody_cases body
  generalize st.pollBody body = result at polled ⊢
  cases polled with
  | nothing => exact ⟨reads, sourced⟩
  | ends => exact ⟨⟨reads.1, reads.2, reads.3, reads.4⟩, ⟨sourced.1, sourced.2⟩⟩
  | @prelude bytes pending =>
    obtain ⟨pending_eq, position_eq⟩ := reads.pending (by rw [pending]; rfl)
    refine ⟨⟨reads.start_le, reads.position_le, nofun, ?_⟩, ⟨sourced.1, sourced.2⟩⟩
    have yielded := reads.yielded
    rw [pending, position_eq, Broadcast.slice_self] at yielded
    show body.yielded ++ bytes = body.found.getD [] ++
      allBytes (Broadcast.slice st.sent body.start body.position)
    rw [yielded, ← pending_eq, pending, position_eq, Broadcast.slice_self]
    simp [allBytes]
  | @chunk chunk pending unread =>
    refine ⟨⟨Nat.le_succ_of_le reads.start_le, ?_, fun some_pending => ?_, ?_⟩,
      ⟨sourced.1, sourced.2⟩⟩
    · have := congrArg List.length unread
      simp only [List.length_drop, List.length_cons] at this
      show body.position + 1 ≤ st.sent.length
      omega
    · rw [pending] at some_pending
      cases some_pending
    · show body.yielded ++ chunk.bytes = (if body.pending.isSome then [] else body.found.getD []) ++
        allBytes (Broadcast.slice st.sent body.start (body.position + 1))
      rw [Broadcast.slice_succ reads.start_le unread, allBytes_append, reads.yielded,
        List.append_assoc]
      simp [allBytes]

theorem Fed.step {st st' : LiveStream} {label : LiveLabel} {body : Body} (h : Fed st body)
    (ordered : st.Ordered)
    (heard : st.publisher.holdsLock = true → st.subscriberConnected = true)
    (taken : LiveStep st label st') : Fed st' body := by
  have sourced := h.sourced.step ordered (h.reads.start_le.trans h.reads.position_le) heard taken
  refine ⟨?_, sourced⟩
  cases taken with
  | sends => exact h.reads.append _
  | _ => exact h.reads

theorem fed_of_subscribed {st : LiveStream} (h : st.Counted) (free : st.lock = none) :
    Fed st ⟨st.sent.length, st.prelude, st.prelude, st.sent.length, false, []⟩ := by
  refine ⟨⟨Nat.le_refl _, Nat.le_refl _, fun _ => ⟨rfl, rfl⟩, ?_⟩, ⟨fun prelude found => ?_, ?_⟩⟩
  · cases prelude_eq : st.prelude <;> simp [allBytes]
  · refine ⟨found, h.not_held free nofun, fun chunk hmem => ?_⟩
    rw [List.drop_length] at hmem
    cases hmem
  · intro unfound prelude set
    cases unfound.symm.trans set

/-- What a body has yielded is the start of what it should get. -/
theorem Fed.yielded_initial {st : LiveStream} {body : Body} (h : Fed st body) (ordered : st.Ordered) :
    body.yielded <+: st.prelude.getD [] ++ dataBytes (st.sent.drop body.start) := by
  obtain ⟨reads, sourced⟩ := h
  have slice_initial := allBytes_initial
    (Broadcast.slice_initial st.sent body.start body.position)
  cases found : body.found with
  | some prelude =>
    obtain ⟨set, -, data⟩ := sourced.snapshot prelude found
    rw [reads.yielded, found, set, dataBytes_of_data data]
    split
    · case isTrue pending =>
      rw [(reads.pending pending).2, Broadcast.slice_self]
      exact List.nil_prefix
    · exact (List.prefix_append_right_inj _).mpr slice_initial
  | none =>
    have yielded : body.yielded = allBytes (Broadcast.slice st.sent body.start body.position) := by
      rw [reads.yielded, found]
      simp
    rw [yielded]
    cases set : st.prelude with
    | none =>
      have data : ∀ chunk ∈ st.sent.drop body.start, chunk.isPrelude = false :=
        fun chunk hmem => ordered.unset set chunk (List.mem_of_mem_drop hmem)
      rw [dataBytes_of_data data]
      exact slice_initial
    | some prelude =>
      obtain ⟨start_eq, source⟩ := sourced.channel found prelude set
      rw [start_eq, List.drop_zero] at slice_initial ⊢
      show _ <+: prelude ++ dataBytes st.sent
      obtain holds | all_eq | ⟨-, -, nothing⟩ := source
      · refine slice_initial.trans ?_
        rw [dataBytes_of_prelude (ordered.fresh (ordered.not_begun holds)), List.append_nil]
        have inOrder := ordered.inOrder
        obtain ⟨bytes, publishing⟩ | ⟨rest, sending⟩ := Publisher.holdsLock_cases holds
        · rw [publishing] at inOrder
          rw [inOrder.2.2]
          exact List.nil_prefix
        · rw [sending] at inOrder
          rw [Option.some.inj (set.symm.trans inOrder.2.1), allBytes_append]
          exact List.prefix_append _ _
      · rw [← all_eq]
        exact slice_initial
      · rw [nothing] at slice_initial ⊢
        exact slice_initial.trans List.nil_prefix

/-! ### One publication fits the backlog -/

end LiveStream

def Publisher.rest : Publisher → List EncodedChunk
  | sending _ rest => rest
  | _ => []

namespace LiveStream

/-- What was or will be broadcast. -/
def broadcasts (st : LiveStream) : List EncodedChunk :=
  st.sent ++ st.publisher.rest

structure Bounded (st : LiveStream) : Prop where
  fits : ∀ n, (st.broadcasts.filter fun chunk => chunk.publication = n).length ≤ BACKLOG
  fresh : ∀ chunk ∈ st.broadcasts, chunk.publication < st.publications

theorem Bounded.of_sublist {st st' : LiveStream} (h : st.Bounded)
    (sub : st'.broadcasts.Sublist st.broadcasts) (same : st'.publications = st.publications) :
    st'.Bounded where
  fits n := ((sub.filter _).length_le).trans (h.fits n)
  fresh chunk hmem := by
    rw [same]
    exact h.fresh chunk (sub.subset hmem)

theorem sent_sublist {st st' : LiveStream} (sent_eq : st'.sent = st.sent)
    (rest_eq : st'.publisher.rest = []) : st'.broadcasts.Sublist st.broadcasts := by
  rw [broadcasts, sent_eq, rest_eq, List.append_nil]
  exact List.sublist_append_left _ _

theorem Bounded.broadcast {st : LiveStream} (h : st.Bounded) (isPrelude : Bool) {bytes : Bytes}
    (bounded : bytes.length ≤ MAX_PUBLICATION) : (st.broadcast isPrelude bytes).Bounded := by
  have sent_fresh : ∀ chunk ∈ st.sent, chunk.publication < st.publications :=
    fun chunk hmem => h.fresh chunk (List.mem_append_left _ hmem)
  refine ⟨fun n => ?_, fun chunk hmem => ?_⟩
  · show (List.filter _ (st.sent ++ (Broadcast.pieces CHUNK_BYTES bytes).map _)).length ≤ BACKLOG
    rw [List.filter_append, List.length_append]
    by_cases new : n = st.publications
    · have none_old : (st.sent.filter fun chunk => chunk.publication = n) = [] := by
        rw [List.filter_eq_nil_iff]
        intro chunk hmem
        have := sent_fresh chunk hmem
        simp only [decide_eq_true_eq]
        omega
      rw [none_old, List.length_nil, Nat.zero_add]
      refine (List.length_filter_le _ _).trans ?_
      rw [List.length_map]
      exact Broadcast.length_pieces_le (by decide) bounded
    · have none_new : (((Broadcast.pieces CHUNK_BYTES bytes).map fun piece =>
          (⟨piece, st.now, isPrelude, st.publications⟩ : EncodedChunk)).filter fun chunk =>
            chunk.publication = n) = [] := by
        rw [List.filter_eq_nil_iff]
        intro chunk hmem
        obtain ⟨piece, -, rfl⟩ := List.mem_map.mp hmem
        simpa using Ne.symm new
      rw [none_new, List.length_nil, Nat.add_zero]
      exact (((List.sublist_append_left _ _).filter _).length_le).trans (h.fits n)
  · obtain hold | hnew := List.mem_append.mp hmem
    · exact Nat.lt_succ_of_lt (sent_fresh chunk hold)
    · obtain ⟨piece, -, rfl⟩ := List.mem_map.mp hnew
      exact Nat.lt_succ_self _

theorem Bounded.step {st st' : LiveStream} {label : LiveLabel} (h : st.Bounded)
    (taken : LiveStep st label st') : st'.Bounded := by
  cases taken with
  | begins => exact h.of_sublist (sent_sublist rfl rfl) rfl
  | waits => exact h.of_sublist (sent_sublist rfl rfl) rfl
  | found => exact h.of_sublist (sent_sublist rfl rfl) rfl
  | stored => exact h.of_sublist (sent_sublist rfl rfl) rfl
  | storedLate => exact h.of_sublist (sent_sublist rfl rfl) rfl
  | finished => exact h.of_sublist (sent_sublist rfl rfl) rfl
  | oversized => exact h.of_sublist (sent_sublist rfl rfl) rfl
  | anchors => exact h.of_sublist (sent_sublist rfl rfl) rfl
  | @serves isPrelude bytes skipped playbackAnchor checked bounded =>
    have same : Bounded { st with skipped, playbackAnchor } := h.of_sublist (.refl _) rfl
    exact same.broadcast isPrelude bounded
  | @sends isPrelude chunk rest sending =>
    refine h.of_sublist ?_ rfl
    show (st.sent ++ [chunk] ++ rest).Sublist (st.sent ++ st.publisher.rest)
    rw [sending, List.append_assoc]
    exact .refl _
  | _ => exact h.of_sublist (.refl _) rfl

/-- What comes from one publication is never more than the backlog. -/
theorem Bounded.unread_le {st : LiveStream} (h : st.Bounded) {position publication : Nat}
    (one : ∀ chunk ∈ st.sent.drop position, chunk.publication = publication) :
    (st.sent.drop position).length ≤ BACKLOG := by
  have kept : (st.sent.drop position).filter (fun chunk => chunk.publication = publication) =
      st.sent.drop position :=
    List.filter_eq_self.mpr fun chunk hmem => by simpa using one chunk hmem
  rw [← kept]
  refine le_trans (List.Sublist.length_le (List.Sublist.filter _ ?_)) (h.fits publication)
  exact (List.drop_sublist _ _).trans (List.sublist_append_left _ _)

/-! ### Every byte that is consumed -/

def yieldedBytes (bodies : List Body) : Nat :=
  (bodies.map fun body => body.yielded.length).sum

/-- Every byte that was counted was yielded by a body, attached or gone. -/
structure Accounted (st : LiveStream) : Prop where
  consumed : st.consumed = yieldedBytes (AssocMap.values st.bodies) + yieldedBytes st.gone
  attaching : ∀ i body, st.lock = some (.attaching i body) →
    st.bodies.lookup i = none ∧ body.yielded = []

theorem yieldedBytes_of_lookup {bodies : AssocMap Nat Body} {i : Nat} {body : Body}
    (live : bodies.lookup i = some body) :
    yieldedBytes (AssocMap.values bodies) =
      body.yielded.length + yieldedBytes (AssocMap.values (bodies.erase i)) := by
  rw [yieldedBytes, ((AssocMap.values_perm_erase live).map _).sum_nat, List.map_cons,
    List.sum_cons, yieldedBytes]

theorem Accounted.step {st st' : LiveStream} {label : LiveLabel} (h : st.Accounted)
    (taken : LiveStep st label st') : st'.Accounted := by
  have released : ∀ st' : LiveStream, st'.consumed = st.consumed → st'.bodies = st.bodies →
      st'.gone = st.gone → (∀ i body, st'.lock ≠ some (.attaching i body)) → st'.Accounted := by
    intro st' consumed bodies gone free
    refine ⟨by rw [consumed, bodies, gone]; exact h.consumed, fun i body attaching => ?_⟩
    exact absurd attaching (free i body)
  have finished : ∀ st' : LiveStream, st'.consumed = st.consumed → st'.bodies = st.bodies →
      st'.gone = st.gone → st'.lock = st.lock → st'.finish.Accounted := by
    intro st' consumed bodies gone lock
    unfold LiveStream.finish
    split
    · exact released _ consumed bodies gone nofun
    · refine ⟨?_, fun i body attaching => ?_⟩
      · show st'.consumed = yieldedBytes (AssocMap.values st'.bodies) + yieldedBytes st'.gone
        rw [consumed, bodies, gone]
        exact h.consumed
      · show st'.bodies.lookup i = none ∧ _
        rw [bodies]
        exact h.attaching i body (lock ▸ attaching)
  cases taken with
  | stored => exact released _ rfl rfl rfl nofun
  | finished => exact finished _ rfl rfl rfl rfl
  | oversized => exact finished _ rfl rfl rfl rfl
  | @subscribes i free fresh =>
    refine ⟨h.consumed, fun j body attaching => ?_⟩
    cases attaching
    exact ⟨fresh, rfl⟩
  | @attaches i body attaching =>
    obtain ⟨fresh, unyielded⟩ := h.attaching i body attaching
    refine ⟨?_, nofun⟩
    show st.consumed = yieldedBytes (AssocMap.values (st.bodies.insert i body)) + _
    rw [AssocMap.values_insert, AssocMap.erase_of_lookup_none fresh, h.consumed]
    simp [yieldedBytes, unyielded]
  | @leaves i body live free =>
    refine ⟨?_, nofun⟩
    show st.consumed = yieldedBytes (AssocMap.values (st.bodies.erase i)) +
      yieldedBytes (body :: st.gone)
    rw [h.consumed, yieldedBytes_of_lookup live]
    simp only [yieldedBytes, List.map_cons, List.sum_cons]
    omega
  | detaches => exact released _ rfl rfl rfl nofun
  | @polls i body live =>
    refine ⟨?_, fun j other attaching => ?_⟩
    · show st.consumed + (st.pollBody body).2.length =
        yieldedBytes (AssocMap.values (st.bodies.insert i (st.pollBody body).1)) + _
      rw [AssocMap.values_insert, h.consumed, yieldedBytes_of_lookup live]
      have := congrArg List.length (st.pollBody_yielded body)
      rw [List.length_append] at this
      simp only [yieldedBytes, List.map_cons, List.sum_cons]
      omega
    · obtain ⟨fresh, unyielded⟩ := h.attaching j other attaching
      refine ⟨?_, unyielded⟩
      rw [AssocMap.lookup_insert_ite, if_neg]
      · exact fresh
      · rintro rfl
        rw [fresh] at live
        cases live
  | _ => exact ⟨h.consumed, h.attaching⟩

/-! ### Every body of every run -/

/-- A body that is attached, or about to be. -/
def Present (st : LiveStream) (body : Body) : Prop :=
  (∃ i, st.bodies.lookup i = some body) ∨ ∃ i, st.lock = some (.attaching i body)

theorem Counted.heard {st : LiveStream} (h : st.Counted) {body : Body}
    (present : st.Present body) (holds : st.publisher.holdsLock = true) :
    st.subscriberConnected = true := by
  have lock_eq := h.held.mpr holds
  have tallied := h.tallied
  rw [lock_eq] at tallied
  obtain ⟨i, live⟩ | ⟨i, attaching⟩ := present
  · exact tallied.2.mpr (AssocMap.size_ne_zero_iff.mpr ⟨i, body, live⟩)
  · cases lock_eq.symm.trans attaching

/-- A body that is present after a step was present before, unless it has just subscribed or
was polled. -/
theorem present_cases {st st' : LiveStream} {label : LiveLabel} {body : Body}
    (taken : LiveStep st label st') (present : st'.Present body) :
    st.Present body ∨
      st.lock = none ∧ body = ⟨st.sent.length, st.prelude, st.prelude, st.sent.length, false, []⟩ ∨
      ∃ old, st.Present old ∧ body = (st.pollBody old).1 := by
  have unlocked : ∀ {lock : Option Holder}, (∃ i, (if st.publisher.holdsLock then none else lock) =
      some (.attaching i body)) → ∃ i, lock = some (.attaching i body) := by
    rintro lock ⟨i, attaching⟩
    split at attaching
    · cases attaching
    · exact ⟨i, attaching⟩
  cases taken with
  | stored => exact .inl (present.imp_right nofun)
  | finished => exact .inl (present.imp_right unlocked)
  | oversized => exact .inl (present.imp_right unlocked)
  | subscribes free =>
    obtain live | ⟨i, attaching⟩ := present
    · exact .inl (.inl live)
    · cases attaching
      exact .inr (.inl ⟨free, rfl⟩)
  | @attaches i new attaching =>
    obtain ⟨j, live⟩ | ⟨j, attaching'⟩ := present
    · rw [AssocMap.lookup_insert_ite] at live
      split at live
      · cases live
        exact .inl (.inr ⟨i, attaching⟩)
      · exact .inl (.inl ⟨j, live⟩)
    · cases attaching'
  | @leaves i gone live free =>
    obtain ⟨j, live⟩ | ⟨j, attaching⟩ := present
    · rw [AssocMap.lookup_erase_ite] at live
      split at live
      · cases live
      · exact .inl (.inl ⟨j, live⟩)
    · cases attaching
  | detaches => exact .inl (present.imp_right nofun)
  | @polls i old live =>
    obtain ⟨j, found⟩ | ⟨j, attaching⟩ := present
    · rw [AssocMap.lookup_insert_ite] at found
      split at found
      · cases found
        exact .inr (.inr ⟨old, .inl ⟨i, live⟩, rfl⟩)
      · exact .inl (.inl ⟨j, found⟩)
    · exact .inl (.inr ⟨j, attaching⟩)
  | _ => exact .inl present

structure Kept (st : LiveStream) : Prop where
  counted : st.Counted
  ordered : st.Ordered
  bounded : st.Bounded
  accounted : st.Accounted
  fed : ∀ body, st.Present body → Fed st body

theorem kept_new : Kept new where
  counted := ⟨⟨nofun, nofun⟩, rfl, nofun, fun nonempty => absurd rfl nonempty⟩
  ordered := ⟨nofun, nofun, trivial⟩
  bounded := ⟨fun _ => Nat.zero_le _, nofun⟩
  accounted := ⟨rfl, nofun⟩
  fed := by
    rintro body (⟨i, live⟩ | ⟨i, attaching⟩)
    · cases live
    · cases attaching

theorem Kept.step {st st' : LiveStream} {label : LiveLabel} (h : st.Kept)
    (first : PreludeFirst st label) (taken : LiveStep st label st') : st'.Kept where
  counted := h.counted.step taken
  ordered := h.ordered.step first taken
  bounded := h.bounded.step taken
  accounted := h.accounted.step taken
  fed := by
    intro body present
    obtain before | ⟨free, rfl⟩ | ⟨old, before, rfl⟩ := present_cases taken present
    · exact (h.fed body before).step h.ordered (h.counted.heard before) taken
    · refine (fed_of_subscribed h.counted free).step h.ordered (fun holds => ?_) taken
      rw [h.counted.not_held free nofun] at holds
      cases holds
    · exact (h.fed old before).poll.step h.ordered (h.counted.heard before) taken

theorem kept_of_reachable {float : FloatTime} {st : LiveStream}
    (run : (live float).ReachableWhen PreludeFirst st) : st.Kept :=
  run.invariant (I := Kept) kept_new fun _ _ _ kept first taken =>
    kept.step first (step_cases taken)

/-- What a body yields, when it ends, and what is counted. -/
structure GapFree (float : FloatTime) (st : LiveStream) : Prop where
  /-- A body yields a prefix of the prelude and the other bytes broadcast after it attached. -/
  yielded : ∀ i body, st.bodies.lookup i = some body →
    body.yielded <+: st.prelude.getD [] ++ dataBytes (st.sent.drop body.start)
  /-- A body that lags past the backlog, or finds an old chunk, ends without skipping. -/
  behind : ∀ body, body.pending = none →
    (BACKLOG < (st.sent.drop body.position).length ∨ ∃ chunk ∈ (st.sent.drop body.position).head?,
      MAX_CHUNK_AGE < st.now - chunk.queuedAt) →
    st.pollBody body = ({ body with ended := true }, [])
  /-- A body that has ended, or whose stream is closed, yields nothing more. -/
  ended : ∀ body, body.ended = true ∨ st.closed = true →
    (st.pollBody body).1.ended = true ∧ (st.pollBody body).2 = []
  closed : st.closed = true → ∀ label st', st.step float label = some st' → st'.closed = true
  /-- Whatever one publication broadcasts, a body that had read everything before it gets it. -/
  keepsUp : ∀ body, body.ended = false → st.closed = false → body.pending = none →
    ∀ chunk ∈ (st.sent.drop body.position).head?, st.now - chunk.queuedAt ≤ MAX_CHUNK_AGE →
      (∀ other ∈ st.sent.drop body.position, other.publication = chunk.publication) →
        (st.pollBody body).2 = chunk.bytes ∧ (st.pollBody body).1.ended = false
  consumed : st.consumed = yieldedBytes (AssocMap.values st.bodies) + yieldedBytes st.gone
  /-- While no body is being detached, the flag tells whether one is attached. -/
  connected : (∀ last, st.lock ≠ some (.detaching last)) →
    (st.subscriberConnected = true ↔ ∃ i body, st.bodies.lookup i = some body)

theorem pollBody_ended {st : LiveStream} {body : Body}
    (finished : body.ended = true ∨ st.closed = true) :
    (st.pollBody body).1.ended = true ∧ (st.pollBody body).2 = [] := by
  unfold pollBody
  split
  · case isTrue ended => exact ⟨ended, rfl⟩
  · case isFalse running =>
    rw [if_pos (finished.resolve_left running)]
    exact ⟨rfl, rfl⟩

theorem pollBody_behind {st : LiveStream} {body : Body} (pending : body.pending = none)
    (behind : BACKLOG < (st.sent.drop body.position).length ∨
      ∃ chunk ∈ (st.sent.drop body.position).head?, MAX_CHUNK_AGE < st.now - chunk.queuedAt) :
    st.pollBody body = ({ body with ended := true }, []) := by
  have ended_eq : body.ended = true → body = { body with ended := true } := by
    intro ended
    cases body
    cases ended
    rfl
  unfold pollBody
  split
  · case isTrue ended => exact congrArg (·, []) (ended_eq ended)
  · split
    · rfl
    · rw [pending]
      simp only
      by_cases lags : BACKLOG < (st.sent.drop body.position).length
      · rw [Broadcast.receive_lagged lags]
      · obtain ⟨chunk, head, old⟩ := behind.resolve_left lags
        obtain ⟨rest, unread⟩ := List.head?_eq_some_iff.mp head
        have received : Broadcast.receive BACKLOG st.sent body.position = .message chunk :=
          Broadcast.receive_of_unread unread (by rw [← unread]; exact Nat.le_of_not_lt lags)
        rw [received]
        simp only [if_neg (Nat.not_le.mpr old)]

theorem Bounded.pollBody_keepsUp {st : LiveStream} (h : st.Bounded) {body : Body}
    (running : body.ended = false) (opened : st.closed = false) (pending : body.pending = none)
    {chunk : EncodedChunk} (head : chunk ∈ (st.sent.drop body.position).head?)
    (recent : st.now - chunk.queuedAt ≤ MAX_CHUNK_AGE)
    (one : ∀ other ∈ st.sent.drop body.position, other.publication = chunk.publication) :
    (st.pollBody body).2 = chunk.bytes ∧ (st.pollBody body).1.ended = false := by
  obtain ⟨rest, unread⟩ := List.head?_eq_some_iff.mp head
  have received : Broadcast.receive BACKLOG st.sent body.position = .message chunk :=
    Broadcast.receive_of_unread unread (by rw [← unread]; exact h.unread_le one)
  simp only [pollBody, running, opened, pending, received, if_pos recent, Bool.false_eq_true,
    if_false, and_self]

theorem closed_of_step {st st' : LiveStream} {label : LiveLabel} (closed : st.closed = true)
    (taken : LiveStep st label st') : st'.closed = true := by
  cases taken with
  | closes => rfl
  | oversized => rfl
  | _ => exact closed

/-- Every body is gap-free in every run whose encoder publishes its prelude first. -/
theorem gap_free {float : FloatTime} {st : LiveStream}
    (run : (live float).ReachableWhen PreludeFirst st) : st.GapFree float := by
  have kept := kept_of_reachable run
  exact
    { yielded := fun i body live => (kept.fed body (.inl ⟨i, live⟩)).yielded_initial kept.ordered
      behind := fun body pending behind => pollBody_behind pending behind
      ended := fun body finished => pollBody_ended finished
      closed := fun closed label st' taken => closed_of_step closed (step_cases taken)
      keepsUp := fun body running opened pending chunk head recent one =>
        kept.bounded.pollBody_keepsUp running opened pending head recent one
      consumed := kept.accounted.consumed
      connected := fun staying => by
        rw [kept.counted.connected_iff staying, AssocMap.size_ne_zero_iff] }

/-- A body subscribes before the prelude is published, and reads it and what follows. -/
def preludeThenData : List LiveLabel :=
  [.attach 0, .attached, .publishPrelude [82], .publishNext, .publishNext, .publishNext,
    .publishNext, .publish [1, 2], .publishNext, .publishNext, .publishNext, .poll 0, .poll 0]

theorem gap_free_after_prelude :
    ∃ st, (live .exact).runWhen PreludeFirst .new preludeThenData = some st ∧
      (st.bodies.lookup 0).map Body.yielded = some [82, 1, 2] ∧ st.GapFree .exact := by
  obtain ⟨st, hrun, hyielded⟩ : ∃ st, (live .exact).runWhen PreludeFirst .new preludeThenData =
      some st ∧ (st.bodies.lookup 0).map Body.yielded = some [82, 1, 2] := ⟨_, rfl, rfl⟩
  exact ⟨st, hrun, hyielded, gap_free (TransitionSystem.ReachableWhen.of_runWhen .init hrun)⟩

end LiveStream

end AirSonos.Live
