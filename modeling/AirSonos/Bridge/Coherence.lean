import AirSonos.Bridge.Payload

/-!
# Sessions, streams and generations

A session has an encoder exactly while the registry holds its stream, and a stream that was
registered under the current generation of a session that wants playback is that stream. So a
prepared stream of the current generation can never be stale.
-/

namespace AirSonos

open BridgeRuntime

/-- The pause of the session is being carried out. -/
def Pausing (stack : List Frame) (id : SessionId) : Prop :=
  ∃ zoneId todo, .leaving (.pause id zoneId) todo ∈ stack

theorem Pausing.push {stack : List Frame} {id : SessionId} (frame : Frame)
    (h : Pausing stack id) : Pausing (frame :: stack) id := by
  obtain ⟨zoneId, todo, hframe⟩ := h
  exact ⟨zoneId, todo, List.mem_cons_of_mem _ hframe⟩

theorem Pausing.pop {stack : List Frame} {frame : Frame} {id : SessionId}
    (other : ∀ zoneId todo, frame ≠ .leaving (.pause id zoneId) todo)
    (h : Pausing (frame :: stack) id) : Pausing stack id := by
  obtain ⟨zoneId, todo, hframe⟩ := h
  exact ⟨zoneId, todo,
    (List.mem_cons.mp hframe).resolve_left fun heq => other zoneId todo heq.symm⟩

/-- What holds of one session. The stream registered under its generation is the one of its
encoder; a session that does not want playback has none, once its pause is carried out. -/
structure SessionCoherent (env : Env) (stack : List Frame) (streams : List LiveStream)
    (nextGeneration : Nat) (id : SessionId) (session : SessionRuntime) : Prop where
  renderer : ∃ renderer, env.renderers session.zoneId = some renderer
  bounded : session.generation ≤ nextGeneration
  registered : ∀ encoder, session.encoder = some encoder →
    encoder.stream ∈ streams ∧ encoder.stream.session.sessionId = id
  prepared : ∀ stream, session.prepared = some stream →
    session.desiredPlayback = true ∧ stream.generation = session.generation ∧
      session.encoder = some ⟨stream.liveStream⟩
  current : ∀ stream ∈ streams, stream.session.sessionId = id →
    stream.session.generation = session.generation →
    (session.desiredPlayback = true → session.encoder = some ⟨stream⟩) ∧
      (session.desiredPlayback = false → Pausing stack id)

structure Coherent (env : Env) (stack : List Frame) (st : BridgeRuntime) : Prop where
  session : ∀ id session, st.session id = some session →
    SessionCoherent env stack st.streams st.nextGeneration id session
  unique : ∀ id other session session', st.session id = some session →
    st.session other = some session' → session.zoneId = session'.zoneId → id = other
  stream : ∀ id, st.registry.lookup id =
    ((st.session id).bind SessionRuntime.encoder).map FfmpegEncoder.stream
  bounded : ∀ stream ∈ st.streams,
    0 < stream.session.generation ∧ stream.session.generation ≤ st.nextGeneration
  ordered : st.streams.Pairwise fun later earlier =>
    earlier.session.generation < later.session.generation

namespace SessionCoherent

variable {env : Env} {stack : List Frame} {streams : List LiveStream} {next : Nat}
  {id : SessionId} {session : SessionRuntime}

theorem mono (h : SessionCoherent env stack streams next id session) {stack' : List Frame}
    {next' : Nat} (hstack : Pausing stack id → Pausing stack' id) (hnext : next ≤ next') :
    SessionCoherent env stack' streams next' id session :=
  { h with
    bounded := h.bounded.trans hnext
    current := fun stream hmem hid hgeneration =>
      ⟨(h.current stream hmem hid hgeneration).1,
        fun unwanted => hstack ((h.current stream hmem hid hgeneration).2 unwanted)⟩ }

/-- A new stream of another session does not matter. -/
theorem cons (h : SessionCoherent env stack streams next id session) {stream : LiveStream}
    (other : stream.session.sessionId ≠ id) :
    SessionCoherent env stack (stream :: streams) next id session :=
  { h with
    registered := fun encoder hencoder =>
      ⟨List.mem_cons_of_mem _ (h.registered encoder hencoder).1, (h.registered encoder hencoder).2⟩
    current := fun old hmem hid =>
      h.current old ((List.mem_cons.mp hmem).resolve_left fun heq => other (heq ▸ hid)) hid }

/-- A generation that no stream has. -/
theorem fresh (renderer : ∃ renderer, env.renderers session.zoneId = some renderer)
    (bounded : session.generation ≤ next)
    (registered : ∀ encoder, session.encoder = some encoder →
      encoder.stream ∈ streams ∧ encoder.stream.session.sessionId = id)
    (prepared : session.prepared = none)
    (new : ∀ stream ∈ streams, stream.session.generation ≠ session.generation) :
    SessionCoherent env stack streams next id session where
  renderer := renderer
  bounded := bounded
  registered := registered
  prepared := fun stream hstream => by rw [prepared] at hstream; cases hstream
  current := fun stream hmem _ hgeneration => absurd hgeneration (new stream hmem)

end SessionCoherent

/-- No two streams share a generation. -/
theorem Coherent.eq_of_generation {stack : List Frame} {st : BridgeRuntime}
    (h : Coherent env stack st) {stream other : LiveStream} (hstream : stream ∈ st.streams)
    (hother : other ∈ st.streams)
    (same : stream.session.generation = other.session.generation) : stream = other := by
  by_contra hne
  have hdistinct : st.streams.Pairwise fun x y : LiveStream =>
      x.session.generation ≠ y.session.generation :=
    h.ordered.imp fun hlt => (Nat.ne_of_lt hlt).symm
  have : Std.Symm fun x y : LiveStream => x.session.generation ≠ y.session.generation :=
    ⟨fun _ _ hxy => hxy.symm⟩
  exact hdistinct.forall hstream hother hne same

namespace Coherent

variable {env : Env} {stack stack' : List Frame} {st st' : BridgeRuntime}

theorem start : Coherent env [] .new where
  session := fun _ _ h => nomatch h
  unique := fun _ _ _ _ h => nomatch h
  stream := fun _ => rfl
  bounded := fun _ h => nomatch h
  ordered := .nil

theorem restack (h : Coherent env stack st) (hstack : ∀ id, Pausing stack id → Pausing stack' id) :
    Coherent env stack' st :=
  { h with session := fun id session live => (h.session id session live).mono (hstack id) le_rfl }

theorem session_cases {id other : SessionId} {session : SessionRuntime}
    {f : SessionRuntime → SessionRuntime}
    (sessions : ∀ other, st'.session other =
      if other = id then (st.session other).map f else st.session other)
    (live : st'.session other = some session) :
    (other ≠ id ∧ st.session other = some session) ∨
      (other = id ∧ ∃ old, st.session id = some old ∧ session = f old) := by
  rw [sessions] at live
  split at live
  · next heq =>
    subst other
    obtain ⟨old, hold, rfl⟩ := Option.map_eq_some_iff.mp live
    exact .inr ⟨rfl, old, hold, rfl⟩
  · next hne => exact .inl ⟨hne, live⟩

/-- An edit of one session, with its registry entry, the generation counter and the stack. -/
theorem update (h : Coherent env stack st) (id : SessionId) {f : SessionRuntime → SessionRuntime}
    (sessions : ∀ other, st'.session other =
      if other = id then (st.session other).map f else st.session other)
    (registry : ∀ other, st'.registry.lookup other =
      if other = id then ((st'.session id).bind SessionRuntime.encoder).map FfmpegEncoder.stream
      else st.registry.lookup other)
    (next : st.nextGeneration ≤ st'.nextGeneration) (streams : st'.streams = st.streams)
    (hstack : ∀ other, other ≠ id → Pausing stack other → Pausing stack' other)
    (hf : ∀ session, st.session id = some session → (f session).zoneId = session.zoneId ∧
      SessionCoherent env stack' st.streams st'.nextGeneration id (f session)) :
    Coherent env stack' st' where
  session := fun other session live => by
    rw [streams]
    rcases session_cases sessions live with ⟨hne, live⟩ | ⟨rfl, old, hold, rfl⟩
    · exact (h.session other session live).mono (hstack other hne) next
    · exact (hf old hold).2
  unique := by
    have hzone (other : SessionId) (session : SessionRuntime)
        (live : st'.session other = some session) :
        ∃ old, st.session other = some old ∧ old.zoneId = session.zoneId := by
      rcases session_cases sessions live with ⟨-, live⟩ | ⟨rfl, old, hold, rfl⟩
      · exact ⟨session, live, rfl⟩
      · exact ⟨old, hold, (hf old hold).1.symm⟩
    intro one other session session' live live' hsame
    obtain ⟨old, hold, heq⟩ := hzone one session live
    obtain ⟨old', hold', heq'⟩ := hzone other session' live'
    exact h.unique one other old old' hold hold' (heq.trans (hsame.trans heq'.symm))
  stream := fun other => by
    rw [registry]
    split
    · next heq => rw [heq]
    · next hne => rw [sessions, if_neg hne]; exact h.stream other
  bounded := fun stream hmem => by
    rw [streams] at hmem
    exact ⟨(h.bounded stream hmem).1, (h.bounded stream hmem).2.trans next⟩
  ordered := by rw [streams]; exact h.ordered

/-- The same for an edit that leaves the encoder, the registry and the counter alone. -/
theorem edit (h : Coherent env stack st) (id : SessionId) {f : SessionRuntime → SessionRuntime}
    (sessions : ∀ other, st'.session other =
      if other = id then (st.session other).map f else st.session other)
    (registry : st'.registry = st.registry) (next : st'.nextGeneration = st.nextGeneration)
    (streams : st'.streams = st.streams)
    (hf : ∀ session, st.session id = some session → (f session).zoneId = session.zoneId ∧
      (f session).encoder = session.encoder ∧
      SessionCoherent env stack st.streams st.nextGeneration id (f session)) :
    Coherent env stack st' := by
  refine h.update id sessions (fun other => ?_) (Nat.le_of_eq next.symm) streams
    (fun _ _ hpausing => hpausing) fun session live => ⟨(hf session live).1, ?_⟩
  · rw [registry, h.stream]
    split
    · next heq =>
      rw [heq, sessions, if_pos rfl]
      cases hlive : st.session id with
      | none => rfl
      | some session =>
        simp only [Option.map_some, Option.bind_some, (hf session hlive).2.1]
    · rfl
  · rw [next]
    exact (hf session live).2.2

/-- An edit of what coherence does not speak about. -/
theorem touch (h : Coherent env stack st) (id : SessionId) {f : SessionRuntime → SessionRuntime}
    (sessions : ∀ other, st'.session other =
      if other = id then (st.session other).map f else st.session other)
    (registry : st'.registry = st.registry) (next : st'.nextGeneration = st.nextGeneration)
    (streams : st'.streams = st.streams)
    (hf : ∀ session, (f session).zoneId = session.zoneId ∧
      (f session).encoder = session.encoder ∧ (f session).generation = session.generation ∧
      (f session).desiredPlayback = session.desiredPlayback ∧
      ∀ stream, (f session).prepared = some stream → ∃ old, session.prepared = some old ∧
        stream.generation = old.generation ∧ stream.liveStream = old.liveStream) :
    Coherent env stack st' := by
  refine h.edit id sessions registry next streams fun session live => ?_
  obtain ⟨hzone, hencoder, hgeneration, hdesired, hprepared⟩ := hf session
  have hsession := h.session id session live
  refine ⟨hzone, hencoder, ?_, ?_, ?_, ?_, ?_⟩
  · rw [hzone]
    exact hsession.renderer
  · rw [hgeneration]
    exact hsession.bounded
  · rw [hencoder]
    exact hsession.registered
  · intro stream hstream
    obtain ⟨old, hold, hsame, hlive⟩ := hprepared stream hstream
    rw [hdesired, hgeneration, hencoder, hsame, hlive]
    exact hsession.prepared old hold
  · rw [hdesired, hgeneration, hencoder]
    exact hsession.current

/-! ### The operations -/

theorem cancelDownstreamRetry (h : Coherent env stack st) (id : SessionId) :
    Coherent env stack (st.cancelDownstreamRetry id) :=
  h.touch id (session_cancelDownstreamRetry st id) rfl rfl rfl fun _ =>
    ⟨rfl, rfl, rfl, rfl, fun stream hstream => ⟨stream, hstream, rfl, rfl⟩⟩

theorem scheduleDownstreamRetry (h : Coherent env stack st) (id : SessionId) (zoneId : ZoneId)
    (generation : Nat) : Coherent env stack (st.scheduleDownstreamRetry id zoneId generation).1 := by
  refine h.touch id (session_scheduleDownstreamRetry st id zoneId generation) rfl rfl rfl
    fun session => ?_
  unfold retryOrReset
  split <;> exact ⟨rfl, rfl, rfl, rfl, fun stream hstream => ⟨stream, hstream, rfl, rfl⟩⟩

theorem retireDownstream (h : Coherent env stack st) (id : SessionId) :
    Coherent env stack (st.retireDownstream id) := by
  refine h.update id (session_retireDownstream st id) (fun other => ?_) (Nat.le_succ _) rfl
    (fun _ _ hpausing => hpausing) fun session live =>
      ⟨rfl, .fresh (h.session id session live).renderer le_rfl (by nofun) rfl fun stream hmem => ?_⟩
  · rw [session_retireDownstream, if_pos rfl]
    refine (AssocMap.lookup_erase_ite id other st.registry).trans ?_
    split
    · cases st.session id <;> rfl
    · rfl
  · have := (h.bounded stream hmem).2
    exact Nat.ne_of_lt (Nat.lt_succ_of_le this)

theorem invalidateDownstream (h : Coherent env stack st) (id : SessionId) (zoneId : ZoneId) :
    Coherent env stack (st.invalidateDownstream env id zoneId) :=
  { h.retireDownstream id with }

/-- The stream that is registered has the latest generation, which is that of its session. -/
theorem registerStream (h : Coherent env stack st) {id : SessionId} {liveStream : LiveStream}
    {session : SessionRuntime} (live : st.session id = some session)
    (named : liveStream.session.sessionId = id)
    (latest : liveStream.session.generation = st.nextGeneration)
    (new : ∀ stream ∈ st.streams, stream.session.generation < st.nextGeneration)
    (positive : 0 < st.nextGeneration) (wanted : session.desiredPlayback = true)
    (generation : session.generation = st.nextGeneration)
    (unprepared : session.prepared = none) :
    Coherent env stack (st.registerStream id liveStream) := by
  have hsessions (other : SessionId) : (st.registerStream id liveStream).session other =
      if other = id then
        (st.session other).map fun session => { session with encoder := some ⟨liveStream⟩ }
      else st.session other := session_modifySession (st.record (.registered liveStream)) id other _
  have hstreams : (st.registerStream id liveStream).streams = liveStream :: st.streams := rfl
  refine { session := ?_, unique := ?_, stream := ?_, bounded := ?_, ordered := ?_ }
  · intro other session' live'
    rw [hstreams]
    rcases session_cases hsessions live' with ⟨hne, live'⟩ | ⟨rfl, old, hold, rfl⟩
    · exact (h.session other session' live').cons fun heq => hne (heq.symm.trans named)
    · rw [live] at hold
      cases hold
      have hsession := h.session other session live
      refine ⟨hsession.renderer, hsession.bounded, ?_, ?_, ?_⟩
      · intro encoder hencoder
        cases hencoder
        exact ⟨List.mem_cons_self, named⟩
      · intro stream hstream
        rw [unprepared] at hstream
        cases hstream
      · intro stream hmem hid hsame
        rcases List.mem_cons.mp hmem with rfl | hmem
        · refine ⟨fun _ => rfl, fun hunwanted => ?_⟩
          rw [wanted] at hunwanted
          cases hunwanted
        · have := new stream hmem
          simp only at hsame
          omega
  · intro one other session session' live live' hsame
    have hzone (id' : SessionId) (session : SessionRuntime)
        (live : (st.registerStream id liveStream).session id' = some session) :
        ∃ old, st.session id' = some old ∧ old.zoneId = session.zoneId := by
      rcases session_cases hsessions live with ⟨-, live⟩ | ⟨rfl, old, hold, rfl⟩
      · exact ⟨session, live, rfl⟩
      · exact ⟨old, hold, rfl⟩
    obtain ⟨old, hold, heq⟩ := hzone one session live
    obtain ⟨old', hold', heq'⟩ := hzone other session' live'
    exact h.unique one other old old' hold hold' (heq.trans (hsame.trans heq'.symm))
  · intro other
    rw [hsessions]
    refine (AssocMap.lookup_insert_ite id other liveStream st.registry).trans ?_
    split
    · next heq =>
      rw [heq, live]
      rfl
    · exact h.stream other
  · intro stream hmem
    rw [hstreams] at hmem
    rcases List.mem_cons.mp hmem with rfl | hmem
    · rw [latest]
      exact ⟨positive, le_rfl⟩
    · exact h.bounded stream hmem
  · rw [hstreams]
    refine .cons (fun stream hmem => ?_) h.ordered
    rw [latest]
    exact new stream hmem

/-- After the old generation is invalidated, a new stream can be admitted. -/
theorem admitDownstream (h : Coherent env stack st) {id : SessionId} {zoneId : ZoneId}
    {session : SessionRuntime} (live : st.session id = some session)
    (wanted : session.desiredPlayback = true) {renderer : Renderer} {liveStream : LiveStream}
    (created : (st.invalidateDownstream env id zoneId).createDownstreamStream env id zoneId
      (st.invalidateDownstream env id zoneId).nextGeneration = some liveStream) :
    Coherent env stack
      ((st.invalidateDownstream env id zoneId).admitDownstream env id zoneId renderer
        liveStream) := by
  obtain ⟨named, latest⟩ := Sound.createDownstreamStream_named created
  have hlive : (st.invalidateDownstream env id zoneId).session id =
      some { session with
        resetNeeded := true
        observed := .unknown
        prepared := none
        encoder := none
        generation := st.nextGeneration + 1 } := by
    rw [session_invalidateDownstream, session_retireDownstream, if_pos rfl, live]
    rfl
  have hregistered := (h.invalidateDownstream id zoneId).registerStream hlive named latest
    (fun stream hmem => Nat.lt_succ_of_le (h.bounded stream hmem).2) (Nat.succ_pos _) wanted rfl rfl
  exact { hregistered with }

theorem retireEncoder (h : Coherent env stack st) (id : SessionId) (zoneId : ZoneId) :
    Coherent env stack (st.retireEncoder env id zoneId) := by
  refine h.update id (session_retireEncoder env st id zoneId) (fun other => ?_) (Nat.le_succ _)
    rfl (fun _ _ hpausing => hpausing) fun session live =>
      ⟨rfl, .fresh (h.session id session live).renderer le_rfl (by nofun) rfl fun stream hmem => ?_⟩
  · rw [session_retireEncoder, if_pos rfl]
    refine (AssocMap.lookup_erase_ite id other st.registry).trans ?_
    split
    · cases st.session id <;> rfl
    · rfl
  · exact Nat.ne_of_lt (Nat.lt_succ_of_le (h.bounded stream hmem).2)

/-- The end of a pause: its frame leaves the stack, and no stream has the new generation. -/
theorem stopPaused {id : SessionId} {zoneId : ZoneId} {todo : List SessionId}
    (h : Coherent env (.leaving (.pause id zoneId) todo :: stack) st)
    (unwanted : ∀ session, st.session id = some session → session.desiredPlayback = false) :
    Coherent env stack (st.stopPaused env id zoneId) := by
  refine h.update id (session_nextDownstreamGeneration st id) (fun other => ?_) (Nat.le_succ _)
    rfl (fun other hne => Pausing.pop fun _ _ heq => ?_) fun session live => ?_
  · rw [session_stopPaused, session_nextDownstreamGeneration, if_pos rfl]
    refine (h.stream other).trans ?_
    split
    · next heq =>
      rw [heq]
      cases st.session id <;> rfl
    · exact (h.stream other).symm
  · cases heq
    exact hne rfl
  · have hsession := h.session id session live
    refine ⟨rfl, .fresh hsession.renderer le_rfl hsession.registered ?_ fun stream hmem => ?_⟩
    · cases hprepared : session.prepared with
      | none => rfl
      | some stream =>
        have := (hsession.prepared stream hprepared).1
        rw [unwanted session live] at this
        cases this
    · exact Nat.ne_of_lt (Nat.lt_succ_of_le (h.bounded stream hmem).2)

/-- A pause keeps the encoder for now; its stream counts as being paused. -/
theorem pausePlayback (h : Coherent env stack st) (id : SessionId)
    (pausing : Pausing stack' id) (hstack : ∀ other, Pausing stack other → Pausing stack' other) :
    Coherent env stack' (st.pausePlayback id) := by
  refine (h.restack hstack).edit id (session_pausePlayback st id) rfl rfl rfl
    fun session live => ⟨rfl, rfl, ?_⟩
  have hsession := h.session id session live
  exact ⟨hsession.renderer, hsession.bounded, hsession.registered, by nofun,
    fun _ _ _ _ => ⟨by nofun, fun _ => pausing⟩⟩

theorem resumePlayback (h : Coherent env [] st) (id : SessionId) :
    Coherent env [] (st.resumePlayback id) := by
  refine h.edit id (session_resumePlayback st id) rfl rfl rfl fun session live => ⟨rfl, rfl, ?_⟩
  have hsession := h.session id session live
  refine ⟨hsession.renderer, hsession.bounded, hsession.registered, fun stream hstream => ?_,
    fun stream hmem hid hgeneration => ⟨fun _ => ?_, by nofun⟩⟩
  · exact ⟨rfl, (hsession.prepared stream hstream).2⟩
  · obtain ⟨hwanted, hunwanted⟩ := hsession.current stream hmem hid hgeneration
    cases hdesired : session.desiredPlayback with
    | true => exact hwanted hdesired
    | false =>
      obtain ⟨zoneId, todo, hframe⟩ := hunwanted hdesired
      cases hframe

/-- A flush takes the encoder of a paused session away. -/
theorem dropEncoder (h : Coherent env [] st) {id : SessionId} (session : SessionRuntime)
    (live : st.session id = some session) (unwanted : session.desiredPlayback = false) :
    Coherent env [] (st.dropEncoder id) := by
  refine h.update id (session_dropEncoder st id) (fun other => ?_) le_rfl rfl
    (fun _ _ hpausing => hpausing) fun session' live' => ⟨rfl, ?_⟩
  · rw [session_dropEncoder, if_pos rfl]
    refine (AssocMap.lookup_erase_ite id other st.registry).trans ?_
    split
    · cases st.session id <;> rfl
    · rfl
  · rw [live] at live'
    cases live'
    have hsession := h.session id session live
    refine ⟨hsession.renderer, hsession.bounded, by nofun, fun stream hstream => ?_,
      fun stream hmem hid hgeneration => ⟨fun hwanted => ?_, fun _ => ?_⟩⟩
    · have := (hsession.prepared stream hstream).1
      rw [unwanted] at this
      cases this
    · rw [unwanted] at hwanted
      cases hwanted
    · exact (hsession.current stream hmem hid hgeneration).2 unwanted

theorem setPlaybackEpoch (h : Coherent env stack st) (id : SessionId) (playbackEpoch : Nat) :
    Coherent env stack (st.setPlaybackEpoch id playbackEpoch) :=
  h.touch id (session_setPlaybackEpoch st id playbackEpoch) rfl rfl rfl fun _ =>
    ⟨rfl, rfl, rfl, rfl, fun stream hstream => ⟨stream, hstream, rfl, rfl⟩⟩

theorem removeSession (h : Coherent env stack st) (id : SessionId) :
    Coherent env stack (st.removeSession id) := by
  have hlive (other : SessionId) (session : SessionRuntime)
      (live : (st.removeSession id).session other = some session) :
      st.session other = some session := by
    rw [session_removeSession] at live
    split at live
    · cases live
    · exact live
  refine { h with session := ?_, unique := ?_, stream := ?_ }
  · exact fun other session live => h.session other session (hlive other session live)
  · exact fun one other session session' live live' =>
      h.unique one other session session' (hlive one session live) (hlive other session' live')
  · intro other
    rw [session_removeSession]
    refine (AssocMap.lookup_erase_ite id other st.registry).trans ?_
    split
    · rfl
    · exact h.stream other

theorem insertSession (h : Coherent env stack st) {id : SessionId} {zoneId : ZoneId}
    {renderer : Renderer} (renderer_eq : env.renderers zoneId = some renderer)
    (free : ∀ other session, st.session other = some session → session.zoneId ≠ zoneId)
    (gone : st.session id = none) (format : PcmFormat) (sender : Option IpAddr) :
    Coherent env stack (st.insertSession id zoneId format sender) := by
  have hcases (other : SessionId) (session : SessionRuntime)
      (live : (st.insertSession id zoneId format sender).session other = some session) :
      st.session other = some session ∨
        other = id ∧ session = { SessionRuntime.new zoneId format with sender := sender } := by
    rw [session_insertSession] at live
    split at live
    · cases live
      exact .inr ⟨‹_›, rfl⟩
    · exact .inl live
  refine { h with session := ?_, unique := ?_, stream := ?_ }
  · intro other session live
    rcases hcases other session live with live | ⟨rfl, rfl⟩
    · exact h.session other session live
    · exact .fresh ⟨renderer, renderer_eq⟩ (Nat.zero_le _) (by nofun) rfl
        fun stream hmem => Nat.ne_of_gt (h.bounded stream hmem).1
  · intro one other session session' live live' hsame
    rcases hcases one session live with hold | ⟨rfl, rfl⟩
    · rcases hcases other session' live' with hold' | ⟨rfl, rfl⟩
      · exact h.unique one other session session' hold hold' hsame
      · exact absurd hsame (free one session hold)
    · rcases hcases other session' live' with hold' | ⟨rfl, -⟩
      · exact absurd hsame.symm (free other session' hold')
      · rfl
  · intro other
    rw [session_insertSession]
    refine (h.stream other).trans ?_
    split
    · next heq =>
      rw [heq, gone]
      rfl
    · rfl

/-- A prepared stream of the current generation is the stream of the encoder. -/
theorem keepPrepared (h : Coherent env [] st) {prepared : PreparedDownstream}
    {session : SessionRuntime} (genuine : prepared.Genuine env st.streams)
    (live : st.session prepared.sessionId = some session)
    (current : session.generation = prepared.generation)
    (wanted : session.desiredPlayback = true) : Coherent env [] (st.keepPrepared prepared) := by
  refine h.edit prepared.sessionId (session_keepPrepared st prepared) rfl rfl rfl
    fun session' live' => ⟨rfl, rfl, ?_⟩
  rw [live] at live'
  cases live'
  have hsession := h.session prepared.sessionId session live
  refine ⟨hsession.renderer, hsession.bounded, hsession.registered, fun stream hstream => ?_,
    hsession.current⟩
  cases hstream
  exact ⟨wanted, current.symm,
    (hsession.current prepared.liveStream genuine.registered genuine.sessionId
      (genuine.generation.trans current.symm)).1 wanted⟩

theorem startStream (h : Coherent env stack st) (joins : Option GroupJoins)
    (delays : AssocMap SessionId Duration) (cutoff : Instant)
    (roles : AssocMap SessionId NativeMember) (stream : PreparedDownstream) :
    Coherent env stack
      (BridgeRuntime.startStream env joins delays cutoff (st, roles) stream).1 := by
  have hrecord (delay : Option Duration) :
      Coherent env stack (st.recordDelay stream.sessionId delay) := by
    cases delay with
    | none => exact h
    | some delay =>
      exact h.touch stream.sessionId
        (session_modifySession st stream.sessionId · _) rfl rfl rfl fun _ =>
          ⟨rfl, rfl, rfl, rfl, fun stream hstream => ⟨stream, hstream, rfl, rfl⟩⟩
  have hplan {st : BridgeRuntime} (h : Coherent env stack st) (delay : Option Duration)
      (command : TransportCommand) : Coherent env stack (st.planStart cutoff delay command) := by
    cases command with
    | join stream _ _ =>
      refine h.touch stream.sessionId (session_modifySession st stream.sessionId · _) rfl rfl rfl
        fun session => ⟨rfl, rfl, rfl, rfl, fun held hheld => ?_⟩
      obtain ⟨kept, hkept, rfl⟩ := Option.map_eq_some_iff.mp hheld
      exact ⟨kept, hkept, rfl, rfl⟩
    | play stream =>
      cases delay with
      | none => exact h
      | some delay => exact { h with }
    | _ => exact h
  exact { hplan (hrecord _) _ _ with }

/-! ### The moves -/

theorem pop {frame : Frame} (h : Coherent env (frame :: stack) st)
    (other : ∀ id zoneId todo, frame ≠ .leaving (.pause id zoneId) todo) : Coherent env stack st :=
  h.restack fun id => Pausing.pop (other id)

theorem push (h : Coherent env stack st) (frame : Frame) : Coherent env (frame :: stack) st :=
  h.restack fun _ => Pausing.push frame

theorem advance {goal : Goal} {member : SessionId} {rest : List SessionId}
    (h : Coherent env (.leaving goal (member :: rest) :: stack) st) :
    Coherent env (.leaving goal rest :: stack) st := by
  refine h.restack fun id hpausing => ?_
  obtain ⟨zoneId, todo, hframe⟩ := hpausing
  rcases List.mem_cons.mp hframe with heq | hframe
  · cases heq
    exact ⟨zoneId, rest, List.mem_cons_self⟩
  · exact ⟨zoneId, todo, List.mem_cons_of_mem _ hframe⟩

theorem inner (h : Coherent env stack st) (framed : Framed stack st)
    (move : Inner env stack st stack' st') : Coherent env stack' st' := by
  cases move with
  | memberSkipped => exact h.advance
  | @memberRestarted _ _ _ member =>
    have hcancelled := h.advance.cancelDownstreamRetry member
    have hdisbanded : Coherent env _ ((st.cancelDownstreamRetry member).disband member) :=
      { hcancelled with }
    exact hdisbanded.push _
  | vanished => exact h.pop (by nofun)
  | rendererMissing => exact (h.pop (by nofun)).retireDownstream _
  | buildFailed =>
    exact ((h.pop (by nofun)).invalidateDownstream _ _).scheduleDownstreamRetry _ _ _
  | @built _ _ id zoneId session renderer liveStream live renderer_eq created =>
    obtain ⟨session', live', wanted⟩ := framed (.restart id zoneId) [] List.mem_cons_self
    rw [live] at live'
    cases live'
    exact ((h.pop (by nofun)).admitDownstream live wanted created).push _
  | left => exact h.pop (by nofun)
  | @pauseFinished stack _ id zoneId =>
    obtain ⟨session, live, unwanted⟩ := framed (.pause id zoneId) [] List.mem_cons_self
    refine (h.stopPaused fun session' live' => ?_).push _
    rw [live] at live'
    cases live'
    exact unwanted
  | @stopFinished stack _ id zoneId generation =>
    have hpopped := h.pop (by nofun)
    have hsent : Coherent env stack (st.sendCommand env zoneId (.stop id zoneId generation)) :=
      { hpopped with }
    exact hsent.push _
  | cohortDropped => exact { h with }
  | @cohortReleased stack _ cohort rest =>
    have hopened : Coherent env (.checking :: stack)
        ((st.handOver (st.pruneCohort cohort) rest).openPlay env
          (st.pruneCohort cohort).preparedStreams) := by
      unfold BridgeRuntime.openPlay openRelease
      split <;> exact { h with }
    exact hopened.push _
  | cohortKept =>
    have hpopped := h.pop (by nofun)
    exact { hpopped with }
  | cohortsDone =>
    have hpopped := h.pop (by nofun)
    exact { hpopped with }
  | streamStarted => exact ((h.pop (by nofun)).startStream _ _ _ _ _).push _
  | startsDone => exact h.pop (by nofun)

theorem setWorker (h : Coherent env stack st) (zoneId : ZoneId) (worker : ZoneWorker) :
    Coherent env stack (st.setWorker zoneId worker) :=
  { h with }

theorem takeResult (h : Coherent env stack st) : Coherent env stack st.takeResult := { h with }

theorem takeRetry (h : Coherent env stack st) : Coherent env stack st.takeRetry := { h with }

theorem takePrepared (h : Coherent env stack st) : Coherent env stack st.takePrepared :=
  { h with }

theorem disband (h : Coherent env stack st) (id : SessionId) : Coherent env stack (st.disband id) :=
  { h with }

theorem startUncertain (h : Coherent env stack st) (id : SessionId)
    (outcome : DownstreamStartOutcome) : Coherent env stack (st.startUncertain id outcome) := by
  refine h.touch id (session_startUncertain st id outcome) ?_ ?_ ?_ fun _ =>
    ⟨rfl, rfl, rfl, rfl, fun stream hstream => ⟨stream, hstream, rfl, rfl⟩⟩
  all_goals
    unfold BridgeRuntime.startUncertain
    split <;> rfl

theorem move {guard : BridgeRuntime → BridgeLabel → Prop} (h : Coherent env stack st)
    (sound : Sound env stack st) (framed : Framed stack st)
    (move : Move env guard stack st stack' st') : Coherent env stack' st' := by
  cases move with
  | inner move => exact h.inner framed move
  | tick => exact { h with }
  | workerTook => exact h.setWorker _ _
  | @workerReplied _ zoneId worker reply worker' outputs =>
    obtain ⟨groupJoins, heq⟩ := deliver_eq (st.setWorker zoneId worker') outputs
    rw [heq]
    exact { h with }
  | workerSuperseded => exact h.setWorker _ _
  | workerReady => exact { h with }
  | @groupReleased _ zoneId worker stream joins delay since _ found waiting released =>
    obtain ⟨-, rfl⟩ := releaseGroup_spec released
    cases delay <;> exact { h with }
  | @retryFired _ id session task =>
    exact h.touch id (session_sendRetry st id task) rfl rfl rfl fun _ =>
      ⟨rfl, rfl, rfl, rfl, fun stream hstream => ⟨stream, hstream, rfl, rfl⟩⟩
  | @cleanupFired _ id session task =>
    exact h.touch id (session_sendCleanup st id task) rfl rfl rfl fun _ =>
      ⟨rfl, rfl, rfl, rfl, fun stream hstream => ⟨stream, hstream, rfl, rfl⟩⟩
  | wakeFired => exact { h with }
  | volumeSet => exact { h with }
  | sessionsWalked => exact { h with }
  | cleanupTaken => exact { h with }
  | @cleanupDeferred _ id =>
    exact h.touch id (session_deferCleanup st id) rfl rfl rfl fun _ =>
      ⟨rfl, rfl, rfl, rfl, fun stream hstream => ⟨stream, hstream, rfl, rfl⟩⟩
  | resumed => exact h.resumePlayback _
  | resumedRestart =>
    exact (((h.resumePlayback _).cancelDownstreamRetry _).disband _).push _
  | flushedPlaying =>
    exact (((h.setPlaybackEpoch _ _).cancelDownstreamRetry _).disband _).push _
  | @paused _ id zoneId session =>
    exact (h.pausePlayback id ⟨zoneId, _, List.mem_cons_self⟩ fun _ => Pausing.push _).disband id
  | @flushedPaused _ id zoneId session playbackEpoch live unwanted =>
    refine (h.setPlaybackEpoch id playbackEpoch).dropEncoder
      { session with playbackEpoch := playbackEpoch } ?_ unwanted
    rw [session_setPlaybackEpoch, if_pos rfl, live]
    rfl
  | sessionRemoved => exact ((h.removeSession _).disband _).push _
  | @sessionInserted _ id zoneId renderer format sender address renderer_eq free =>
    have gone : st.session id = none := by
      cases hlive : st.session id with
      | none => rfl
      | some session =>
        exact absurd ((sound.zone id session hlive).trans address.symm) (free id session hlive)
    exact (((h.insertSession renderer_eq free gone format sender).cancelDownstreamRetry _).disband
      _).push _
  | encoderClosed =>
    unfold BridgeRuntime.encoderInputClosed
    split
    · exact (h.retireEncoder _ _).scheduleDownstreamRetry _ _ _
    · exact h.retireEncoder _ _
  | resultDropped => exact h.takeResult
  | resultPaused =>
    exact h.takeResult.touch _ (session_notePaused _ _ _) rfl rfl rfl fun _ =>
      ⟨rfl, rfl, rfl, rfl, fun stream hstream => ⟨stream, hstream, rfl, rfl⟩⟩
  | startSucceeded =>
    refine h.takeResult.touch _ (session_startSucceeded _ _ _) ?_ ?_ ?_ fun _ =>
      ⟨rfl, rfl, rfl, rfl, fun stream hstream => ⟨stream, hstream, rfl, rfl⟩⟩
    all_goals
      unfold BridgeRuntime.startSucceeded
      split <;> rfl
  | startRetried => exact (h.takeResult.startUncertain _ _).scheduleDownstreamRetry _ _ _
  | startExhausted =>
    exact (((h.takeResult.startUncertain _ _).scheduleDownstreamRetry _ _ _).disband _).push _
  | startAbandoned =>
    exact ((h.takeResult.touch _ (session_abandonStart _ _) rfl rfl rfl fun _ =>
      ⟨rfl, rfl, rfl, rfl, fun stream hstream => ⟨stream, hstream, rfl, rfl⟩⟩).disband _).push _
  | retryDropped => exact h.takeRetry
  | @retryReplayed _ retry rest session prepared guarded first live current wanted kept =>
    refine h.takeRetry.edit retry.sessionId (session_replayPrepared env _ _ _ _) ?_ ?_ ?_
      fun session' live' => ⟨rfl, rfl, ?_⟩
    · unfold BridgeRuntime.replayPrepared planStream
      split <;> rfl
    · unfold BridgeRuntime.replayPrepared planStream
      split <;> rfl
    · unfold BridgeRuntime.replayPrepared planStream
      split <;> rfl
    · rw [session_takeRetry, live] at live'
      cases live'
      have hsession := h.session retry.sessionId session live
      refine ⟨hsession.renderer, hsession.bounded, hsession.registered, fun stream hstream => ?_,
        hsession.current⟩
      cases hstream
      exact hsession.prepared prepared kept
  | retryRestarted =>
    exact (((h.takeRetry.cancelDownstreamRetry _).cancelDownstreamRetry _).disband _).push _
  | preparedDropped => exact h.takePrepared
  | @preparedListed _ prepared rest session first live current wanted =>
    have hgenuine := sound.message prepared (by rw [first]; exact List.mem_cons_self)
    have hkept := h.takePrepared.keepPrepared hgenuine live current wanted
    have henlisted : Coherent env []
        ((st.takePrepared.keepPrepared prepared).enlistPrepared prepared) := { hkept with }
    exact henlisted.push _
  | @preparedPlayed _ prepared rest session first live current wanted =>
    have hgenuine := sound.message prepared (by rw [first]; exact List.mem_cons_self)
    have hkept := h.takePrepared.keepPrepared hgenuine live current wanted
    have hopened : Coherent env []
        ((st.takePrepared.keepPrepared prepared).openPlay env [prepared]) := by
      unfold BridgeRuntime.openPlay openRelease
      split <;> exact { hkept with }
    exact hopened.push _
  | wakeTaken =>
    have htaken : Coherent env [] st.takeWake := { h with }
    exact htaken.push _
  | workersClosed => exact { h with }

end Coherent

variable {env : Env} {guard : BridgeRuntime → BridgeLabel → Prop}

theorem Visited.coherent {stack : List Frame} {st : BridgeRuntime}
    (h : Visited env guard stack st) : Coherent env stack st :=
  h.invariant Coherent.start fun _ _ _ _ visited coherent move =>
    coherent.move visited.sound visited.framed move

end AirSonos
